import FieldPatch.Proofs.Dialogue.Follows
import FieldPatch.Server.Basic
import Mathlib.Data.List.Induction

/-!
# Transcripts

What a server answers to a list of requests, and what becomes of its store meanwhile.

* `Server.transcript`: the requests with their answers, in the order in which they are served;
* `Server.patch_of_not_addressee`, `Server.patch_of_absent`, `Server.patch_of_stored`: a patch by
  what it addresses;
* `Server.patch_cases`: everything that a patch can do, and `Server.patch_refused_or_accepted`: the
  same for those who do not ask why a patch is refused;
* `Server.Writes`: a served request wrote a record, by creating it or by an accepted patch. What is
  stored there does not change otherwise (`Server.get?_serve_of_not_writes`);
* `Server.exists_serve_eq`: what a request may change of a server at all. The table of choices is no
  part of it, so that a server keeps the one that it began with (`Server.table_serveAll`);
* `Server.keys_serveAll`: a counting server keeps its records under the words from one on.
-/

namespace FieldPatch

namespace Request

variable {ι ρ : Type}

def isCreate : Request ι ρ → Bool
  | .create _ => true
  | _ => false

end Request

namespace Server

variable {ι ρ : Type} [DecidableEq ι] [Identifier ι] [Entity ι ρ]

/-- What the server answers to one request after the other. -/
def transcript (s : Server ι ρ) : List (Request ι ρ) → List (Answered (Request ι ρ))
  | [] => []
  | request :: rest => ⟨request, (s.serve request).1⟩ :: (s.serve request).2.transcript rest

theorem serveAll_append (s : Server ι ρ) (requests requests' : List (Request ι ρ)) :
    s.serveAll (requests ++ requests') = (s.serveAll requests).serveAll requests' := by
  simp [serveAll]

theorem serveAll_snoc (s : Server ι ρ) (requests : List (Request ι ρ)) (request : Request ι ρ) :
    s.serveAll (requests ++ [request]) = ((s.serveAll requests).serve request).2 :=
  s.serveAll_append requests [request]

theorem transcript_append (s : Server ι ρ) (requests requests' : List (Request ι ρ)) :
    s.transcript (requests ++ requests') =
      s.transcript requests ++ (s.serveAll requests).transcript requests' := by
  induction requests generalizing s with
  | nil => rfl
  | cons request rest ih => simp [transcript, ih, serveAll]

theorem transcript_snoc (s : Server ι ρ) (requests : List (Request ι ρ))
    (request : Request ι ρ) :
    s.transcript (requests ++ [request]) =
      s.transcript requests ++ [⟨request, ((s.serveAll requests).serve request).1⟩] :=
  s.transcript_append requests [request]

/-- The answer to a request is the one that it gets after the requests before it. -/
theorem answer_of_transcript {s : Server ι ρ} {requests : List (Request ι ρ)}
    {before after : List (Answered (Request ι ρ))} {served : Answered (Request ι ρ)}
    (h : s.transcript requests = before ++ served :: after) :
    served.answer = ((s.serveAll (before.map Answered.question)).serve served.question).1 := by
  induction before generalizing s requests with
  | nil =>
    cases requests with
    | nil => cases h
    | cons request rest =>
      cases h
      rfl
  | cons first before ih =>
    cases requests with
    | nil => cases h
    | cons request rest =>
      rcases List.cons.inj h with ⟨rfl, hrest⟩
      exact ih hrest

/-! ## One request -/

section Patch

variable {s : Server ι ρ} {fields : Json.Object} {id : ι} {current updated : ρ}

theorem patch_of_not_addressee (s : Server ι ρ) (h : addressee? (ι := ι) fields = none) :
    s.patch fields = (.error .missingId, s) := by
  simp [patch, h]

theorem patch_of_absent (hid : addressee? fields = some id) (habsent : s.get? id = none) :
    s.patch fields = (.error (.notFound (Identifier.text id)), s) := by
  have hstore : s.store.get? id = none := habsent
  simp only [patch, hid, hstore]

/-- The stored record decides about a patch that addresses it. -/
theorem patch_of_stored (hid : addressee? fields = some id) (hcurrent : s.get? id = some current) :
    s.patch fields =
      match applyFields (fields.erase idKey).members current with
      | .error e => (.error (.field e), s)
      | .ok updated => (.ok updated, { s with store := s.store.put id updated }) := by
  have hstore : s.store.get? id = some current := hcurrent
  cases happly : applyFields (fields.erase idKey).members current with
  | error e => simp only [patch, hid, hstore, happly]
  | ok updated => simp only [patch, hid, hstore, happly]

theorem patch_of_applyFields (hid : addressee? fields = some id)
    (hcurrent : s.get? id = some current)
    (happly : applyFields (fields.erase idKey).members current = .ok updated) :
    s.patch fields = (.ok updated, { s with store := s.store.put id updated }) := by
  rw [patch_of_stored hid hcurrent, happly]

/-- A patch is accepted if the addressed record takes its changes. -/
theorem exists_patch_eq_ok_iff (hid : addressee? fields = some id)
    (hcurrent : s.get? id = some current) :
    (∃ r, (s.patch fields).1 = .ok r) ↔
      ∃ r, applyFields (fields.erase idKey).members current = .ok r := by
  rw [patch_of_stored hid hcurrent]
  cases applyFields (fields.erase idKey).members current with
  | error e => simp
  | ok r => simp

end Patch

/-- A patch is refused for one of three reasons, or it writes the record that it answers. -/
theorem patch_cases (s : Server ι ρ) (fields : Json.Object) :
    (addressee? (ι := ι) fields = none ∧ s.patch fields = (.error .missingId, s)) ∨
    ∃ id, addressee? fields = some id ∧
      ((s.get? id = none ∧ s.patch fields = (.error (.notFound (Identifier.text id)), s)) ∨
      ∃ current, s.get? id = some current ∧
        ((∃ e, applyFields (fields.erase idKey).members current = .error e ∧
            s.patch fields = (.error (.field e), s)) ∨
        ∃ updated, applyFields (fields.erase idKey).members current = .ok updated ∧
          s.patch fields = (.ok updated, { s with store := s.store.put id updated }))) := by
  cases hid : addressee? (ι := ι) fields with
  | none => exact .inl ⟨rfl, s.patch_of_not_addressee hid⟩
  | some id =>
    refine .inr ⟨id, rfl, ?_⟩
    cases hcurrent : s.get? id with
    | none => exact .inl ⟨rfl, patch_of_absent hid hcurrent⟩
    | some current =>
      refine .inr ⟨current, rfl, ?_⟩
      rw [patch_of_stored hid hcurrent]
      cases applyFields (fields.erase idKey).members current with
      | error e => exact .inl ⟨e, rfl, rfl⟩
      | ok updated => exact .inr ⟨updated, rfl, rfl⟩

/-- A patch that is refused leaves the server as it was, for whatever reason. -/
theorem patch_refused_or_accepted (s : Server ι ρ) (fields : Json.Object) :
    (∃ e, s.patch fields = (.error e, s)) ∨
    ∃ id current updated, addressee? fields = some id ∧ s.get? id = some current ∧
      applyFields (fields.erase idKey).members current = .ok updated ∧
      s.patch fields = (.ok updated, { s with store := s.store.put id updated }) := by
  rcases s.patch_cases fields with ⟨_, hserve⟩ | ⟨id, hid, ⟨_, hserve⟩ | ⟨current, hcurrent, hrun⟩⟩
  · exact .inl ⟨_, hserve⟩
  · exact .inl ⟨_, hserve⟩
  · rcases hrun with ⟨e, _, hserve⟩ | ⟨updated, happly, hserve⟩
    · exact .inl ⟨_, hserve⟩
    · exact .inr ⟨id, current, updated, hid, hcurrent, happly, hserve⟩

theorem of_patch_eq_ok {s : Server ι ρ} {fields : Json.Object} {updated : ρ}
    (h : (s.patch fields).1 = .ok updated) :
    ∃ id current, addressee? fields = some id ∧ s.get? id = some current ∧
      applyFields (fields.erase idKey).members current = .ok updated ∧
      (s.patch fields).2 = { s with store := s.store.put id updated } := by
  rcases s.patch_refused_or_accepted fields with
    ⟨e, hserve⟩ | ⟨id, current, updated', hid, hcurrent, happly, hserve⟩
  · simp [hserve] at h
  · have hsame : updated' = updated := by simpa [hserve] using h
    subst hsame
    have hnext : (s.patch fields).2 = { s with store := s.store.put id updated' } := by
      simp [hserve]
    exact ⟨id, current, hid, hcurrent, happly, hnext⟩

omit [DecidableEq ι] [Identifier ι] in
theorem applyFields_singleton (field : String) (value : Json) (r : ρ) :
    applyFields [(field, value)] r = Entity.applyField field value r := by
  simp [applyFields]

/-- The request created the record, or it was a patch of the record and was accepted. -/
def Writes (id : ι) : Answered (Request ι ρ) → Prop
  | ⟨.create _, .ok id'⟩ => id' = id
  | ⟨.patch fields, .ok _⟩ => addressee? fields = some id
  | _ => False

theorem get?_serve_of_not_writes (s : Server ι ρ) (request : Request ι ρ) {id : ι}
    (h : ¬ Writes id ⟨request, (s.serve request).1⟩) :
    (s.serve request).2.get? id = s.get? id := by
  cases request with
  | create record =>
    have hne : id ≠ s.mint s.created := fun he => h he.symm
    exact s.store.get?_put_of_ne _ hne
  | get id' => rfl
  | patch fields =>
    have hpatch : ¬ Writes id ⟨.patch fields, (s.patch fields).1⟩ := h
    change (s.patch fields).2.get? id = s.get? id
    rcases s.patch_refused_or_accepted fields with
      ⟨e, hserve⟩ | ⟨id', current, updated, hid', _, _, hserve⟩
    · simp [hserve]
    · -- the record that was written is another one
      have hne : id ≠ id' := by
        intro he
        subst he
        simp [hserve, Writes, hid'] at hpatch
      simpa [hserve, Server.get?] using s.store.get?_put_of_ne updated hne
  | choices accessor => rfl

/-- A request may write a record and count a creation. It touches nothing else of the server. -/
theorem exists_serve_eq (s : Server ι ρ) (request : Request ι ρ) :
    ∃ store created, (s.serve request).2 = { s with store, created } := by
  cases request with
  | create record => exact ⟨_, _, rfl⟩
  | get id => exact ⟨s.store, s.created, rfl⟩
  | patch fields =>
    change ∃ store created, (s.patch fields).2 = { s with store, created }
    rcases s.patch_refused_or_accepted fields with ⟨e, hserve⟩ | ⟨id, _, updated, _, _, _, hserve⟩
    · exact ⟨s.store, s.created, by simp [hserve]⟩
    · exact ⟨s.store.put id updated, s.created, by simp [hserve]⟩
  | choices accessor => exact ⟨s.store, s.created, rfl⟩

/-! ## Choices -/

@[simp] theorem table_serve (s : Server ι ρ) (request : Request ι ρ) :
    (s.serve request).2.table = s.table := by
  rcases s.exists_serve_eq request with ⟨store, created, hserve⟩
  simp [hserve]

/-- No run of requests changes the table of choices. -/
theorem table_serveAll (s : Server ι ρ) (requests : List (Request ι ρ)) :
    (s.serveAll requests).table = s.table := by
  induction requests using List.reverseRecOn with
  | nil => rfl
  | append_singleton before request ih => simpa [serveAll_snoc] using ih

/-! ## Identifiers -/

omit [Identifier ι] [Entity ι ρ] in
theorem mem_keys_of_get? {s : Server ι ρ} {id : ι} {r : ρ} (h : s.get? id = some r) :
    id ∈ s.store.keys := by
  have hsome : s.store.get? id = some r := h
  exact (s.store.mem_keys_iff id).2 (by simp [hsome])

@[simp] theorem mint_serve (s : Server ι ρ) (request : Request ι ρ) :
    (s.serve request).2.mint = s.mint := by
  rcases s.exists_serve_eq request with ⟨store, created, hserve⟩
  simp [hserve]

theorem created_serve (s : Server ι ρ) (request : Request ι ρ) :
    (s.serve request).2.created = s.created + request.isCreate.toNat := by
  cases request with
  | patch fields =>
    change (s.patch fields).2.created = s.created
    rcases s.patch_refused_or_accepted fields with ⟨e, hserve⟩ | ⟨id, _, updated, _, _, _, hserve⟩
    · simp [hserve]
    · simp [hserve]
  | _ => rfl

/-- A creation under a new identifier adds it at the end; no other request adds or removes one. -/
theorem keys_serve (s : Server ι ρ) (request : Request ι ρ)
    (hnew : request.isCreate → s.mint s.created ∉ s.store.keys) :
    (s.serve request).2.store.keys =
      if request.isCreate then s.store.keys ++ [s.mint s.created] else s.store.keys := by
  cases request with
  | create record =>
    have hkeys := s.store.keys_put (s.mint s.created) (Entity.withId (s.mint s.created) record)
    simpa [serve, create, Request.isCreate, hnew rfl] using hkeys
  | get id => rfl
  | patch fields =>
    change (s.patch fields).2.store.keys = s.store.keys
    rcases s.patch_refused_or_accepted fields with
      ⟨e, hserve⟩ | ⟨id, current, updated, _, hcurrent, _, hserve⟩
    · simp [hserve]
    · -- an accepted patch writes where a record has been
      have hmem : id ∈ s.store.keys := mem_keys_of_get? hcurrent
      simp only [hserve, Store.keys_put, hmem, if_true]
  | choices accessor => rfl

end Server

/-! ## Counting servers -/

namespace Server

variable {ρ : Type} [Entity UInt64 ρ]

theorem mint_serveAll (requests : List (Request UInt64 ρ)) (n : Nat) :
    (counting.serveAll requests).mint n = UInt64.ofNat (n + 1) := by
  induction requests using List.reverseRecOn with
  | nil => rfl
  | append_singleton before request ih => simpa [serveAll_snoc] using ih

theorem created_serveAll (requests : List (Request UInt64 ρ)) :
    (counting.serveAll requests).created = requests.countP Request.isCreate := by
  induction requests using List.reverseRecOn with
  | nil => rfl
  | append_singleton before request ih =>
    cases hcreate : request.isCreate with
    | false => simp [serveAll_snoc, created_serve, ih, hcreate]
    | true => simp [serveAll_snoc, created_serve, ih, hcreate]

/-- The words from one on, so many of them. -/
def words (count : Nat) : List UInt64 :=
  (List.range count).map fun n => UInt64.ofNat (n + 1)

theorem words_succ (count : Nat) : words (count + 1) = words count ++ [.ofNat (count + 1)] := by
  simp [words, List.range_succ]

/-- The next word is a new one as long as the count has not started over. -/
theorem ofNat_not_mem_words {count : Nat} (h : count + 1 < UInt64.size) :
    UInt64.ofNat (count + 1) ∉ words count := by
  intro hmem
  rcases List.mem_map.1 hmem with ⟨n, hn, he⟩
  have hlt : n < count := List.mem_range.1 hn
  -- below the size of a word, the words of two numbers are as different as the numbers
  have hsame : n + 1 = count + 1 := by
    calc
      n + 1 = (UInt64.ofNat (n + 1)).toNat := (UInt64.toNat_ofNat_of_lt' (by omega)).symm
      _ = (UInt64.ofNat (count + 1)).toNat := congrArg UInt64.toNat he
      _ = count + 1 := UInt64.toNat_ofNat_of_lt' h
  omega

theorem keys_serveAll (requests : List (Request UInt64 ρ))
    (hcount : requests.countP Request.isCreate < UInt64.size) :
    (counting.serveAll requests).store.keys = words (requests.countP Request.isCreate) := by
  induction requests using List.reverseRecOn with
  | nil => rfl
  | append_singleton before request ih =>
    rw [List.countP_append, List.countP_singleton] at hcount ⊢
    have hkeys := ih (by omega)
    -- the next identifier follows those that the requests before have used up
    have hmint : (counting.serveAll before).mint (counting.serveAll before).created =
        UInt64.ofNat (before.countP Request.isCreate + 1) := by
      simp [mint_serveAll, created_serveAll]
    have hnew : request.isCreate → (counting.serveAll before).mint
        (counting.serveAll before).created ∉ (counting.serveAll before).store.keys := by
      intro hcreate
      rw [if_pos hcreate] at hcount
      simpa [hkeys, hmint] using ofNat_not_mem_words hcount
    have hserve := keys_serve (counting.serveAll before) request hnew
    cases hcreate : request.isCreate with
    | false => simpa [serveAll_snoc, hcreate, hkeys] using hserve
    | true => simpa [serveAll_snoc, hcreate, hkeys, hmint, words_succ] using hserve

end Server
end FieldPatch
