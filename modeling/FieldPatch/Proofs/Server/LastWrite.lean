import FieldPatch.Proofs.Server.Patch

/-!
# The last write wins

A record that a counting server keeps holds in each field what was written there last.

* `Server.creation?`, `Server.write?`: what a served request contributes to a record, and
  `Server.latest?`: the value written last to a field;
* `Server.HoldsLatest`: a record holds the last writes of a transcript, and what it was created with
  in the fields that nobody wrote;
* `Server.Recorded`: every stored record holds the last writes, and nothing was written to records
  that are not stored. One request keeps it so (`Server.Recorded.serve`).
-/

namespace FieldPatch
namespace Server

open Kind

/-! ## Contributions -/

section Contributions

variable {ι ρ : Type} [DecidableEq ι] [Identifier ι]

/-- The record that was passed to the creation, if it got this identifier. -/
def creation? (id : ι) : Answered (Request ι ρ) → Option ρ
  | ⟨.create record, .ok id'⟩ => if id' = id then some record else none
  | _ => none

/-- The value for the field, if an accepted patch of the record contains it. -/
def write? (id : ι) (field : String) : Answered (Request ι ρ) → Option Json
  | ⟨.patch fields, .ok _⟩ => if addressee? fields = some id then fields.get? field else none
  | _ => none

def latest? (t : List (Answered (Request ι ρ))) (id : ι) (field : String) : Option Json :=
  (t.filterMap (write? id field)).getLast?

theorem latest?_snoc (t : List (Answered (Request ι ρ))) (served : Answered (Request ι ρ)) (id : ι)
    (field : String) :
    latest? (t ++ [served]) id field = (write? id field served).or (latest? t id field) := by
  cases hwrite : write? id field served with
  | none => simp [latest?, hwrite]
  | some value => simp [latest?, hwrite]

theorem creation?_of_not_writes {id : ι} {served : Answered (Request ι ρ)}
    (h : ¬ Writes id served) : creation? id served = none := by
  rcases served with ⟨request, answer⟩
  cases request with
  | create record =>
    cases answer with
    | error e => rfl
    | ok id' => exact if_neg h
  | _ => rfl

theorem write?_of_not_writes {id : ι} {served : Answered (Request ι ρ)} (h : ¬ Writes id served)
    (field : String) : write? id field served = none := by
  rcases served with ⟨request, answer⟩
  cases request with
  | patch fields =>
    cases answer with
    | error e => rfl
    | ok updated =>
      -- an accepted patch of another record
      exact if_neg h
  | _ => rfl

end Contributions

/-! ## Records -/

variable {k : Kind} {s : Server UInt64 k.Record} {t : List (Answered (Request UInt64 k.Record))}

/-- The record was created once, and each field holds what was last written to it, or else what the
created record held. -/
structure HoldsLatest (t : List (Answered (Request UInt64 k.Record))) (id : UInt64) (r : k.Record) :
    Prop where
  id_eq : Entity.id r = id
  holds : ∃ created, t.filterMap (creation? id) = [created] ∧
    ∀ field, k.Patchable field →
      match latest? t id field with
      | some value =>
        ∃ content, Content.ofJson? value = some content ∧ content? r field = some content
      | none => content? r field = content? created field

/-- What does not write a record adds nothing to its history. -/
theorem HoldsLatest.of_not_writes {id : UInt64} {r : k.Record}
    {served : Answered (Request UInt64 k.Record)} (h : HoldsLatest t id r)
    (hserved : ¬ Writes id served) : HoldsLatest (t ++ [served]) id r := by
  rcases h.holds with ⟨created, hcreated, hfields⟩
  refine ⟨h.id_eq, created, ?_, ?_⟩
  · simp [List.filterMap_append, hcreated, creation?_of_not_writes hserved]
  · intro field hfield
    have hlatest : latest? (t ++ [served]) id field = latest? t id field := by
      simp [latest?_snoc, write?_of_not_writes hserved]
    simpa [hlatest] using hfields field hfield

theorem holdsLatest_of_create (id : UInt64) (record : k.Record)
    (habsent : ∀ served ∈ t, ¬ Writes id served) :
    HoldsLatest (t ++ [⟨.create record, .ok id⟩]) id (Entity.withId id record) := by
  have hcreation : t.filterMap (creation? id) = [] :=
    List.filterMap_eq_nil_iff.2 fun served hmem => creation?_of_not_writes (habsent served hmem)
  refine ⟨id_withId id record, record, ?_, ?_⟩
  · simp [List.filterMap_append, hcreation, creation?]
  · intro field hfield
    have hwrite : t.filterMap (write? id field) = [] :=
      List.filterMap_eq_nil_iff.2 fun served hmem =>
        write?_of_not_writes (habsent served hmem) field
    -- nobody has written the field yet, and the creation is no write of a field
    have hlatest : latest? (t ++ [⟨.create record, .ok id⟩]) id field = none := by
      simp [latest?, hwrite, write?]
    simpa [hlatest] using content?_withId id record field

theorem HoldsLatest.patched {id : UInt64} {current updated : k.Record} {fields : Json.Object}
    (h : HoldsLatest t id current) (hid : addressee? fields = some id)
    (hpatched : Patched fields current updated) :
    HoldsLatest (t ++ [⟨.patch fields, .ok updated⟩]) id updated := by
  rcases h.holds with ⟨created, hcreated, hfields⟩
  refine ⟨hpatched.id_eq.trans h.id_eq, created, ?_, ?_⟩
  · simp [List.filterMap_append, hcreated, creation?]
  · intro field hfield
    have hmem : field ∈ k.fieldNames := patchable_iff.1 hfield
    have hne : field ≠ idKey := ne_idKey_of_mem hmem
    have hcontent := hpatched.content?_eq field hne
    rw [latest?_snoc]
    simp only [write?, hid, if_true]
    cases hvalue : fields.get? field with
    | none =>
      -- the patch says nothing about the field
      have hsame : content? updated field = content? current field := by
        simpa [hvalue] using hcontent
      simpa [hsame] using hfields field hfield
    | some value =>
      -- the patch puts its value there, whatever was written before
      have hput : content? updated field = Content.ofJson? value := by
        simpa [hvalue] using hcontent
      have hsome : (content? updated field).isSome := (isSome_content?_iff updated field).2 hmem
      rcases Option.isSome_iff_exists.1 hsome with ⟨content, hcontent⟩
      exact ⟨content, hput.symm.trans hcontent, hcontent⟩

/-! ## Runs -/

/-- Stored records hold the last writes, and nothing was written to the others. -/
structure Recorded (s : Server UInt64 k.Record) (t : List (Answered (Request UInt64 k.Record))) :
    Prop where
  absent : ∀ id, s.get? id = none → ∀ served ∈ t, ¬ Writes id served
  stored : ∀ id r, s.get? id = some r → HoldsLatest t id r

/-- A record that a request writes is stored afterwards and holds what was written. -/
theorem Recorded.holds_of_writes (h : Recorded s t) (request : Request UInt64 k.Record)
    (hnew : request.isCreate → s.get? (s.mint s.created) = none) {id : UInt64}
    (hw : Writes id ⟨request, (s.serve request).1⟩) :
    ∃ r, (s.serve request).2.get? id = some r ∧
      HoldsLatest (t ++ [⟨request, (s.serve request).1⟩]) id r := by
  cases request with
  | create record =>
    have hid : s.mint s.created = id := hw
    subst hid
    have hput : (s.serve (.create record)).2.get? (s.mint s.created) =
        some (Entity.withId (s.mint s.created) record) :=
      s.store.get?_put_self _ _
    exact ⟨_, hput, holdsLatest_of_create _ record (h.absent _ (hnew rfl))⟩
  | get id' => exact hw.elim
  | patch fields =>
    change ∃ r, (s.patch fields).2.get? id = some r ∧
      HoldsLatest (t ++ [⟨.patch fields, (s.patch fields).1⟩]) id r
    have hpatch : Writes id ⟨.patch fields, (s.patch fields).1⟩ := hw
    cases hanswer : (s.patch fields).1 with
    | error e => simp [hanswer, Writes] at hpatch
    | ok updated =>
      have hid : addressee? fields = some id := by simpa [hanswer, Writes] using hpatch
      rcases patch_ok hanswer with ⟨id', current, hid', hcurrent, hpatched, hnext⟩
      have hsame : id = id' := Option.some.inj (hid.symm.trans hid')
      subst hsame
      have hput : (s.patch fields).2.get? id = some updated := by
        simp [hnext, Server.get?]
      exact ⟨updated, hput, (h.stored id current hcurrent).patched hid hpatched⟩
  | choices accessor => exact hw.elim

/-- One request keeps the records and their history together. -/
theorem Recorded.serve (h : Recorded s t) (request : Request UInt64 k.Record)
    (hnew : request.isCreate → s.get? (s.mint s.created) = none) :
    Recorded (s.serve request).2 (t ++ [⟨request, (s.serve request).1⟩]) := by
  refine ⟨?_, ?_⟩
  · intro id hnone served hmem
    -- what is not stored afterwards was not written, and was not stored before
    have hw : ¬ Writes id ⟨request, (s.serve request).1⟩ := by
      intro hw
      rcases h.holds_of_writes request hnew hw with ⟨r, hr, _⟩
      simp [hnone] at hr
    have hbefore : s.get? id = none := by
      calc
        s.get? id = (s.serve request).2.get? id := (s.get?_serve_of_not_writes request hw).symm
        _ = none := hnone
    rcases List.mem_append.1 hmem with hold | hlast
    · exact h.absent id hbefore served hold
    · have hserved : served = ⟨request, (s.serve request).1⟩ := List.mem_singleton.1 hlast
      simpa [hserved] using hw
  · intro id r hr
    by_cases hw : Writes id ⟨request, (s.serve request).1⟩
    · rcases h.holds_of_writes request hnew hw with ⟨r', hr', hholds⟩
      have hsame : r' = r := Option.some.inj (hr'.symm.trans hr)
      subst hsame
      exact hholds
    · have hbefore : s.get? id = some r := by
        calc
          s.get? id = (s.serve request).2.get? id := (s.get?_serve_of_not_writes request hw).symm
          _ = some r := hr
      exact (h.stored id r hbefore).of_not_writes hw

/-- The next identifier of a counting server is a new one until the count starts over. -/
theorem get?_mint_serveAll (requests : List (Request UInt64 k.Record))
    (hcount : requests.countP Request.isCreate + 1 < UInt64.size) :
    (counting.serveAll requests).get?
      ((counting.serveAll requests).mint (counting.serveAll requests).created) = none := by
  have hkeys := keys_serveAll requests (by omega)
  have hnew := ofNat_not_mem_words hcount
  rw [← hkeys, Store.mem_keys_iff, Option.not_isSome_iff_eq_none] at hnew
  simpa [mint_serveAll, created_serveAll, Server.get?] using hnew

theorem recorded_serveAll (requests : List (Request UInt64 k.Record))
    (hcount : requests.countP Request.isCreate < UInt64.size) :
    Recorded (counting.serveAll requests) (counting.transcript requests) := by
  induction requests using List.reverseRecOn with
  | nil =>
    refine ⟨?_, ?_⟩
    · intro id _ served hmem
      cases hmem
    · intro id r hr
      cases hr
  | append_singleton before request ih =>
    rw [List.countP_append, List.countP_singleton] at hcount
    have hbefore := ih (by omega)
    have hnew : request.isCreate → (counting.serveAll before).get?
        ((counting.serveAll before).mint (counting.serveAll before).created) = none := by
      intro hcreate
      rw [if_pos hcreate] at hcount
      exact get?_mint_serveAll before hcount
    simpa [serveAll_snoc, transcript_snoc] using hbefore.serve request hnew

/-- The stored records are those that were created, and each holds in every field what the last
accepted patch put there. A patch answers with the record that has just this property. -/
theorem latest_write_wins (k : Kind) (requests : List (Request UInt64 k.Record))
    (hcount : requests.countP Request.isCreate < UInt64.size) :
    let s : Server UInt64 k.Record := counting.serveAll requests
    let t := counting.transcript requests
    (∀ id, (s.get? id).isSome ↔ t.filterMap (creation? id) ≠ []) ∧
    (∀ id r, s.get? id = some r → HoldsLatest t id r) ∧
    (∀ request id, ¬ Writes id ⟨request, (s.serve request).1⟩ →
      (s.serve request).2.get? id = s.get? id) ∧
    ∀ fields updated, (s.patch fields).1 = .ok updated →
      ∃ id, addressee? fields = some id ∧
        HoldsLatest (t ++ [⟨.patch fields, .ok updated⟩]) id updated ∧
        ((s.patch fields).2.serve (.get id)).1 = .ok (some updated) := by
  intro s t
  have hrecorded : Recorded s t := recorded_serveAll requests hcount
  refine ⟨?_, hrecorded.stored, fun request id => s.get?_serve_of_not_writes request, ?_⟩
  · intro id
    cases hget : s.get? id with
    | none =>
      have hcreation : t.filterMap (creation? id) = [] :=
        List.filterMap_eq_nil_iff.2 fun served hmem =>
          creation?_of_not_writes (hrecorded.absent id hget served hmem)
      simp [hcreation]
    | some r =>
      rcases (hrecorded.stored id r hget).holds with ⟨created, hcreated, _⟩
      simp [hcreated]
  · intro fields updated hanswer
    rcases patch_ok hanswer with ⟨id, current, hid, hcurrent, hpatched, hnext⟩
    refine ⟨id, hid, (hrecorded.stored id current hcurrent).patched hid hpatched, ?_⟩
    have hput : (s.patch fields).2.get? id = some updated := by
      simp [hnext, Server.get?]
    exact congrArg Except.ok hput

/-- An account has been renamed, and a later patch of its status was refused. -/
theorem latest_write_wins_renamed :
    let requests : List (Request UInt64 Account) :=
      [.create (.new "Acme"), .patch (Payload.single (.ofInt 1) "name" (.string "Globex")).toObject,
        .patch (Payload.single (.ofInt 1) "status" (.string "unheard of")).toObject]
    requests.countP Request.isCreate < UInt64.size ∧
      ∃ r, (counting.serveAll requests).get? 1 = some r ∧ r.name = "Globex" ∧
        HoldsLatest (k := .account) (counting.transcript requests) 1 r := by
  intro requests
  have hcount : requests.countP Request.isCreate < UInt64.size := by decide
  have hlatest := latest_write_wins .account requests hcount
  exact ⟨hcount, _, rfl, rfl, hlatest.2.1 1 _ rfl⟩

end Server
end FieldPatch
