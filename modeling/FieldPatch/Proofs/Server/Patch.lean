import FieldPatch.Client
import FieldPatch.Proofs.Dialogue.Eval
import FieldPatch.Proofs.Record.Changes
import FieldPatch.Proofs.Server.Transcript

/-!
# Patches of the records of a kind

* `Server.addressee?_eq_some_iff`: the identifiers that a patch may carry are the 64-bit words;
* `Server.patch_stored_cases`, `Server.patch_kind_cases`: what a server does with a patch, told by
  what its kind accepts;
* `Server.Replaces`: one record has been replaced, and nothing else has changed;
* `Server.Consistent`: each record bears the identifier under which it is stored. All requests keep
  it so;
* `Client.eval_patch_encode`, `Client.eval_patch`: what a client makes of the answer to a patch.
-/

namespace FieldPatch
namespace Server

open Kind

variable {k : Kind} {s : Server UInt64 k.Record}

/-! ## Identifiers in patches -/

theorem ofJson?_ofInt (n : Int) :
    (Identifier.ofJson? (.ofInt n) : Option UInt64) =
      if 0 ≤ n ∧ n.toNat < UInt64.size then some (UInt64.ofNat n.toNat) else none := rfl

/-- A value denotes a word only if it is the integer that the word is written as. -/
theorem ofJson?_eq_some_iff {value : Json} {id : UInt64} :
    Identifier.ofJson? value = some id ↔ value = .ofInt id.toNat := by
  constructor
  · intro h
    simp only [Identifier.ofJson?] at h
    split at h
    · rename_i n
      split at h
      · rename_i hrange
        cases h
        have hnat : ((UInt64.ofNat n.toNat).toNat : Int) = n := by
          calc
            ((UInt64.ofNat n.toNat).toNat : Int) = (n.toNat : Int) :=
              congrArg Nat.cast (UInt64.toNat_ofNat_of_lt' hrange.2)
            _ = n := Int.toNat_of_nonneg hrange.1
        exact congrArg Json.ofInt hnat.symm
      · cases h
    · cases h
  · intro h
    subst h
    -- a word is never out of the range of words
    have hlt : (id.toNat : Int).toNat < UInt64.size := id.toNat_lt
    rw [ofJson?_ofInt, if_pos ⟨Int.natCast_nonneg _, hlt⟩, Int.toNat_natCast, UInt64.ofNat_toNat]

theorem addressee?_eq_some_iff {fields : Json.Object} {id : UInt64} :
    addressee? fields = some id ↔ fields.get? idKey = some (.ofInt id.toNat) := by
  rw [addressee?, Option.bind_eq_some_iff]
  constructor
  · intro h
    rcases h with ⟨value, hvalue, hid⟩
    have hword := ofJson?_eq_some_iff.1 hid
    simpa [hword] using hvalue
  · intro h
    exact ⟨_, h, ofJson?_eq_some_iff.2 rfl⟩

/-- The target of a single field is the addressee of the patch. -/
theorem addressee?_single {v value : Json} {field : String} {id : UInt64} :
    addressee? (Payload.single v field value).toObject = some id ↔ v = .ofInt id.toNat := by
  simp [addressee?_eq_some_iff, Payload.get?_toObject_single]

/-! ## Patches -/

/-- A stored record takes all changes of a patch, or it refuses the first one that is refused. -/
theorem patch_stored_cases {fields : Json.Object} {id : UInt64} {current : k.Record}
    (hid : addressee? fields = some id) (hcurrent : s.get? id = some current) :
    (∃ e, k.Refuses fields e ∧ s.patch fields = (.error (.field e), s)) ∨
    (k.AcceptsAll fields ∧ ∃ updated, Patched fields current updated ∧
      s.patch fields = (.ok updated, { s with store := s.store.put id updated })) := by
  rcases k.patchFields_cases fields with ⟨e, hrefuses, herror⟩ | ⟨hall, hok⟩
  · refine .inl ⟨e, hrefuses, ?_⟩
    rw [patch_of_stored hid hcurrent, herror current]
  · rcases hok current with ⟨updated, hupdated, hpatched⟩
    exact .inr ⟨hall, updated, hpatched, patch_of_applyFields hid hcurrent hupdated⟩

theorem patch_kind_cases (s : Server UInt64 k.Record) (fields : Json.Object) :
    (addressee? (ι := UInt64) fields = none ∧ s.patch fields = (.error .missingId, s)) ∨
    ∃ id : UInt64, addressee? fields = some id ∧
      ((s.get? id = none ∧ s.patch fields = (.error (.notFound (toString id.toNat)), s)) ∨
      ∃ current, s.get? id = some current ∧
        ((∃ e, k.Refuses fields e ∧ s.patch fields = (.error (.field e), s)) ∨
        (k.AcceptsAll fields ∧ ∃ updated, Patched fields current updated ∧
          s.patch fields = (.ok updated, { s with store := s.store.put id updated })))) := by
  rcases s.patch_cases fields with hnone | ⟨id, hid, hmissing | ⟨current, hcurrent, _⟩⟩
  · exact .inl hnone
  · exact .inr ⟨id, hid, .inl hmissing⟩
  · exact .inr ⟨id, hid, .inr ⟨current, hcurrent, patch_stored_cases hid hcurrent⟩⟩

/-- What follows from an accepted patch. -/
theorem patch_ok {fields : Json.Object} {updated : k.Record}
    (h : (s.patch fields).1 = .ok updated) :
    ∃ id current, addressee? fields = some id ∧ s.get? id = some current ∧
      Patched fields current updated ∧
      (s.patch fields).2 = { s with store := s.store.put id updated } := by
  rcases of_patch_eq_ok h with ⟨id, current, hid, hcurrent, happly, hnext⟩
  exact ⟨id, current, hid, hcurrent, patched_of_applyFields happly, hnext⟩

/-! ## What an accepted patch leaves -/

/-- The second server is the first one with another record under the identifier. -/
structure Replaces (id : UInt64) (r : k.Record) (s s' : Server UInt64 k.Record) : Prop where
  get?_self : s'.get? id = some r
  get?_other : ∀ id', id' ≠ id → s'.get? id' = s.get? id'
  keys_eq : s'.store.keys = s.store.keys
  created_eq : s'.created = s.created
  table_eq : s'.table = s.table

theorem replaces_put {id : UInt64} {current : k.Record} (r : k.Record)
    (h : s.get? id = some current) :
    Replaces id r s { s with store := s.store.put id r } := by
  have hmem : id ∈ s.store.keys := mem_keys_of_get? h
  refine ⟨s.store.get?_put_self id r, ?_, ?_, rfl, rfl⟩
  · intro id' hne
    exact s.store.get?_put_of_ne r hne
  · simp only [Store.keys_put, hmem, if_true]

/-! ## Identifiers of stored records -/

def Consistent (s : Server UInt64 k.Record) : Prop :=
  ∀ id r, s.get? id = some r → Entity.id r = id

theorem Consistent.put {id : UInt64} {r : k.Record} {count : Nat} (h : s.Consistent)
    (hr : Entity.id r = id) :
    Consistent { s with store := s.store.put id r, created := count } := by
  intro id' r' hget
  have hput : (s.store.put id r).get? id' = some r' := hget
  rw [Store.get?_put] at hput
  by_cases he : id' = id
  · have hsame : r = r' := by simpa [he] using hput
    subst hsame
    exact hr.trans he.symm
  · have hstored : s.get? id' = some r' := by simpa [Server.get?, he] using hput
    exact h id' r' hstored

theorem Consistent.serve (h : s.Consistent) (request : Request UInt64 k.Record) :
    (s.serve request).2.Consistent := by
  cases request with
  | create record => exact h.put (id_withId _ _)
  | get id => exact h
  | patch fields =>
    change (s.patch fields).2.Consistent
    rcases s.patch_refused_or_accepted fields with
      ⟨e, hserve⟩ | ⟨id, current, updated, _, hcurrent, happly, hserve⟩
    · simpa [hserve] using h
    · -- a patch does not change the identifier of the record
      have hid : Entity.id updated = id := by
        calc
          Entity.id updated = Entity.id current := (patched_of_applyFields happly).id_eq
          _ = id := h id current hcurrent
      have hput : Consistent { s with store := s.store.put id updated } := h.put hid
      simpa [hserve] using hput
  | choices accessor => exact h

theorem consistent_counting : Consistent (k := k) counting := by
  intro id r h
  cases h

end Server

/-! ## Clients -/

/-- A client answers with the record as it is encoded, or with the reason for which there is
nothing to answer. -/
theorem Client.eval_patch_encode {ι ρ σ : Type} [Entity ι ρ]
    (serve : Dialogue.Service (Request ι ρ) σ) (payload : Payload) (s : σ) :
    (Client.patch payload).eval serve s =
      (((serve (.patch payload.toObject) s).2.1 : Except ServerError ρ).mapError .ofServer >>=
          fun r => (Entity.encode r).mapError .malformed,
        (serve (.patch payload.toObject) s).2.2) := by
  have hask : (Client.ask (.patch payload.toObject)).eval serve s =
      (serve (.patch payload.toObject) s).2 := rfl
  rw [Client.patch, Dialogue.eval_inSpan]
  simp only [Dialogue.bind_eq, Dialogue.eval_bind, Dialogue.eval_log, hask]
  generalize (serve (.patch payload.toObject) s).2 = answered
  rcases answered with ⟨answer, next⟩
  cases answer with
  | error e => rfl
  | ok record =>
    simp only [Except.mapError, bind, Except.bind]
    cases Entity.encode record with
    | error why => rfl
    | ok json => rfl

/-- A client answers with the JSON of the patched record, or with the reason for which there is
none. -/
theorem Client.eval_patch {k : Kind} {σ : Type}
    (serve : Dialogue.Service (Request UInt64 k.Record) σ) (payload : Payload) (s : σ) :
    (Client.patch payload).eval serve s =
      ((((serve (.patch payload.toObject) s).2.1 : Except ServerError k.Record).map
          fun r => (Kind.toObject r).toJson).mapError .ofServer,
        (serve (.patch payload.toObject) s).2.2) := by
  rw [Client.eval_patch_encode]
  -- every record can be written, so that the response is never malformed
  simp only [Kind.encode_record]
  cases (serve (.patch payload.toObject) s).2.1 with
  | error e => rfl
  | ok record => rfl

end FieldPatch
