import FieldPatch.Proofs.Record.Revision
import FieldPatch.Proofs.Server.Patch

/-!
# Effects of patches

What a patch does to a server and what it answers, as equations for accepted and refused patches.

* `Server.get?_patch`: the addressed record is revised, and no other one changes;
* `Server.patch_congr`: the answer depends on the addressed record only;
* `Server.verdict_patch_congr`: whether a patch is accepted depends on the identifiers only;
* `Server.ext_get?`: servers that hold the same records and lists and count alike are equal.
-/

namespace FieldPatch
namespace Server

/-! ## Answers -/

section Answers

variable {ι ρ : Type} [DecidableEq ι] [Identifier ι] [Entity ι ρ] {s s' : Server ι ρ}
  {fields : Json.Object}

/-- The answer to a patch is read off the addressed record. -/
theorem patch_of_addressee (s : Server ι ρ) {id : ι} (h : addressee? fields = some id) :
    (s.patch fields).1 =
      match s.get? id with
      | none => .error (.notFound (Identifier.text id))
      | some current => (applyFields (fields.erase idKey).members current).mapError .field := by
  cases hcurrent : s.get? id with
  | none => simp [patch_of_absent h hcurrent]
  | some current =>
    rw [patch_of_stored h hcurrent]
    cases happly : applyFields (fields.erase idKey).members current with
    | error e => simp [happly, Except.mapError]
    | ok updated => simp [happly, Except.mapError]

theorem patch_congr (h : ∀ id, addressee? fields = some id → s.get? id = s'.get? id) :
    (s.patch fields).1 = (s'.patch fields).1 := by
  cases hid : addressee? (ι := ι) fields with
  | none => simp [patch_of_not_addressee, hid]
  | some id => simp only [patch_of_addressee _ hid, h id hid]

omit [Identifier ι] [Entity ι ρ] in
/-- Servers are equal if they hold the same records in the same order, serve the same lists and make
the same identifiers. -/
theorem ext_get? (hmint : s.mint = s'.mint) (htable : s.table = s'.table)
    (hcreated : s.created = s'.created) (hkeys : s.store.keys = s'.store.keys)
    (hget : ∀ id, s.get? id = s'.get? id) : s = s' := by
  have hstore : s.store = s'.store := Store.ext_get? hkeys hget
  cases s
  cases s'
  simp_all

end Answers

/-! ## Accepted and refused -/

open Kind

variable {k : Kind} {s s' : Server UInt64 k.Record}

/-- Whether a patch was accepted, or the error with which it was refused. -/
def verdict (answer : Except ServerError k.Record) : Except ServerError Unit :=
  answer.map fun _ => ()

theorem verdict_patch_congr (h : ∀ id, (s.get? id).isSome = (s'.get? id).isSome)
    (fields : Json.Object) : verdict (s.patch fields).1 = verdict (s'.patch fields).1 := by
  cases hid : addressee? (ι := UInt64) fields with
  | none => simp [patch_of_not_addressee, hid]
  | some id =>
    have hstored := h id
    simp only [patch_of_addressee _ hid]
    cases hcurrent : s.get? id with
    | none =>
      cases hcurrent' : s'.get? id with
      | none => rfl
      | some current' => simp [hcurrent, hcurrent'] at hstored
    | some current =>
      cases hcurrent' : s'.get? id with
      | none => simp [hcurrent, hcurrent'] at hstored
      | some current' =>
        -- the two records may differ, but their kind decides about the changes
        rcases k.patchFields_cases fields with ⟨e, _, herror⟩ | ⟨_, hok⟩
        · simp [herror]
        · rcases hok current with ⟨updated, hupdated, _⟩
          rcases hok current' with ⟨updated', hupdated', _⟩
          simp [hupdated, hupdated', verdict, Except.mapError, Except.map]

/-! ## Records -/

theorem not_writes_patch {id : UInt64} {fields : Json.Object} (h : addressee? fields ≠ some id)
    (answer : Except ServerError k.Record) :
    ¬ Writes id (⟨.patch fields, answer⟩ : Answered (Request UInt64 k.Record)) := by
  cases answer with
  | error e => exact not_false
  | ok updated => exact h

/-- A patch revises the record that it addresses, and does so to no other one. -/
theorem get?_patch (s : Server UInt64 k.Record) (fields : Json.Object) (id : UInt64) :
    (s.patch fields).2.get? id =
      if addressee? fields = some id then (s.get? id).map (revised fields) else s.get? id := by
  by_cases hid : addressee? fields = some id
  · rw [if_pos hid]
    cases hcurrent : s.get? id with
    | none => simp [patch_of_absent hid hcurrent, hcurrent]
    | some current =>
      rw [patch_of_stored hid hcurrent, Option.map_some, revised]
      cases applyFields (fields.erase idKey).members current with
      | error e => exact hcurrent
      | ok updated => exact s.store.get?_put_self id updated
  · rw [if_neg hid]
    exact s.get?_serve_of_not_writes (.patch fields) (not_writes_patch hid _)

theorem isSome_get?_patch (s : Server UInt64 k.Record) (fields : Json.Object) (id : UInt64) :
    ((s.patch fields).2.get? id).isSome = (s.get? id).isSome := by
  rw [get?_patch]
  split
  · simp
  · rfl

@[simp] theorem keys_patch (s : Server UInt64 k.Record) (fields : Json.Object) :
    (s.patch fields).2.store.keys = s.store.keys :=
  s.keys_serve (.patch fields) nofun

@[simp] theorem created_patch (s : Server UInt64 k.Record) (fields : Json.Object) :
    (s.patch fields).2.created = s.created :=
  s.created_serve (.patch fields)

@[simp] theorem mint_patch (s : Server UInt64 k.Record) (fields : Json.Object) :
    (s.patch fields).2.mint = s.mint :=
  s.mint_serve (.patch fields)

@[simp] theorem table_patch (s : Server UInt64 k.Record) (fields : Json.Object) :
    (s.patch fields).2.table = s.table :=
  s.table_serve (.patch fields)

end Server
end FieldPatch
