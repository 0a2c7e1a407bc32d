import FieldPatch.Field.Value
import FieldPatch.Kind

/-!
# Entities

What a server asks of the records that it keeps.

* `Identifier`: the identifiers of records, as JSON and as text;
* `Edit`: work on a record in place, which may be refused on the way;
* `Entity`: the records. A record accepts or refuses a change of one field, and declares the lists
  of choices that are served under an accessor name each;
* `Entity.change`, `Entity.applyField`: a change of one field of a record that is held somewhere,
  and of a copy that is dropped if it is refused.
-/

namespace FieldPatch

class Identifier (ι : Type) where
  /-- The identifier that a JSON value denotes. -/
  ofJson? : Json → Option ι
  toJson : ι → Json
  text : ι → String

/-- A 64-bit word is written as an integer. -/
instance : Identifier UInt64 where
  ofJson?
    | .number (.int n) =>
      if 0 ≤ n ∧ n.toNat < UInt64.size then some (UInt64.ofNat n.toNat) else none
    | _ => none
  toJson id := .ofInt id.toNat
  text id := toString id.toNat

instance : Identifier String where
  ofJson? := Json.text?
  toJson := .string
  text id := id

/-- Work on a record in place. It may stop with an error, and then the record is there with all that
has been assigned to it before. -/
abbrev Edit (ρ : Type) :=
  ExceptT FieldError (StateM ρ)

namespace Edit

variable {ρ : Type}

/-- What is said about the change, and the record that is there then. -/
def run (edit : Edit ρ Unit) (r : ρ) : Except FieldError Unit × ρ :=
  StateT.run (ExceptT.run edit) r

@[simp] theorem run_throw (e : FieldError) (r : ρ) : run (throw e) r = (.error e, r) :=
  rfl

/-- What has been read is put into the record. Where nothing could be read, nothing is assigned. -/
theorem run_put {α : Type} (reading : Except FieldError α) (put : α → ρ → ρ) (r : ρ) :
    run (do
      let r ← get
      set (put (← reading) r)) r =
      match reading with
      | .ok a => (.ok (), put a r)
      | .error e => (.error e, r) := by
  cases reading with
  | ok a => rfl
  | error e => rfl

end Edit

class Entity (ι : outParam Type) (ρ : Type) where
  kind : Kind
  id : ρ → ι
  withId : ι → ρ → ρ
  /-- A change of one field. The identifier is never changed so. -/
  edit : String → Json → Edit ρ Unit
  /-- The record as JSON, or why it has none. -/
  encode : ρ → Except String Json
  choiceLists : List (String × List Choice)

namespace Entity

variable {ι ρ : Type} [Entity ι ρ]

/-- A change of one field of a record that is held somewhere. -/
def change (field : String) (value : Json) (r : ρ) : Except FieldError Unit × ρ :=
  (edit field value).run r

/-- A changed copy of the record. One that refuses the change is dropped. -/
def applyField (field : String) (value : Json) (r : ρ) : Except FieldError ρ :=
  match change field value r with
  | (.ok (), r') => .ok r'
  | (.error e, _) => .error e

theorem applyField_eq_ok_iff {field : String} {value : Json} {r r' : ρ} :
    applyField field value r = .ok r' ↔ change field value r = (.ok (), r') := by
  unfold applyField
  split <;> simp_all

theorem applyField_eq_error_iff {field : String} {value : Json} {r : ρ} {e : FieldError} :
    applyField field value r = .error e ↔ ∃ r', change field value r = (.error e, r') := by
  unfold applyField
  split <;> simp_all

end Entity
end FieldPatch
