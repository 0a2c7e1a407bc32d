import FieldPatch.Choice
import FieldPatch.Json.Basic

/-!
# Field values

* `FieldError`: why a record refuses a change of one of its fields;
* the readings of a JSON value as the value of a field: `stringValue`, `boolValue`,
  `numberValue`, `stringsValue` and, for a field with a list of choices, `choiceValue`.
-/

namespace FieldPatch

inductive FieldError where
  | unknownField (field : String)
  | readOnly (field : String)
  | invalidValue (field reason : String)
deriving DecidableEq, Repr

namespace FieldError

def message : FieldError → String
  | .unknownField field => "Unknown field: " ++ field
  | .readOnly field => "Field is read-only: " ++ field
  | .invalidValue field reason => "Invalid value for " ++ field ++ ": " ++ reason

/-- The field that the error is about. -/
def field : FieldError → String
  | .unknownField field => field
  | .readOnly field => field
  | .invalidValue field _ => field

end FieldError

namespace Field

/-- The value, or the complaint that the field expected something else. -/
def expect {α : Type} (field reason : String) : Option α → Except FieldError α
  | some value => .ok value
  | none => .error (.invalidValue field reason)

def stringValue (field : String) (value : Json) : Except FieldError String :=
  expect field "expected a string" value.text?

def boolValue (field : String) (value : Json) : Except FieldError Bool :=
  expect field "expected a boolean" value.truth?

/-- Any number, as a double. -/
def numberValue (field : String) (value : Json) : Except FieldError Float :=
  expect field "expected a number" (value.number?.map Json.Number.toFloat)

/-- A list of strings; the first item that is none is the error. -/
def stringsValue (field : String) (value : Json) : Except FieldError (List String) := do
  let items ← expect field "expected a list of strings" value.items?
  items.mapM (stringValue field)

/-- A string that one of the choices offers. -/
def choiceValue (field : String) (choices : List Choice) (value : Json) :
    Except FieldError String := do
  let raw ← stringValue field value
  if Choice.offers choices raw then .ok raw
  else .error (.invalidValue field ("'" ++ raw ++ "' is not a valid choice"))

end Field
end FieldPatch
