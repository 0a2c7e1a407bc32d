import FieldPatch.Decode.Layout
import FieldPatch.Entity

/-!
# Time logs

A time log holds the hours somebody worked. The hours may not become negative, and the user cannot
be changed. A time log declares no choices.
-/

namespace FieldPatch

structure TimeLog where
  id : UInt64
  content : String
  hoursLogged : Float
  billable : Bool
deriving DecidableEq, Repr

namespace TimeLog

/-- A time log without identifier yet. -/
def new (content : String) (hoursLogged : Float) : TimeLog :=
  ⟨0, content, hoursLogged, false⟩

/-- A number that is not below zero. -/
def hoursValue (field : String) (value : Json) : Except FieldError Float := do
  let hours ← Field.numberValue field value
  if hours < 0 then .error (.invalidValue field "may not be negative") else .ok hours

def edit (field : String) (value : Json) : Edit TimeLog Unit :=
  match field with
  | "content" => do set { ← get with content := ← Field.stringValue field value }
  | "billable" => do set { ← get with billable := ← Field.boolValue field value }
  | "hours_logged" => do set { ← get with hoursLogged := ← hoursValue field value }
  | "user" => throw (.readOnly field)
  | _ => throw (.unknownField field)

/-- The fields as they are declared; hours that are no number are null. -/
def members (t : TimeLog) : List (String × Json) :=
  [("id", Identifier.toJson t.id), ("content", .string t.content),
    ("hours_logged", .ofFloat t.hoursLogged), ("billable", .bool t.billable)]

def toObject (t : TimeLog) : Json.Object :=
  .ofMembers t.members

def layout : Decode.Layout TimeLog :=
  mk <$> .required "id" (Decode.word "u64") <*> .required "content" Decode.text
    <*> .required "hours_logged" Decode.double <*> .required "billable" Decode.truth

def decode : Decoder TimeLog :=
  layout.decode "struct TimeLog"

instance : Entity UInt64 TimeLog where
  kind := .timeLog
  id := TimeLog.id
  withId id t := { t with id }
  edit := edit
  encode t := .ok t.toObject.toJson
  choiceLists := []

end TimeLog
end FieldPatch
