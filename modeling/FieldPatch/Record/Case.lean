import FieldPatch.Decode.Layout
import FieldPatch.Entity

/-!
# Cases

A case is a question or a complaint that somebody works on. Status, priority and type are each one
of a list of choices.
-/

namespace FieldPatch

structure Case where
  id : UInt64
  subject : String
  description : String
  status : String
  priority : String
  type : String
  isArchived : Bool
deriving DecidableEq, Repr

namespace Case

/-- A case without identifier yet. -/
def new (subject : String) : Case :=
  ⟨0, subject, "", "new", "normal", "question", false⟩

def statuses : List Choice :=
  [⟨"new", "New"⟩, ⟨"pending_input", "Pending input"⟩, ⟨"waiting_on_hold", "Waiting on hold"⟩,
    ⟨"closed", "Closed"⟩]

def priorityLevels : List Choice :=
  [⟨"low", "Low"⟩, ⟨"normal", "Normal"⟩, ⟨"high", "High"⟩, ⟨"critical", "Critical"⟩]

def types : List Choice :=
  [⟨"question", "Question"⟩, ⟨"incident", "Incident"⟩, ⟨"request", "Request"⟩]

def choiceLists : List (String × List Choice) :=
  [("getStatuses", statuses), ("getPriorityLevels", priorityLevels), ("getTypes", types)]

def edit (field : String) (value : Json) : Edit Case Unit :=
  match field with
  | "subject" => do set { ← get with subject := ← Field.stringValue field value }
  | "description" => do set { ← get with description := ← Field.stringValue field value }
  | "status" => do set { ← get with status := ← Field.choiceValue field statuses value }
  | "priority" => do set { ← get with priority := ← Field.choiceValue field priorityLevels value }
  | "type" => do set { ← get with type := ← Field.choiceValue field types value }
  | "is_archived" => do set { ← get with isArchived := ← Field.boolValue field value }
  | _ => throw (.unknownField field)

/-- The fields as they are declared. -/
def members (c : Case) : List (String × Json) :=
  [("id", Identifier.toJson c.id), ("subject", .string c.subject),
    ("description", .string c.description), ("status", .string c.status),
    ("priority", .string c.priority), ("type", .string c.type),
    ("is_archived", .bool c.isArchived)]

def toObject (c : Case) : Json.Object :=
  .ofMembers c.members

def layout : Decode.Layout Case :=
  mk <$> .required "id" (Decode.word "u64") <*> .required "subject" Decode.text
    <*> .required "description" Decode.text <*> .required "status" Decode.text
    <*> .required "priority" Decode.text <*> .required "type" Decode.text
    <*> .required "is_archived" Decode.truth

def decode : Decoder Case :=
  layout.decode "struct Case"

instance : Entity UInt64 Case where
  kind := .case
  id := Case.id
  withId id c := { c with id }
  edit := edit
  encode c := .ok c.toObject.toJson
  choiceLists := choiceLists

end Case
end FieldPatch
