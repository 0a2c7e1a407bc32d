import FieldPatch.Decode.Layout
import FieldPatch.Entity
import FieldPatch.Text.Blank

/-!
# Accounts

An account is a company or an organisation. Its name may not become blank, and its status is one
of a list of choices.
-/

namespace FieldPatch

structure Account where
  id : UInt64
  name : String
  description : String
  website : String
  status : String
deriving DecidableEq, Repr

namespace Account

/-- An account without identifier yet. -/
def new (name : String) : Account :=
  ⟨0, name, "", "", "prospect"⟩

def statuses : List Choice :=
  [⟨"prospect", "Prospect"⟩, ⟨"active", "Active"⟩, ⟨"relation", "Relation"⟩,
    ⟨"inactive", "Inactive"⟩]

def choiceLists : List (String × List Choice) :=
  [("getStatuses", statuses)]

/-- A string with a character that is not white space. -/
def nameValue (field : String) (value : Json) : Except FieldError String := do
  let name ← Field.stringValue field value
  if Text.allBlank name then .error (.invalidValue field "may not be blank") else .ok name

def edit (field : String) (value : Json) : Edit Account Unit :=
  match field with
  | "name" => do set { ← get with name := ← nameValue field value }
  | "description" => do set { ← get with description := ← Field.stringValue field value }
  | "website" => do set { ← get with website := ← Field.stringValue field value }
  | "status" => do set { ← get with status := ← Field.choiceValue field statuses value }
  | _ => throw (.unknownField field)

/-- The fields as they are declared. -/
def members (a : Account) : List (String × Json) :=
  [("id", Identifier.toJson a.id), ("name", .string a.name),
    ("description", .string a.description), ("website", .string a.website),
    ("status", .string a.status)]

def toObject (a : Account) : Json.Object :=
  .ofMembers a.members

def layout : Decode.Layout Account :=
  mk <$> .required "id" (Decode.word "u64") <*> .required "name" Decode.text
    <*> .required "description" Decode.text <*> .required "website" Decode.text
    <*> .required "status" Decode.text

def decode : Decoder Account :=
  layout.decode "struct Account"

instance : Entity UInt64 Account where
  kind := .account
  id := Account.id
  withId id a := { a with id }
  edit := edit
  encode a := .ok a.toObject.toJson
  choiceLists := choiceLists

end Account
end FieldPatch
