import FieldPatch.Decode.Layout
import FieldPatch.Entity
import FieldPatch.Text.Blank

/-!
# Contacts

A contact is a person. The full name is read from the first and the last name and cannot be
changed itself; the status of the e-mail address is one of a list of choices.
-/

namespace FieldPatch

structure Contact where
  id : UInt64
  firstName : String
  lastName : String
  description : String
  emailAddresses : List String
  emailAddressStatus : String
deriving DecidableEq, Repr

namespace Contact

/-- A contact without identifier yet. -/
def new (firstName lastName : String) : Contact :=
  ⟨0, firstName, lastName, "", [], "primary"⟩

def fullName (c : Contact) : String :=
  Text.trim (c.firstName ++ " " ++ c.lastName)

def emailAddressStatuses : List Choice :=
  [⟨"primary", "Primary"⟩, ⟨"other", "Other"⟩, ⟨"inactive", "Inactive"⟩]

def choiceLists : List (String × List Choice) :=
  [("getEmailAddressStatuses", emailAddressStatuses)]

def edit (field : String) (value : Json) : Edit Contact Unit :=
  match field with
  | "first_name" => do set { ← get with firstName := ← Field.stringValue field value }
  | "last_name" => do set { ← get with lastName := ← Field.stringValue field value }
  | "description" => do set { ← get with description := ← Field.stringValue field value }
  | "email_addresses" => do set { ← get with emailAddresses := ← Field.stringsValue field value }
  | "email_address_status" => do
    set { ← get with
      emailAddressStatus := ← Field.choiceValue field emailAddressStatuses value }
  | "full_name" => throw (.readOnly field)
  | _ => throw (.unknownField field)

/-- The fields as they are declared. -/
def members (c : Contact) : List (String × Json) :=
  [("id", Identifier.toJson c.id), ("first_name", .string c.firstName),
    ("last_name", .string c.lastName), ("description", .string c.description),
    ("email_addresses", .array (c.emailAddresses.map .string)),
    ("email_address_status", .string c.emailAddressStatus)]

def toObject (c : Contact) : Json.Object :=
  .ofMembers c.members

def layout : Decode.Layout Contact :=
  mk <$> .required "id" (Decode.word "u64") <*> .required "first_name" Decode.text
    <*> .required "last_name" Decode.text <*> .required "description" Decode.text
    <*> .required "email_addresses" (Decode.list Decode.text)
    <*> .required "email_address_status" Decode.text

def decode : Decoder Contact :=
  layout.decode "struct Contact"

instance : Entity UInt64 Contact where
  kind := .contact
  id := Contact.id
  withId id c := { c with id }
  edit := edit
  encode c := .ok c.toObject.toJson
  choiceLists := choiceLists

end Contact
end FieldPatch
