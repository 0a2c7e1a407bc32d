import FieldPatch.Record.Account
import FieldPatch.Record.Case
import FieldPatch.Record.Contact
import FieldPatch.Record.TimeLog

/-!
# The records of a kind

* `Kind.Record`: the type of the records of a kind;
* `Kind.decode`, `Kind.members`: reading and writing a record of a given kind.
-/

namespace FieldPatch
namespace Kind

abbrev Record : Kind → Type
  | .contact => Contact
  | .account => Account
  | .case => Case
  | .timeLog => TimeLog

instance instEntityRecord : (k : Kind) → Entity UInt64 k.Record
  | .contact => inferInstanceAs (Entity UInt64 Contact)
  | .account => inferInstanceAs (Entity UInt64 Account)
  | .case => inferInstanceAs (Entity UInt64 Case)
  | .timeLog => inferInstanceAs (Entity UInt64 TimeLog)

theorem kind_record (k : Kind) : Entity.kind k.Record = k := by
  cases k <;> rfl

def decode : (k : Kind) → Decoder k.Record
  | .contact => Contact.decode
  | .account => Account.decode
  | .case => Case.decode
  | .timeLog => TimeLog.decode

/-- The fields of a record as its type declares them. -/
def members : {k : Kind} → k.Record → List (String × Json)
  | .contact => Contact.members
  | .account => Account.members
  | .case => Case.members
  | .timeLog => TimeLog.members

def toObject {k : Kind} (r : k.Record) : Json.Object :=
  .ofMembers (members r)

theorem encode_record {k : Kind} (r : k.Record) :
    Entity.encode r = .ok (toObject r).toJson := by
  cases k <;> rfl

/-! ## Kinds as JSON -/

def toJson (k : Kind) : Json :=
  .string k.name

/-- The kind with a name that stands for a variant. -/
def ofVariant (name : String) : Except DecodeError Kind :=
  match ofName name with
  | .ok k => .ok k
  | .error _ => .error (.unknownVariant name (all.map Kind.name))

/-- A kind is its name, or an object whose only key is the name and whose value is null. -/
def ofJson : Decoder Kind
  | .string name => ofVariant name
  | .object [(name, value)] => do
    let k ← ofVariant name
    match value with
    | .null => .ok k
    | _ => .error (.wrongShape value "unit")
  | .object _ => .error .notOneMember
  | json => .error (.wrongShape json "string or map")

end Kind
end FieldPatch
