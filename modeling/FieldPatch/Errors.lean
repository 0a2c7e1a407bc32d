import FieldPatch.Field.Value
import FieldPatch.Kind
import FieldPatch.Text.Quoted

/-!
# Failures

What can go wrong between a caller and a record, from the inside out.

* `ServerError`: a server refuses a request, or is gone;
* `RemoteError`: the same as the other side of an endpoint reports it (`RemoteError.ofServer`);
* `RegistryError`: a kind or an accessor is not to be found;
* `PatchError`: why a patch did not apply.

Each has its message; `outline` shows the structure of a `PatchError`.
-/

namespace FieldPatch

/-! ## Servers -/

inductive ServerError where
  | closed
  | dropped
  | notFound (what : String)
  | missingId
  | field (e : FieldError)
deriving DecidableEq, Repr

def ServerError.message : ServerError → String
  | .closed => "Actor closed"
  | .dropped => "Actor dropped response channel"
  | .notFound what => "Item not found: " ++ what
  | .missingId => "Payload has no usable id"
  | .field e => e.message

/-! ## Endpoints -/

inductive RemoteError where
  | notFound (what : String)
  | rejected (why : String)
  | unavailable (why : String)
  | malformed (why : String)
deriving DecidableEq, Repr

namespace RemoteError

def message : RemoteError → String
  | .notFound what => "Not found: " ++ what
  | .rejected why => "Rejected: " ++ why
  | .unavailable why => "Unavailable: " ++ why
  | .malformed why => "Malformed response: " ++ why

/-- A server that is gone is unavailable; a request that it refuses is rejected. -/
def ofServer : ServerError → RemoteError
  | .notFound what => .notFound what
  | .closed => .unavailable ServerError.closed.message
  | .dropped => .unavailable ServerError.dropped.message
  | .missingId => .rejected ServerError.missingId.message
  | .field e => .rejected (ServerError.field e).message

def outline : RemoteError → String
  | .notFound what => "NotFound(" ++ Text.quote what ++ ")"
  | .rejected why => "Rejected(" ++ Text.quote why ++ ")"
  | .unavailable why => "Unavailable(" ++ Text.quote why ++ ")"
  | .malformed why => "Malformed(" ++ Text.quote why ++ ")"

end RemoteError

/-! ## The registry -/

inductive RegistryError where
  | unregistered (kind : Kind)
  | duplicate (kind : Kind)
  | lookupMiss (kind : Kind) (accessor : String)
deriving DecidableEq, Repr

namespace RegistryError

def message : RegistryError → String
  | .unregistered kind => "Resource not registered: " ++ kind.name
  | .duplicate kind => "Resource registered twice: " ++ kind.name
  | .lookupMiss kind accessor => "No accessor on " ++ kind.name ++ " matches " ++ accessor

def outline : RegistryError → String
  | .unregistered kind => "Unregistered(" ++ kind.name ++ ")"
  | .duplicate kind => "Duplicate(" ++ kind.name ++ ")"
  | .lookupMiss kind accessor =>
    "LookupMiss \x7b resource: " ++ kind.name ++ ", accessor: " ++ Text.quote accessor ++ " \x7d"

end RegistryError

/-! ## Patches -/

inductive PatchError where
  | registry (e : RegistryError)
  | invalidField (field : String)
  | readOnlyField (field : String)
  | missingTarget (field : String)
  | remote (e : RemoteError)
deriving DecidableEq, Repr

namespace PatchError

def message : PatchError → String
  | .registry e => e.message
  | .invalidField field => "Invalid field name: " ++ Text.quote field
  | .readOnlyField field => "Field " ++ field ++ " cannot be patched"
  | .missingTarget field => "No model given for field " ++ field
  | .remote e => e.message

def outline : PatchError → String
  | .registry e => "Registry(" ++ e.outline ++ ")"
  | .invalidField field => "InvalidField(" ++ Text.quote field ++ ")"
  | .readOnlyField field => "ReadOnlyField(" ++ Text.quote field ++ ")"
  | .missingTarget field => "MissingTarget(" ++ Text.quote field ++ ")"
  | .remote e => "Remote(" ++ e.outline ++ ")"

end PatchError
end FieldPatch
