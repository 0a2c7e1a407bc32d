import FieldPatch.Errors
import FieldPatch.Json.Basic

/-!
# Outcomes

How a patch went, for the caller: applied, with the response of the endpoint, or failed, with the
reason. The message is the one that the user saw.
-/

namespace FieldPatch

inductive Outcome where
  | applied (response : Json) (message : String)
  | failed (reason : PatchError) (message : String)

namespace Outcome

def isSuccess : Outcome → Bool
  | .applied .. => true
  | .failed .. => false

def message : Outcome → String
  | .applied _ message => message
  | .failed _ message => message

def response? : Outcome → Option Json
  | .applied response _ => some response
  | .failed .. => none

def reason? : Outcome → Option PatchError
  | .applied .. => none
  | .failed reason _ => some reason

end Outcome
end FieldPatch
