import FieldPatch.Dialogue
import FieldPatch.Errors
import FieldPatch.Json.Object

/-!
# Requests

What clients ask of the server that keeps the records of one kind, and what they get for it.
A request is a question: its answer is its reply or the error of the server.
-/

namespace FieldPatch

inductive Request (ι ρ : Type) where
  | create (record : ρ)
  | get (id : ι)
  /-- The members of the object are an identifier and the fields to change. -/
  | patch (fields : Json.Object)
  | choices (accessor : String)

namespace Request

variable {ι ρ : Type}

/-- What a request gets where it succeeds. -/
abbrev Reply : Request ι ρ → Type
  | .create _ => ι
  | .get _ => Option ρ
  | .patch _ => ρ
  | .choices _ => List Choice

instance : Question (Request ι ρ) where
  Answer request := Except ServerError request.Reply

/-- The request got no answer, for this reason. -/
def unanswered (e : ServerError) (request : Request ι ρ) : Answer request :=
  (.error e : Except ServerError request.Reply)

end Request
end FieldPatch
