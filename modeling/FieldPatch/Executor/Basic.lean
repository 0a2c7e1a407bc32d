import FieldPatch.Executor.Arguments
import FieldPatch.Executor.Outcome
import FieldPatch.Registry.Choices

/-!
# The executor

The executor sends patches through the registry and tells the user how they went.

* `Executor.tryPatch`: sends a payload and notifies nobody;
* `Executor.patch`: the same, with exactly one notification at the end;
* `Executor.updateField`: builds the payload of a change of one field and patches it;
* `Executor.choicesForField`: the permissible values of a field.

Nothing is retried, and calls for the same record are not coordinated.
-/

namespace FieldPatch

structure Executor (ε α : Type) where
  registry : Registry ε α
  config : Config

namespace Executor

variable {ε α : Type}

def tryPatch (x : Executor ε α) (kind : Kind) (payload : Payload) :
    Dialogue (Query ε α) (Except PatchError Json) :=
  .inSpan
    ⟨"try_patch", .executor,
      [("kind", .bare kind.name), ("partial", .truth payload.isSingle)]⟩ do
    match x.registry.endpoint kind with
    | .error e => return .error (.registry e)
    | .ok endpoint =>
      .log ⟨.debug, .executor, "Sending request", []⟩
      match ← Dialogue.query (Query.patch endpoint payload) with
      | .ok response => return .ok response
      | .error e => return .error (.remote e)

/-! ## Ends of a call -/

variable {Q : Type} [Question Q]

def succeed (config : Config) (kind : Kind) (response : Json) : Dialogue Q Outcome := do
  let message := config.successMessage kind
  .log ⟨.info, .executor, "Patch applied", [("resource", .bare kind.name)]⟩
  .tell (.notify (.success message config.successTitle))
  return .applied response message

def fail (config : Config) (kind : Kind) (reason : PatchError) : Dialogue Q Outcome := do
  let message := config.errorMessage
  .log ⟨.warn, .executor, "Patch failed",
    [("resource", .bare kind.name), ("error", .bare reason.message)]⟩
  .tell (.notify (.error message config.errorTitle))
  return .failed reason message

/-! ## Calls -/

def patch (x : Executor ε α) (kind : Kind) (payload : Payload) :
    Dialogue (Query ε α) Outcome := do
  match ← x.tryPatch kind payload with
  | .ok response => succeed x.config kind response
  | .error reason => fail x.config kind reason

def updateField (x : Executor ε α) (kind : Kind) (target : Target) (field : String)
    (change : Change) : Dialogue (Query ε α) Outcome := do
  match ← x.config.createArgs change (some field) (some target) with
  | .ok payload => x.patch kind payload
  | .error reason => fail x.config kind reason

def choicesForField (x : Executor ε α) (kind : Kind) (field : String) :
    Dialogue (Query ε α) (List Choice) :=
  x.registry.choicesForField kind field

end Executor
end FieldPatch
