import FieldPatch.Dialogue
import FieldPatch.Payload
import FieldPatch.Registry.Basic

/-!
# Asking through the registry

* `Query`: the questions that a registry leads to: a payload for an endpoint, or the choices of an
  accessor;
* `Registry.choicesForField`: the permissible values of a field, none if anything fails.
-/

namespace FieldPatch

inductive Query (ε α : Type) where
  | patch (endpoint : ε) (payload : Payload)
  | fetch (accessor : α)

namespace Query

variable {ε α : Type}

/-- What a query gets where it succeeds. -/
abbrev Reply : Query ε α → Type
  | .patch _ _ => Json
  | .fetch _ => List Choice

instance : Question (Query ε α) where
  Answer query := Except RemoteError query.Reply

end Query

namespace Registry

variable {ε α : Type}

/-- Writes to the log what a look-up has to tell. -/
def logAll {Q : Type} [Question Q] : List Log.Entry → Dialogue Q Unit
  | [] => .done ()
  | entry :: rest => .emit (.log entry) (logAll rest)

def lookUp (r : Registry ε α) (kind : Kind) (field : String) :
    Dialogue (Query ε α) (Except RegistryError (Resolved α)) := do
  logAll (r.resolveLog kind field)
  return r.resolve kind field

def fetch (accessor : α) : Dialogue (Query ε α) (Except RemoteError (List Choice)) :=
  Dialogue.query (Query.fetch accessor)

def choicesForField (r : Registry ε α) (kind : Kind) (field : String) :
    Dialogue (Query ε α) (List Choice) :=
  .inSpan
    ⟨"choices_for_field", .registry,
      [("kind", .bare kind.name), ("field", .string field), ("resource", .bare kind.name)]⟩ do
    match ← r.lookUp kind field with
    | .error e =>
      .log ⟨.debug, .registry, "No choices available", [("error", .bare e.message)]⟩
      return []
    | .ok found =>
      match ← fetch found.accessor with
      | .ok list =>
        .log ⟨.debug, .registry, "Choices fetched",
          [("accessor", .string found.name), ("count", .count list.length)]⟩
        return list
      | .error e =>
        .log ⟨.warn, .registry, "Choice accessor failed",
          [("accessor", .string found.name), ("error", .bare e.message)]⟩
        return []

end Registry
end FieldPatch
