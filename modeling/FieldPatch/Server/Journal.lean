import FieldPatch.Server.Basic

/-!
# The log of a server

What a server writes about its life and about the requests that it serves.
-/

namespace FieldPatch
namespace Server

def entry (kind : Kind) (level : Log.Level) (message : String)
    (fields : List (String × Log.Value)) : Log.Entry :=
  ⟨level, .server, message, ("resource", .string kind.name) :: fields⟩

def started (kind : Kind) : Log.Entry :=
  entry kind .info "Actor started" []

def stopped (kind : Kind) (size : Nat) : Log.Entry :=
  entry kind .info "Shutdown" [("size", .count size)]

variable {ι ρ : Type} [DecidableEq ι] [Identifier ι] [Entity ι ρ]

/-- What is written while a request is served. -/
def journal (s : Server ι ρ) : Request ι ρ → List Log.Entry
  | .create record =>
    let (id, next) := s.create record
    [entry (Entity.kind ρ) .info "Created"
      [("id", .bare (Identifier.text id)), ("size", .count next.store.size)]]
  | .get id =>
    [entry (Entity.kind ρ) .debug "Get"
      [("id", .bare (Identifier.text id)), ("found", .truth (s.get? id).isSome)]]
  | .patch fields =>
    [entry (Entity.kind ρ) .debug "Patch" [("fields", .bare fields.outline)],
      match (s.patch fields).1 with
      | .ok record =>
        entry (Entity.kind ρ) .info "Patched"
          [("id", .bare (Identifier.text (Entity.id record)))]
      | .error e => entry (Entity.kind ρ) .warn "Patch failed" [("error", .bare e.message)]]
  | .choices accessor =>
    [entry (Entity.kind ρ) .debug "Choices"
      [("accessor", .bare accessor),
        ("found", .truth (s.choices accessor).isOk)]]

/-- A server answers the questions that are requests to it. -/
def service : Dialogue.Service (Request ι ρ) (Server ι ρ) := fun request s =>
  (s.journal request, s.serve request)

end Server
end FieldPatch
