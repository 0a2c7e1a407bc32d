import FieldPatch.Misuse
import FieldPatch.Registry.Choices

/-!
# Scripted endpoints

An endpoint that replies from a script, for trying out an executor without servers.

* `ScriptedEndpoint`: the replies that are left, and the payloads that came;
* `ScriptedEndpoint.expect`, `ScriptedEndpoint.deliver`, `ScriptedEndpoint.verify`: a reply is
  queued, a payload takes the first one, and at the end none may be left;
* `Bench`: scripted endpoints under their handles; the accessor of a field is its list of choices;
* `Bench.call`: a call of an executor, which misuse ends.
-/

namespace FieldPatch

structure ScriptedEndpoint where
  replies : List (Except RemoteError Json) := []
  received : List Payload := []

namespace ScriptedEndpoint

def expect (e : ScriptedEndpoint) (reply : Except RemoteError Json) : ScriptedEndpoint :=
  { e with replies := e.replies ++ [reply] }

/-- A payload is recorded in any case and gets the first reply of the script. -/
def deliver (e : ScriptedEndpoint) (payload : Payload) :
    Except Misuse (Except RemoteError Json) × ScriptedEndpoint :=
  let received := e.received ++ [payload]
  match e.replies with
  | [] => (.error .unexpectedPatch, { e with received })
  | reply :: replies => (.ok reply, { replies, received })

def verify (e : ScriptedEndpoint) : Except Misuse Unit :=
  if e.replies.isEmpty then .ok () else .error (.unmetExpectations e.replies.length)

end ScriptedEndpoint

/-! ## Benches -/

structure Bench (ε : Type) where
  endpoint : ε → ScriptedEndpoint := fun _ => {}

namespace Bench

variable {ε α : Type} [DecidableEq ε]

def set (b : Bench ε) (handle : ε) (e : ScriptedEndpoint) : Bench ε :=
  ⟨fun h => if h = handle then e else b.endpoint h⟩

def expect (b : Bench ε) (handle : ε) (reply : Except RemoteError Json) : Bench ε :=
  b.set handle ((b.endpoint handle).expect reply)

def answer (b : Bench ε) : (query : Query ε (List Choice)) → Except Misuse (Answer query) × Bench ε
  | .patch handle payload =>
    let (reply, e) := (b.endpoint handle).deliver payload
    (reply, b.set handle e)
  | .fetch list => (.ok (.ok list), b)

/-- Runs a call up to its end or to a misuse. -/
def call (b : Bench ε) :
    Dialogue (Query ε (List Choice)) α → Dialogue.Run (Bench ε) (Except Misuse α)
  | .done result => ⟨[], .ok result, b⟩
  | .emit event next => (b.call next).after [event]
  | .ask query next =>
    match b.answer query with
    | (.ok answer, b) => b.call (next answer)
    | (.error misuse, b) => ⟨[], .error misuse, b⟩

end Bench
end FieldPatch
