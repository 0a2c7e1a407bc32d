import FieldPatch.Client
import FieldPatch.Mailbox
import FieldPatch.Message
import FieldPatch.Registry.Choices
import FieldPatch.Server.Basic

/-!
# Lines

A line connects many callers with whoever receives at the other end of a mailbox. A call is a
dialogue of requests; while one of them is under way, the message carries the rest of the call.

* `Line`: the mailbox, and the results of the calls that have ended;
* `Line.start`, `Line.receive?`, `Line.answer`, `Line.close`: what callers and receiver do;
* `Line.serveNext?`: the receiver is a server and serves the first message.
-/

namespace FieldPatch

structure Line (ι ρ α : Type) where
  mailbox : Mailbox (Message (Request ι ρ) α)
  /-- The number of calls started, which is the number of the next one. -/
  started : Nat := 0
  results : List (Nat × α) := []

namespace Line

variable {ι ρ α : Type}

/-- Runs a call until it has made a request or has ended. -/
def advance (caller : Nat) : Dialogue (Request ι ρ) α → Line ι ρ α → List Event × Line ι ρ α
  | .done result, line => ([], { line with results := line.results ++ [(caller, result)] })
  | .emit event next, line =>
    let (trace, line) := advance caller next line
    (event :: trace, line)
  | .ask request next, line =>
    match line.mailbox.send? ⟨caller, request, next⟩ with
    | some mailbox => ([], { line with mailbox })
    -- the receiver is gone, so that the call learns of it at once
    | none => advance caller (next (request.unanswered .closed)) line

/-- Starts a call under the next number. -/
def start (line : Line ι ρ α) (call : Dialogue (Request ι ρ) α) : List Event × Line ι ρ α :=
  advance line.started call { line with started := line.started + 1 }

/-- Starts several calls, and tells their numbers. -/
def startAll : List (Dialogue (Request ι ρ) α) → Line ι ρ α → List Event × List Nat × Line ι ρ α
  | [], line => ([], [], line)
  | call :: rest, line =>
    let (trace, next) := line.start call
    let (trace', callers, last) := startAll rest next
    (trace ++ trace', line.started :: callers, last)

/-- The result of a call that has ended. -/
def result? (line : Line ι ρ α) (caller : Nat) : Option α :=
  line.results.lookup caller

/-- The results of several calls, once all of them have ended. -/
def results? (line : Line ι ρ α) (callers : List Nat) : Option (List α) :=
  callers.mapM line.result?

/-- The first message, and the line without it. -/
def receive? (line : Line ι ρ α) : Option (Message (Request ι ρ) α × Line ι ρ α) :=
  line.mailbox.receive?.map fun (message, mailbox) => (message, { line with mailbox })

/-- Answers a message: its call goes on. -/
def answer (line : Line ι ρ α) (message : Message (Request ι ρ) α) (a : Answer message.question) :
    List Event × Line ι ρ α :=
  advance message.caller (message.resume a) line

/-- The message is thrown away unanswered. -/
def drop (line : Line ι ρ α) (message : Message (Request ι ρ) α) : List Event × Line ι ρ α :=
  line.answer message (message.question.unanswered .dropped)

/-- Answers several messages with the same error. -/
def failAll (e : ServerError) :
    List (Message (Request ι ρ) α) → Line ι ρ α → List Event × Line ι ρ α
  | [], line => ([], line)
  | message :: rest, line =>
    let (trace, line) := line.answer message (message.question.unanswered e)
    let (trace', line) := failAll e rest line
    (trace ++ trace', line)

/-- The receiver goes away: requests in the mailbox are dropped, those still waiting to enter find it
closed. -/
def close (line : Line ι ρ α) : List Event × Line ι ρ α :=
  let { queue, waiting, .. } := line.mailbox
  let line := { line with mailbox := line.mailbox.close }
  let (trace, line) := failAll .closed waiting line
  let (trace', line) := failAll .dropped queue line
  (trace ++ trace', line)

/-- A server takes the first message and answers it. -/
def serveNext? [DecidableEq ι] [Identifier ι] [Entity ι ρ] (s : Server ι ρ) (line : Line ι ρ α) :
    Option (List Event × Server ι ρ × Line ι ρ α) :=
  line.receive?.map fun (message, line) =>
    let (a, s) := s.serve message.question
    let (trace, line) := line.answer message a
    (trace, s, line)

end Line

/-- A client is the one endpoint of its registry, and the accessor of each name. -/
def Client.relay {ι ρ : Type} [Entity ι ρ] :
    (query : Query Unit String) → Dialogue (Request ι ρ) (Answer query)
  | .patch _ payload => Client.patch payload
  | .fetch accessor => Client.fetch accessor

end FieldPatch
