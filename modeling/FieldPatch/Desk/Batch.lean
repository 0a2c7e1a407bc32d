import FieldPatch.Desk.Basic
import FieldPatch.Message

/-!
# Calls at the same time

Several calls of a desk may be under way at once. Only one of all who take part acts at a time, and
who has something to do waits for its turn on an agenda, first come, first served.

* `Desk.Turn`: the turns: a call goes on until it asks, a message arrives, or a server works;
* `Desk.Batch`: desk, mailboxes, agenda and the results so far; `Batch.turn?` takes the first turn;
* `Desk.batch`: a list of calls, started in order and run to their ends.

A call that asks leaves its message in the mailbox of a server, or waits in front of it while it is
full. A server takes the messages of its mailbox one after the other. Each one that it takes makes
room for the first who waits and lets the caller go on, but these act in turns of their own.
-/

namespace FieldPatch
namespace Desk

variable {α : Type}

inductive Turn (α : Type) where
  | proceed (caller : Nat) (rest : Dialogue Inquiry α)
  /-- A message that had to wait has got its place, and the server is told. -/
  | arrive (kind : Kind)
  | serve (kind : Kind)

def Turn.isServe (kind : Kind) : Turn α → Bool
  | serve kind' => kind == kind'
  | _ => false

structure Batch (α : Type) where
  desk : Desk
  mailboxes : Kind → Mailbox (Message Inquiry α)
  agenda : List (Turn α)
  results : List (Nat × α) := []

namespace Batch

/-- The number of messages that a server takes in one turn at most. -/
def stint : Nat := 128

def setMailbox (b : Batch α) (kind : Kind) (m : Mailbox (Message Inquiry α)) : Batch α :=
  { b with mailboxes := fun k => if k = kind then m else b.mailboxes k }

def enlist (b : Batch α) (turns : List (Turn α)) : Batch α :=
  { b with agenda := b.agenda ++ turns }

/-- The server gets a turn, unless it is waiting for one. -/
def wake (b : Batch α) (kind : Kind) : Batch α :=
  if b.agenda.any (Turn.isServe kind) then b else b.enlist [.serve kind]

/-! ## Turns -/

/-- A call goes on until it has asked a question or has ended. -/
def proceed (caller : Nat) : Dialogue Inquiry α → Batch α → List Event × Batch α
  | .done result, b => ([], { b with results := b.results ++ [(caller, result)] })
  | .emit event next, b =>
    let (trace, b) := proceed caller next b
    (event :: trace, b)
  | .ask inquiry next, b =>
    match (b.mailboxes inquiry.kind).send? ⟨caller, inquiry, next⟩ with
    | none => proceed caller (next (inquiry.request.unanswered .closed)) b
    | some m =>
      let b := b.setMailbox inquiry.kind m
      ([], if m.waiting.isEmpty then b.wake inquiry.kind else b)

/-- A server takes so many messages. -/
def serve (kind : Kind) : Nat → Batch α → List Event × Batch α
  | 0, b => ([], b)
  | count + 1, b =>
    match (b.mailboxes kind).receive? with
    | none => ([], b)
    | some (message, m) =>
      let arrival := if (b.mailboxes kind).waiting.isEmpty then [] else [.arrive kind]
      let (entries, answer, desk) := service message.question b.desk
      let next : Turn α := .proceed message.caller (message.resume answer)
      let (trace, b) :=
        serve kind count ({ b.setMailbox kind m with desk }.enlist (arrival ++ [next]))
      (.served entries :: trace, b)

/-- Takes the first turn of the agenda. -/
def turn? (b : Batch α) : Option (List Event × Batch α) :=
  match b.agenda with
  | [] => none
  | turn :: agenda =>
    let b := { b with agenda }
    match turn with
    | .proceed caller rest => some (proceed caller rest b)
    | .arrive kind => some ([], b.wake kind)
    | .serve kind =>
      -- what arrives in the course of a turn is for the next one
      let count := (b.mailboxes kind).queue.length
      let (trace, b) := serve kind (min count stint) b
      some (trace, if stint < count then b.wake kind else b)

/-- Takes turns until the agenda is empty, but no more than so many. -/
def run : Nat → Batch α → List Event × Batch α
  | 0, b => ([], b)
  | turns + 1, b =>
    match b.turn? with
    | none => ([], b)
    | some (trace, b) =>
      let (trace', b) := run turns b
      (trace ++ trace', b)

end Batch

/-! ## Batches -/

/--
Runs calls that ask one question each at most. Such a call has a turn before and one after its
question, and its message has one turn to arrive; a server has one for each of these events at most.
-/
def batch (d : Desk) (calls : List (Dialogue Inquiry α)) : Dialogue.Run Desk (List α) :=
  let turns := calls.mapIdx fun caller call => Turn.proceed caller call
  let (trace, b) := Batch.run (6 * calls.length)
    { desk := d, mailboxes := fun _ => .empty d.capacity, agenda := turns }
  ⟨trace, (List.range calls.length).filterMap fun caller => b.results.lookup caller, b.desk⟩

end Desk
end FieldPatch
