import FieldPatch.Pattern.Basic

/-!
# Machines for patterns

A pattern is run as a list of instructions. Threads go through them side by side, each resting at an
instruction that takes a character; of two threads at the same instruction only the first goes on.

* `Pattern.Instr`: the instructions, and `Expr.code`: the instructions for an expression;
* `Pattern.follow`: the instructions where threads come to rest, those of preferred threads first;
* `Pattern.endsText`: does the preferred match in a text reach up to its end?

The preferred match is the one that begins first; of these, the one of the first thread.
-/

namespace FieldPatch
namespace Pattern

inductive Instr where
  | take (set : Codes) (next : Nat)
  | check (condition : Anchor) (next : Nat)
  | jump (next : Nat)
  /-- Threads go on at both places; the first is preferred. -/
  | fork (first second : Nat)
  | accept
deriving DecidableEq, Repr

/-! ## Code -/

/-- Goes into the body or on; a greedy choice prefers the body. -/
def Instr.choice (greedy : Bool) (body next : Nat) : Instr :=
  if greedy then fork body next else fork next body

namespace Expr

/-- The number of instructions for an expression. -/
def size : Expr → Nat
  | empty | one _ | anchor _ => 1
  | seq e e' => e.size + e'.size
  | either e e' => 1 + e.size + e'.size
  | optional _ e => 1 + e.size
  | plus _ e => e.size + 1
  | star _ e => if e.consumes then 1 + e.size else 1 + e.size + 1

/-- The instructions for an expression, from place `start` on, that go on at place `next`. -/
def code : Expr → (start next : Nat) → List Instr
  | empty, _, next => [.jump next]
  | one set, _, next => [.take set next]
  | anchor condition, _, next => [.check condition next]
  | seq e e', start, next =>
    e.code start (start + e.size) ++ e'.code (start + e.size) next
  | either e e', start, next =>
    let second := start + 1 + e.size
    .fork (start + 1) second :: e.code (start + 1) next ++ e'.code second next
  | optional greedy e, start, next =>
    .choice greedy (start + 1) next :: e.code (start + 1) next
  | plus greedy e, start, next =>
    let again := start + e.size
    e.code start again ++ [.choice greedy start next]
  | star greedy e, start, next =>
    let choice : Instr := .choice greedy (start + 1) next
    if e.consumes then choice :: e.code (start + 1) start
    else
      -- a body that may take nothing is repeated as one that stands there at least once
      let again := start + 1 + e.size
      choice :: e.code (start + 1) again ++ [choice]

/-- The whole machine: the code of the expression, and acceptance after it. -/
def machine (e : Expr) : Array Instr :=
  (e.code 0 e.size ++ [Instr.accept]).toArray

end Expr

/-! ## Threads -/

/--
Follows threads until they rest. The stack holds where they go on, `seen` the instructions that some
thread has come to already. Every instruction adds at most two places to the stack and does so once,
which bounds the steps.
-/
def follow (machine : Array Instr) (p : Place) : Nat → (stack seen : List Nat) → List Nat
  | 0, _, _ | _, [], _ => []
  | steps + 1, i :: stack, seen =>
    if i ∈ seen then follow machine p steps stack seen
    else
      match machine[i]? with
      | none => follow machine p steps stack seen
      | some (.take ..) | some .accept => i :: follow machine p steps stack (i :: seen)
      | some (.jump next) => follow machine p steps (next :: stack) (i :: seen)
      | some (.check condition next) =>
        let stack := if condition.holds p then next :: stack else stack
        follow machine p steps stack (i :: seen)
      | some (.fork first second) =>
        follow machine p steps (first :: second :: stack) (i :: seen)

/-- The threads that have taken the character. -/
def advance (machine : Array Instr) (c : Char) (threads : List Nat) : List Nat :=
  threads.filterMap fun (i : Nat) =>
    match machine[i]? with
    | some (.take set next) => if set.has c then some next else none
    | _ => none

/--
Runs threads through a text. As long as nothing has been accepted, a new match may begin anywhere;
what is accepted ends all threads that are less preferred.
-/
def endsFrom (machine : Array Instr) (before? : Option Char) (searching : Bool)
    (threads : List Nat) (text : List Char) : Bool :=
  let stack := if searching then threads ++ [0] else threads
  let resting := follow machine ⟨before?, text.head?⟩ (stack.length + 2 * machine.size) stack []
  let accepts (i : Nat) : Bool := machine[i]? == some .accept
  match text with
  | [] => resting.any accepts
  | c :: rest =>
    endsFrom machine (some c) (searching && !resting.any accepts)
      (advance machine c (resting.takeWhile (!accepts ·))) rest

def endsText (machine : Array Instr) (text : String) : Bool :=
  endsFrom machine none true [] text.toList

end Pattern
end FieldPatch
