import FieldPatch.Desk.Basic

/-!
# Accessors to try out a registry

* `Stub.Accessor`: a fixed list, a result whose calls are counted, or a list of a desk's server;
* `Stub.State`: the counts, and the desk;
* `Stub.service`: how the accessors answer. There is one endpoint, which is never used.
-/

namespace FieldPatch
namespace Stub

inductive Accessor where
  | fixed (list : List Choice)
  | counted (slot : Nat) (result : Except RemoteError (List Choice))
  | served (kind : Kind) (name : String)

structure State where
  /-- The calls of each slot so far. -/
  count : Nat → Nat := fun _ => 0
  desk : Desk := {}

def State.increment (s : State) (slot : Nat) : State :=
  { s with count := fun n => if n = slot then s.count n + 1 else s.count n }

def service : Dialogue.Service (Query Unit Accessor) State
  | .patch _ _, s => ([], .error (.unavailable ""), s)
  | .fetch (.fixed list), s => ([], .ok list, s)
  | .fetch (.counted slot result), s => ([], result, s.increment slot)
  | .fetch (.served kind name), s =>
    let run := ((Client.fetch name).through (Desk.direct kind)).run Desk.service s.desk
    (Event.entries run.trace, run.result, { s with desk := run.state })

end Stub
end FieldPatch
