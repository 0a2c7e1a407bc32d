/-!
# Misuse

Uses that a contract forbids. They end the call that commits them, with a message.
-/

namespace FieldPatch

inductive Misuse where
  /-- A scripted endpoint got a payload and had no reply left. -/
  | unexpectedPatch
  /-- A scripted endpoint still has replies that nobody asked for. -/
  | unmetExpectations (remaining : Nat)
  | zeroCapacity
  | excessiveCapacity
deriving DecidableEq, Repr

def Misuse.message : Misuse → String
  | .unexpectedPatch => "Unexpected patch request"
  | .unmetExpectations remaining =>
    "Not all expectations were met. " ++ toString remaining ++ " remaining"
  | .zeroCapacity => "mpsc bounded channel requires buffer > 0"
  | .excessiveCapacity =>
    "a semaphore may not have more than MAX_PERMITS permits (2305843009213693951)"

end FieldPatch
