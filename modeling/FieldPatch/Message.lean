import FieldPatch.Dialogue

/-!
# Messages

* `Message`: a question on its way to whoever answers it, with the call that goes on then.
-/

namespace FieldPatch

structure Message (Q α : Type) [Question Q] where
  /-- The number of the call. -/
  caller : Nat
  question : Q
  resume : Answer question → Dialogue Q α

end FieldPatch
