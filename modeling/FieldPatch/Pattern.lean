import FieldPatch.Pattern.Machine
import FieldPatch.Pattern.Parser

/-!
# Patterns

A pattern stands for a set of texts, written as a regular expression.

* `Pattern`: its text and the expression that was read from it;
* `Pattern.parse?`: reads a pattern;
* `Pattern.fits`: does the match that the pattern prefers in a text reach up to the end of the text?

A match may begin anywhere, so that `ount` fits `Account`; but `Acc` does not.
-/

namespace FieldPatch

structure Pattern where
  text : String
  expr : Pattern.Expr
deriving DecidableEq, Repr

namespace Pattern

def parse? (text : String) : Option Pattern :=
  (readExpr? text).map fun expr => ⟨text, expr⟩

def fits (p : Pattern) (text : String) : Bool :=
  endsText p.expr.machine text

end Pattern
end FieldPatch
