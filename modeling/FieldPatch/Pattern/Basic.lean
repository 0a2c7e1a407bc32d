import FieldPatch.Pattern.Codes

/-!
# Patterns as trees

* `Pattern.Place`: where two characters of a text meet, or where it begins or ends;
* `Pattern.Anchor`: a condition on a place, and `Anchor.holds`;
* `Pattern.Expr`: the patterns, built from sets of characters and anchors.
-/

namespace FieldPatch
namespace Pattern

/-! ## Places -/

structure Place where
  before? : Option Char
  after? : Option Char
deriving DecidableEq, Repr

inductive Anchor where
  | textStart
  | textEnd
  | lineStart
  | lineEnd
  /-- Carriage returns end lines, too, and one before a line feed belongs to it. -/
  | wideLineStart
  | wideLineEnd
  | wordEdge
  | noWordEdge
  | wordStart
  | wordEnd
deriving DecidableEq, Repr

/-- Letters, digits and the underscore of ASCII make words. -/
def isWordChar (c : Char) : Bool :=
  c.isAlphanum || c == '_'

namespace Anchor

def holds (p : Place) : Anchor → Bool
  | textStart => p.before?.isNone
  | textEnd => p.after?.isNone
  | lineStart => p.before?.all (· == '\n')
  | lineEnd => p.after?.all (· == '\n')
  | wideLineStart =>
    p.before?.all fun c => c == '\n' || (c == '\r' && p.after? != some '\n')
  | wideLineEnd =>
    p.after?.all fun c => c == '\r' || (c == '\n' && p.before? != some '\r')
  | wordEdge => p.before?.any isWordChar != p.after?.any isWordChar
  | noWordEdge => p.before?.any isWordChar == p.after?.any isWordChar
  | wordStart => !p.before?.any isWordChar && p.after?.any isWordChar
  | wordEnd => p.before?.any isWordChar && !p.after?.any isWordChar

end Anchor

/-! ## Expressions -/

/-- A repetition takes its body as often as possible if it is greedy, and else as seldom. -/
inductive Expr where
  | empty
  | one (set : Codes)
  | anchor (condition : Anchor)
  | seq (first second : Expr)
  /-- The first is preferred. -/
  | either (first second : Expr)
  | optional (greedy : Bool) (body : Expr)
  | plus (greedy : Bool) (body : Expr)
  | star (greedy : Bool) (body : Expr)
deriving DecidableEq, Repr

namespace Expr

def ofList : List Expr → Expr
  | [] => empty
  | [e] => e
  | e :: rest => seq e (ofList rest)

/-- One of the expressions; the earlier ones are preferred. -/
def oneOf : List Expr → Expr
  | [] => empty
  | [e] => e
  | e :: rest => either e (oneOf rest)

/-- Does every match of the expression take a character? -/
def consumes : Expr → Bool
  | empty | anchor _ | optional .. | star .. => false
  | one _ => true
  | seq e e' => e.consumes || e'.consumes
  | either e e' => e.consumes && e'.consumes
  | plus _ e => e.consumes

end Expr
end Pattern
end FieldPatch
