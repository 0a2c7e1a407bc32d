import FieldPatch.Pattern.Class
import FieldPatch.Text.Letter

/-!
# Reading patterns

* `Pattern.Group`: what has been read of a group that is still open;
* `Pattern.Opening`, `Pattern.readOpening?`: what an opening parenthesis begins;
* `Pattern.readExpr?`: a whole pattern as an expression.

A text is no pattern if a bracket or parenthesis stands alone, if a repetition has nothing to repeat,
or if it asks for what patterns here do not have: counted repetitions, references to groups, looking
ahead or back, and properties of Unicode characters.
-/

namespace FieldPatch
namespace Pattern

/-! ## Groups -/

structure Group where
  flags : Flags
  /-- The parts of the branch that is being read, the last one first. A directive about flags is no
  part that could be repeated. -/
  parts : List (Option Expr) := []
  /-- The branches before it, the last one first. -/
  branches : List Expr := []

namespace Group

def branch (g : Group) : Expr :=
  .ofList (g.parts.reverse.filterMap id)

def expr (g : Group) : Expr :=
  .oneOf (g.branch :: g.branches).reverse

def push (g : Group) (e : Expr) : Group :=
  { g with parts := some e :: g.parts }

def nextBranch (g : Group) : Group :=
  { g with parts := [], branches := g.branch :: g.branches }

/-- Sets flags for the rest of the group. -/
def direct (g : Group) (flags : Flags) : Group :=
  { g with flags, parts := none :: g.parts }

/-- Repeats the last part. A question mark behind the sign says whether it is lazy. -/
def repeat? (g : Group) (repetition : Bool → Expr → Expr) (text : List Char) :
    Option (Group × List Char) :=
  match g.parts with
  | some e :: before =>
    let (lazy, rest) := match text with
      | '?' :: rest => (true, rest)
      | text => (false, text)
    let greedy := lazy == g.flags.swapGreed
    some ({ g with parts := some (repetition greedy e) :: before }, rest)
  | _ => none

end Group

/-! ## Parentheses -/

inductive Opening where
  | group (flags : Flags)
  | named (name : List Char)
  | directive (flags : Flags)

def isNameStart (c : Char) : Bool :=
  c == '_' || Text.isLetter c

def isNamePart (c : Char) : Bool :=
  c == '_' || c == '.' || c == '[' || c == ']' || Text.isLetterOrNumber c

/-- Reads the name of a group up to the angle bracket that ends it. -/
def readName? (text : List Char) : Option (Opening × List Char) :=
  match text.takeWhile (· != '>'), text.dropWhile (· != '>') with
  | first :: more, _ :: rest =>
    if isNameStart first && more.all isNamePart then some (.named (first :: more), rest) else none
  | _, _ => none

/-- Reads on behind an opening parenthesis. -/
def readOpening? (f : Flags) (text : List Char) : Option (Opening × List Char) :=
  match f.skip text with
  | '?' :: 'P' :: '<' :: rest => readName? rest
  | '?' :: '<' :: rest => readName? rest
  | '?' :: rest =>
    match f.read? [] rest with
    | some (flags, ':', rest) => some (.group flags, rest)
    -- a directive sets at least one flag
    | some (flags, _, rest') => if isEnd? rest then none else some (.directive flags, rest')
    | none => none
  | rest => some (.group f, rest)
where
  isEnd? : List Char → Bool
    | c :: _ => Flags.isEnd c
    | [] => true

/-! ## Whole patterns -/

/-- What an atom is outside of classes. -/
def Atom.expr? (f : Flags) : Atom → Option Expr
  | .char c raw => (f.literal? c raw).map .one
  | .codes set => some (.one set)
  | .anchor condition => some (.anchor condition)

/-- Reads one part that is neither a group nor a repetition. -/
def readPrimary? (f : Flags) : List Char → Option (Expr × List Char)
  | [] => none
  | '[' :: rest => (readClass? f rest).map fun (set, rest) => (.one set, rest)
  | '.' :: rest => f.dot?.map fun set => (.one set, rest)
  | '^' :: rest => some (.anchor f.caret, rest)
  | '$' :: rest => some (.anchor f.dollar, rest)
  | '\\' :: rest => do
    let (atom, rest) ← Atom.escaped? f rest
    return (← atom.expr? f, rest)
  | '\x7b' :: _ => none
  | c :: rest => (f.literal? c false).map fun set => (.one set, rest)

/-- Reads on, with the groups around the current one and the names given so far; every step takes a
character. -/
def readGroups? :
    Nat → List Group → Group → List (List Char) → List Char → Option Expr
  | 0, _, _, _, _ => none
  | steps + 1, outer, g, names, text =>
    let repeated (repetition : Bool → Expr → Expr) (rest : List Char) : Option Expr := do
      let (g, rest) ← g.repeat? repetition rest
      readGroups? steps outer g names rest
    match g.flags.skip text with
    | [] => if outer.isEmpty then some g.expr else none
    | '(' :: rest =>
      match readOpening? g.flags rest with
      | none => none
      | some (.directive flags, rest) => readGroups? steps outer (g.direct flags) names rest
      | some (.group flags, rest) => readGroups? steps (g :: outer) { flags } names rest
      | some (.named name, rest) =>
        if name ∈ names then none
        else readGroups? steps (g :: outer) { flags := g.flags } (name :: names) rest
    | ')' :: rest =>
      match outer with
      | [] => none
      | up :: outer => readGroups? steps outer (up.push g.expr) names rest
    | '|' :: rest => readGroups? steps outer g.nextBranch names rest
    | '?' :: rest => repeated .optional rest
    | '*' :: rest => repeated .star rest
    | '+' :: rest => repeated .plus rest
    | text => do
      let (e, rest) ← readPrimary? g.flags text
      readGroups? steps outer (g.push e) names rest

def readExpr? (text : String) : Option Expr :=
  readGroups? (text.length + 1) [] { flags := {} } [] text.toList

end Pattern
end FieldPatch
