import FieldPatch.Pattern.Basic
import FieldPatch.Text.Blank

/-!
# Flags of patterns

Flags say how the characters of a pattern are to be read. A pattern can set them for the rest of a
group.

* `Pattern.Flags`, and `Flags.read?` for the letters that set them;
* `Flags.skip`: passes over blanks and comments where a pattern may hold them;
* `Flags.literal?`, `Flags.dot?`, `Flags.caret`, `Flags.dollar`: what single characters mean.

Characters are those of Unicode, of which no properties are known here: what would need them (other
cases of letters, classes of characters, words) can be written only where the flag for Unicode is off.
-/

namespace FieldPatch
namespace Pattern

structure Flags where
  ignoreCase : Bool := false
  multiLine : Bool := false
  dotAll : Bool := false
  /-- Repetitions are greedy if they are marked not to be. -/
  swapGreed : Bool := false
  /-- Carriage returns end lines, too. -/
  wideLines : Bool := false
  /-- Blanks and comments do not count. -/
  spaced : Bool := false
  unicode : Bool := true
deriving DecidableEq, Repr

namespace Flags

/-! ## Reading -/

def set? (f : Flags) (letter : Char) (on : Bool) : Option Flags :=
  match letter with
  | 'i' => some { f with ignoreCase := on }
  | 'm' => some { f with multiLine := on }
  | 's' => some { f with dotAll := on }
  | 'U' => some { f with swapGreed := on }
  | 'R' => some { f with wideLines := on }
  | 'x' => some { f with spaced := on }
  | 'u' => some { f with unicode := on }
  | _ => none

/-- Does a mark end the letters of flags? A colon opens a group, a parenthesis makes a directive. -/
def isEnd (c : Char) : Bool :=
  c == ':' || c == ')'

/--
Reads letters up to the mark behind them. Letters that follow a minus sign turn their flags off; no
letter and no sign stands there twice, and the sign not at the end.
-/
def read? (f : Flags) (seen : List Char) : List Char → Option (Flags × Char × List Char)
  | [] => none
  | c :: rest =>
    if isEnd c then
      if seen.head? = some '-' then none else some (f, c, rest)
    else if c ∈ seen then none
    else if c = '-' then f.read? (c :: seen) rest
    else
      match f.set? c ('-' ∉ seen) with
      | some f => f.read? (c :: seen) rest
      | none => none

/-! ## Blanks and comments -/

/-- Passes over blanks and over comments, which reach from a number sign to the end of the line. -/
def skipFrom (inComment : Bool) : List Char → List Char
  | [] => []
  | c :: rest =>
    if inComment then skipFrom (c != '\n') rest
    else if Text.isBlank c then skipFrom false rest
    else if c == '#' then skipFrom true rest
    else c :: rest

def skip (f : Flags) (text : List Char) : List Char :=
  if f.spaced then skipFrom false text else text

/-! ## Single characters -/

/-- All characters that a set can hold: those of Unicode, or bytes. -/
def whole (f : Flags) : List (Nat × Nat) :=
  if f.unicode then [(0, 0xD7FF), (0xE000, 0x10FFFF)] else [(0, 0xFF)]

/-- The set with both cases of its letters, where case does not count. -/
def bothCases? (f : Flags) (s : Codes) : Option Codes :=
  if !f.ignoreCase then some s
  else if !f.unicode then some s.withBothCases
  else if s.isEmpty || s.caseless then some { s with caseless := true }
  else none

/-- A character as it stands, or `raw` from two digits; bytes beyond ASCII are no text. -/
def literal? (f : Flags) (c : Char) (raw : Bool) : Option Codes :=
  if !f.unicode && raw && 0x7F < c.toNat then none
  else f.bothCases? (.ofRange c.toNat c.toNat)

def dot? (f : Flags) : Option Codes :=
  let lineEnds : List (Nat × Nat) :=
    if f.dotAll then [] else if f.wideLines then [(10, 10), (13, 13)] else [(10, 10)]
  if f.unicode then some ((Codes.ofRanges lineEnds).complement f.whole) else none

def caret (f : Flags) : Anchor :=
  if !f.multiLine then .textStart else if f.wideLines then .wideLineStart else .lineStart

def dollar (f : Flags) : Anchor :=
  if !f.multiLine then .textEnd else if f.wideLines then .wideLineEnd else .lineEnd

end Flags
end Pattern
end FieldPatch
