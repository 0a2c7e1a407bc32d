import FieldPatch.Pattern.Flags

/-!
# Atoms of patterns

What a backslash introduces: a character by its name or number, a class of characters, or an anchor.

* `Pattern.Atom`, and `Atom.escaped?` to read what follows a backslash.
-/

namespace FieldPatch
namespace Pattern

inductive Atom where
  /-- A character; `raw` if it is written as a number of two digits. -/
  | char (c : Char) (raw : Bool)
  | codes (set : Codes)
  | anchor (condition : Anchor)
deriving DecidableEq, Repr

/-! ## Classes with names -/

def digits : List (Nat × Nat) := [(0x30, 0x39)]

def spaces : List (Nat × Nat) := [(0x09, 0x0D), (0x20, 0x20)]

def wordChars : List (Nat × Nat) := [(0x30, 0x39), (0x41, 0x5A), (0x5F, 0x5F), (0x61, 0x7A)]

/-- The classes of ASCII that have a name. -/
def named : List (String × List (Nat × Nat)) := [
  ("alnum", [(0x30, 0x39), (0x41, 0x5A), (0x61, 0x7A)]),
  ("alpha", [(0x41, 0x5A), (0x61, 0x7A)]),
  ("ascii", [(0x00, 0x7F)]),
  ("blank", [(0x09, 0x09), (0x20, 0x20)]),
  ("cntrl", [(0x00, 0x1F), (0x7F, 0x7F)]),
  ("digit", digits),
  ("graph", [(0x21, 0x7E)]),
  ("lower", [(0x61, 0x7A)]),
  ("print", [(0x20, 0x7E)]),
  ("punct", [(0x21, 0x2F), (0x3A, 0x40), (0x5B, 0x60), (0x7B, 0x7E)]),
  ("space", spaces),
  ("upper", [(0x41, 0x5A)]),
  ("word", wordChars),
  ("xdigit", [(0x30, 0x39), (0x41, 0x46), (0x61, 0x66)])]

namespace Atom

/-! ## Numbers -/

def hexValue? (c : Char) : Option Nat :=
  if c.isDigit then some (c.toNat - '0'.toNat)
  else if 'a' ≤ c ∧ c ≤ 'f' then some (c.toNat - 'a'.toNat + 10)
  else if 'A' ≤ c ∧ c ≤ 'F' then some (c.toNat - 'A'.toNat + 10)
  else none

/-- Reads so many hexadecimal digits. -/
def hexDigits? (f : Flags) : Nat → Nat → List Char → Option (Nat × List Char)
  | 0, value, text => some (value, text)
  | _ + 1, _, [] => none
  | count + 1, value, c :: rest =>
    match hexValue? c with
    | some digit => hexDigits? f count (16 * value + digit) (f.skip rest)
    | none => none

def numbered? (f : Flags) (count : Nat) (text : List Char) : Option (Atom × List Char) :=
  match hexDigits? f count 0 (f.skip text) with
  | some (code, rest) =>
    if code.isValidChar then some (char (Char.ofNat code) (count == 2), rest) else none
  | none => none

/-! ## Letters -/

/-- Letters after a backslash that stand for a character. -/
def control? : Char → Option Char
  | 'a' => some '\x07'
  | 'f' => some '\x0C'
  | 't' => some '\t'
  | 'n' => some '\n'
  | 'r' => some '\r'
  | 'v' => some '\x0B'
  | _ => none

/-- Letters and signs that are known only without Unicode: words and classes are those of ASCII. -/
def ascii? : Char → Option Atom
  | 'd' => some (codes (.ofRanges digits))
  | 's' => some (codes (.ofRanges spaces))
  | 'w' => some (codes (.ofRanges wordChars))
  | 'b' => some (anchor .wordEdge)
  | 'B' => some (anchor .noWordEdge)
  | '<' => some (anchor .wordStart)
  | '>' => some (anchor .wordEnd)
  | _ => none

/-- May a backslash stand before the character to take its meaning away? -/
def isMark (c : Char) : Bool :=
  c.toNat < 0x80 && !c.isAlphanum && c != '<' && c != '>'

/-- Reads what follows a backslash. -/
def escaped? (f : Flags) : List Char → Option (Atom × List Char)
  | [] => none
  | 'x' :: rest => numbered? f 2 rest
  | 'u' :: rest => numbered? f 4 rest
  | 'U' :: rest => numbered? f 8 rest
  | 'A' :: rest => some (anchor .textStart, rest)
  | 'z' :: rest => some (anchor .textEnd, rest)
  | c :: rest =>
    if isMark c then some (char c false, rest)
    else
      match control? c with
      | some c => some (char c false, rest)
      | none => if f.unicode then none else (ascii? c).map (·, rest)

end Atom
end Pattern
end FieldPatch
