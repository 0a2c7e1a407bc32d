import FieldPatch.Decimal.Scaled
import FieldPatch.Json.Object

/-!
# Reading JSON

`Json.parse?` reads one JSON text.

* A numeral without fraction and exponent whose value is a 64-bit word, unsigned or signed, is an
  integer; every other numeral, `-0` among them, is a double, got by scaling its digits. There is
  no value for a numeral beyond the doubles.
* Objects are ordered by key; of several members with one key the last counts.

Each reader takes the text still to be read and returns what it left. The number that comes first
bounds the depth of the calls and starts at twice the length of the text.
-/

namespace FieldPatch
namespace Json

/-! ## Numbers -/

/-- The number that a numeral stands for. -/
def Number.ofNumeral? (n : Numeral) : Option Number :=
  let magnitude : Int := Numeral.natOfDigits n.whole
  let value := if n.negative then -magnitude else magnitude
  let isWord :=
    if n.negative then value ≠ 0 ∧ Int64.minValue.toInt ≤ value else value < UInt64.size
  if n.isInteger ∧ isWord then some (.int value)
  else if n.toScaled.isFinite then some (.float n.toScaled)
  else none

def readNumber? (cs : List Char) : Option (Json × List Char) := do
  let (numeral, rest) ← Numeral.read? cs
  let n ← Number.ofNumeral? numeral
  return (.number n, rest)

/-! ## Strings -/

def hexDigit? (c : Char) : Option Nat :=
  if c.isDigit then some (c.toNat - '0'.toNat)
  else if 'a' ≤ c ∧ c ≤ 'f' then some (c.toNat - 'a'.toNat + 10)
  else if 'A' ≤ c ∧ c ≤ 'F' then some (c.toNat - 'A'.toNat + 10)
  else none

/-- Four hexadecimal digits. -/
def readUnit? : List Char → Option (Nat × List Char)
  | a :: b :: c :: d :: rest => do
    let digits ← [a, b, c, d].mapM hexDigit?
    return (digits.foldl (fun n x => 16 * n + x) 0, rest)
  | _ => none

/-- The character of a numbered escape; characters beyond `U+FFFF` take two of them. -/
def readNumbered? (cs : List Char) : Option (Char × List Char) := do
  let (unit, rest) ← readUnit? cs
  if 0xD800 ≤ unit ∧ unit < 0xDC00 then
    match rest with
    | '\\' :: 'u' :: rest =>
      let (low, rest) ← readUnit? rest
      if 0xDC00 ≤ low ∧ low < 0xE000 then
        return (Char.ofNat (0x10000 + (unit - 0xD800) * 0x400 + (low - 0xDC00)), rest)
      else none
    | _ => none
  else if 0xDC00 ≤ unit ∧ unit < 0xE000 then none
  else return (Char.ofNat unit, rest)

/-- The character after a backslash. -/
def readEscape? : List Char → Option (Char × List Char)
  | '"' :: rest => some ('"', rest)
  | '\\' :: rest => some ('\\', rest)
  | '/' :: rest => some ('/', rest)
  | 'b' :: rest => some ('\x08', rest)
  | 'f' :: rest => some ('\x0c', rest)
  | 'n' :: rest => some ('\n', rest)
  | 'r' :: rest => some ('\r', rest)
  | 't' :: rest => some ('\t', rest)
  | 'u' :: rest => readNumbered? rest
  | _ => none

/-- The characters up to the closing quote. -/
def readChars? : Nat → List Char → Option (List Char × List Char)
  | 0, _ => none
  | _ + 1, [] => none
  | depth + 1, c :: cs =>
    if c = '"' then some ([], cs)
    else if c.toNat < 0x20 then none
    else do
      let (c, cs) ← if c = '\\' then readEscape? cs else some (c, cs)
      let (rest, cs) ← readChars? depth cs
      return (c :: rest, cs)

/-! ## Values -/

def skipBlanks (cs : List Char) : List Char :=
  cs.dropWhile fun c => c == ' ' || c == '\t' || c == '\n' || c == '\r'

/-- A quoted string. -/
def readText? (depth : Nat) (cs : List Char) : Option (String × List Char) :=
  match skipBlanks cs with
  | '"' :: cs => (readChars? depth cs).map fun (chars, rest) => (String.ofList chars, rest)
  | _ => none

mutual

def readValue? : Nat → List Char → Option (Json × List Char)
  | 0, _ => none
  | depth + 1, cs =>
    match skipBlanks cs with
    | 'n' :: 'u' :: 'l' :: 'l' :: rest => some (.null, rest)
    | 't' :: 'r' :: 'u' :: 'e' :: rest => some (.bool true, rest)
    | 'f' :: 'a' :: 'l' :: 's' :: 'e' :: rest => some (.bool false, rest)
    | '"' :: rest => (readText? depth ('"' :: rest)).map fun (s, rest) => (.string s, rest)
    | '[' :: rest =>
      match skipBlanks rest with
      | ']' :: rest => some (.array [], rest)
      | rest => (readItems? depth rest).map fun (items, rest) => (.array items, rest)
    | '\x7b' :: rest =>
      match skipBlanks rest with
      | '\x7d' :: rest => some (.object [], rest)
      | rest => (readMembers? depth rest).map fun (members, rest) =>
          ((Object.ofMembers members).toJson, rest)
    | rest => readNumber? rest

/-- The items of an array, at least one, and its closing bracket. -/
def readItems? : Nat → List Char → Option (List Json × List Char)
  | 0, _ => none
  | depth + 1, cs => do
    let (item, cs) ← readValue? depth cs
    match skipBlanks cs with
    | ']' :: rest => some ([item], rest)
    | ',' :: rest =>
      let (items, rest) ← readItems? depth rest
      return (item :: items, rest)
    | _ => none

/-- The members of an object, at least one, and its closing brace. -/
def readMembers? : Nat → List Char → Option (List (String × Json) × List Char)
  | 0, _ => none
  | depth + 1, cs => do
    let (key, cs) ← readText? depth cs
    let ':' :: cs := skipBlanks cs | none
    let (value, cs) ← readValue? depth cs
    match skipBlanks cs with
    | '\x7d' :: rest => some ([(key, value)], rest)
    | ',' :: rest =>
      let (members, rest) ← readMembers? depth rest
      return ((key, value) :: members, rest)
    | _ => none

end

/-- Reads a JSON text. -/
def parse? (text : String) : Option Json := do
  let cs := text.toList
  let (json, rest) ← readValue? (2 * cs.length + 1) cs
  if (skipBlanks rest).isEmpty then some json else none

end Json
end FieldPatch
