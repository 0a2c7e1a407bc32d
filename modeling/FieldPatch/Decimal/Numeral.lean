import FieldPatch.Decimal.Shortest

/-!
# Numerals

A numeral is a number as it is written: `-12.50e3`.

* `Decimal.toFloat`: the double nearest to a decimal;
* `Numeral`: sign, digits, fraction and exponent;
* `Numeral.read?`: reads a numeral from the front of a text. A zero at the front of the whole part
  stands alone, and a point or an exponent mark is followed by digits;
* `Numeral.ofText?`: reads a text that is a numeral as a whole. It may begin with either sign and
  with zeros, and the digits on one side of the point may be missing;
* `Decimal.floatOfText?`: such a text as a double, for which infinities and no-number have names.
-/

namespace FieldPatch

/-- The double nearest to a decimal. Exponents beyond the range of doubles are cut off first. -/
def Decimal.toFloat (d : Decimal) : Float :=
  let leading := (Nat.toDigits 10 d.coefficient).length + d.exponent
  if d.coefficient = 0 ∨ leading < -400 then 0.0
  else if 400 < leading then 1.0 / 0.0
  else if d.exponent < 0 then Float.ofScientific d.coefficient true d.exponent.natAbs
  else Float.ofScientific d.coefficient false d.exponent.natAbs

structure Numeral where
  negative : Bool
  whole : List Char
  fraction : Option (List Char)
  exponent : Option (Bool × List Char)
deriving DecidableEq, Repr

namespace Numeral

/-- The value of a row of digits. -/
def natOfDigits (digits : List Char) : Nat :=
  digits.foldl (fun n c => 10 * n + (c.toNat - '0'.toNat)) 0

/-- Is the numeral written as an integer? -/
def isInteger (n : Numeral) : Bool :=
  n.fraction.isNone && n.exponent.isNone

/-- The exponent, which is zero where none is written. -/
def power (n : Numeral) : Int :=
  match n.exponent with
  | none => 0
  | some (false, digits) => natOfDigits digits
  | some (true, digits) => -natOfDigits digits

/-- The numeral without its sign. -/
def toDecimal (n : Numeral) : Decimal :=
  let fraction := n.fraction.getD []
  ⟨natOfDigits (n.whole ++ fraction), n.power - fraction.length⟩

/-- The double nearest to the numeral. -/
def toFloat (n : Numeral) : Float :=
  if n.negative then -n.toDecimal.toFloat else n.toDecimal.toFloat

/-! ## Reading -/

/-- The digits at the front, at least one, and the rest. -/
def readDigits? (cs : List Char) : Option (List Char × List Char) :=
  match cs.takeWhile Char.isDigit with
  | [] => none
  | digits => some (digits, cs.dropWhile Char.isDigit)

def readWhole? (cs : List Char) : Option (List Char × List Char) :=
  match readDigits? cs with
  | some ('0' :: _ :: _, _) => none
  | result => result

def readFraction? : List Char → Option (Option (List Char) × List Char)
  | '.' :: cs => (readDigits? cs).map fun (digits, rest) => (some digits, rest)
  | cs => some (none, cs)

def readExponent? : List Char → Option (Option (Bool × List Char) × List Char)
  | c :: cs =>
    if c = 'e' ∨ c = 'E' then
      match cs with
      | '-' :: rest => (readDigits? rest).map fun (digits, rest) => (some (true, digits), rest)
      | '+' :: rest => (readDigits? rest).map fun (digits, rest) => (some (false, digits), rest)
      | rest => (readDigits? rest).map fun (digits, rest) => (some (false, digits), rest)
    else some (none, c :: cs)
  | [] => some (none, [])

/-- The numeral at the front of a text, and the rest. -/
def read? (cs : List Char) : Option (Numeral × List Char) := do
  let negative := cs.head? == some '-'
  let (whole, cs) ← readWhole? (if negative then cs.drop 1 else cs)
  let (fraction, cs) ← readFraction? cs
  let (exponent, cs) ← readExponent? cs
  return (⟨negative, whole, fraction, exponent⟩, cs)

/-- A text without its sign. -/
def dropSign : List Char → List Char
  | '+' :: cs => cs
  | '-' :: cs => cs
  | cs => cs

def ofText? (text : List Char) : Option Numeral := do
  let cs := dropSign text
  let whole := cs.takeWhile Char.isDigit
  let (fraction, cs) := match cs.dropWhile Char.isDigit with
    | '.' :: cs => (some (cs.takeWhile Char.isDigit), cs.dropWhile Char.isDigit)
    | cs => (none, cs)
  if whole.isEmpty && (fraction.getD []).isEmpty then none
  else
    match ← readExponent? cs with
    | (exponent, []) => return ⟨text.head? == some '-', whole, fraction, exponent⟩
    | _ => none

end Numeral

/-- The names are written in letters of either case. -/
def Decimal.floatOfText? (text : List Char) : Option Float :=
  let signed (x : Float) : Float := if text.head? = some '-' then -x else x
  match String.ofList ((Numeral.dropSign text).map Char.toLower) with
  | "nan" => some (0.0 / 0.0)
  | "inf" | "infinity" => some (signed (1.0 / 0.0))
  | _ => (Numeral.ofText? text).map Numeral.toFloat

end FieldPatch
