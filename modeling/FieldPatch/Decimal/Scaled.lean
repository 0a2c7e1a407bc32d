import FieldPatch.Decimal.Numeral

/-!
# Scaled numerals

The double that a numeral stands for in a JSON text. Its leading digits, as many as fit a 64-bit
word, become a double, which is then multiplied or divided by a power of ten. Each of these steps
rounds, so that a numeral of many digits may miss the nearest double by a little.

* `Numeral.gather`: the leading digits;
* `Numeral.scale`: a double times a power of ten;
* `Numeral.toScaled`: both together.
-/

namespace FieldPatch
namespace Numeral

/-- Appends digits to a word as long as they fit; what does not is left. -/
def gather (word : Nat) : List Char → Nat × List Char
  | [] => (word, [])
  | c :: cs =>
    let next := 10 * word + (c.toNat - '0'.toNat)
    if next < UInt64.size then gather next cs else (word, c :: cs)

/-- The largest power of ten that is a double. -/
def largestPower : Nat := 308

def powerOfTen (exponent : Nat) : Float :=
  Float.ofScientific 1 false exponent

/-- Divides by a power of ten, in steps where the power is no double. -/
def scaleDown (exponent : Nat) (x : Float) : Float :=
  if exponent ≤ largestPower then x / powerOfTen exponent
  else if x == 0.0 then x
  else scaleDown (exponent - largestPower) (x / powerOfTen largestPower)
termination_by exponent
decreasing_by
  simp only [largestPower] at *
  omega

/-- The double times a power of ten; infinite if it is too large. -/
def scale (x : Float) (exponent : Int) : Float :=
  if exponent < 0 then scaleDown exponent.natAbs x
  else if exponent.natAbs ≤ largestPower then x * powerOfTen exponent.natAbs
  else if x == 0.0 then x
  else 1.0 / 0.0

/-- Digits of the whole part that are left over count as zeros, those of the fraction not at all. -/
def toScaled (n : Numeral) : Float :=
  let fraction := n.fraction.getD []
  let (word, left) := gather 0 n.whole
  let (word, leftOfFraction) := gather word fraction
  let point := (left.length : Int) - (fraction.length - leftOfFraction.length : Nat)
  let x := scale (Float.ofNat word) (point + n.power)
  if n.negative then -x else x

end Numeral
end FieldPatch
