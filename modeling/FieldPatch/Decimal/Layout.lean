import FieldPatch.Decimal.Shortest

/-!
# Writing decimals

* `Layout`: which numbers are written positionally;
* `Layout.write`: the text of a decimal;
* `Layout.writeFloat`: the text of a double, by its shortest decimal.

A positional number always has a fraction part. In scientific form the exponent has its sign and
a single digit stands without a point.
-/

namespace FieldPatch
namespace Decimal

/-- Numbers `d.dd… · 10 ^ e` are written positionally for `first ≤ e < last`. -/
structure Layout where
  first : Int
  last : Int
deriving Repr

namespace Layout

/-- The digits without the zeros at their end. -/
def significant (d : Decimal) : List Char :=
  ((Nat.toDigits 10 d.coefficient).reverse.dropWhile (· == '0')).reverse

/-- The exponent of the first digit. -/
def leading (d : Decimal) : Int :=
  (Nat.toDigits 10 d.coefficient).length - 1 + d.exponent

def positional (digits : List Char) (e : Int) : List Char :=
  if e < 0 then '0' :: '.' :: List.replicate (-e - 1).toNat '0' ++ digits
  else
    let places := (e + 1).toNat
    let whole := digits.take places ++ List.replicate (places - digits.length) '0'
    let fraction := digits.drop places
    whole ++ '.' :: (if fraction.isEmpty then ['0'] else fraction)

def scientific (digits : List Char) (e : Int) : List Char :=
  let head := digits.take 1
  let tail := digits.drop 1
  let sign := if e < 0 then '-' else '+'
  head ++ (if tail.isEmpty then [] else '.' :: tail) ++ 'e' :: sign :: Nat.toDigits 10 e.natAbs

def write (layout : Layout) (d : Decimal) : List Char :=
  let e := leading d
  if layout.first ≤ e ∧ e < layout.last then positional (significant d) e
  else scientific (significant d) e

/-- The text of a finite double; zero keeps its sign. -/
def writeFloat (layout : Layout) (x : Float) : String :=
  let digits :=
    if x.toBits.toNat % Nat.pow 2 63 = 0 then ['0', '.', '0']
    else ((shortest x).map layout.write).getD []
  String.ofList (if Nat.pow 2 63 ≤ x.toBits.toNat then '-' :: digits else digits)

end Layout
end Decimal
end FieldPatch
