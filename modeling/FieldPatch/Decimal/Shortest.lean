/-!
# Shortest decimals

The decimal with the fewest digits that reads back as a given double: of those, the nearest.

* `Decimal`: a number `coefficient · 10 ^ exponent`;
* `Interval`: the real numbers that round to one double, as exact fractions;
* `Interval.pick`: the decimals of one grid inside the interval, the nearer one first;
* `shortest`: the first pick on the grids of 1, 2, …, 17 digits.

All arithmetic is exact, on natural numbers.
-/

namespace FieldPatch

/-- The number `coefficient · 10 ^ exponent`. -/
structure Decimal where
  coefficient : Nat
  exponent : Int
deriving DecidableEq, Repr

namespace Decimal

/-! ## The numbers that round to a double -/

/--
The fractions `low / unit`, `centre / unit` and `high / unit`: a double and the midpoints to its
neighbours. The midpoints themselves round to the double when `closed`.
-/
structure Interval where
  low : Nat
  centre : Nat
  high : Nat
  unit : Nat
  closed : Bool
deriving Repr

/-- The interval of the positive double `mantissa · 2 ^ exponent`. Below a power of two the
neighbour is only half as far away (`narrow`). -/
def Interval.around (mantissa : Nat) (exponent : Int) (narrow : Bool) : Interval :=
  let scale := Nat.pow 2 (exponent - 2).toNat
  { low := (4 * mantissa - if narrow then 1 else 2) * scale
    centre := 4 * mantissa * scale
    high := (4 * mantissa + 2) * scale
    unit := Nat.pow 2 (2 - exponent).toNat
    closed := mantissa % 2 == 0 }

/-- The interval of the double with these bits; the sign bit is left out of account. -/
def Interval.ofBits (bits : UInt64) : Interval :=
  let fraction : Nat := bits.toNat % Nat.pow 2 52
  let field : Nat := bits.toNat / Nat.pow 2 52 % Nat.pow 2 11
  if field = 0 then .around fraction (-1074) false
  else .around (Nat.pow 2 52 + fraction) ((field : Int) - 1075) (fraction == 0 && field != 1)

namespace Interval

/-! ## Grids of decimals -/

/-- The fraction `numerator / unit` in steps of `10 ^ exponent`: the numerator and the step, both
multiplied by the same power of ten to make them natural. -/
def inSteps (i : Interval) (numerator : Nat) (exponent : Int) : Nat × Nat :=
  (numerator * Nat.pow 10 (-exponent).toNat, i.unit * Nat.pow 10 exponent.toNat)

/-- Does `count · 10 ^ exponent` lie in the interval? -/
def admits (i : Interval) (exponent : Int) (count : Nat) : Bool :=
  let (low, step) := i.inSteps i.low exponent
  let (high, _) := i.inSteps i.high exponent
  if i.closed then low ≤ count * step && count * step ≤ high
  else low < count * step && count * step < high

/-- The nearest decimal of the grid `10 ^ exponent`, if one lies in the interval. Of two equally
near ones it is the even one. -/
def pick (i : Interval) (exponent : Int) : Option Decimal :=
  let (value, step) := i.inSteps i.centre exponent
  let below := value / step
  let above := below + 1
  let found (count : Nat) : Decimal := ⟨count, exponent⟩
  match i.admits exponent below, i.admits exponent above with
  | false, false => none
  | true, false => some (found below)
  | false, true => some (found above)
  | true, true =>
    -- both neighbours read back: the nearer one is the better text
    match compare (2 * value) ((below + above) * step) with
    | .lt => some (found below)
    | .gt => some (found above)
    | .eq => some (found (if below % 2 = 0 then below else above))

/-- The exponent `k` with `10 ^ (k - 1) ≤ centre < 10 ^ k`. -/
def magnitude (i : Interval) : Int :=
  let digits (n : Nat) : Int := (Nat.toDigits 10 n).length
  if i.unit ≤ i.centre then digits (i.centre / i.unit)
  else
    -- below one, the reciprocal tells the place of the first digit
    let places := digits (i.unit / i.centre)
    if i.unit = i.centre * Nat.pow 10 (places - 1).toNat then 2 - places else 1 - places

end Interval

/-! ## The shortest decimal -/

/-- The shortest decimal that reads back as the absolute value of a nonzero finite double. -/
def shortest (x : Float) : Option Decimal :=
  let i := Interval.ofBits x.toBits
  let k := i.magnitude
  (List.range 17).findSome? fun n => i.pick (k - (n + 1 : Nat))

end Decimal
end FieldPatch
