import FieldPatch.Decimal.Numeral
import FieldPatch.Log.Entry
import FieldPatch.Pattern

/-!
# Tests of fields

A directive of a filter may ask for a field, and for its value.

* `Log.ValueTest`: what is asked of a value, and `ValueTest.admits` for the values that meet it;
* `Log.FieldTest`: the name of a field, with a test of its value if there is one.

A text that can be read as a truth value or as a number is one; any other is a pattern.
-/

namespace FieldPatch
namespace Log

inductive ValueTest where
  | truth (b : Bool)
  /-- A number. No span has a field with a number for its value. -/
  | number
  | pattern (p : Pattern)
deriving DecidableEq, Repr

namespace ValueTest

/-! ## Reading and testing -/

def parse? (text : String) : Option ValueTest :=
  if text = "true" then some (.truth true)
  else if text = "false" then some (.truth false)
  else if (Decimal.floatOfText? text.toList).isSome then some .number
  else (Pattern.parse? text).map .pattern

def admits : ValueTest → Value → Bool
  | truth b, .truth b' => b == b'
  | pattern p, .string s => p.fits s
  | pattern p, .bare text => p.fits text
  | _, _ => false

end ValueTest

structure FieldTest where
  name : String
  value? : Option ValueTest
deriving DecidableEq, Repr

namespace FieldTest

/-- Reads a name, or a name and a value behind a sign of equality; a second sign ends the value. -/
def parse? (text : List Char) : Option FieldTest :=
  if text.isEmpty then none
  else
    let name := String.ofList (text.takeWhile (· != '='))
    match text.dropWhile (· != '=') with
    | [] => some ⟨name, none⟩
    | _ :: rest =>
      (ValueTest.parse? (String.ofList (rest.takeWhile (· != '=')))).map fun value =>
        ⟨name, some value⟩

/-- Has one of the fields the name, and the value that is asked for? -/
def isMet (test : FieldTest) (fields : List (String × Value)) : Bool :=
  test.value?.all fun value => (fields.lookup test.name).any value.admits

end FieldTest
end Log
end FieldPatch
