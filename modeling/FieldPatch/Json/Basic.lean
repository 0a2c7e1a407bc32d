/-!
# JSON values

* `Json.Number`: integers and doubles stay apart, so that `1` and `1.0` are different numbers;
* `Json`: the values. An object holds its members as a list of keys and values;
* the readings `Json.text?`, `Json.truth?`, `Json.number?`, `Json.items?` of a value as one shape.
-/

namespace FieldPatch

inductive Json.Number where
  | int (n : Int)
  | float (x : Float)
deriving DecidableEq

inductive Json where
  | null
  | bool (b : Bool)
  | number (n : Json.Number)
  | string (s : String)
  | array (items : List Json)
  | object (members : List (String × Json))
deriving Inhabited

namespace Json

/-- A number as a double; an integer is rounded. -/
def Number.toFloat : Number → Float
  | .int n => Float.ofInt n
  | .float x => x

def ofInt (n : Int) : Json :=
  .number (.int n)

/-- A double as a value; there is no JSON for one that is not finite. -/
def ofFloat (x : Float) : Json :=
  if x.isFinite then .number (.float x) else .null

/-! ## Readings -/

def text? : Json → Option String
  | .string s => some s
  | _ => none

def truth? : Json → Option Bool
  | .bool b => some b
  | _ => none

def number? : Json → Option Number
  | .number n => some n
  | _ => none

def items? : Json → Option (List Json)
  | .array items => some items
  | _ => none

end Json
end FieldPatch
