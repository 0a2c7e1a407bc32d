import FieldPatch.Choice
import FieldPatch.Json.Printer

/-!
# Decoding JSON values

* `DecodeError`: why a JSON value is not the value that was expected;
* the decoders of single values: `Decode.text`, `Decode.truth`, `Decode.word`, `Decode.double`,
  `Decode.list`.

Each error tells the shape that was found and what was expected in its place.
-/

namespace FieldPatch

inductive DecodeError where
  | wrongShape (found : Json) (expected : String)
  | negative (found : Int) (expected : String)
  | notOneMember
  | tooShort (length : Nat) (expected : String) (size : Nat)
  | tooLong (length : Nat)
  | missingField (name : String)
  | unknownVariant (name : String) (known : List String)

namespace DecodeError

/-- The shape of a value, with the value itself where it is a single one. -/
def describe : Json → String
  | .null => "null"
  | .bool b => "boolean `" ++ (if b then "true" else "false") ++ "`"
  | .number (.int n) => "integer `" ++ toString n ++ "`"
  | .number (.float x) => "floating point `" ++ Json.floatText x ++ "`"
  | .string s => "string " ++ Text.quote s
  | .array _ => "sequence"
  | .object _ => "map"

def inTicks (name : String) : String :=
  "`" ++ name ++ "`"

def message : DecodeError → String
  | .wrongShape found expected => "invalid type: " ++ describe found ++ ", expected " ++ expected
  | .negative found expected =>
    "invalid value: " ++ describe (.ofInt found) ++ ", expected " ++ expected
  | .notOneMember => "invalid value: map, expected map with a single key"
  | .tooShort length expected size =>
    "invalid length " ++ toString length ++ ", expected " ++ expected ++ " with " ++
      toString size ++ " elements"
  | .tooLong length =>
    "invalid length " ++ toString length ++ ", expected fewer elements in array"
  | .missingField name => "missing field " ++ inTicks name
  | .unknownVariant name known =>
    "unknown variant " ++ inTicks name ++ ", expected one of " ++
      ", ".intercalate (known.map inTicks)

end DecodeError

/-- A way to read values of a type from JSON. -/
abbrev Decoder (α : Type) := Json → Except DecodeError α

namespace Decode

/-- The value that a reading finds, or the complaint that something else was expected. -/
def expecting {α : Type} (expected : String) (read : Json → Option α) : Decoder α := fun json =>
  match read json with
  | some value => .ok value
  | none => .error (.wrongShape json expected)

def text : Decoder String :=
  expecting "a string" Json.text?

def truth : Decoder Bool :=
  expecting "a boolean" Json.truth?

/-- An integer that fits an unsigned word; `expected` names the word in messages. -/
def word (expected : String) : Decoder UInt64
  | .number (.int n) =>
    if n < 0 then .error (.negative n expected)
    else if n.toNat < UInt64.size then .ok (UInt64.ofNat n.toNat)
    else .error (.wrongShape (.ofInt n) expected)
  | json => .error (.wrongShape json expected)

/-- A number of either kind. -/
def double : Decoder Float :=
  expecting "f64" fun json => json.number?.map Json.Number.toFloat

def list {α : Type} (item : Decoder α) : Decoder (List α) := fun json => do
  let items ← expecting "a sequence" Json.items? json
  items.mapM item

end Decode
end FieldPatch
