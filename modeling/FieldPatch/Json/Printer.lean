import FieldPatch.Decimal.Layout
import FieldPatch.Json.Object
import FieldPatch.Text.Quoted

/-!
# Writing JSON

* `Json.print`: compact JSON text, members in the order they are held;
* `Json.outline`: the structure of a value, each part with the name of its shape.

Both write a double by its shortest decimal, positionally from `0.00001` up to below `10 ^ 16`.
-/

namespace FieldPatch
namespace Json

/-- Doubles are written positionally from `10 ^ -5` to below `10 ^ 16`. -/
def floatLayout : Decimal.Layout := ⟨-5, 16⟩

def floatText (x : Float) : String :=
  floatLayout.writeFloat x

def Number.print : Number → String
  | .int n => toString n
  | .float x => floatText x

/-! ## JSON text -/

/-- A character of a JSON string. -/
def escape (c : Char) : List Char :=
  if c = '"' ∨ c = '\\' then ['\\', c]
  else if c = '\x08' then ['\\', 'b']
  else if c = '\x0c' then ['\\', 'f']
  else if c = '\n' then ['\\', 'n']
  else if c = '\r' then ['\\', 'r']
  else if c = '\t' then ['\\', 't']
  else if c.toNat < 0x20 then
    ['\\', 'u', '0', '0', Nat.digitChar (c.toNat / 16), Nat.digitChar (c.toNat % 16)]
  else [c]

def printString (s : String) : String :=
  String.ofList ('"' :: s.toList.flatMap escape ++ ['"'])

mutual

def print : Json → String
  | .null => "null"
  | .bool b => if b then "true" else "false"
  | .number n => n.print
  | .string s => printString s
  | .array items => "[" ++ ",".intercalate (printItems items) ++ "]"
  | .object members => "\x7b" ++ ",".intercalate (printMembers members) ++ "\x7d"

def printItems : List Json → List String
  | [] => []
  | item :: rest => print item :: printItems rest

def printMembers : List (String × Json) → List String
  | [] => []
  | (key, value) :: rest => (printString key ++ ":" ++ print value) :: printMembers rest

end

/-! ## Outlines -/

def outlineMembersText (members : List String) : String :=
  "\x7b" ++ ", ".intercalate members ++ "\x7d"

mutual

def outline : Json → String
  | .null => "Null"
  | .bool b => "Bool(" ++ (if b then "true" else "false") ++ ")"
  | .number n => "Number(" ++ n.print ++ ")"
  | .string s => "String(" ++ Text.quote s ++ ")"
  | .array items => "Array [" ++ ", ".intercalate (outlineItems items) ++ "]"
  | .object members => "Object " ++ outlineMembersText (outlineMembers members)

def outlineItems : List Json → List String
  | [] => []
  | item :: rest => outline item :: outlineItems rest

def outlineMembers : List (String × Json) → List String
  | [] => []
  | (key, value) :: rest => (Text.quote key ++ ": " ++ outline value) :: outlineMembers rest

end

/-- The outline of an object's members. -/
def Object.outline (o : Object) : String :=
  outlineMembersText (outlineMembers o.members)

end Json
end FieldPatch
