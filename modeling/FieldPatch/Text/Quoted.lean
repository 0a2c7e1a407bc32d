import FieldPatch.Text.Hidden

/-!
# Quoted text

A character or a text between quotes, with everything that would not show written out:

* `quoteChar`: between single quotes;
* `quote`: between double quotes.

The quote sign itself and the backslash take a backslash; tab, line feed, carriage return and the
null character have their letters; any other hidden character is written by its number.
-/

namespace FieldPatch
namespace Text

/-- A character inside quotes of the sign `mark`. -/
def escape (mark c : Char) : List Char :=
  if c = '\x00' then ['\\', '0']
  else if c = '\t' then ['\\', 't']
  else if c = '\n' then ['\\', 'n']
  else if c = '\r' then ['\\', 'r']
  else if c = '\\' ∨ c = mark then ['\\', c]
  else if isHidden c then ['\\', 'u', '\x7b'] ++ Nat.toDigits 16 c.toNat ++ ['\x7d']
  else [c]

def quoteChar (c : Char) : String :=
  String.ofList ('\'' :: escape '\'' c ++ ['\''])

def quote (s : String) : String :=
  String.ofList ('"' :: s.toList.flatMap (escape '"') ++ ['"'])

end Text
end FieldPatch
