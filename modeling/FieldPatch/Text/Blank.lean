/-!
# White space

* `isBlank`: the white space characters of Unicode, all twenty-five of them;
* `trim`: a text without the white space at its ends;
* `allBlank`: a text with nothing else in it.
-/

namespace FieldPatch
namespace Text

/-- Has the character the property *White_Space*? -/
def isBlank (c : Char) : Bool :=
  let n := c.toNat
  (0x09 ≤ n && n ≤ 0x0D) || n == 0x20 || n == 0x85 || n == 0xA0 || n == 0x1680 ||
    (0x2000 ≤ n && n ≤ 0x200A) || n == 0x2028 || n == 0x2029 || n == 0x202F || n == 0x205F ||
    n == 0x3000

/-- The text from its first to its last character that is not white space. -/
def trim (s : String) : String :=
  String.ofList ((s.toList.dropWhile isBlank).reverse.dropWhile isBlank).reverse

/-- Is every character white space? The empty text counts. -/
def allBlank (s : String) : Bool :=
  s.toList.all isBlank

end Text
end FieldPatch
