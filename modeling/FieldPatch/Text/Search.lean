/-!
# Searching and filling

* `occurs`: does one text occur inside another?
* `fill`: a text with every place of a slot taken by a value.

Both work on lists of characters; `contains` and `fillSlots` are their forms on strings.
-/

namespace FieldPatch
namespace Text

/-- Does `part` stand somewhere in the text? -/
def occurs (part : List Char) : List Char → Bool
  | [] => part.isEmpty
  | c :: cs => part.isPrefixOf (c :: cs) || occurs part cs

/-- A text occurs in another one if it is what stands between some beginning and some end. -/
theorem occurs_iff {part text : List Char} : occurs part text = true ↔ part <:+: text := by
  induction text with
  | nil => simp [occurs]
  | cons c cs ih => simp [occurs, ih, List.infix_cons_iff]

def contains (text part : String) : Bool :=
  occurs part.toList text.toList

theorem contains_iff {text part : String} :
    contains text part = true ↔ part.toList <:+: text.toList :=
  occurs_iff

/--
Replaces the slot by the value, from left to right. The counter says how many more characters
belong to the slot that was replaced last.
-/
def fill (slot value : List Char) : Nat → List Char → List Char
  | _, [] => []
  | rest + 1, _ :: cs => fill slot value rest cs
  | 0, c :: cs =>
    if slot.isPrefixOf (c :: cs) then value ++ fill slot value (slot.length - 1) cs
    else c :: fill slot value 0 cs

def fillSlots (template slot value : String) : String :=
  String.ofList (fill slot.toList value.toList 0 template.toList)

end Text
end FieldPatch
