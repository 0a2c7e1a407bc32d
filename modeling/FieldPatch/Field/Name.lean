import FieldPatch.Field.Accessor
import FieldPatch.Text.Quoted

/-!
# Field names

A field name consists of words of lower-case ASCII letters and digits, joined by single
underscores.

* `FieldName.Fault`: what is wrong with a text that is no field name;
* `FieldName.fault?`: the fault of a text. An unfit character is reported before an empty word;
* `FieldName`: a text without fault;
* `FieldName.parse`: the field name of a text, or its fault.
-/

namespace FieldPatch

inductive FieldName.Fault where
  | empty
  | emptyWord (text : String)
  | unfitChar (text : String) (char : Char)
deriving DecidableEq, Repr

namespace FieldName

def Fault.message : Fault → String
  | .empty => "Field name is empty"
  | .emptyWord text => "Field name has an empty segment: " ++ text
  | .unfitChar text char =>
    "Field name " ++ text ++ " contains invalid character " ++ Text.quoteChar char

/-- Lower-case ASCII letters, ASCII digits and the underscore. -/
def isFit (c : Char) : Bool :=
  c.isLower || c.isDigit || c == '_'

def fault? (text : String) : Option Fault :=
  if text = "" then some .empty
  else
    match text.toList.find? (!isFit ·) with
    | some char => some (.unfitChar text char)
    | none =>
      if (Field.words text.toList).any List.isEmpty then some (.emptyWord text) else none

end FieldName

structure FieldName where
  text : String
  faultless : FieldName.fault? text = none
deriving DecidableEq

namespace FieldName

def parse (text : String) : Except Fault FieldName :=
  match h : fault? text with
  | some fault => .error fault
  | none => .ok ⟨text, h⟩

def accessor (field : FieldName) : String :=
  Field.accessorName field.text

end FieldName
end FieldPatch
