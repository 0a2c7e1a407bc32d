/-!
# Choices

A choice is one permissible value of a field, with the label shown for it.
-/

namespace FieldPatch

structure Choice where
  value : String
  label : String
deriving DecidableEq, Repr

namespace Choice

/-- Does some choice offer this value? -/
def offers (choices : List Choice) (value : String) : Bool :=
  choices.any (·.value == value)

end Choice
end FieldPatch
