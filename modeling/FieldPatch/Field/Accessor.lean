import FieldPatch.Text.Uppercase

/-!
# Accessor names

The accessor that serves a field is named after it: `email_address` is served by
`getEmailAddress`. The name starts with `get`, and the words of the field follow, each with its
first character in upper case.

* `words`: the words between the underscores, empty ones included;
* `capitalize`: a word with its first character in upper case;
* `accessorName`: the name for any text; without words it is `get`.
-/

namespace FieldPatch
namespace Field

/-- The words between the underscores of a text; there is always at least one. -/
def words : List Char → List (List Char)
  | [] => [[]]
  | c :: cs =>
    if c = '_' then [] :: words cs
    else
      match words cs with
      | [] => [[c]]
      | word :: rest => (c :: word) :: rest

theorem words_ne_nil (cs : List Char) : words cs ≠ [] := by
  cases cs with
  | nil => simp [words]
  | cons c cs =>
    simp only [words]
    split
    · simp
    · split <;> simp

def capitalize : List Char → List Char
  | [] => []
  | c :: cs => Text.uppercase c ++ cs

/-- What stands at the front of every accessor name. -/
def accessorPrefix : String := "get"

def accessorName (field : String) : String :=
  accessorPrefix ++ String.ofList ((words field.toList).flatMap capitalize)

end Field
end FieldPatch
