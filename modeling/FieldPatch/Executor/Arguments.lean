import FieldPatch.Config
import FieldPatch.Dialogue
import FieldPatch.Errors
import FieldPatch.Payload

/-!
# Building payloads

`createArgs` turns changed data into the payload of a patch. An object is taken as it is. A single
value needs a field, which is not the identifier, and a target; a new value of the display-name field
is put into the page title at once, before any request is made.
-/

namespace FieldPatch

/-- How a page title shows a value: a string as it is, anything else as JSON. -/
def shownInTitle : Json → String
  | .string s => s
  | value => value.print

namespace Config

variable {Q : Type} [Question Q]

/-- Shows a new value in the page title. -/
def retitle (config : Config) (value : Json) : Dialogue Q Unit := do
  let shown := shownInTitle value
  .log ⟨.debug, .arguments, "Updating page title",
    [("context", .bare config.titleContext), ("title", .bare shown)]⟩
  .tell (.title config.titleContext shown)

def createArgs (config : Config) (change : Change) (field : Option String)
    (target : Option Target) : Dialogue Q (Except PatchError Payload) :=
  match change with
  | .object o => .done (.ok (.full o))
  | .single value =>
    let field := field.getD ""
    if field = "" then .done (.error (.invalidField field))
    else if field = idKey then .done (.error (.readOnlyField field))
    else
      match target with
      | none => .done (.error (.missingTarget field))
      | some target => do
        if field = config.displayNameField then config.retitle value
        return .ok (.single target.id field value)

end Config
end FieldPatch
