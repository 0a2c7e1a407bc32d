import FieldPatch.Decode.Layout
import FieldPatch.Kind
import FieldPatch.Text.Search

/-!
# Settings

* `Config`: the field that the page title shows, the texts of notifications and the capacity of the
  servers' mailboxes. Each setting has a default, which counts where it is not given;
* `Config.successMessage`: the success template with every placeholder filled in.
-/

namespace FieldPatch

structure Config where
  displayNameField : String := "name"
  titleContext : String := "detail"
  successTitle : String := "Done"
  successTemplate : String := "I've updated the \x7bmodel\x7d for you!"
  errorTitle : String := "Oops!"
  errorMessage : String :=
    "Something went wrong while saving the field, please try again."
  mailboxCapacity : UInt64 := 32
deriving DecidableEq, Repr, Inhabited

namespace Config

/-- The place in a template that the label of a kind takes. -/
def placeholder : String := "\x7bmodel\x7d"

def successMessage (config : Config) (kind : Kind) : String :=
  Text.fillSlots config.successTemplate placeholder kind.label

def layout : Decode.Layout Config :=
  let d : Config := {}
  mk <$> .optional "display_name_field" d.displayNameField Decode.text
    <*> .optional "title_context" d.titleContext Decode.text
    <*> .optional "success_title" d.successTitle Decode.text
    <*> .optional "success_template" d.successTemplate Decode.text
    <*> .optional "error_title" d.errorTitle Decode.text
    <*> .optional "error_message" d.errorMessage Decode.text
    <*> .optional "actor_buffer_size" d.mailboxCapacity (Decode.word "usize")

def decode : Decoder Config :=
  layout.decode "struct PatchConfig"

def members (config : Config) : List (String × Json) :=
  [("display_name_field", .string config.displayNameField),
    ("title_context", .string config.titleContext),
    ("success_title", .string config.successTitle),
    ("success_template", .string config.successTemplate),
    ("error_title", .string config.errorTitle),
    ("error_message", .string config.errorMessage),
    ("actor_buffer_size", .ofInt config.mailboxCapacity.toNat)]

end Config
end FieldPatch
