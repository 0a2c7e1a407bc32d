import FieldPatch.Decode.Basic

/-!
# Decoding records

A record is read from an object, by the names of its fields, or from an array, by their order.

* `Decode.Column`: what is known of one field before its value is read;
* `Decode.Layout`: the fields of a type in the order of their declaration, and the value that they
  make. Layouts are put together with `required`, `optional` and the applicative operations;
* `Decode.Layout.decode`: the decoder of a layout.

An object is searched for wrong values in the order of its keys; after that the first missing field
is reported. Keys that name no field are skipped. An array is checked item by item; after that its
length is.
-/

namespace FieldPatch
namespace Decode

structure Column where
  name : String
  check : Json → Except DecodeError Unit
  optional : Bool

/-- The fields of a value and how they make it, from a look-up by name. -/
structure Layout (α : Type) where
  columns : List Column
  build : (String → Option Json) → Except DecodeError α

namespace Layout

variable {α β : Type}

/-! ## Putting layouts together -/

def required (name : String) (decode : Decoder α) : Layout α where
  columns := [⟨name, fun json => (decode json).map fun _ => (), false⟩]
  build look :=
    match look name with
    | some json => decode json
    | none => .error (.missingField name)

/-- A field that takes a default where it is missing. -/
def optional (name : String) (default : α) (decode : Decoder α) : Layout α where
  columns := [⟨name, fun json => (decode json).map fun _ => (), true⟩]
  build look :=
    match look name with
    | some json => decode json
    | none => .ok default

instance : Applicative Layout where
  pure value := ⟨[], fun _ => .ok value⟩
  seq f x :=
    { columns := f.columns ++ (x ()).columns
      build := fun look => do
        let g ← f.build look
        let value ← (x ()).build look
        return g value }

/-! ## Decoding -/

/-- Checks the members that name a field, in their order. -/
def checkMembers (columns : List Column) : List (String × Json) → Except DecodeError Unit
  | [] => .ok ()
  | (key, value) :: rest =>
    match columns.find? (·.name == key) with
    | some column => do
      column.check value
      checkMembers columns rest
    | none => checkMembers columns rest

/-- Checks the items against the fields, in their order. -/
def checkItems : List Column → List Json → Except DecodeError Unit
  | column :: columns, item :: items => do
    column.check item
    checkItems columns items
  | _, _ => .ok ()

/-- The decoder of a layout; `expected` names the type in messages. -/
def decode (layout : Layout α) (expected : String) : Decoder α
  | .object members => do
    let o := Json.Object.ofMembers members
    checkMembers layout.columns o.members
    layout.build o.get?
  | .array items => do
    checkItems layout.columns items
    if (layout.columns.drop items.length).any (!·.optional) then
      .error (.tooShort items.length expected layout.columns.length)
    else if layout.columns.length < items.length then .error (.tooLong items.length)
    else layout.build (((layout.columns.map (·.name)).zip items).lookup ·)
  | json => .error (.wrongShape json expected)

end Layout
end Decode

/-! ## Choices -/

namespace Choice

def layout : Decode.Layout Choice :=
  Choice.mk <$> .required "value" Decode.text <*> .required "label" Decode.text

def decode : Decoder Choice :=
  layout.decode "struct Choice"

def members (c : Choice) : List (String × Json) :=
  [("value", .string c.value), ("label", .string c.label)]

end Choice
end FieldPatch
