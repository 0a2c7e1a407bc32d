import FieldPatch.Log.FieldTest
import FieldPatch.Log.Limit
import FieldPatch.Text.Blank
import FieldPatch.Text.Letter

/-!
# Directives

A directive of a log filter has the form `target[span{field=value}]=limit`, of which every part may
be missing.

* `Log.Directive`: one directive;
* `Directive.parse`: reads a directive, or says by a `Directive.Fault` why it cannot be read;
* `Directive.isGeneral`, `Directive.isScoped`, …: what a directive is about.
-/

namespace FieldPatch
namespace Log

structure Directive where
  /-- The paths of the sources that the directive is about begin with this. -/
  target? : Option String := none
  span? : Option String := none
  field? : Option FieldTest := none
  limit : Limit
deriving DecidableEq, Repr

namespace Directive

/-! ## Cutting

The parts of a directive are found in the text without the blanks around it, but cut out of the whole
text at the same numbers of bytes. With blanks in front the parts are therefore not those that were
found.
-/

inductive Fault where
  /-- The text is no directive. -/
  | refused
  /-- A part would begin or end inside of a character. -/
  | misplaced
deriving DecidableEq, Repr

def bytes : List Char → Nat
  | [] => 0
  | c :: text => c.utf8Size + bytes text

/-- The text behind so many bytes. -/
def dropBytes : Nat → List Char → Except Fault (List Char)
  | 0, text => .ok text
  | _ + 1, [] => .error .misplaced
  | n + 1, c :: text =>
    if c.utf8Size ≤ n + 1 then dropBytes (n + 1 - c.utf8Size) text else .error .misplaced

/-- The text of so many bytes. -/
def takeBytes : Nat → List Char → Except Fault (List Char)
  | 0, _ => .ok []
  | _ + 1, [] => .error .misplaced
  | n + 1, c :: text =>
    if c.utf8Size ≤ n + 1 then (takeBytes (n + 1 - c.utf8Size) text).map (c :: ·)
    else .error .misplaced

/-- What stands at the place of `part`, so many bytes from the beginning. -/
def cutAt (whole : List Char) (start : Nat) (part : List Char) : Except Fault (List Char) := do
  takeBytes (bytes part) (← dropBytes start whole)

/-! ## Reading -/

def orRefused {α : Type} : Option α → Except Fault α
  | some a => .ok a
  | none => .error .refused

/-- Splits a text at the first of the given characters. -/
def split (marks : List Char) (text : List Char) : List Char × List Char :=
  (text.takeWhile (· ∉ marks), text.dropWhile (· ∉ marks))

/-- The limit at the end of a directive; nothing is as much as `trace`. -/
def limitAt (whole : List Char) (start : Nat) : Except Fault Limit := do
  let text ← dropBytes start whole
  if text.isEmpty then return some .trace else orRefused (Limit.parse? text)

/-- The end of a directive, after the bracket that closes its span. -/
def closing (whole : List Char) (target? span? : Option String) (field? : Option FieldTest)
    (start : Nat) : List Char → Except Fault Directive
  | [] => return { target?, span?, field?, limit := some .trace }
  | '=' :: _ => return { target?, span?, field?, limit := ← limitAt whole (start + 1) }
  | _ => .error .refused

/-- The part of a directive that follows an opening brace. -/
def inField (whole : List Char) (target? span? : Option String) (start : Nat) (text : List Char) :
    Except Fault Directive :=
  match split ['\x7d'] text with
  | (field, _ :: rest) => do
    let test ← orRefused (FieldTest.parse? (← cutAt whole start field))
    match rest with
    | ']' :: rest => closing whole target? span? (some test) (start + bytes field + 2) rest
    | _ => .error .refused
  | _ => .error .refused

/-- The part of a directive that follows an opening bracket. -/
def inSpan (whole : List Char) (target? : Option String) (start : Nat) (text : List Char) :
    Except Fault Directive :=
  match split [']', '\x7b'] text with
  | (found, mark :: rest) => do
    let name ← cutAt whole start found
    let next := start + bytes found + 1
    if mark = ']' then closing whole target? (some (String.ofList name)) none next rest
    else
      inField whole target? (if name.isEmpty then none else some (String.ofList name)) next rest
  | _ => .error .refused

/-- May a directive begin with this, if not with a bracket? -/
def opens (c : Char) : Bool :=
  Text.isLetterOrNumber c || c == '-' || c == ':' || c == '_'

/-- A single word is a limit if it can be one, and else a target. -/
def ofWord (text : List Char) : Directive :=
  match Limit.parse? text with
  | some limit => { limit }
  | none => { target? := some (String.ofList text), limit := some .trace }

/-- Reads a directive. -/
def parse (text : String) : Except Fault Directive :=
  let whole := text.toList
  match (Text.trim text).toList with
  | [] => .error .refused
  | '[' :: rest => inSpan whole none 1 rest
  | first :: rest =>
    if !opens first then .error .refused
    else
      match split ['=', '['] (first :: rest) with
      | (_, []) => return ofWord whole
      | (word, mark :: rest) => do
        let target ← cutAt whole 0 word
        let next := bytes word + 1
        if mark = '=' then
          return { target? := some (String.ofList target), limit := ← limitAt whole next }
        else inSpan whole (some (String.ofList target)) next rest

/-! ## Scope -/

/-- Does the directive hold outside the spans that it names? -/
def isGeneral (d : Directive) : Bool :=
  d.span?.isNone && d.field?.all fun test => test.value?.isNone

/-- Does the directive raise the limit inside some spans? -/
def isScoped (d : Directive) : Bool :=
  d.span?.isSome || d.field?.isSome

/-- Are both about the same things? -/
def sameScope (d e : Directive) : Bool :=
  d.target? == e.target? && d.span? == e.span? && d.field? == e.field?

def aims (d : Directive) (source : Source) : Bool :=
  d.target?.all fun target => target.toList.isPrefixOf source.path.toList

/-- Is the entry one that a general directive is about? Its message is a field, too. -/
def fitsEntry (d : Directive) (entry : Entry) : Bool :=
  d.aims entry.source && d.field?.all fun test =>
    test.name == "message" || entry.fields.any (·.1 == test.name)

/-- Is the span one that a scoped directive names? -/
def names (d : Directive) (span : Span) : Bool :=
  d.aims span.source && d.span?.all (· == span.name) &&
    d.field?.all fun test => span.fields.any (·.1 == test.name)

/-- Has the field of the span the value that the directive asks for, if it asks for one? -/
def isMet (d : Directive) (span : Span) : Bool :=
  d.field?.all fun test => test.isMet span.fields

/-- The longer its target, the more specific is a directive; with a field it is more so. -/
def compare (d e : Directive) : Ordering :=
  (Ord.compare (d.target?.map String.length) (e.target?.map String.length)).then
    (Ord.compare (d.field?.map FieldTest.name) (e.field?.map FieldTest.name))

end Directive
end Log
end FieldPatch
