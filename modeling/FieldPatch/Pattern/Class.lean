import FieldPatch.Pattern.Atom

/-!
# Classes in brackets

A class lists characters, ranges and other classes between brackets, and may combine such lists by
what they share, by what the first has alone, or by what just one of them has.

* `Pattern.Level`: a class that is being read, inside of others;
* `Pattern.readClass?`: the class that an opened bracket begins.
-/

namespace FieldPatch
namespace Pattern

/-! ## Combining lists -/

inductive Combination where
  | meet
  | minus
  | apart
deriving DecidableEq, Repr

def Combination.apply : Combination → Codes → Codes → Codes
  | meet => Codes.meet
  | minus => Codes.minus
  | apart => Codes.apart

structure Level where
  negated : Bool := false
  /-- The list that is being read. -/
  current : Codes := .empty
  /-- What stands before it, and how the two are to be combined. -/
  left? : Option (Combination × Codes) := none
  /-- Only minus signs have been read, which stand for themselves there. -/
  leading : Bool := true

namespace Level

/-- Everything read so far as one set. -/
def total? (f : Flags) (l : Level) : Option Codes :=
  match l.left? with
  | none => some l.current
  | some (combination, left) => do
    return combination.apply (← f.bothCases? left) (← f.bothCases? l.current)

def combine? (f : Flags) (combination : Combination) (l : Level) : Option Level := do
  let total ← l.total? f
  return { l with current := .empty, left? := some (combination, total), leading := false }

/-- The finished class. Bytes beyond ASCII are no text. -/
def close? (f : Flags) (l : Level) : Option Codes := do
  let total ← l.total? f
  let all ← f.bothCases? total
  let all := if l.negated then all.complement f.whole else all
  if f.unicode || all.ranges.all (·.2 ≤ 0x7F) then return all else none

def insert (l : Level) (first last : Nat) : Level :=
  { l with current := l.current.insert first last, leading := false }

def add (l : Level) (set : Codes) : Level :=
  { l with current := l.current.union set, leading := false }

end Level

/-! ## Parts of a list -/

/-- A character of a list, if its code is one that the list can hold. -/
def member? (f : Flags) : Atom → Option Nat
  | .char c _ => if f.unicode || c.toNat ≤ 0x7F then some c.toNat else none
  | _ => none

def readMember? (f : Flags) : List Char → Option (Atom × List Char)
  | [] => none
  | '\\' :: rest => Atom.escaped? f rest
  | c :: rest => some (.char c false, rest)

/-- Reads a character, a range or a class that a backslash introduces. -/
def readPart? (f : Flags) (l : Level) (text : List Char) : Option (Level × List Char) := do
  let (first, rest) ← readMember? f text
  let rest := f.skip rest
  let alone : Option (Level × List Char) :=
    match first with
    | .codes set => some (l.add set, rest)
    | first => (member? f first).map fun code => (l.insert code code, rest)
  match rest with
  | [] => none
  | '-' :: after =>
    match f.skip after with
    | [] => none
    -- a minus sign before the end, or before another one, makes no range
    | ']' :: _ | '-' :: _ => alone
    | after => do
      let (last, rest) ← readMember? f after
      let a ← member? f first
      let b ← member? f last
      if a ≤ b then return (l.insert a b, rest) else none
  | _ => alone

/-- Reads a class by its name, which stands between colons inside brackets of its own. -/
def readNamed? (f : Flags) : List Char → Option (Codes × List Char)
  | ':' :: text =>
    let (negated, text) := match text with
      | '^' :: rest => (true, rest)
      | text => (false, text)
    match text.dropWhile (· != ':') with
    | ':' :: ']' :: rest => do
      let ranges ← named.lookup (String.ofList (text.takeWhile (· != ':')))
      let set := Codes.ofRanges ranges
      return (if negated then set.complement f.whole else set, rest)
    | _ => none
  | _ => none

/-- Begins a class behind its opening bracket. -/
def openLevel (f : Flags) (text : List Char) : Level × List Char :=
  match f.skip text with
  | '^' :: rest => ({ negated := true }, rest)
  | text => ({}, text)

/-! ## Whole classes -/

/-- Reads on, with the classes around the current one; every step takes a character. -/
def readLevels? (f : Flags) : Nat → List Level → Level → List Char → Option (Codes × List Char)
  | 0, _, _, _ => none
  | steps + 1, outer, l, text =>
    match f.skip text with
    | [] => none
    | '-' :: rest =>
      if l.leading then
        readLevels? f steps outer { l.insert '-'.toNat '-'.toNat with leading := true } rest
      else
        match rest with
        | '-' :: rest => do readLevels? f steps outer (← l.combine? f .minus) rest
        | _ => do
          let (l, rest) ← readPart? f l ('-' :: rest)
          readLevels? f steps outer l rest
    | ']' :: rest =>
      if l.leading && l.current.isEmpty then
        readLevels? f steps outer (l.insert ']'.toNat ']'.toNat) rest
      else
        match l.close? f, outer with
        | none, _ => none
        | some set, [] => some (set, rest)
        | some set, up :: outer => readLevels? f steps outer (up.add set) rest
    | '[' :: rest =>
      match readNamed? f rest with
      | some (set, rest) => readLevels? f steps outer (l.add set) rest
      | none =>
        let (inner, rest) := openLevel f rest
        readLevels? f steps (l :: outer) inner rest
    | '&' :: '&' :: rest => do readLevels? f steps outer (← l.combine? f .meet) rest
    | '~' :: '~' :: rest => do readLevels? f steps outer (← l.combine? f .apart) rest
    | text => do
      let (l, rest) ← readPart? f l text
      readLevels? f steps outer l rest

/-- Reads a class whose opening bracket has been read. -/
def readClass? (f : Flags) (text : List Char) : Option (Codes × List Char) :=
  let (l, rest) := openLevel f text
  readLevels? f (text.length + 1) [] l rest

end Pattern
end FieldPatch
