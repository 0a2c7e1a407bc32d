/-!
# Sets of characters in patterns

A set is a list of ranges of character codes.

* `Pattern.Codes`: the sets; `Codes.has` says what is in them;
* `Codes.insert`, `Codes.union`, `Codes.minus`, `Codes.meet`, `Codes.apart`, `Codes.complement`: the
  operations;
* `Codes.withBothCases`: the ASCII letters of a set together with their other case.

A set also remembers whether it is known to hold both cases of each of its letters.
-/

namespace FieldPatch
namespace Pattern

structure Codes where
  /-- First and last codes, both included. -/
  ranges : List (Nat × Nat)
  /-- Is it known that the set holds both cases of its letters? -/
  caseless : Bool
deriving DecidableEq, Repr

namespace Codes

def empty : Codes := ⟨[], true⟩

def ofRange (first last : Nat) : Codes := ⟨[(first, last)], false⟩

def ofRanges (ranges : List (Nat × Nat)) : Codes := ⟨ranges, ranges.isEmpty⟩

def isEmpty (s : Codes) : Bool := s.ranges.isEmpty

def within (ranges : List (Nat × Nat)) (code : Nat) : Bool :=
  ranges.any fun r => r.1 ≤ code && code ≤ r.2

def has (s : Codes) (c : Char) : Bool :=
  within s.ranges c.toNat

/-! ## Operations -/

/-- Adds a range, of which it is not known whether it holds both cases. -/
def insert (s : Codes) (first last : Nat) : Codes :=
  ⟨s.ranges ++ [(first, last)], false⟩

def union (s t : Codes) : Codes :=
  if t.isEmpty then s else ⟨s.ranges ++ t.ranges, s.caseless && t.caseless⟩

/-- What is left of a range without another one. -/
def cutRange (hole r : Nat × Nat) : List (Nat × Nat) :=
  if r.2 < hole.1 || hole.2 < r.1 then [r]
  else
    (if r.1 < hole.1 then [(r.1, hole.1 - 1)] else []) ++
      (if hole.2 < r.2 then [(hole.2 + 1, r.2)] else [])

def cutAll (ranges holes : List (Nat × Nat)) : List (Nat × Nat) :=
  holes.foldl (fun left hole => left.flatMap (cutRange hole)) ranges

/-- The set without the characters of another one. -/
def minus (s t : Codes) : Codes :=
  if s.isEmpty || t.isEmpty then s else ⟨cutAll s.ranges t.ranges, s.caseless && t.caseless⟩

/-- The characters of both sets. -/
def meet (s t : Codes) : Codes :=
  if s.isEmpty then s
  else if t.isEmpty then empty
  else ⟨cutAll s.ranges (cutAll s.ranges t.ranges), s.caseless && t.caseless⟩

/-- The characters of just one of the sets. -/
def apart (s t : Codes) : Codes :=
  (s.union t).minus (s.meet t)

/-- Everything of the whole that is not in the set. -/
def complement (whole : List (Nat × Nat)) (s : Codes) : Codes :=
  if s.isEmpty then ⟨whole, true⟩ else ⟨cutAll whole s.ranges, s.caseless⟩

/-- What a range holds of the codes from `first` to `last`, moved by a distance. -/
def shifted (first last : Nat) (move : Nat → Nat) (r : Nat × Nat) : List (Nat × Nat) :=
  if r.2 < first || last < r.1 then [] else [(move (max r.1 first), move (min r.2 last))]

def withBothCases (s : Codes) : Codes :=
  if s.caseless then s
  else
    ⟨s.ranges ++ s.ranges.flatMap (shifted 'A'.toNat 'Z'.toNat (· + 32)) ++
      s.ranges.flatMap (shifted 'a'.toNat 'z'.toNat (· - 32)), true⟩

end Codes
end Pattern
end FieldPatch
