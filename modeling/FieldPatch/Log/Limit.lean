import FieldPatch.Log.Entry

/-!
# Limits

A limit is the least important level that a log shows.

* `Log.Limit`, and `Limit.admits` for what it lets pass;
* `Limit.parse?`: reads a limit that is written as a number or as a word.
-/

namespace FieldPatch
namespace Log

/-- The least important level that is shown; without one, nothing is. -/
abbrev Limit := Option Level

namespace Limit

def admits (limit : Limit) (level : Level) : Bool :=
  limit.any fun least => level.rank ≤ least.rank

/-- The limit that lets pass as many levels as a number says, at most five. -/
def ofRank? : Nat → Option Limit
  | 0 => some none
  | 1 => some (some .error)
  | 2 => some (some .warn)
  | 3 => some (some .info)
  | 4 => some (some .debug)
  | 5 => some (some .trace)
  | _ => none

/-- A limit written as a number, which may have a plus sign. -/
def ofDigits? (text : List Char) : Option Limit :=
  let digits := match text with
    | '+' :: rest => rest
    | rest => rest
  if digits.isEmpty || !digits.all Char.isDigit then none
  else ofRank? (digits.foldl (fun n c => 10 * n + (c.toNat - '0'.toNat)) 0)

/-- A limit written as a number or, in letters of either case, as a word. -/
def parse? (text : List Char) : Option Limit :=
  match ofDigits? text with
  | some limit => some limit
  | none =>
    match String.ofList (text.map Char.toLower) with
    | "off" => some none
    | "error" => some (some .error)
    | "warn" => some (some .warn)
    | "info" => some (some .info)
    | "debug" => some (some .debug)
    | "trace" => some (some .trace)
    | _ => none

end Limit
end Log
end FieldPatch
