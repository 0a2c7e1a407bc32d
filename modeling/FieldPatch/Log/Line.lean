import FieldPatch.Event
import FieldPatch.Log.Filter

/-!
# Log lines

* `Log.line`: an entry as one line: its level, the names of the spans that it was written in, its
  message, its fields and the fields of the spans;
* `Log.lines`: the lines of a trace that a filter shows.
-/

namespace FieldPatch
namespace Log

/-- Named values, each with a blank in front. -/
def showFields (fields : List (String × Value)) : String :=
  String.join (fields.map fun (name, value) => " " ++ name ++ "=" ++ value.shown)

/-- An entry with the spans that it stands in, the innermost first. -/
def line (within : List Span) (entry : Entry) : String :=
  let spans := within.reverse
  let path := String.join (spans.map fun span => span.name ++ ":")
  entry.level.name ++ " " ++ (if path.isEmpty then "" else path ++ " ") ++ entry.message ++
    showFields entry.fields ++ String.join (spans.map fun span => showFields span.fields)

/-- Shows what a filter lets pass, inside open spans of which some are hidden. -/
def linesWithin (filter : Filter) : List (Option Span) → List Event → List String
  | _, [] => []
  | spans, event :: rest =>
    let within := spans.filterMap id
    match event with
    | .log entry =>
      (if filter.showsEntry within entry then [line within entry] else []) ++
        linesWithin filter spans rest
    | .served entries =>
      (entries.filter (filter.showsEntry [])).map (line []) ++ linesWithin filter spans rest
    | .enter span =>
      let shown := if filter.showsSpan within span then some span else none
      linesWithin filter (shown :: spans) rest
    | .leave => linesWithin filter spans.tail rest
    | .title .. | .notify _ => linesWithin filter spans rest

def lines (filter : Filter) (trace : List Event) : List String :=
  linesWithin filter [] trace

end Log
end FieldPatch
