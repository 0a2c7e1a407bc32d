import FieldPatch.Log.Directive

/-!
# Log filters

A filter decides which entries and spans are shown. It is a list of directives.

* `Log.Filter`: the directives that count, and `Filter.parse?` to read them;
* `Filter.showsEntry`, `Filter.showsSpan`: what is shown inside given spans.

A directive that names neither a span nor the value of a field holds everywhere; where several of
them fit, the most specific one decides. The others raise the limit inside the spans that they name.
-/

namespace FieldPatch
namespace Log

structure Filter where
  directives : List Directive
deriving DecidableEq, Repr

namespace Filter

/-! ## Reading -/

/-- Of directives about the same things the last one counts; without directives errors are shown. -/
def ofList (directives : List Directive) : Filter :=
  if directives.isEmpty then ⟨[{ limit := some .error }]⟩
  else ⟨directives.foldl (fun kept d => kept.filter (!·.sameScope d) ++ [d]) []⟩

/-- Reads a piece; what is no directive does not count, but a misplaced part is a failure. -/
def readPiece? (piece : String) : Option (List Directive) :=
  match Directive.parse piece with
  | .ok d => some [d]
  | .error .refused => some []
  | .error .misplaced => none

/-- Reads directives between commas, unless a part of one is misplaced. -/
def parse? (text : String) : Option Filter :=
  ((text.splitOn ",").mapM readPiece?).map fun pieces => ofList pieces.flatten

/-! ## Deciding -/

/-- The limit of the most specific of the directives. -/
def decisive (directives : List Directive) : Limit :=
  (directives.foldl (fun best d =>
    match best with
    -- equally specific directives have different fields; the later name decides
    | some b => if (d.compare b).isGE then some d else best
    | none => some d) none).bind Directive.limit

def general (f : Filter) : List Directive :=
  f.directives.filter Directive.isGeneral

/-- The scoped directives that name a span. -/
def naming (f : Filter) (span : Span) : List Directive :=
  f.directives.filter fun d => d.isScoped && d.names span

/-- A span raises the limit to that of any directive that names it and is met. -/
def raises (f : Filter) (span : Span) (level : Level) : Bool :=
  ((f.naming span).filter (·.isMet span)).any (·.limit.admits level)

/-- Is an entry shown that is written inside these spans? -/
def showsEntry (f : Filter) (within : List Span) (entry : Entry) : Bool :=
  (decisive (f.general.filter (·.fitsEntry entry))).admits entry.level ||
    within.any (f.raises · entry.level)

/-- Is a span shown that is entered inside these spans? -/
def showsSpan (f : Filter) (within : List Span) (span : Span) : Bool :=
  !(f.naming span).isEmpty ||
    (decisive (f.general.filter (·.aims span.source))).admits .info ||
    within.any (f.raises · .info)

end Filter
end Log
end FieldPatch
