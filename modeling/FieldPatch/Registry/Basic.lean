import FieldPatch.Entity
import FieldPatch.Errors
import FieldPatch.Field.Name
import FieldPatch.Keyed
import FieldPatch.Log.Entry
import FieldPatch.Text.Search

/-!
# The registry

For each kind, the registry knows the endpoint that takes its patches and the accessors of its lists
of choices. It is generic in what an endpoint and an accessor are.

* `Registry.Entry`: an endpoint and named accessors, in the order in which they were added;
* `Registry.Entry.resolve`: the accessor with a name, or else the first whose name contains it;
* `Registry`: entries of distinct kinds. `register` refuses a second entry for a kind;
* `Registry.resolve`: the accessor that serves a field of a kind. A text that is no field name finds
  none, whatever is registered.
-/

namespace FieldPatch

/-! ## Entries -/

structure Registry.Entry (ε α : Type) where
  endpoint : ε
  accessors : List (String × α) := []

/-- The accessor that a look-up found; `exact` tells whether it has the name looked for. -/
structure Registry.Resolved (α : Type) where
  name : String
  accessor : α
  exact : Bool

namespace Registry.Entry

variable {ε α : Type}

def withAccessor (e : Entry ε α) (name : String) (accessor : α) : Entry ε α :=
  { e with accessors := e.accessors ++ [(name, accessor)] }

/-- Accessors that are added one after another stand in this order behind those that were there. -/
theorem foldl_withAccessor (accessors : List (String × α)) (e : Entry ε α) :
    accessors.foldl (fun e a => e.withAccessor a.1 a.2) e =
      ⟨e.endpoint, e.accessors ++ accessors⟩ := by
  induction accessors generalizing e with
  | nil => simp
  | cons a rest ih =>
    rw [List.foldl_cons, ih]
    simp [withAccessor]

def accessorNames (e : Entry ε α) : List String :=
  e.accessors.map Prod.fst

def resolve (e : Entry ε α) (canonical : String) : Option (Resolved α) :=
  match e.accessors.find? (·.1 == canonical) with
  | some (name, accessor) => some ⟨name, accessor, true⟩
  | none =>
    match e.accessors.find? (Text.contains ·.1 canonical) with
    | some (name, accessor) => some ⟨name, accessor, false⟩
    | none => none

variable {ι : Type} in
/-- The entry of a kind of records: one accessor for each list of choices that it declares. -/
def ofEntity (ρ : Type) [Entity ι ρ] (endpoint : ε) (accessor : String → α) : Entry ε α :=
  (Entity.choiceLists ρ).foldl (fun e list => e.withAccessor list.1 (accessor list.1)) ⟨endpoint, []⟩

end Registry.Entry

def Registry.Resolved.outline {α : Type} (r : Registry.Resolved α) : String :=
  "ResolvedAccessor \x7b name: " ++ Text.quote r.name ++ ", exact: " ++ toString r.exact ++ " \x7d"

/-! ## Registries -/

structure Registry (ε α : Type) where
  entries : List (Kind × Registry.Entry ε α)
  distinct : (entries.map Prod.fst).Nodup

namespace Registry

variable {ε α : Type}

def empty : Registry ε α := ⟨[], List.nodup_nil⟩

def kinds (r : Registry ε α) : List Kind :=
  r.entries.map Prod.fst

def isRegistered (r : Registry ε α) (kind : Kind) : Bool :=
  kind ∈ r.kinds

def register (r : Registry ε α) (kind : Kind) (entry : Entry ε α) :
    Except RegistryError (Registry ε α) :=
  if h : kind ∈ r.kinds then .error (.duplicate kind)
  else .ok ⟨r.entries ++ [(kind, entry)], by
    simpa using Keyed.nodup_snoc r.distinct h⟩

/-- The registry of a list of entries, registered in order. -/
def ofEntries (entries : List (Kind × Entry ε α)) : Except RegistryError (Registry ε α) :=
  entries.foldlM (fun r e => r.register e.1 e.2) empty

def entry (r : Registry ε α) (kind : Kind) : Except RegistryError (Entry ε α) :=
  match r.entries.lookup kind with
  | some e => .ok e
  | none => .error (.unregistered kind)

def endpoint (r : Registry ε α) (kind : Kind) : Except RegistryError ε :=
  (r.entry kind).map Entry.endpoint

def outline (r : Registry ε α) : String :=
  "RegistryBuilder \x7b kinds: [" ++ ", ".intercalate (r.kinds.map Kind.name) ++ "] \x7d"

/-! ## Fields -/

/-- The accessor that serves a field. -/
def resolve (r : Registry ε α) (kind : Kind) (field : String) :
    Except RegistryError (Resolved α) := do
  let e ← r.entry kind
  match FieldName.parse field with
  | .error _ => .error (.lookupMiss kind (Field.accessorName field))
  | .ok name =>
    match e.resolve name.accessor with
    | some found => .ok found
    | none => .error (.lookupMiss kind name.accessor)

/-- What is written to the log while an accessor is looked for. -/
def resolveLog (r : Registry ε α) (kind : Kind) (field : String) : List Log.Entry :=
  if r.isRegistered kind then
    match FieldName.parse field with
    | .error fault =>
      [⟨.debug, .registry, "Malformed field name",
        [("resource", .bare kind.name), ("field", .string field),
          ("error", .bare fault.message)]⟩]
    | .ok name =>
      match r.resolve kind field with
      | .ok ⟨found, _, false⟩ =>
        [⟨.debug, .registry, "Substring fallback",
          [("resource", .bare kind.name), ("canonical", .bare name.accessor),
            ("accessor", .string found)]⟩]
      | _ => []
  else []

end Registry
end FieldPatch
