import FieldPatch.Proofs.Field.Grammar
import FieldPatch.Registry.Basic

/-!
# The search for an accessor

Which accessor a registry finds for a field of a kind, told by the order in which the accessors of
the kind have been added.

* `Registry.Entry.FirstNamed`: the first accessor whose name has a property;
* `Registry.Entry.resolve_cases`: the search for a name, which prefers the name itself to every name
  that contains it;
* `Registry.Entry.resolve_eq_none_of_infix`: where nothing is found for a name, nothing is found for
  a longer one;
* `Registry.resolve_of_entry`: only the names of fields are searched for;
* `Registry.exists_entry_of_resolve`: what is found stands in the entry of the kind;
* `Registry.resolve_by_search`: what a registry answers to every kind and every text.
-/

namespace FieldPatch
namespace Registry

variable {ε α : Type}

/-! ## Accessors by their place -/

namespace Entry

variable {e : Entry ε α} {name : String} {accessor : α}

/-- The first accessor, as they were added, whose name has the property. -/
def FirstNamed (e : Entry ε α) (p : String → Prop) (name : String) (accessor : α) : Prop :=
  ∃ i : Nat, e.accessors[i]? = some (name, accessor) ∧ p name ∧
    ∀ j < i, ∀ earlier, e.accessorNames[j]? = some earlier → ¬ p earlier

theorem FirstNamed.holds {p : String → Prop} (h : e.FirstNamed p name accessor) : p name := by
  rcases h with ⟨_, _, hname, _⟩
  exact hname

theorem FirstNamed.mem_accessors {p : String → Prop} (h : e.FirstNamed p name accessor) :
    (name, accessor) ∈ e.accessors := by
  rcases h with ⟨_, hat, _⟩
  exact List.mem_of_getElem? hat

theorem FirstNamed.mem_accessorNames {p : String → Prop} (h : e.FirstNamed p name accessor) :
    name ∈ e.accessorNames :=
  List.mem_map.2 ⟨_, h.mem_accessors, rfl⟩

/-- No two accessors are the first one. -/
theorem FirstNamed.unique {p : String → Prop} {name' : String} {accessor' : α}
    (h : e.FirstNamed p name accessor) (h' : e.FirstNamed p name' accessor') :
    name = name' ∧ accessor = accessor' := by
  rcases h with ⟨i, hat, hname, hbefore⟩
  rcases h' with ⟨i', hat', hname', hbefore'⟩
  have hlisted {j : Nat} {n : String} {a : α} (hj : e.accessors[j]? = some (n, a)) :
      e.accessorNames[j]? = some n := by
    simp [accessorNames, hj]
  rcases Nat.lt_trichotomy i i' with hlt | rfl | hgt
  · exact absurd hname (hbefore' i hlt name (hlisted hat))
  · exact Prod.mk.inj (Option.some.inj (hat.symm.trans hat'))
  · exact absurd hname' (hbefore i' hgt name' (hlisted hat'))

theorem find?_eq_some_iff {test : String → Bool} {p : String → Prop}
    (htest : ∀ name, test name = true ↔ p name) :
    e.accessors.find? (test ·.1) = some (name, accessor) ↔ e.FirstNamed p name accessor := by
  simp only [List.find?_eq_some_iff_getElem, htest, Bool.not_eq_true', Bool.eq_false_iff, ne_eq,
    FirstNamed, accessorNames, List.getElem?_map]
  constructor
  · rintro ⟨hname, i, hi, hat, hbefore⟩
    refine ⟨i, List.getElem?_eq_some_iff.2 ⟨hi, hat⟩, hname, fun j hj earlier hearlier => ?_⟩
    rcases Option.map_eq_some_iff.1 hearlier with ⟨a, ha, rfl⟩
    rcases List.getElem?_eq_some_iff.1 ha with ⟨_, rfl⟩
    exact hbefore j hj
  · rintro ⟨i, hat, hname, hbefore⟩
    rcases List.getElem?_eq_some_iff.1 hat with ⟨hi, hget⟩
    refine ⟨hname, i, hi, hget, fun j hj => hbefore j hj _ ?_⟩
    exact Option.map_eq_some_iff.2 ⟨_, List.getElem?_eq_getElem (Nat.lt_trans hj hi), rfl⟩

theorem find?_eq_none_iff {test : String → Bool} {p : String → Prop}
    (htest : ∀ name, test name = true ↔ p name) :
    e.accessors.find? (test ·.1) = none ↔ ∀ name ∈ e.accessorNames, ¬ p name := by
  simp [accessorNames, ← htest]

/-! ## One entry -/

theorem resolve_cases (e : Entry ε α) (canonical : String) :
    (∃ accessor, e.FirstNamed (· = canonical) canonical accessor ∧
      e.resolve canonical = some ⟨canonical, accessor, true⟩) ∨
    (canonical ∉ e.accessorNames ∧ ∃ name accessor,
      e.FirstNamed (canonical.toList <:+: ·.toList) name accessor ∧
        e.resolve canonical = some ⟨name, accessor, false⟩) ∨
    ((∀ name ∈ e.accessorNames, ¬ canonical.toList <:+: name.toList) ∧
      e.resolve canonical = none) := by
  have hequal (name : String) : (name == canonical) = true ↔ name = canonical := beq_iff_eq
  have hcontains (name : String) :
      Text.contains name canonical = true ↔ canonical.toList <:+: name.toList := Text.contains_iff
  cases hexact : e.accessors.find? (·.1 == canonical) with
  | some found =>
    rcases found with ⟨name, accessor⟩
    have hfirst := (find?_eq_some_iff hequal).1 hexact
    obtain rfl : name = canonical := hfirst.holds
    exact .inl ⟨accessor, hfirst, by simp [resolve, hexact]⟩
  | none =>
    -- only now is a longer name looked for
    have hother : canonical ∉ e.accessorNames := fun hmem =>
      (find?_eq_none_iff hequal).1 hexact canonical hmem rfl
    cases hpart : e.accessors.find? (Text.contains ·.1 canonical) with
    | some found =>
      rcases found with ⟨name, accessor⟩
      have hfirst := (find?_eq_some_iff hcontains).1 hpart
      exact .inr (.inl ⟨hother, name, accessor, hfirst, by simp [resolve, hexact, hpart]⟩)
    | none =>
      have hnone := (find?_eq_none_iff hcontains).1 hpart
      exact .inr (.inr ⟨hnone, by simp [resolve, hexact, hpart]⟩)

theorem resolve_eq_none_iff {canonical : String} :
    e.resolve canonical = none ↔
      ∀ name ∈ e.accessorNames, ¬ canonical.toList <:+: name.toList := by
  rcases e.resolve_cases canonical with
    ⟨accessor, hfirst, hfound⟩ | ⟨_, name, accessor, hfirst, hfound⟩ | ⟨hnone, hfound⟩
  · simpa [hfound] using ⟨canonical, hfirst.mem_accessorNames, List.infix_rfl⟩
  · simpa [hfound] using ⟨name, hfirst.mem_accessorNames, hfirst.holds⟩
  · simpa [hfound] using hnone

theorem resolve_eq_none_of_infix {canonical longer : String}
    (hpart : canonical.toList <:+: longer.toList) (h : e.resolve canonical = none) :
    e.resolve longer = none := by
  rw [resolve_eq_none_iff] at h ⊢
  intro name hname hlonger
  exact h name hname (hpart.trans hlonger)

end Entry

/-! ## The registry -/

variable {r : Registry ε α} {kind : Kind} {e : Entry ε α}

theorem entry_eq_ok_iff : r.entry kind = .ok e ↔ (kind, e) ∈ r.entries := by
  rw [← Keyed.lookup_iff_mem r.distinct, entry]
  cases r.entries.lookup kind with
  | none => exact ⟨nofun, nofun⟩
  | some e' => simp

theorem entry_eq_unregistered_iff :
    r.entry kind = .error (.unregistered kind) ↔ ∀ e, (kind, e) ∉ r.entries := by
  simp only [← entry_eq_ok_iff]
  rw [entry]
  cases r.entries.lookup kind with
  | none => exact ⟨fun _ _ => nofun, fun _ => rfl⟩
  | some e' => exact ⟨nofun, fun hnone => absurd rfl (hnone e')⟩

theorem resolve_of_unregistered (h : ∀ e, (kind, e) ∉ r.entries) (field : String) :
    r.resolve kind field = .error (.unregistered kind) := by
  simp only [resolve, entry_eq_unregistered_iff.2 h]
  rfl

/-- What stands in the entry of a kind is searched for the name of a field only. -/
theorem resolve_of_entry (h : (kind, e) ∈ r.entries) (field : String) :
    r.resolve kind field =
      match FieldName.parse field with
      | .error _ => .error (.lookupMiss kind (Field.accessorName field))
      | .ok _ =>
        match e.resolve (Field.accessorName field) with
        | some found => .ok found
        | none => .error (.lookupMiss kind (Field.accessorName field)) := by
  simp only [resolve, entry_eq_ok_iff.2 h]
  cases hparse : FieldName.parse field with
  | error fault => rfl
  | ok name =>
    obtain rfl := FieldName.parse_eq_ok_iff.1 hparse
    rfl

/-- A field name misses in a registry if the entry of the kind has nothing for its accessor. -/
theorem resolve_eq_miss_iff (he : (kind, e) ∈ r.entries) {text : String} {field : FieldName}
    (h : FieldName.parse text = .ok field) :
    r.resolve kind text = .error (.lookupMiss kind field.accessor) ↔
      e.resolve field.accessor = none := by
  obtain rfl := FieldName.parse_eq_ok_iff.1 h
  rw [resolve_of_entry he, h]
  cases hfound : e.resolve (Field.accessorName field.text) with
  | some found => simp [FieldName.accessor, hfound]
  | none => simp [FieldName.accessor, hfound]

/-- What is found for a field of a kind is the first of its like in the entry of this kind. -/
theorem exists_entry_of_resolve {field : String} {found : Resolved α}
    (h : r.resolve kind field = .ok found) :
    ∃ e, (kind, e) ∈ r.entries ∧ ∃ p, e.FirstNamed p found.name found.accessor := by
  by_cases hentry : ∃ e, (kind, e) ∈ r.entries
  · rcases hentry with ⟨e, he⟩
    refine ⟨e, he, ?_⟩
    rw [resolve_of_entry he] at h
    split at h
    · cases h
    · rcases e.resolve_cases (Field.accessorName field) with
        ⟨accessor, hfirst, hfound⟩ | ⟨_, name, accessor, hfirst, hfound⟩ | ⟨_, hnone⟩
      · obtain rfl : ⟨_, accessor, true⟩ = found := by simpa [hfound] using h
        exact ⟨_, hfirst⟩
      · obtain rfl : ⟨name, accessor, false⟩ = found := by simpa [hfound] using h
        exact ⟨_, hfirst⟩
      · simp [hnone] at h
  · simp [resolve_of_unregistered (not_exists.1 hentry)] at h

/-- What is found for a field name has the name that was searched for if and only if it is said to
be exact. -/
theorem exact_iff_of_resolve {field : String} {found : Resolved α}
    (h : r.resolve kind field = .ok found) :
    found.exact = true ↔ found.name = Field.accessorName field := by
  by_cases hentry : ∃ e, (kind, e) ∈ r.entries
  · rcases hentry with ⟨e, he⟩
    rw [resolve_of_entry he] at h
    cases hparse : FieldName.parse field with
    | error fault => simp [hparse] at h
    | ok name =>
      rcases e.resolve_cases (Field.accessorName field) with
        ⟨accessor, _, hresolve⟩ | ⟨hother, n, accessor, hfirst, hresolve⟩ | ⟨_, hresolve⟩
      · obtain rfl : ⟨_, accessor, true⟩ = found := by simpa [hparse, hresolve] using h
        simp
      · obtain rfl : ⟨n, accessor, false⟩ = found := by simpa [hparse, hresolve] using h
        have hne : n ≠ Field.accessorName field := by
          rintro rfl
          exact hother hfirst.mem_accessorNames
        simp [hne]
      · simp [hparse, hresolve] at h
  · simp [resolve_of_unregistered (not_exists.1 hentry)] at h

/-- A kind without entry is unregistered, whatever the field. Where there is an entry, a text that
is no field name finds nothing. For a field name, the first accessor with the canonical name is
found, or else the first one whose name contains it, or else nothing. An answer is exact if and only
if it has the canonical name. -/
theorem resolve_by_search (r : Registry ε α) (kind : Kind) (field : String) :
    (r.resolve kind field = .error (.unregistered kind) ↔ ∀ e, (kind, e) ∉ r.entries) ∧
    (∀ e, (kind, e) ∈ r.entries →
      let canonical := Field.accessorName field
      (∀ fault, FieldName.parse field = .error fault →
        r.resolve kind field = .error (.lookupMiss kind canonical)) ∧
      ∀ name, FieldName.parse field = .ok name →
        (canonical ∈ e.accessorNames → ∃ accessor,
          e.FirstNamed (· = canonical) canonical accessor ∧
            r.resolve kind field = .ok ⟨canonical, accessor, true⟩) ∧
        (canonical ∉ e.accessorNames →
          (∃ n ∈ e.accessorNames, canonical.toList <:+: n.toList) → ∃ n accessor,
            e.FirstNamed (canonical.toList <:+: ·.toList) n accessor ∧
              r.resolve kind field = .ok ⟨n, accessor, false⟩) ∧
        ((∀ n ∈ e.accessorNames, ¬ canonical.toList <:+: n.toList) →
          r.resolve kind field = .error (.lookupMiss kind canonical))) ∧
    ∀ found, r.resolve kind field = .ok found →
      (found.exact = true ↔ found.name = Field.accessorName field) := by
  refine ⟨⟨fun h e he => ?_, fun h => resolve_of_unregistered h field⟩, fun e he => ?_,
    fun found => exact_iff_of_resolve⟩
  · -- an entry is searched, and a search ends in another way
    rw [resolve_of_entry he] at h
    split at h
    · cases h
    · split at h
      · cases h
      · cases h
  · intro canonical
    have hresolve := resolve_of_entry he field
    refine ⟨fun fault hfault => by simpa [hfault] using hresolve, fun name hname => ?_⟩
    rw [hname] at hresolve
    rcases e.resolve_cases (Field.accessorName field) with
      ⟨accessor, hfirst, hfound⟩ | ⟨hother, n, accessor, hfirst, hfound⟩ | ⟨hnone, hfound⟩
    · -- a name contains itself, so the other two answers are excluded
      have hmem : canonical ∈ e.accessorNames := hfirst.mem_accessorNames
      refine ⟨fun _ => ⟨accessor, hfirst, by simpa [hfound] using hresolve⟩, ?_, ?_⟩
      · exact fun hother => absurd hmem hother
      · exact fun hnone => absurd List.infix_rfl (hnone canonical hmem)
    · refine ⟨fun hmem => absurd hmem hother, ?_, ?_⟩
      · exact fun _ _ => ⟨n, accessor, hfirst, by simpa [hfound] using hresolve⟩
      · exact fun hnone => absurd hfirst.holds (hnone n hfirst.mem_accessorNames)
    · refine ⟨fun hmem => absurd List.infix_rfl (hnone canonical hmem), ?_, ?_⟩
      · rintro _ ⟨n, hn, hinfix⟩
        exact absurd hinfix (hnone n hn)
      · exact fun _ => by simpa [hfound] using hresolve

/-- The name itself is found behind a longer one, and the first of two with the same name; a longer
name is found only where the name itself is not there. -/
theorem resolve_by_search_status :
    let e : Entry Unit Nat :=
      ⟨(), [("getStatusesLegacy", 0), ("getStatus", 1), ("getStatus", 2)]⟩
    let r : Registry Unit Nat := ⟨[(.contact, e)], by decide⟩
    r.resolve .contact "status" = .ok ⟨"getStatus", 1, true⟩ ∧
      r.resolve .contact "stat" = .ok ⟨"getStatusesLegacy", 0, false⟩ ∧
      r.resolve .contact "type" = .error (.lookupMiss .contact "getType") ∧
      r.resolve .contact "" = .error (.lookupMiss .contact "get") ∧
      r.resolve .case "" = .error (.unregistered .case) := by
  intro e r
  have hentry : (.contact, e) ∈ r.entries := List.mem_cons_self
  have hfield (field : String) (h : FieldName.fault? field = none) :=
    ((resolve_by_search r .contact field).2.1 e hentry).2 ⟨field, h⟩
      (FieldName.parse_eq_ok_iff.2 rfl)
  refine ⟨?_, ?_, ?_, ?_, ?_⟩
  · rcases (hfield "status" (by decide)).1 (by decide) with ⟨accessor, hfirst, hfound⟩
    have hsecond : e.FirstNamed (· = "getStatus") "getStatus" 1 := by
      refine ⟨1, rfl, rfl, fun j hj earlier hearlier => ?_⟩
      obtain rfl : j = 0 := Nat.lt_one_iff.1 hj
      cases hearlier
      decide
    obtain rfl : accessor = 1 := (hfirst.unique hsecond).2
    exact hfound
  · have hlonger : "getStat".toList <:+: "getStatusesLegacy".toList :=
      Text.contains_iff.1 (by decide)
    rcases (hfield "stat" (by decide)).2.1 (by decide) ⟨_, by decide, hlonger⟩ with
      ⟨name, accessor, hfirst, hfound⟩
    obtain ⟨rfl, rfl⟩ := hfirst.unique ⟨0, rfl, hlonger, fun j hj => absurd hj j.not_lt_zero⟩
    exact hfound
  · refine (hfield "type" (by decide)).2.2 fun name hname hinfix => ?_
    have hall : ∀ name ∈ e.accessorNames,
        ¬ Text.contains name (Field.accessorName "type") = true := by decide
    exact hall name hname (Text.contains_iff.2 hinfix)
  · exact ((resolve_by_search r .contact "").2.1 e hentry).1 .empty rfl
  · refine (resolve_by_search r .case "").1.2 fun e' he' => ?_
    simp [r] at he'

end Registry
end FieldPatch
