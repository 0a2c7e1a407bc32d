import FieldPatch.Proofs.Registry.Resolution
import Mathlib.Data.List.Induction
import Mathlib.Data.List.Nodup

/-!
# Registration

A registry is made by registering entries one after another. A second entry for a kind is refused,
and all of the entries with it.

* `Registry.register_cases`: what becomes of one more entry;
* `Registry.FirstRepeated`: the first kind in a list that has come before;
* `Registry.ofEntries_cases`: what becomes of a list of entries, by induction on the entry that is
  registered last;
* `Registry.exists_ofEntries_iff`, `Registry.ofEntries_eq_duplicate_iff`: which lists are registered
  as a whole, and for which kind the others are refused;
* `Registry.registration_faithful`: the same, and what the registry then knows of every kind.
-/

namespace FieldPatch
namespace Registry

open scoped List

variable {ε α : Type}

/-- The entry of an endpoint to which accessors are added one after another. -/
def Entry.ofAccessors (endpoint : ε) (accessors : List (String × α)) : Entry ε α :=
  accessors.foldl (fun e a => e.withAccessor a.1 a.2) ⟨endpoint, []⟩

theorem Entry.ofAccessors_eq (endpoint : ε) (accessors : List (String × α)) :
    ofAccessors endpoint accessors = ⟨endpoint, accessors⟩ := by
  simp [ofAccessors, foldl_withAccessor]

/-! ## Repeated kinds -/

section FirstRepeated

variable {kinds : List Kind} {kind kind' : Kind}

/-- The first kind, from left to right, that has stood in the list before. -/
def FirstRepeated (kinds : List Kind) (kind : Kind) : Prop :=
  ∃ before after, kinds = before ++ kind :: after ∧ kind ∈ before ∧ before.Nodup

theorem FirstRepeated.not_nodup (h : FirstRepeated kinds kind) : ¬ kinds.Nodup := by
  rcases h with ⟨before, after, rfl, hmem, _⟩
  intro hnodup
  exact List.disjoint_of_nodup_append hnodup hmem List.mem_cons_self

theorem FirstRepeated.append (h : FirstRepeated kinds kind) (more : List Kind) :
    FirstRepeated (kinds ++ more) kind := by
  rcases h with ⟨before, after, rfl, hmem, hnodup⟩
  exact ⟨before, after ++ more, by simp, hmem, hnodup⟩

/-- Distinct kinds do not go on beyond the one that repeats an earlier one of them. -/
theorem eq_of_nodup_append {before between after after' : List Kind} (hmem : kind ∈ before)
    (hnodup : (before ++ between).Nodup) (h : kind :: after = between ++ kind' :: after') :
    kind = kind' := by
  cases between with
  | nil => exact (List.cons.inj h).1
  | cons next rest =>
    have hnext : kind ∈ next :: rest := by
      simp [(List.cons.inj h).1]
    exact absurd hnext (List.disjoint_of_nodup_append hnodup hmem)

theorem FirstRepeated.unique (h : FirstRepeated kinds kind) (h' : FirstRepeated kinds kind') :
    kind = kind' := by
  rcases h with ⟨before, after, hsplit, hmem, hnodup⟩
  rcases h' with ⟨before', after', hsplit', hmem', hnodup'⟩
  have hsame : before ++ kind :: after = before' ++ kind' :: after' := hsplit.symm.trans hsplit'
  rcases List.append_eq_append_iff.1 hsame with
    ⟨between, hlonger, hrest⟩ | ⟨between, hlonger, hrest⟩
  · -- one of the two is repeated where the other one is, or later
    exact eq_of_nodup_append hmem (hlonger ▸ hnodup') hrest
  · exact (eq_of_nodup_append hmem' (hlonger ▸ hnodup) hrest).symm

end FirstRepeated

/-! ## One entry after another -/

/-- A new kind gets its entry behind the others; a kind that has an entry is refused. -/
theorem register_cases (r : Registry ε α) (kind : Kind) (e : Entry ε α) :
    (kind ∉ r.kinds ∧
        ∃ r', r.register kind e = .ok r' ∧ r'.entries = r.entries ++ [(kind, e)]) ∨
      (kind ∈ r.kinds ∧ r.register kind e = .error (.duplicate kind)) := by
  by_cases h : kind ∈ r.kinds
  · exact .inr ⟨h, by simp [register, h]⟩
  · refine .inl ⟨h, ?_⟩
    simp [register, h]

theorem ofEntries_snoc (entries : List (Kind × Entry ε α)) (last : Kind × Entry ε α) :
    ofEntries (entries ++ [last]) =
      (ofEntries entries).bind fun r => r.register last.1 last.2 := by
  simp only [ofEntries, List.foldlM_append, List.foldlM_cons, List.foldlM_nil, bind_pure]
  rfl

/-- All of the entries are registered, in their order, or else the first kind that is repeated is
refused. -/
theorem ofEntries_cases (entries : List (Kind × Entry ε α)) :
    (∃ r, ofEntries entries = .ok r ∧ r.entries = entries) ∨
      ∃ kind, FirstRepeated (entries.map Prod.fst) kind ∧
        ofEntries entries = .error (.duplicate kind) := by
  induction entries using List.reverseRecOn with
  | nil => exact .inl ⟨empty, rfl, rfl⟩
  | append_singleton entries last ih =>
    rcases ih with ⟨r, hr, hentries⟩ | ⟨kind, hfirst, hrefused⟩
    · have hlast : ofEntries (entries ++ [last]) = r.register last.1 last.2 := by
        simp [ofEntries_snoc, hr, Except.bind]
      have hkinds : (entries ++ [last]).map Prod.fst = r.kinds ++ [last.1] := by
        simp [kinds, hentries]
      rcases r.register_cases last.1 last.2 with ⟨_, r', hr', hentries'⟩ | ⟨hmem, hrefused⟩
      · exact .inl ⟨r', hlast.trans hr', by simp [hentries', hentries]⟩
      · exact .inr ⟨last.1, ⟨r.kinds, [], hkinds, hmem, r.distinct⟩, hlast.trans hrefused⟩
    · -- a refusal stands, whatever comes behind it
      refine .inr ⟨kind, ?_, by simp [ofEntries_snoc, hrefused, Except.bind]⟩
      simpa using hfirst.append [last.1]

section Registered

variable {r : Registry ε α} {entries : List (Kind × Entry ε α)}

theorem exists_ofEntries_iff :
    (∃ r, ofEntries entries = .ok r) ↔ (entries.map Prod.fst).Nodup := by
  rcases ofEntries_cases entries with ⟨r, hr, rfl⟩ | ⟨kind, hfirst, hrefused⟩
  · exact ⟨fun _ => r.distinct, fun _ => ⟨r, hr⟩⟩
  · simp [hrefused, hfirst.not_nodup]

theorem exists_ofEntries_eq_duplicate (h : ¬ (entries.map Prod.fst).Nodup) :
    ∃ kind, ofEntries entries = .error (.duplicate kind) := by
  rcases ofEntries_cases entries with ⟨r, hr, rfl⟩ | ⟨kind, _, hrefused⟩
  · exact absurd r.distinct h
  · exact ⟨kind, hrefused⟩

theorem ofEntries_eq_duplicate_iff {kind : Kind} :
    ofEntries entries = .error (.duplicate kind) ↔
      FirstRepeated (entries.map Prod.fst) kind := by
  rcases ofEntries_cases entries with ⟨r, hr, rfl⟩ | ⟨kind', hfirst, hrefused⟩
  · have hnone : ¬ FirstRepeated (r.entries.map Prod.fst) kind :=
      fun hfirst => hfirst.not_nodup r.distinct
    simp [hr, hnone]
  · constructor
    · intro h
      obtain rfl : kind' = kind := by simpa [hrefused] using h
      exact hfirst
    · intro hfirst'
      simpa [hfirst'.unique hfirst] using hrefused

theorem entries_of_ofEntries (h : ofEntries entries = .ok r) : r.entries = entries := by
  rcases ofEntries_cases entries with ⟨r', hr', hentries⟩ | ⟨kind, _, hrefused⟩
  · obtain rfl : r = r' := Except.ok.inj (h.symm.trans hr')
    exact hentries
  · cases h.symm.trans hrefused

end Registered

/-! ## What a registry knows -/

section Known

variable {r r' : Registry ε α} {kind : Kind} {e : Entry ε α}

theorem known_of_mem (h : (kind, e) ∈ r.entries) :
    r.isRegistered kind = true ∧ r.entry kind = .ok e ∧ r.endpoint kind = .ok e.endpoint := by
  have hkind : kind ∈ r.kinds := List.mem_map.2 ⟨_, h, rfl⟩
  have hentry : r.entry kind = .ok e := entry_eq_ok_iff.2 h
  exact ⟨by simp [isRegistered, hkind], hentry, by simp [endpoint, hentry, Except.map]⟩

theorem unknown_of_not_mem (h : kind ∉ r.kinds) :
    r.isRegistered kind = false ∧ r.entry kind = .error (.unregistered kind) ∧
      r.endpoint kind = .error (.unregistered kind) := by
  have hentry : r.entry kind = .error (.unregistered kind) :=
    entry_eq_unregistered_iff.2 fun e he => h (List.mem_map.2 ⟨_, he, rfl⟩)
  exact ⟨by simp [isRegistered, h], hentry, by simp [endpoint, hentry, Except.map]⟩

/-- What is known of a kind depends on its entry, and not on where the entry stands. -/
theorem known_perm (h : r.entries ~ r'.entries) (kind : Kind) :
    r'.isRegistered kind = r.isRegistered kind ∧ r'.entry kind = r.entry kind ∧
      r'.endpoint kind = r.endpoint kind := by
  by_cases hkind : kind ∈ r.kinds
  · rcases List.mem_map.1 hkind with ⟨⟨_, e⟩, he, rfl⟩
    have hknown := known_of_mem he
    have hknown' := known_of_mem (h.mem_iff.1 he)
    simp [hknown, hknown']
  · have hkind' : kind ∉ r'.kinds := fun hmem => hkind ((h.map Prod.fst).mem_iff.2 hmem)
    have hunknown := unknown_of_not_mem hkind
    have hunknown' := unknown_of_not_mem hkind'
    simp [hunknown, hunknown']

end Known

/-- A list of entries is registered if and only if its kinds are distinct, and else it is the first
repeated kind that is refused. A registry knows the entries that were registered, each with its
accessors in the order in which they were added, and no other kind; the order of the entries makes
no difference to it. -/
theorem registration_faithful (entries : List (Kind × Entry ε α)) :
    ((∃ r, ofEntries entries = .ok r) ↔ (entries.map Prod.fst).Nodup) ∧
    (¬ (entries.map Prod.fst).Nodup → ∃ kind, ofEntries entries = .error (.duplicate kind)) ∧
    (∀ kind, ofEntries entries = .error (.duplicate kind) ↔
      FirstRepeated (entries.map Prod.fst) kind) ∧
    ∀ r, ofEntries entries = .ok r →
      (∀ kind e, (kind, e) ∈ entries →
        r.isRegistered kind = true ∧ r.entry kind = .ok e ∧ r.endpoint kind = .ok e.endpoint ∧
          ∀ endpoint accessors, e = .ofAccessors endpoint accessors →
            e.endpoint = endpoint ∧ e.accessors = accessors ∧
              e.accessorNames = accessors.map Prod.fst) ∧
      (∀ kind, kind ∉ entries.map Prod.fst →
        r.isRegistered kind = false ∧ r.entry kind = .error (.unregistered kind) ∧
          r.endpoint kind = .error (.unregistered kind)) ∧
      ∀ entries', entries ~ entries' → ∃ r', ofEntries entries' = .ok r' ∧
        ∀ kind, r'.isRegistered kind = r.isRegistered kind ∧ r'.entry kind = r.entry kind ∧
          r'.endpoint kind = r.endpoint kind := by
  refine ⟨exists_ofEntries_iff, exists_ofEntries_eq_duplicate,
    fun kind => ofEntries_eq_duplicate_iff, fun r hr => ?_⟩
  obtain rfl := entries_of_ofEntries hr
  refine ⟨fun kind e he => ?_, fun kind hkind => unknown_of_not_mem hkind, fun entries' h => ?_⟩
  · rcases known_of_mem he with ⟨hregistered, hentry, hendpoint⟩
    refine ⟨hregistered, hentry, hendpoint, ?_⟩
    rintro endpoint accessors rfl
    simp [Entry.ofAccessors_eq, Entry.accessorNames]
  · have hkinds : (entries'.map Prod.fst).Nodup := (h.map Prod.fst).nodup_iff.1 r.distinct
    rcases exists_ofEntries_iff.2 hkinds with ⟨r', hr'⟩
    obtain rfl := entries_of_ofEntries hr'
    exact ⟨r', hr', known_perm h⟩

/-- Of two repeated kinds the one that is repeated first is refused. Without repetitions, either
order gives each kind its own entry. -/
theorem registration_faithful_contact :
    let contact : Entry Nat Nat := .ofAccessors 1 [("getStatus", 10), ("getOwner", 11)]
    let case : Entry Nat Nat := .ofAccessors 2 []
    ofEntries [(.contact, contact), (.case, case), (.case, contact), (.contact, case)] =
        .error (.duplicate .case) ∧
      ∃ r r', ofEntries [(.contact, contact), (.case, case)] = .ok r ∧
        ofEntries [(.case, case), (.contact, contact)] = .ok r' ∧
        r.entry .contact = .ok contact ∧ r'.entry .contact = .ok contact ∧
        contact.accessorNames = ["getStatus", "getOwner"] ∧ r.endpoint .case = .ok 2 ∧
        r.entry .account = .error (.unregistered .account) := by
  intro contact case
  refine ⟨?_, ?_⟩
  · have hfirst : FirstRepeated [.contact, .case, .case, .contact] .case :=
      ⟨[.contact, .case], [.contact], rfl, by decide, by decide⟩
    exact ((registration_faithful _).2.2.1 .case).2 hfirst
  · rcases registration_faithful [(.contact, contact), (.case, case)] with
      ⟨hdistinct, _, _, hknown⟩
    rcases hdistinct.2 (by decide) with ⟨r, hr⟩
    rcases hknown r hr with ⟨hentries, hothers, horder⟩
    rcases hentries .contact contact (by simp) with ⟨_, hcontact, _, hbuilt⟩
    rcases hentries .case case (by simp) with ⟨_, _, hcase, _⟩
    rcases horder [(.case, case), (.contact, contact)] (.swap _ _ _) with ⟨r', hr', hsame⟩
    have hnames := (hbuilt 1 [("getStatus", 10), ("getOwner", 11)] rfl).2.2
    refine ⟨r, r', hr, hr', hcontact, (hsame .contact).2.1.trans hcontact, hnames, hcase, ?_⟩
    exact (hothers .account (by decide)).2.1

end Registry
end FieldPatch
