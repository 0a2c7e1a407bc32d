/-!
# Keyed lists

Look-ups in lists of keys and values. The first entry with a key is found; where the keys are
distinct it is the only one, and the order of the list does not matter.

* `lookup_cons_ite`: a look-up is decided by the first entry or goes on in the rest;
* `lookup_iff_mem`: with distinct keys, what is found under a key is what stands beside it;
* `ext_lookup`: with distinct keys, the keys in their order and the look-ups make up the list;
* `nodup_snoc`: keys stay distinct when a new one is added at the end.
-/

namespace FieldPatch
namespace Keyed

variable {κ β : Type} [BEq κ] [LawfulBEq κ]

theorem lookup_cons_ite [DecidableEq κ] (key k : κ) (value : β) (rest : List (κ × β)) :
    ((k, value) :: rest).lookup key = if key = k then some value else rest.lookup key := by
  by_cases h : key = k
  · simp [h]
  · simp [List.lookup_cons, beq_eq_false_iff_ne.2 h, h]

theorem mem_of_lookup {entries : List (κ × β)} {key : κ} {value : β}
    (h : entries.lookup key = some value) : (key, value) ∈ entries := by
  obtain ⟨before, after, rfl, -⟩ := List.lookup_eq_some_iff.1 h
  simp

theorem lookup_of_mem {entries : List (κ × β)} (h : (entries.map Prod.fst).Nodup) {key : κ}
    {value : β} (hmem : (key, value) ∈ entries) : entries.lookup key = some value := by
  induction entries with
  | nil => simp at hmem
  | cons e rest ih =>
    obtain ⟨k, v⟩ := e
    have hrest := List.nodup_cons.1 h
    rcases List.mem_cons.1 hmem with he | hmem
    · obtain ⟨rfl, rfl⟩ := Prod.mk.inj he
      simp
    · have hkey : key ∈ rest.map Prod.fst := List.mem_map.2 ⟨_, hmem, rfl⟩
      have hne : key ≠ k := fun e => hrest.1 (e ▸ hkey)
      simpa [List.lookup_cons, beq_eq_false_iff_ne.2 hne] using ih hrest.2 hmem

theorem lookup_iff_mem {entries : List (κ × β)} (h : (entries.map Prod.fst).Nodup) {key : κ}
    {value : β} : entries.lookup key = some value ↔ (key, value) ∈ entries :=
  ⟨mem_of_lookup, lookup_of_mem h⟩

/-- A key is found if and only if some entry has it. -/
theorem isSome_lookup_iff {entries : List (κ × β)} {key : κ} :
    (entries.lookup key).isSome ↔ key ∈ entries.map Prod.fst := by
  induction entries with
  | nil => simp
  | cons e rest ih =>
    obtain ⟨k, v⟩ := e
    by_cases h : key = k
    · simp [h]
    · simp [List.lookup_cons, beq_eq_false_iff_ne.2 h, h, ih]

theorem lookup_eq_none {entries : List (κ × β)} {key : κ} (h : key ∉ entries.map Prod.fst) :
    entries.lookup key = none :=
  Option.not_isSome_iff_eq_none.1 fun hsome => h (isSome_lookup_iff.1 hsome)

/-! ## Distinct keys -/

omit [BEq κ] [LawfulBEq κ] in
theorem nodup_snoc {keys : List κ} {key : κ} (h : keys.Nodup) (hnew : key ∉ keys) :
    (keys ++ [key]).Nodup := by
  rw [List.nodup_append]
  refine ⟨h, List.nodup_cons.2 ⟨List.not_mem_nil, List.nodup_nil⟩, fun a ha b hb he => ?_⟩
  rw [List.mem_singleton] at hb
  exact hnew (hb ▸ he ▸ ha)

omit [BEq κ] [LawfulBEq κ] in
theorem nodup_reverse {entries : List (κ × β)} (h : (entries.map Prod.fst).Nodup) :
    (entries.reverse.map Prod.fst).Nodup := by
  rw [List.map_reverse]
  exact (List.reverse_perm _).nodup_iff.2 h

theorem lookup_reverse {entries : List (κ × β)} (h : (entries.map Prod.fst).Nodup) (key : κ) :
    entries.reverse.lookup key = entries.lookup key := by
  apply Option.ext
  intro value
  rw [lookup_iff_mem h, lookup_iff_mem (nodup_reverse h), List.mem_reverse]

theorem ext_lookup {entries entries' : List (κ × β)}
    (hkeys : entries.map Prod.fst = entries'.map Prod.fst) (h : (entries.map Prod.fst).Nodup)
    (hlookup : ∀ key, entries.lookup key = entries'.lookup key) : entries = entries' := by
  induction entries generalizing entries' with
  | nil =>
    have hnil : entries' = [] := by simpa using hkeys.symm
    exact hnil.symm
  | cons e rest ih =>
    cases entries' with
    | nil => simp at hkeys
    | cons e' rest' =>
      obtain ⟨k, v⟩ := e
      obtain ⟨k', v'⟩ := e'
      obtain ⟨rfl, hkeys'⟩ := List.cons.inj hkeys
      have hnodup := List.nodup_cons.1 h
      have hhead : v = v' := by simpa using hlookup k
      have hrest : rest = rest' := by
        refine ih hkeys' hnodup.2 fun key => ?_
        by_cases hkey : key = k
        · -- the first key does not come again in either list
          have hnew' : k ∉ rest'.map Prod.fst := fun hmem => hnodup.1 (hkeys' ▸ hmem)
          rw [hkey, lookup_eq_none hnodup.1, lookup_eq_none hnew']
        · simpa [List.lookup_cons, beq_eq_false_iff_ne.2 hkey] using hlookup key
      rw [hhead, hrest]

end Keyed
end FieldPatch
