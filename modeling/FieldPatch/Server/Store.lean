import FieldPatch.Keyed

/-!
# Stores

A store keeps one record under each of its keys, in the order in which the keys came.

* `Store`: the entries, whose keys are distinct;
* `Store.put`: writes a record in the place of the one under its key, or at the end;
* `Store.get?`, `Store.keys`, `Store.size`: what the store holds.

A write is seen under its key and nowhere else (`get?_put`), and adds no other key (`keys_put`).
Stores with the same keys and the same look-ups are equal (`ext_get?`).
-/

namespace FieldPatch

structure Store (ι ρ : Type) where
  entries : List (ι × ρ)
  distinct : (entries.map Prod.fst).Nodup

namespace Store

variable {ι ρ : Type}

def empty : Store ι ρ := ⟨[], List.nodup_nil⟩

instance : Inhabited (Store ι ρ) := ⟨empty⟩

def keys (s : Store ι ρ) : List ι :=
  s.entries.map Prod.fst

def size (s : Store ι ρ) : Nat :=
  s.entries.length

variable [DecidableEq ι]

def get? (s : Store ι ρ) (key : ι) : Option ρ :=
  s.entries.lookup key

@[simp] theorem get?_empty (key : ι) : (empty : Store ι ρ).get? key = none := rfl

theorem mem_keys_iff (s : Store ι ρ) (key : ι) : key ∈ s.keys ↔ (s.get? key).isSome :=
  Keyed.isSome_lookup_iff.symm

theorem ext_get? {s s' : Store ι ρ} (hkeys : s.keys = s'.keys)
    (hget : ∀ key, s.get? key = s'.get? key) : s = s' := by
  have hentries : s.entries = s'.entries := Keyed.ext_lookup hkeys s.distinct hget
  cases s
  cases s'
  simp_all

/-! ## Writing -/

def putEntry (key : ι) (record : ρ) : List (ι × ρ) → List (ι × ρ)
  | [] => [(key, record)]
  | (k, r) :: rest => if k = key then (k, record) :: rest else (k, r) :: putEntry key record rest

theorem keys_putEntry (key : ι) (record : ρ) (entries : List (ι × ρ)) :
    (putEntry key record entries).map Prod.fst =
      if key ∈ entries.map Prod.fst then entries.map Prod.fst
      else entries.map Prod.fst ++ [key] := by
  induction entries with
  | nil => simp [putEntry]
  | cons e rest ih =>
    obtain ⟨k, r⟩ := e
    by_cases h : k = key
    · simp [putEntry, h]
    · have h' : ¬ key = k := fun e => h e.symm
      simp only [putEntry, h, if_false, List.map_cons, ih, List.mem_cons, h', false_or]
      split <;> simp

theorem nodup_putEntry (key : ι) (record : ρ) {entries : List (ι × ρ)}
    (h : (entries.map Prod.fst).Nodup) : ((putEntry key record entries).map Prod.fst).Nodup := by
  rw [keys_putEntry]
  split
  · exact h
  · rename_i hnot
    exact Keyed.nodup_snoc h hnot

def put (s : Store ι ρ) (key : ι) (record : ρ) : Store ι ρ :=
  ⟨putEntry key record s.entries, nodup_putEntry key record s.distinct⟩

theorem lookup_putEntry (key k : ι) (record : ρ) (entries : List (ι × ρ)) :
    (putEntry key record entries).lookup k =
      if k = key then some record else entries.lookup k := by
  induction entries with
  | nil => simp [putEntry, Keyed.lookup_cons_ite]
  | cons e rest ih =>
    obtain ⟨k', r⟩ := e
    by_cases h : k' = key
    · by_cases hk : k = key <;> simp [putEntry, Keyed.lookup_cons_ite, h, hk]
    · simp only [putEntry, h, if_false, Keyed.lookup_cons_ite, ih]
      by_cases hk : k = key
      · have hne : ¬ key = k' := fun e => h e.symm
        simp [hk, hne]
      · simp [hk]

theorem get?_put (s : Store ι ρ) (key k : ι) (record : ρ) :
    (s.put key record).get? k = if k = key then some record else s.get? k :=
  lookup_putEntry key k record s.entries

@[simp] theorem get?_put_self (s : Store ι ρ) (key : ι) (record : ρ) :
    (s.put key record).get? key = some record := by
  simp [get?_put]

theorem get?_put_of_ne (s : Store ι ρ) {key k : ι} (record : ρ) (h : k ≠ key) :
    (s.put key record).get? k = s.get? k := by
  simp [get?_put, h]

theorem keys_put (s : Store ι ρ) (key : ι) (record : ρ) :
    (s.put key record).keys = if key ∈ s.keys then s.keys else s.keys ++ [key] :=
  keys_putEntry key record s.entries

/-- Of two writes under one key the second counts. -/
theorem put_put (s : Store ι ρ) (key : ι) (record record' : ρ) :
    (s.put key record).put key record' = s.put key record' := by
  apply ext_get?
  · have hmem : key ∈ (s.put key record).keys := by
      simp [mem_keys_iff]
    calc
      ((s.put key record).put key record').keys = (s.put key record).keys := by
        simp only [keys_put (s.put key record), hmem, if_true]
      _ = (s.put key record').keys := by
        simp only [keys_put]
  · intro k
    by_cases hk : k = key
    · simp [hk]
    · simp [get?_put, hk]

/-- To write what is stored changes nothing. -/
theorem put_of_get? {s : Store ι ρ} {key : ι} {record : ρ} (h : s.get? key = some record) :
    s.put key record = s := by
  have hmem : key ∈ s.keys := (s.mem_keys_iff key).2 (by simp [h])
  apply ext_get?
  · simp [keys_put, hmem]
  · intro k
    by_cases hk : k = key
    · simp [hk, h]
    · simp [get?_put, hk]

end Store
end FieldPatch
