import Mathlib.Data.List.Nodup
import Mathlib.Data.List.Perm.Basic

/-!
# Numbered logs

What several calls did, each entry beside the number of its call.

* `Numbered.entriesOf`: the entries of one call, in order;
* `Numbered.perm_flatMap_range`: a log is made of the entries of its calls;
* `Numbered.prefix_of_map`: a log that begins like another in numbers and in entries begins like it.
-/

namespace FieldPatch
namespace Numbered

open scoped List

variable {β γ : Type}

def entriesOf (i : Nat) (log : List (Nat × β)) : List β :=
  log.filterMap fun entry => if entry.1 = i then some entry.2 else none

@[simp] theorem entriesOf_append (i : Nat) (log log' : List (Nat × β)) :
    entriesOf i (log ++ log') = entriesOf i log ++ entriesOf i log' := by
  simp [entriesOf]

/-- Entries of one call are seen under its number only. -/
@[simp] theorem entriesOf_map (i j : Nat) (entries : List β) :
    entriesOf i (entries.map (j, ·)) = if j = i then entries else [] := by
  by_cases hji : j = i <;> simp [entriesOf, List.filterMap_map, hji]

theorem mem_entriesOf {i : Nat} {log : List (Nat × β)} {entry : β} :
    entry ∈ entriesOf i log ↔ (i, entry) ∈ log := by
  simp [entriesOf]

theorem length_entriesOf (i : Nat) (log : List (Nat × β)) :
    (entriesOf i log).length = (log.map Prod.fst).count i := by
  induction log with
  | nil => rfl
  | cons entry rest ih =>
    rcases entry with ⟨j, b⟩
    by_cases hji : j = i
    · simpa [entriesOf, hji] using ih
    · simpa [entriesOf, hji] using ih

/-- Where no call has two entries, no number stands twice. -/
theorem nodup_of_length_entriesOf_le {log : List (Nat × β)}
    (h : ∀ i, (entriesOf i log).length ≤ 1) : (log.map Prod.fst).Nodup := by
  apply List.nodup_iff_count_le_one.2
  intro i
  simpa [← length_entriesOf] using h i

/-- The entries in the order of time are the entries of one call after the other. -/
theorem perm_flatMap_range (n : Nat) (log : List (Nat × β)) (h : ∀ entry ∈ log, entry.1 < n) :
    log.map Prod.snd ~ (List.range n).flatMap fun i => entriesOf i log := by
  induction n generalizing log with
  | zero =>
    -- there is no call, and so no entry
    have hnil : log = [] := by
      apply List.eq_nil_iff_forall_not_mem.2
      intro entry hmem
      simpa using h entry hmem
    simp [hnil]
  | succ n ih =>
    -- the entries with the last number are set apart from the others
    let front := log.filter fun entry => entry.1 < n
    let back := log.filter fun entry => !decide (entry.1 < n)
    have hfront : ∀ entry ∈ front, entry.1 < n := by
      intro entry hmem
      simpa using (List.mem_filter.1 hmem).2
    have hsame : ∀ i ∈ List.range n, entriesOf i front = entriesOf i log := by
      intro i hi
      have hlt : i < n := List.mem_range.1 hi
      rw [entriesOf, List.filterMap_filter]
      apply List.filterMap_congr
      intro entry _
      by_cases hentry : entry.1 = i
      · simp [hentry, hlt]
      · simp [hentry]
    have hback : back.map Prod.snd = entriesOf n log := by
      rw [← List.filterMap_eq_map, List.filterMap_filter]
      apply List.filterMap_congr
      intro entry hmem
      have hlt := h entry hmem
      by_cases hentry : entry.1 = n
      · simp [hentry]
      · have hless : entry.1 < n := by omega
        simp [hentry, hless]
    calc
      log.map Prod.snd ~ (front ++ back).map Prod.snd :=
        ((List.filter_append_perm _ log).map Prod.snd).symm
      _ = front.map Prod.snd ++ back.map Prod.snd := List.map_append
      _ ~ ((List.range n).flatMap fun i => entriesOf i front) ++ back.map Prod.snd :=
        (ih front hfront).append_right _
      _ = (List.range (n + 1)).flatMap fun i => entriesOf i log := by
        simp [List.range_succ, List.flatMap_congr hsame, hback]

/-! ## Beginnings -/

theorem prefix_entriesOf {log log' : List (Nat × β)} (h : log <+: log') (i : Nat) :
    entriesOf i log <+: entriesOf i log' :=
  h.filterMap _

/-- Numbers and entries together make up a log. -/
theorem prefix_of_map {log log' : List (Nat × β)}
    (hnumbers : log.map Prod.fst <+: log'.map Prod.fst)
    (hentries : log.map Prod.snd <+: log'.map Prod.snd) : log <+: log' := by
  induction log generalizing log' with
  | nil => exact List.nil_prefix
  | cons entry rest ih =>
    cases log' with
    | nil => simp at hnumbers
    | cons entry' rest' =>
      rcases List.cons_prefix_cons.1 hnumbers with ⟨hnumber, hnumbers⟩
      rcases List.cons_prefix_cons.1 hentries with ⟨hentry, hentries⟩
      exact List.cons_prefix_cons.2 ⟨Prod.ext hnumber hentry, ih hnumbers hentries⟩

/-- What is the same for entries of one number begins alike where the numbers do. -/
theorem prefix_map_of_agree {f : Nat × β → γ} {log log' : List (Nat × β)}
    (hnumbers : log.map Prod.fst <+: log'.map Prod.fst)
    (hagree : ∀ entry ∈ log, ∀ entry' ∈ log', entry.1 = entry'.1 → f entry = f entry') :
    log.map f <+: log'.map f := by
  induction log generalizing log' with
  | nil => exact List.nil_prefix
  | cons entry rest ih =>
    cases log' with
    | nil => simp at hnumbers
    | cons entry' rest' =>
      rcases List.cons_prefix_cons.1 hnumbers with ⟨hnumber, hnumbers⟩
      refine List.cons_prefix_cons.2 ⟨hagree entry (by simp) entry' (by simp) hnumber, ?_⟩
      refine ih hnumbers ?_
      intro e he e' he' hsame
      exact hagree e (List.mem_cons_of_mem _ he) e' (List.mem_cons_of_mem _ he') hsame

end Numbered
end FieldPatch
