import FieldPatch.Proofs.Record.Revision

/-!
# The order of changes

Changes of distinct fields may be made in any order.

* `Keyed.lookup_perm`: with distinct keys, a look-up does not depend on the order of the entries;
* `Kind.exists_applyFields_iff`: a record takes all of the changes if and only if it takes each one
  of them alone;
* `Kind.applyFields_perm`: it is the same record that all orders lead to.
-/

namespace FieldPatch

open scoped List

theorem Keyed.lookup_perm {κ β : Type} [BEq κ] [LawfulBEq κ] {entries entries' : List (κ × β)}
    (h : entries ~ entries') (hkeys : (entries.map Prod.fst).Nodup) (key : κ) :
    entries.lookup key = entries'.lookup key := by
  have hkeys' : (entries'.map Prod.fst).Nodup := (h.map Prod.fst).nodup_iff.1 hkeys
  apply Option.ext
  intro value
  calc
    entries.lookup key = some value ↔ (key, value) ∈ entries := lookup_iff_mem hkeys
    _ ↔ (key, value) ∈ entries' := h.mem_iff
    _ ↔ entries'.lookup key = some value := (lookup_iff_mem hkeys').symm

namespace Kind

open Server

variable {k : Kind} {changes changes' : List (String × Json)}

/-- The order of the changes decides about the error only. -/
theorem exists_applyFields_iff (hkeys : (changes.map Prod.fst).Nodup) (r : k.Record) :
    (∃ r', applyFields changes r = .ok r') ↔
      ∀ change ∈ changes, ∃ r', Entity.applyField change.1 change.2 r = .ok r' := by
  rcases applyFields_cases k changes hkeys with
    ⟨before, field, value, after, e, hsplit, _, _, hrefused, herror⟩ | ⟨hall, hrun⟩
  · -- one change is refused, and so are all changes together
    have hmem : (field, value) ∈ changes := by simp [hsplit]
    constructor
    · rintro ⟨r', hr'⟩
      simp [herror r] at hr'
    · intro haccepted
      rcases haccepted (field, value) hmem with ⟨r', hr'⟩
      simp [hrefused r] at hr'
  · constructor
    · intro _ change hmem
      exact hall change hmem r
    · intro _
      rcases hrun r with ⟨r', hr', _⟩
      exact ⟨r', hr'⟩

theorem applyFields_perm (h : changes ~ changes') (hkeys : (changes.map Prod.fst).Nodup)
    {r r' : k.Record} (hok : applyFields changes r = .ok r') : applyFields changes' r = .ok r' := by
  have hkeys' : (changes'.map Prod.fst).Nodup := (h.map Prod.fst).nodup_iff.1 hkeys
  -- what is accepted one by one in one order is so in the other
  have haccepted := (exists_applyFields_iff hkeys r).1 ⟨r', hok⟩
  rcases applyFields_cases k changes' hkeys' with
    ⟨before, field, value, after, e, hsplit, _, _, hrefused, _⟩ | ⟨_, hrun'⟩
  · have hmem : (field, value) ∈ changes := h.mem_iff.2 (by simp [hsplit])
    rcases haccepted (field, value) hmem with ⟨r₁, hr₁⟩
    simp [hrefused r] at hr₁
  rcases applyFields_cases k changes hkeys with ⟨_, _, _, _, e, _, _, _, _, herror⟩ | ⟨_, hrun⟩
  · simp [herror r] at hok
  rcases hrun r with ⟨r₁, hr₁, hid₁, hcontent₁⟩
  rcases hrun' r with ⟨r₂, hr₂, hid₂, hcontent₂⟩
  have hsame : r₁ = r' := by simpa [hr₁] using hok
  subst hsame
  have hequal : r₂ = r₁ := by
    apply ext_content? (hid₂.trans hid₁.symm)
    intro field
    simp only [hcontent₁, hcontent₂, Keyed.lookup_perm h hkeys]
  simpa [hequal] using hr₂

end Kind
end FieldPatch
