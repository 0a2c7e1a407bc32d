import FieldPatch.Json.Object
import FieldPatch.Keyed

/-!
# Objects by their look-ups

What each operation on an object does to its look-ups, and that these determine the object.

* `get?_insert`, `get?_erase`, `get?_ofMembers`: one equation for each operation;
* `mem_members_iff`: the members are the keys with what is found under them;
* `ext_get?`: objects with the same look-ups are equal;
* `ofMembers_members`: an object is made of its own members.
-/

namespace FieldPatch
namespace Json

theorem lookup_insertMember (key k : String) (value : Json) (members : List (String × Json)) :
    (insertMember key value members).lookup k =
      if k = key then some value else members.lookup k := by
  induction members with
  | nil => simp [insertMember, Keyed.lookup_cons_ite]
  | cons m rest ih =>
    obtain ⟨k', v'⟩ := m
    by_cases hlt : key < k'
    · simp [insertMember, Keyed.lookup_cons_ite, hlt]
    · by_cases hlt' : k' < key
      · have hne : key ≠ k' := fun e => String.lt_irrefl key (e ▸ hlt')
        simp only [insertMember, hlt, hlt', if_false, if_true, Keyed.lookup_cons_ite, ih]
        by_cases hk : k = key
        · simp [hk, hne]
        · simp [hk]
      · obtain rfl := key_eq_of_not_lt hlt hlt'
        by_cases hk : k = key <;> simp [insertMember, Keyed.lookup_cons_ite, hk]

theorem nodup_keys_of_ordered {members : List (String × Json)} (h : Ordered members) :
    (members.map Prod.fst).Nodup := by
  have hkeys : (members.map Prod.fst).Pairwise (· < ·) := List.pairwise_map.2 h
  exact hkeys.imp fun hlt => String.ne_of_lt hlt

namespace Object

/-! ## Look-ups -/

@[simp] theorem get?_empty (key : String) : empty.get? key = none := rfl

theorem get?_insert (o : Object) (key k : String) (value : Json) :
    (o.insert key value).get? k = if k = key then some value else o.get? k :=
  lookup_insertMember key k value o.members

@[simp] theorem get?_insert_self (o : Object) (key : String) (value : Json) :
    (o.insert key value).get? key = some value := by
  simp [get?_insert]

theorem get?_insert_of_ne (o : Object) {key k : String} (value : Json) (h : k ≠ key) :
    (o.insert key value).get? k = o.get? k := by
  simp [get?_insert, h]

theorem mem_members_iff (o : Object) {key : String} {value : Json} :
    (key, value) ∈ o.members ↔ o.get? key = some value :=
  (Keyed.lookup_iff_mem (nodup_keys_of_ordered o.ordered)).symm

theorem get?_erase (o : Object) (key k : String) :
    (o.erase key).get? k = if k = key then none else o.get? k := by
  by_cases hk : k = key
  · subst hk
    rw [if_pos rfl, Option.eq_none_iff_forall_not_mem]
    intro value hvalue
    have hmem := (o.erase k).mem_members_iff.2 hvalue
    simp [erase] at hmem
  · rw [if_neg hk]
    apply Option.ext
    intro value
    rw [← mem_members_iff, ← mem_members_iff]
    simp [erase, hk]

/-! ## Equality -/

/-- Members in order are determined by the pairs among them. -/
theorem members_eq_of_mem_iff {l l' : List (String × Json)} (h : Ordered l) (h' : Ordered l')
    (hmem : ∀ m, m ∈ l ↔ m ∈ l') : l = l' := by
  induction l generalizing l' with
  | nil =>
    cases l' with
    | nil => rfl
    | cons m rest => simpa using (hmem m).2 List.mem_cons_self
  | cons m rest ih =>
    cases l' with
    | nil => simpa using (hmem m).1 List.mem_cons_self
    | cons m' rest' =>
      have hp := List.pairwise_cons.1 h
      have hp' := List.pairwise_cons.1 h'
      -- the head of each list is among the other, and nothing comes before a head
      have hhead : m = m' := by
        rcases List.mem_cons.1 ((hmem m).1 List.mem_cons_self) with he | hm
        · exact he
        · rcases List.mem_cons.1 ((hmem m').2 List.mem_cons_self) with he | hm'
          · exact he.symm
          · exact absurd (String.lt_trans (hp.1 _ hm') (hp'.1 _ hm)) (String.lt_irrefl _)
      subst hhead
      refine congrArg (m :: ·) (ih hp.2 hp'.2 fun x => ⟨fun hx => ?_, fun hx => ?_⟩)
      · rcases List.mem_cons.1 ((hmem x).1 (List.mem_cons_of_mem _ hx)) with he | hx'
        · exact absurd (he ▸ hp.1 _ hx) (String.lt_irrefl _)
        · exact hx'
      · rcases List.mem_cons.1 ((hmem x).2 (List.mem_cons_of_mem _ hx)) with he | hx'
        · exact absurd (he ▸ hp'.1 _ hx) (String.lt_irrefl _)
        · exact hx'

theorem ext_get? {o o' : Object} (h : ∀ key, o.get? key = o'.get? key) : o = o' := by
  apply Object.ext
  refine members_eq_of_mem_iff o.ordered o'.ordered fun m => ?_
  rw [mem_members_iff, mem_members_iff, h]

/-! ## Objects of members -/

theorem get?_foldl_insert (members : List (String × Json)) (o : Object) (key : String) :
    (members.foldl (fun o m => o.insert m.1 m.2) o).get? key =
      (members.reverse.lookup key).or (o.get? key) := by
  induction members generalizing o with
  | nil => simp
  | cons m rest ih =>
    obtain ⟨k, v⟩ := m
    rw [List.foldl_cons, ih, get?_insert, List.reverse_cons, List.lookup_append,
      Keyed.lookup_cons_ite]
    by_cases hk : key = k <;> cases rest.reverse.lookup key <;> simp [hk]

/-- Of members with one key the last counts. -/
theorem get?_ofMembers (members : List (String × Json)) (key : String) :
    (ofMembers members).get? key = members.reverse.lookup key := by
  simp [ofMembers, get?_foldl_insert]

theorem ofMembers_members (o : Object) : ofMembers o.members = o := by
  apply ext_get?
  intro key
  rw [get?_ofMembers, Keyed.lookup_reverse (nodup_keys_of_ordered o.ordered), get?]

end Object
end Json
end FieldPatch
