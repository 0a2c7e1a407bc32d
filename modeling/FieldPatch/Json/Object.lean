import FieldPatch.Json.Basic

/-!
# JSON objects

An object keeps its members in strictly increasing order of the keys, so each key occurs once and
an object is determined by its look-ups. Keys compare character by character.

* `Object`: the members with the proof of their order;
* `Object.insert`, `Object.erase`, `Object.get?`: the operations of a map;
* `Object.ofMembers`: any list of members, of which the last with a key counts.
-/

namespace FieldPatch
namespace Json

/-- The key of each member comes before the keys of all later ones. -/
abbrev Ordered (members : List (String × Json)) : Prop :=
  members.Pairwise fun a b => a.1 < b.1

@[ext]
structure Object where
  members : List (String × Json)
  ordered : Ordered members

/-! ## Inserting into a list of members -/

/-- Puts a member in the place of the one with its key, or between its neighbours. -/
def insertMember (key : String) (value : Json) : List (String × Json) → List (String × Json)
  | [] => [(key, value)]
  | (k, v) :: rest =>
    if key < k then (key, value) :: (k, v) :: rest
    else if k < key then (k, v) :: insertMember key value rest
    else (key, value) :: rest

theorem key_eq_of_not_lt {a b : String} (h : ¬ a < b) (h' : ¬ b < a) : a = b :=
  String.le_antisymm (String.not_lt.1 h') (String.not_lt.1 h)

theorem key_mem_insertMember {key k : String} {value : Json} {members : List (String × Json)}
    (h : k ∈ (insertMember key value members).map Prod.fst) :
    k = key ∨ k ∈ members.map Prod.fst := by
  induction members with
  | nil => simpa [insertMember] using h
  | cons m rest ih =>
    obtain ⟨k', v'⟩ := m
    simp only [insertMember] at h
    split at h
    · simpa using h
    · split at h
      · simp only [List.map_cons, List.mem_cons] at h ⊢
        rcases h with h | h
        · exact .inr (.inl h)
        · exact (ih h).imp_right .inr
      · simp only [List.map_cons, List.mem_cons] at h ⊢
        exact h.imp_right .inr

theorem ordered_insertMember (key : String) (value : Json) {members : List (String × Json)}
    (h : Ordered members) : Ordered (insertMember key value members) := by
  induction members with
  | nil => simp [insertMember, Ordered]
  | cons m rest ih =>
    obtain ⟨k, v⟩ := m
    have hrest := List.pairwise_cons.1 h
    simp only [insertMember]
    split
    · rename_i hlt
      refine List.pairwise_cons.2 ⟨fun m hm => ?_, h⟩
      rcases List.mem_cons.1 hm with rfl | hm
      · exact hlt
      · exact String.lt_trans hlt (hrest.1 m hm)
    · split
      · rename_i hlt
        refine List.pairwise_cons.2 ⟨fun m hm => ?_, ih hrest.2⟩
        rcases key_mem_insertMember (List.mem_map_of_mem hm) with he | he
        · exact he ▸ hlt
        · obtain ⟨m', hm', he⟩ := List.mem_map.1 he
          exact he ▸ hrest.1 m' hm'
      · rename_i hnot hnot'
        have he : key = k := key_eq_of_not_lt hnot hnot'
        exact List.pairwise_cons.2 ⟨fun m hm => he ▸ hrest.1 m hm, hrest.2⟩

/-! ## Objects as maps -/

namespace Object

def empty : Object := ⟨[], List.Pairwise.nil⟩

instance : Inhabited Object := ⟨empty⟩

def get? (o : Object) (key : String) : Option Json :=
  o.members.lookup key

def keys (o : Object) : List String :=
  o.members.map Prod.fst

def insert (o : Object) (key : String) (value : Json) : Object :=
  ⟨insertMember key value o.members, ordered_insertMember key value o.ordered⟩

def erase (o : Object) (key : String) : Object :=
  ⟨o.members.filter fun m => m.1 != key, o.ordered.filter _⟩

/-- The object of a list of members; of those with one key the last counts. -/
def ofMembers (members : List (String × Json)) : Object :=
  members.foldl (fun o m => o.insert m.1 m.2) empty

def toJson (o : Object) : Json :=
  .object o.members

end Object

/-- The value as an object. -/
def object? : Json → Option Object
  | .object members => some (Object.ofMembers members)
  | _ => none

/-- The member of an object with a key. -/
def member? (json : Json) (key : String) : Option Json :=
  json.object?.bind (·.get? key)

end Json
end FieldPatch
