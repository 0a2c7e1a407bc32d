import FieldPatch.Decode.Layout
import FieldPatch.Entity
import FieldPatch.Json.Object.Lemmas
import Mathlib.Data.List.Forall2

/-!
# What layouts read back

A layout reads the value whose fields have been written one by one, from an object or from an array.

* `Decode.word_toJson`, `Decode.double_ofFloat`, `Decode.list_map`: single values are read as they
  were written;
* `Decode.Layout.Encodes`: the members as which a value is written, with the rules by which layouts
  are put together;
* `Decode.Layout.Encodes.decode_object`: the value is read from every object that has the members,
  whatever else is in the object;
* `Decode.Layout.Encodes.decode_array`: it is read from the values of the members in their order;
* `Decode.ReadsBack`, `Decode.Layout.Encodes.readsBack`: both forms, where the names are distinct;
* `Decode.Layout.decode_object_error`: one wrong value decides, if the others are right.
-/

namespace FieldPatch

/-- The object has all members of the other one. What else it has, has other keys. -/
def Json.Object.Extends (o base : Json.Object) : Prop :=
  ∀ key value, base.get? key = some value → o.get? key = some value

theorem Json.Object.Extends.refl (o : Json.Object) : o.Extends o :=
  fun _ _ h => h

/-- An object that extends the object of some members has these members. -/
theorem Json.Object.Extends.get?_eq {o : Json.Object} {members : List (String × Json)}
    (h : o.Extends (.ofMembers members)) (hdistinct : (members.map Prod.fst).Nodup) :
    ∀ m ∈ members, o.get? m.1 = some m.2 := by
  intro m hm
  apply h
  rw [get?_ofMembers, Keyed.lookup_reverse hdistinct]
  exact Keyed.lookup_of_mem hdistinct hm

namespace Decode

/-- The value is read from its members in both forms. -/
structure ReadsBack {α : Type} (decode : Decoder α) (members : List (String × Json)) (value : α) :
    Prop where
  own : decode (Json.Object.ofMembers members).toJson = .ok value
  /-- Keys that the value does not have make no difference. -/
  extended : ∀ o : Json.Object, o.Extends (.ofMembers members) → decode o.toJson = .ok value
  array : decode (.array (members.map Prod.snd)) = .ok value

/-! ## Single values -/

theorem word_toJson (expected : String) (id : UInt64) :
    word expected (Identifier.toJson id) = .ok id := by
  have hnegative : ¬ (id.toNat : Int) < 0 := Int.not_lt.2 (Int.natCast_nonneg _)
  have hsize : (id.toNat : Int).toNat < UInt64.size := id.toNat_lt
  change word expected (.ofInt id.toNat) = .ok id
  simp only [word, Json.ofInt, hnegative, hsize, if_true, if_false]
  rw [Int.toNat_natCast, UInt64.ofNat_toNat]

theorem double_ofFloat {x : Float} (h : x.isFinite) : double (.ofFloat x) = .ok x := by
  simp [Json.ofFloat, h, double, expecting, Json.number?, Json.Number.toFloat]

theorem list_map {α : Type} {item : Decoder α} {encode : α → Json}
    (h : ∀ a, item (encode a) = .ok a) (items : List α) :
    list item (.array (items.map encode)) = .ok items := by
  have hitems : (items.map encode).mapM item = .ok items := by
    induction items with
    | nil => rfl
    | cons a rest ih =>
      rw [List.map_cons, List.mapM_cons, h a, ih]
      rfl
  exact hitems

/-! ## Checks -/

/-- The member has the name of the column and a value that the column takes. -/
def Column.Takes (column : Column) (m : String × Json) : Prop :=
  column.name = m.1 ∧ column.check m.2 = .ok ()

namespace Layout

variable {α β : Type} {columns : List Column}

theorem checkMembers_append (columns : List Column) (members members' : List (String × Json)) :
    checkMembers columns (members ++ members') =
      (checkMembers columns members >>= fun _ => checkMembers columns members') := by
  induction members with
  | nil => rfl
  | cons m rest ih =>
    rcases m with ⟨key, value⟩
    simp only [List.cons_append, checkMembers]
    cases columns.find? (·.name == key) with
    | none => exact ih
    | some column =>
      simp only [ih]
      cases column.check value with
      | error e => rfl
      | ok _ => rfl

/-- Members are in order if each of them that names a field has a value for it. -/
theorem checkMembers_eq_ok {members : List (String × Json)}
    (h : ∀ m ∈ members, ∀ column ∈ columns, column.name = m.1 → column.check m.2 = .ok ()) :
    checkMembers columns members = .ok () := by
  induction members with
  | nil => rfl
  | cons m rest ih =>
    rcases m with ⟨key, value⟩
    have hrest := ih fun m hm => h m (List.mem_cons_of_mem _ hm)
    simp only [checkMembers]
    cases hfind : columns.find? (·.name == key) with
    | none => exact hrest
    | some column =>
      have hname : column.name = key := by simpa using List.find?_some hfind
      have hcheck := h _ List.mem_cons_self column (List.mem_of_find?_eq_some hfind) hname
      simp only [hcheck]
      exact hrest

theorem checkItems_eq_ok {members : List (String × Json)}
    (h : List.Forall₂ Column.Takes columns members) :
    checkItems columns (members.map Prod.snd) = .ok () := by
  induction h with
  | nil => rfl
  | cons hhead _ ih =>
    simp only [List.map_cons, checkItems, hhead.2]
    exact ih

theorem exists_takes {members : List (String × Json)} {column : Column}
    (h : List.Forall₂ Column.Takes columns members) (hcolumn : column ∈ columns) :
    ∃ m ∈ members, column.Takes m := by
  induction h with
  | nil => cases hcolumn
  | cons hhead _ ih =>
    rcases List.mem_cons.1 hcolumn with hfirst | hrest
    · exact ⟨_, List.mem_cons_self, hfirst ▸ hhead⟩
    · rcases ih hrest with ⟨m, hm, htakes⟩
      exact ⟨m, List.mem_cons_of_mem _ hm, htakes⟩

theorem map_name_eq {members : List (String × Json)}
    (h : List.Forall₂ Column.Takes columns members) :
    columns.map Column.name = members.map Prod.fst := by
  induction h with
  | nil => rfl
  | cons hhead _ ih => rw [List.map_cons, List.map_cons, hhead.1, ih]

/-! ## Written values -/

/-- The value is written as these members, and the layout reads it wherever they are found. -/
structure Encodes (layout : Layout α) (members : List (String × Json)) (value : α) : Prop where
  takes : List.Forall₂ Column.Takes layout.columns members
  build_eq : ∀ look : String → Option Json, (∀ m ∈ members, look m.1 = some m.2) →
    layout.build look = .ok value

theorem encodes_pure (value : α) : (pure value : Layout α).Encodes [] value :=
  ⟨.nil, fun _ _ => rfl⟩

theorem encodes_required (name : String) {decode : Decoder α} {json : Json} {value : α}
    (h : decode json = .ok value) : (required name decode).Encodes [(name, json)] value := by
  refine ⟨.cons ⟨rfl, ?_⟩ .nil, ?_⟩
  · simp [h, Except.map]
  · intro look hlook
    have hname : look name = some json := hlook _ List.mem_cons_self
    simp [required, hname, h]

theorem encodes_word (name : String) (id : UInt64) :
    (required name (word "u64")).Encodes [(name, Identifier.toJson id)] id :=
  encodes_required name (word_toJson "u64" id)

theorem encodes_text (name text : String) :
    (required name Decode.text).Encodes [(name, .string text)] text :=
  encodes_required name rfl

theorem encodes_truth (name : String) (b : Bool) :
    (required name truth).Encodes [(name, .bool b)] b :=
  encodes_required name rfl

theorem encodes_texts (name : String) (texts : List String) :
    (required name (list Decode.text)).Encodes [(name, .array (texts.map .string))] texts := by
  have htext (text : String) : Decode.text (.string text) = .ok text := rfl
  exact encodes_required name (list_map htext texts)

theorem encodes_double (name : String) {x : Float} (h : x.isFinite) :
    (required name double).Encodes [(name, .ofFloat x)] x :=
  encodes_required name (double_ofFloat h)

namespace Encodes

variable {members members' : List (String × Json)}

theorem seq {f : Layout (α → β)} {x : Layout α} {g : α → β} {value : α}
    (hf : f.Encodes members g) (hx : x.Encodes members' value) :
    (f <*> x).Encodes (members ++ members') (g value) := by
  refine ⟨List.rel_append hf.takes hx.takes, ?_⟩
  intro look hlook
  have hg := hf.build_eq look fun m hm => hlook m (List.mem_append_left _ hm)
  have hvalue := hx.build_eq look fun m hm => hlook m (List.mem_append_right _ hm)
  change (do
    let g ← f.build look
    let value ← x.build look
    return g value) = .ok (g value)
  rw [hg, hvalue]
  rfl

theorem map {layout : Layout α} {value : α} (h : layout.Encodes members value) (g : α → β) :
    (g <$> layout).Encodes members (g value) :=
  (encodes_pure g).seq h

variable {layout : Layout α} {value : α}

theorem decode_object (h : layout.Encodes members value) {o : Json.Object}
    (ho : ∀ m ∈ members, o.get? m.1 = some m.2) (expected : String) :
    layout.decode expected o.toJson = .ok value := by
  have hchecked : checkMembers layout.columns o.members = .ok () := by
    apply checkMembers_eq_ok
    intro m hm column hcolumn hname
    rcases exists_takes h.takes hcolumn with ⟨m', hm', hname', hcheck⟩
    -- the object has one value under the name of the column, the written one
    have hfound : o.get? column.name = some m.2 := hname ▸ o.mem_members_iff.1 hm
    have hwritten : o.get? column.name = some m'.2 := hname' ▸ ho m' hm'
    have hsame : m.2 = m'.2 := Option.some.inj (hfound.symm.trans hwritten)
    rw [hsame, hcheck]
  simp only [Json.Object.toJson, decode, Json.Object.ofMembers_members, hchecked]
  exact h.build_eq o.get? ho

theorem decode_array (h : layout.Encodes members value) (hdistinct : (members.map Prod.fst).Nodup)
    (expected : String) : layout.decode expected (.array (members.map Prod.snd)) = .ok value := by
  have hlength : layout.columns.length = members.length := h.takes.length_eq
  have hzip : (layout.columns.map Column.name).zip (members.map Prod.snd) = members := by
    rw [map_name_eq h.takes, ← List.unzip_fst, ← List.unzip_snd, List.zip_unzip]
  simp only [decode, checkItems_eq_ok h.takes, hzip, List.length_map, ← hlength]
  simp only [List.drop_length, List.any_nil, Nat.lt_irrefl, if_false]
  apply h.build_eq
  intro m hm
  exact Keyed.lookup_of_mem hdistinct hm

theorem readsBack (h : layout.Encodes members value) (hdistinct : (members.map Prod.fst).Nodup)
    (expected : String) : ReadsBack (layout.decode expected) members value := by
  have hextended (o : Json.Object) (ho : o.Extends (.ofMembers members)) :
      layout.decode expected o.toJson = .ok value :=
    h.decode_object (ho.get?_eq hdistinct) expected
  exact ⟨hextended _ (.refl _), hextended, h.decode_array hdistinct expected⟩

end Encodes

/-! ## Wrong values -/

/-- One wrong value decides about an object, if the other members have values for their columns. -/
theorem decode_object_error {layout : Layout α} {o : Json.Object} {key : String} {column : Column}
    {value : Json} {e : DecodeError}
    (hcolumn : layout.columns.find? (·.name == key) = some column)
    (hvalue : o.get? key = some value) (hwrong : column.check value = .error e)
    (hothers : ∀ other ∈ layout.columns, other.name ≠ key → ∀ value,
      o.get? other.name = some value → other.check value = .ok ()) (expected : String) :
    layout.decode expected o.toJson = .error e := by
  rcases List.append_of_mem (o.mem_members_iff.2 hvalue) with ⟨before, after, hmembers⟩
  have hkeys := Json.nodup_keys_of_ordered o.ordered
  have hbefore : checkMembers layout.columns before = .ok () := by
    apply checkMembers_eq_ok
    intro m hm other hother hname
    -- the key of the wrong value does not come before it
    have hne : other.name ≠ key := by
      intro hsame
      rw [hmembers, List.map_append, List.map_cons, List.nodup_append] at hkeys
      exact hkeys.2.2 m.1 (List.mem_map_of_mem hm) key List.mem_cons_self
        (hname.symm.trans hsame)
    refine hothers other hother hne m.2 ?_
    rw [hname, ← Json.Object.mem_members_iff, hmembers]
    exact List.mem_append_left _ hm
  have hchecked : checkMembers layout.columns o.members = .error e := by
    rw [hmembers, checkMembers_append, hbefore]
    simp only [checkMembers, hcolumn, hwrong]
    rfl
  simp only [Json.Object.toJson, decode, Json.Object.ofMembers_members, hchecked]
  rfl

end Layout
end Decode
end FieldPatch
