import FieldPatch.Proofs.Record.Changes

/-!
# One field at a time

A change of a field, seen in the record and in its JSON. It replaces the value under one key and
nothing else, or it leaves the record and says what is wrong with the field.

* `Field.Complains`: readings that fail with a complaint about the value of their field;
* `Kind.complains_change`, `Kind.change_of_not_mem`: why a change is refused, for the fields
  of a kind and for all other names;
* `Kind.written`: what a record writes of a value that it has accepted;
* `Kind.Focused`: records that differ in one field, which holds what a value stands for;
* `Kind.change_of_error`: a record that refuses a change in place is as it was;
* `Kind.change_focused`: every change of a record is of this sort, or is refused for the reason that
  the name of the field gives.
-/

namespace FieldPatch

theorem Json.map_string_of_mapM_text? {items : List Json} {texts : List String}
    (h : items.mapM Json.text? = some texts) : texts.map .string = items := by
  induction items generalizing texts with
  | nil =>
    cases h
    rfl
  | cons item rest ih =>
    cases item with
    | string s =>
      cases hrest : rest.mapM text? with
      | none => simp [List.mapM_cons, text?, hrest] at h
      | some others =>
        obtain rfl : s :: others = texts := by simpa [List.mapM_cons, text?, hrest] using h
        simp [ih hrest]
    | _ => simp [List.mapM_cons, text?] at h

/-! ## Complaints -/

namespace Field

variable {α β : Type} {field : String}

/-- If there is no result, the value is what is wrong. -/
def Complains (field : String) (reading : Except FieldError α) : Prop :=
  ∀ e, reading = .error e → ∃ reason, e = .invalidValue field reason

theorem complains_ok (a : α) : Complains field (.ok a) :=
  nofun

theorem complains_error (reason : String) :
    Complains (α := α) field (.error (.invalidValue field reason)) := by
  rintro e ⟨⟩
  exact ⟨reason, rfl⟩

theorem Complains.bind {reading : Except FieldError α} {next : α → Except FieldError β}
    (h : Complains field reading) (hnext : ∀ a, Complains field (next a)) :
    Complains field (reading >>= next) := by
  cases reading with
  | error e =>
    rcases h e rfl with ⟨reason, rfl⟩
    exact complains_error reason
  | ok a => exact hnext a

/-- What is read may be put into a record. -/
theorem Complains.put {reading : Except FieldError α} (h : Complains field reading)
    (put : α → β → β) (r : β) :
    Complains field (Edit.run (do
      let r ← get
      set (put (← reading) r)) r).1 := by
  rw [Edit.run_put]
  cases reading with
  | error e =>
    rcases h e rfl with ⟨reason, rfl⟩
    exact complains_error reason
  | ok a => exact complains_ok ()

theorem complains_mapM {read : α → Except FieldError β} (h : ∀ a, Complains field (read a))
    (items : List α) : Complains field (items.mapM read) := by
  induction items with
  | nil => exact complains_ok []
  | cons item rest ih =>
    simp only [List.mapM_cons]
    exact (h item).bind fun first => ih.bind fun others => complains_ok (first :: others)

theorem complains_expect (reason : String) (o : Option α) :
    Complains field (expect field reason o) := by
  cases o with
  | none => exact complains_error reason
  | some a => exact complains_ok a

theorem complains_stringsValue (value : Json) : Complains field (stringsValue field value) :=
  (complains_expect _ _).bind (complains_mapM fun _ => complains_expect _ _)

theorem complains_choiceValue (choices : List Choice) (value : Json) :
    Complains field (choiceValue field choices value) := by
  refine (complains_expect _ _).bind fun raw => ?_
  split
  · exact complains_ok raw
  · exact complains_error _

end Field

theorem Account.complains_nameValue {field : String} (value : Json) :
    Field.Complains field (nameValue field value) := by
  refine (Field.complains_expect _ _).bind fun name => ?_
  split
  · exact Field.complains_error _
  · exact Field.complains_ok name

theorem TimeLog.complains_hoursValue {field : String} (value : Json) :
    Field.Complains field (hoursValue field value) := by
  refine (Field.complains_expect _ _).bind fun hours => ?_
  split
  · exact Field.complains_error _
  · exact Field.complains_ok hours

namespace Kind

variable {k : Kind} {field : String} {value : Json}

/-! ## Refusals -/

/-- The names that stand for something to be read from a record only. -/
def readOnlyFields : Kind → List String
  | .contact => ["full_name"]
  | .account => []
  | .case => []
  | .timeLog => ["user"]

/-- A field of the kind refuses values only. -/
theorem complains_change (hfield : field ∈ k.fieldNames) (value : Json) (r : k.Record) :
    Field.Complains field (Entity.change field value r).1 := by
  cases k with
  | contact =>
    simp only [fieldNames, List.mem_cons, List.not_mem_nil, or_false] at hfield
    rcases hfield with rfl | rfl | rfl | rfl | rfl
    · exact (Field.complains_expect _ _).put _ r
    · exact (Field.complains_expect _ _).put _ r
    · exact (Field.complains_expect _ _).put _ r
    · exact (Field.complains_stringsValue value).put _ r
    · exact (Field.complains_choiceValue _ value).put _ r
  | account =>
    simp only [fieldNames, List.mem_cons, List.not_mem_nil, or_false] at hfield
    rcases hfield with rfl | rfl | rfl | rfl
    · exact (Account.complains_nameValue value).put _ r
    · exact (Field.complains_expect _ _).put _ r
    · exact (Field.complains_expect _ _).put _ r
    · exact (Field.complains_choiceValue _ value).put _ r
  | case =>
    simp only [fieldNames, List.mem_cons, List.not_mem_nil, or_false] at hfield
    rcases hfield with rfl | rfl | rfl | rfl | rfl | rfl
    · exact (Field.complains_expect _ _).put _ r
    · exact (Field.complains_expect _ _).put _ r
    · exact (Field.complains_choiceValue _ value).put _ r
    · exact (Field.complains_choiceValue _ value).put _ r
    · exact (Field.complains_choiceValue _ value).put _ r
    · exact (Field.complains_expect _ _).put _ r
  | timeLog =>
    simp only [fieldNames, List.mem_cons, List.not_mem_nil, or_false] at hfield
    rcases hfield with rfl | rfl | rfl
    · exact (Field.complains_expect _ _).put _ r
    · exact (TimeLog.complains_hoursValue value).put _ r
    · exact (Field.complains_expect _ _).put _ r

/-- Any other name is refused for itself, whatever the value. -/
theorem change_of_not_mem (hfield : field ∉ k.fieldNames) (value : Json) (r : k.Record) :
    Entity.change field value r =
      (.error (if field ∈ k.readOnlyFields then .readOnly field else .unknownField field), r) := by
  -- the cases of the fields are ruled out, and those that are left assign nothing
  cases k with
  | contact =>
    change (Contact.edit field value).run r = _
    unfold Contact.edit
    split <;> simp_all [fieldNames, readOnlyFields]
  | account =>
    change (Account.edit field value).run r = _
    unfold Account.edit
    split <;> simp_all [fieldNames, readOnlyFields]
  | case =>
    change (Case.edit field value).run r = _
    unfold Case.edit
    split <;> simp_all [fieldNames, readOnlyFields]
  | timeLog =>
    change (TimeLog.edit field value).run r = _
    unfold TimeLog.edit
    split <;> simp_all [fieldNames, readOnlyFields]

theorem not_mem_readOnlyFields (hfield : field ∈ k.fieldNames) : field ∉ k.readOnlyFields := by
  have hall : ∀ name ∈ k.fieldNames, name ∉ k.readOnlyFields := by
    cases k <;> decide
  exact hall field hfield

/-! ## Written values -/

/-- What a record writes of a value that it has taken for a field. Hours are written as a double,
and everything else is written as it came. -/
def written (field : String) (value : Json) : Json :=
  match field, value with
  | "hours_logged", .number n => .ofFloat n.toFloat
  | _, value => value

/-- The field with the hours is the only one that holds a number. -/
theorem hours_iff {r : k.Record} {c : Content} (h : content? r field = some c) :
    (∃ x, c = .hours x) ↔ field = "hours_logged" := by
  have hall : ∀ e ∈ contents r, (∃ x, e.2 = .hours x) ↔ e.1 = "hours_logged" := by
    cases k <;>
      simp [contents, Contact.contents, Account.contents, Case.contents, TimeLog.contents]
  exact hall (field, c) (Keyed.mem_of_lookup h)

theorem toJson_eq_written {r : k.Record} {c : Content} (h : content? r field = some c)
    (hvalue : Content.ofJson? value = some c) : c.toJson = written field value := by
  have hhours := hours_iff h
  cases value with
  | null => cases hvalue
  | bool b =>
    cases hvalue
    simp [written, Content.toJson]
  | number n =>
    cases hvalue
    -- no other field would have taken a number
    obtain rfl : field = "hours_logged" := hhours.1 ⟨_, rfl⟩
    rfl
  | string s =>
    cases hvalue
    simp [written, Content.toJson]
  | array items =>
    rcases Option.map_eq_some_iff.1 hvalue with ⟨texts, htexts, rfl⟩
    simp [written, Content.toJson, Json.map_string_of_mapM_text? htexts]
  | object members => cases hvalue

/-! ## Accepted changes -/

/-- The second record is the first one with a value put into one of its fields. All else is as it
was, and so is its JSON but for the value under the key of the field. -/
structure Focused (field : String) (value : Json) (r r' : k.Record) : Prop where
  id_eq : Entity.id r' = Entity.id r
  content?_eq : ∀ name, name ≠ field → content? r' name = content? r name
  encode_eq : Entity.encode r' = .ok ((toObject r).insert field (written field value)).toJson

theorem mem_keys_toObject_iff (r : k.Record) :
    field ∈ (toObject r).keys ↔ field = idKey ∨ field ∈ k.fieldNames := by
  calc
    field ∈ (toObject r).keys ↔ ((toObject r).get? field).isSome := Keyed.isSome_lookup_iff.symm
    _ ↔ field = idKey ∨ (content? r field).isSome := by
      by_cases hfield : field = idKey <;> simp [get?_toObject, hfield]
    _ ↔ field = idKey ∨ field ∈ k.fieldNames := by
      simp [isSome_content?_iff]

theorem focused_of_applyField {r r' : k.Record} (h : Entity.applyField field value r = .ok r') :
    Focused field value r r' := by
  rcases applyField_ok h with ⟨c, hvalue, hid, hcontent⟩
  have hfield : content? r' field = some c := by simpa using hcontent field
  have hmem : field ∈ k.fieldNames := (isSome_content?_iff r' field).1 (by simp [hfield])
  have hne : field ≠ idKey := ne_idKey_of_mem hmem
  refine ⟨hid, fun name hname => by simpa [hname] using hcontent name, ?_⟩
  have hobject : toObject r' = (toObject r).insert field (written field value) := by
    -- members are kept in the order of their keys, so it is enough to look up each key
    apply Json.Object.ext_get?
    intro key
    by_cases hkey : key = field
    · simp [hkey, get?_toObject, hne, hfield, toJson_eq_written hfield hvalue]
    · simp [get?_toObject, Json.Object.get?_insert, hkey, hid, hcontent key]
  simpa [hobject] using encode_record r'

/-- The names of the fields are the keys of the JSON, without the one of the identifier. -/
theorem mem_fieldNames_iff_mem_keys (r : k.Record) :
    field ∈ k.fieldNames ↔ field ∈ (toObject r).keys ∧ field ≠ idKey := by
  rw [mem_keys_toObject_iff]
  constructor
  · intro hfield
    exact ⟨.inr hfield, ne_idKey_of_mem hfield⟩
  · rintro ⟨hkey, hne⟩
    exact hkey.resolve_left hne

theorem exists_change_iff_mem_fieldNames (r : k.Record) :
    (∃ value r', Entity.change field value r = (.ok (), r')) ↔ field ∈ k.fieldNames := by
  simp only [← Entity.applyField_eq_ok_iff]
  constructor
  · rintro ⟨value, r', hr'⟩
    exact mem_fieldNames_of_accepts r (accepts_of_applyField hr')
  · intro hfield
    rcases patchable_iff.2 hfield with ⟨value, r₀, r₀', hr₀'⟩
    exact ⟨value, accepts_of_applyField hr₀' r⟩

/-! ## All changes -/

/-- A record that refuses a change is left as it was: nothing is assigned to it before the value has
been found valid. -/
theorem change_of_error {r r' : k.Record} {e : FieldError}
    (h : Entity.change field value r = (.error e, r')) : r' = r := by
  rcases change_cases k field value with ⟨e', _, hrefused⟩ | ⟨content, _, haccepted⟩
  · exact congrArg Prod.snd (h.symm.trans (hrefused r))
  · rcases haccepted r with ⟨r₁, hchange, _⟩
    -- a change that is accepted reports no error
    cases congrArg Prod.fst (h.symm.trans hchange)

/-- A record is written with its identifier and its fields, and these fields are the ones that some
value is accepted for. A change that is accepted puts the value there and touches nothing else. One
that is refused leaves the record, and its error tells what the name is: one that can only be read,
one that is unknown, or a field for which the value is not valid. -/
theorem change_focused (k : Kind) (r : k.Record) (field : String) :
    Entity.encode r = .ok (toObject r).toJson ∧
    ((∃ value r', Entity.change field value r = (.ok (), r')) ↔
      field ∈ (toObject r).keys ∧ field ≠ idKey) ∧
    ∀ value r',
      (Entity.change field value r = (.ok (), r') → Focused field value r r') ∧
      ∀ e, Entity.change field value r = (.error e, r') →
        r' = r ∧
        (field ∈ k.readOnlyFields → e = .readOnly field) ∧
        (field ∉ k.readOnlyFields → ¬ (field ∈ (toObject r).keys ∧ field ≠ idKey) →
          e = .unknownField field) ∧
        (field ∈ (toObject r).keys ∧ field ≠ idKey → ∃ reason, e = .invalidValue field reason) := by
  have hkeys : field ∈ k.fieldNames ↔ field ∈ (toObject r).keys ∧ field ≠ idKey :=
    mem_fieldNames_iff_mem_keys r
  refine ⟨encode_record r, (exists_change_iff_mem_fieldNames r).trans hkeys, fun value r' => ?_⟩
  refine ⟨fun hr' => focused_of_applyField (Entity.applyField_eq_ok_iff.2 hr'), fun e hchange => ?_⟩
  have he : (Entity.change field value r).1 = .error e := congrArg Prod.fst hchange
  refine ⟨change_of_error hchange, fun hreadOnly => ?_, fun hother hfield => ?_, fun hfield => ?_⟩
  · -- no field of the kind is among the names that can only be read
    have hfield : field ∉ k.fieldNames := fun hmem => not_mem_readOnlyFields hmem hreadOnly
    simpa [change_of_not_mem hfield, hreadOnly, eq_comm] using he
  · have hunknown : field ∉ k.fieldNames := fun hmem => hfield (hkeys.1 hmem)
    simpa [change_of_not_mem hunknown, hother, eq_comm] using he
  · exact complains_change (hkeys.2 hfield) value r e he

/-- The hours of a time log take an integer and are written as a double; they do not take a text,
and the user takes nothing. -/
theorem change_focused_hours :
    let r : TimeLog := ⟨7, "Call", 0.5, false⟩
    Focused (k := .timeLog) "hours_logged" (.ofInt 2) r ⟨7, "Call", 2, false⟩ ∧
      written "hours_logged" (.ofInt 2) = .ofFloat 2 ∧
      (∃ reason, Entity.change "hours_logged" (.string "2") r =
        (.error (.invalidValue "hours_logged" reason), r)) ∧
      Entity.change "user" (.string "bob") r = (.error (.readOnly "user"), r) ∧
      Entity.change "id" (.ofInt 8) r = (.error (.unknownField "id"), r) := by
  intro r
  have hhours := (change_focused .timeLog r "hours_logged").2.2
  have hkey : "hours_logged" ∈ (toObject (k := .timeLog) r).keys ∧ "hours_logged" ≠ idKey :=
    (change_focused .timeLog r "hours_logged").2.1.1 ⟨.ofInt 2, ⟨7, "Call", 2, false⟩, rfl⟩
  refine ⟨(hhours (.ofInt 2) _).1 rfl, rfl, ?_, ?_, ?_⟩
  · rcases (hhours (.string "2") _).2 _ rfl with ⟨hleft, _, _, hinvalid⟩
    rcases hinvalid hkey with ⟨reason, hreason⟩
    exact ⟨reason, Prod.ext (congrArg Except.error hreason) hleft⟩
  · rcases ((change_focused .timeLog r "user").2.2 (.string "bob") _).2 _ rfl with
      ⟨hleft, hreadOnly, _⟩
    exact Prod.ext (congrArg Except.error (hreadOnly (by decide))) hleft
  · rcases ((change_focused .timeLog r "id").2.2 (.ofInt 8) _).2 _ rfl with
      ⟨hleft, _, hunknown, _⟩
    have he := hunknown (by decide) (fun h => h.2 rfl)
    exact Prod.ext (congrArg Except.error he) hleft

end Kind
end FieldPatch
