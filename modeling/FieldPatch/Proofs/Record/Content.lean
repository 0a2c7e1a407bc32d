import FieldPatch.Keyed
import FieldPatch.Payload
import FieldPatch.Record

/-!
# The contents of records

A record is looked at field by field, apart from its identifier and from the way it is written.

* `Content`: what a field holds; `Content.ofJson?` is the content that a JSON value stands for;
* `Kind.contents`, `Kind.content?`: the contents of a record by the names of its fields;
* `Kind.Patchable`: the fields for which a kind accepts some value.

The main statement is `Kind.change_cases`. A change of a field is refused for every record of the
kind with one and the same error, and then the record stays as it was. Or it is accepted for every
record, puts the content of the value into that field, and touches neither the identifier nor
another field. `Kind.applyField_cases` is the same for a changed copy.
-/

namespace FieldPatch

inductive Content where
  | text (s : String)
  | truth (b : Bool)
  | texts (items : List String)
  | hours (x : Float)
deriving DecidableEq

namespace Content

/-- The content that a value stands for. A number counts as a double. -/
def ofJson? : Json → Option Content
  | .string s => some (.text s)
  | .bool b => some (.truth b)
  | .array items => (items.mapM Json.text?).map .texts
  | .number n => some (.hours n.toFloat)
  | _ => none

/-- A content as records write it. -/
def toJson : Content → Json
  | .text s => .string s
  | .truth b => .bool b
  | .texts items => .array (items.map .string)
  | .hours x => .ofFloat x

end Content

/-! ## Readings -/

namespace Field

variable {α ρ : Type} {field : String} {value : Json}

/-- A reading gives the content of the value, or it complains about its field. -/
def Reads (field : String) (value : Json) (content : α → Content) :
    Except FieldError α → Prop
  | .ok a => Content.ofJson? value = some (content a)
  | .error e => e.field = field

theorem reads_stringValue : Reads field value .text (stringValue field value) := by
  cases value <;> simp [Reads, stringValue, expect, Json.text?, FieldError.field, Content.ofJson?]

theorem reads_boolValue : Reads field value .truth (boolValue field value) := by
  cases value <;> simp [Reads, boolValue, expect, Json.truth?, FieldError.field, Content.ofJson?]

theorem reads_numberValue : Reads field value .hours (numberValue field value) := by
  cases value <;>
    simp [Reads, numberValue, expect, Json.number?, FieldError.field, Content.ofJson?]

theorem mapM_stringValue (field : String) (items : List Json) :
    match items.mapM (stringValue field) with
    | .ok texts => items.mapM Json.text? = some texts
    | .error e => e.field = field := by
  induction items with
  | nil => rfl
  | cons item rest ih =>
    cases item with
    | string s =>
      -- a text is passed, so that the rest decides
      simp only [List.mapM_cons, stringValue, Json.text?, expect]
      cases hrest : rest.mapM (stringValue field) with
      | error e =>
        have hfield : e.field = field := by simpa [hrest] using ih
        exact hfield
      | ok texts =>
        have htexts : rest.mapM Json.text? = some texts := by simpa [hrest] using ih
        simp [htexts]
        rfl
    | _ =>
      -- anything else is refused in the name of the field
      rfl

theorem reads_stringsValue : Reads field value .texts (stringsValue field value) := by
  cases value with
  | array items =>
    have hitems := mapM_stringValue field items
    change Reads field (.array items) .texts (items.mapM (stringValue field))
    cases hread : items.mapM (stringValue field) with
    | error e =>
      have hfield : e.field = field := by simpa [hread] using hitems
      exact hfield
    | ok texts =>
      have htexts : items.mapM Json.text? = some texts := by simpa [hread] using hitems
      simp [Reads, Content.ofJson?, htexts]
  | _ => rfl

/-- A reading stays one under a test that passes what was read, or refuses it. -/
theorem Reads.tested {content : α → Content} {reading : Except FieldError α}
    (h : Reads field value content reading) {test : α → Except FieldError α}
    (htest : ∀ a, test a = .ok a ∨ ∃ reason, test a = .error (.invalidValue field reason)) :
    Reads field value content (reading >>= test) := by
  cases reading with
  | error e => exact h
  | ok a =>
    change Reads field value content (test a)
    rcases htest a with hok | ⟨reason, herror⟩
    · simpa [hok] using h
    · simp [herror, Reads, FieldError.field]

theorem reads_choiceValue (choices : List Choice) :
    Reads field value .text (choiceValue field choices value) := by
  refine reads_stringValue.tested ?_
  intro raw
  by_cases hoffer : Choice.offers choices raw = true
  · exact .inl (if_pos hoffer)
  · exact .inr ⟨_, if_neg hoffer⟩

/-! ## Uniform changes -/

/-- Whether a change is refused, and with which error, is the same for all records. One that refuses
it is as it was. One that accepts it gets the content of the value into the field, and nothing else
in it is touched. -/
def Uniform (id : ρ → UInt64) (contents : ρ → List (String × Content)) (field : String)
    (value : Json) (edit : Edit ρ Unit) : Prop :=
  (∃ e : FieldError, e.field = field ∧ ∀ r, edit.run r = (.error e, r)) ∨
    ∃ content, Content.ofJson? value = some content ∧
      ∀ r, ∃ r', edit.run r = (.ok (), r') ∧ id r' = id r ∧
        ∀ name, (contents r').lookup name =
          if name = field then some content else (contents r).lookup name

/-- A change that puts what it reads into its field is uniform. -/
theorem Reads.uniform {id : ρ → UInt64} {contents : ρ → List (String × Content)}
    {content : α → Content} {reading : Except FieldError α}
    (h : Reads field value content reading) (put : α → ρ → ρ)
    (hid : ∀ a r, id (put a r) = id r)
    (hput : ∀ a r name, (contents (put a r)).lookup name =
      if name = field then some (content a) else (contents r).lookup name) :
    Uniform id contents field value (do
      let r ← get
      set (put (← reading) r)) := by
  cases reading with
  | error e => exact .inl ⟨e, h, Edit.run_put (.error e) put⟩
  | ok a =>
    refine .inr ⟨content a, h, fun r => ?_⟩
    exact ⟨put a r, Edit.run_put (.ok a) put r, hid a r, hput a r⟩

theorem uniform_refusal {id : ρ → UInt64} {contents : ρ → List (String × Content)}
    (e : FieldError) (h : e.field = field) :
    Uniform id contents field value (throw e) :=
  .inl ⟨e, h, Edit.run_throw e⟩

end Field

/-! ## The kinds one by one -/

namespace Contact

def contents (c : Contact) : List (String × Content) :=
  [("first_name", .text c.firstName), ("last_name", .text c.lastName),
    ("description", .text c.description), ("email_addresses", .texts c.emailAddresses),
    ("email_address_status", .text c.emailAddressStatus)]

theorem uniform_edit (field : String) (value : Json) :
    Field.Uniform id contents field value (edit field value) := by
  unfold edit
  -- one case for each field, then the field that must not be patched and all unknown fields
  split
  · exact Field.reads_stringValue.uniform (fun s (c : Contact) => { c with firstName := s })
      (fun _ _ => rfl) fun s c name => by grind [contents, Keyed.lookup_cons_ite]
  · exact Field.reads_stringValue.uniform (fun s (c : Contact) => { c with lastName := s })
      (fun _ _ => rfl) fun s c name => by grind [contents, Keyed.lookup_cons_ite]
  · exact Field.reads_stringValue.uniform (fun s (c : Contact) => { c with description := s })
      (fun _ _ => rfl) fun s c name => by grind [contents, Keyed.lookup_cons_ite]
  · exact Field.reads_stringsValue.uniform
      (fun items (c : Contact) => { c with emailAddresses := items })
      (fun _ _ => rfl) fun items c name => by grind [contents, Keyed.lookup_cons_ite]
  · exact (Field.reads_choiceValue _).uniform
      (fun s (c : Contact) => { c with emailAddressStatus := s })
      (fun _ _ => rfl) fun s c name => by grind [contents, Keyed.lookup_cons_ite]
  · exact Field.uniform_refusal _ rfl
  · exact Field.uniform_refusal _ rfl

end Contact

namespace Account

def contents (a : Account) : List (String × Content) :=
  [("name", .text a.name), ("description", .text a.description), ("website", .text a.website),
    ("status", .text a.status)]

theorem reads_nameValue {field : String} {value : Json} :
    Field.Reads field value .text (nameValue field value) := by
  refine Field.reads_stringValue.tested ?_
  intro name
  by_cases hblank : Text.allBlank name = true
  · exact .inr ⟨_, if_pos hblank⟩
  · exact .inl (if_neg hblank)

theorem uniform_edit (field : String) (value : Json) :
    Field.Uniform id contents field value (edit field value) := by
  unfold edit
  split
  · exact reads_nameValue.uniform (fun s (a : Account) => { a with name := s })
      (fun _ _ => rfl) fun s a name => by grind [contents, Keyed.lookup_cons_ite]
  · exact Field.reads_stringValue.uniform (fun s (a : Account) => { a with description := s })
      (fun _ _ => rfl) fun s a name => by grind [contents, Keyed.lookup_cons_ite]
  · exact Field.reads_stringValue.uniform (fun s (a : Account) => { a with website := s })
      (fun _ _ => rfl) fun s a name => by grind [contents, Keyed.lookup_cons_ite]
  · exact (Field.reads_choiceValue _).uniform (fun s (a : Account) => { a with status := s })
      (fun _ _ => rfl) fun s a name => by grind [contents, Keyed.lookup_cons_ite]
  · exact Field.uniform_refusal _ rfl

end Account

namespace Case

def contents (c : Case) : List (String × Content) :=
  [("subject", .text c.subject), ("description", .text c.description), ("status", .text c.status),
    ("priority", .text c.priority), ("type", .text c.type), ("is_archived", .truth c.isArchived)]

theorem uniform_edit (field : String) (value : Json) :
    Field.Uniform id contents field value (edit field value) := by
  unfold edit
  split
  · exact Field.reads_stringValue.uniform (fun s (c : Case) => { c with subject := s })
      (fun _ _ => rfl) fun s c name => by grind [contents, Keyed.lookup_cons_ite]
  · exact Field.reads_stringValue.uniform (fun s (c : Case) => { c with description := s })
      (fun _ _ => rfl) fun s c name => by grind [contents, Keyed.lookup_cons_ite]
  · exact (Field.reads_choiceValue _).uniform (fun s (c : Case) => { c with status := s })
      (fun _ _ => rfl) fun s c name => by grind [contents, Keyed.lookup_cons_ite]
  · exact (Field.reads_choiceValue _).uniform (fun s (c : Case) => { c with priority := s })
      (fun _ _ => rfl) fun s c name => by grind [contents, Keyed.lookup_cons_ite]
  · exact (Field.reads_choiceValue _).uniform (fun s (c : Case) => { c with type := s })
      (fun _ _ => rfl) fun s c name => by grind [contents, Keyed.lookup_cons_ite]
  · exact Field.reads_boolValue.uniform (fun b (c : Case) => { c with isArchived := b })
      (fun _ _ => rfl) fun b c name => by grind [contents, Keyed.lookup_cons_ite]
  · exact Field.uniform_refusal _ rfl

end Case

namespace TimeLog

def contents (t : TimeLog) : List (String × Content) :=
  [("content", .text t.content), ("hours_logged", .hours t.hoursLogged),
    ("billable", .truth t.billable)]

theorem reads_hoursValue {field : String} {value : Json} :
    Field.Reads field value .hours (hoursValue field value) := by
  refine Field.reads_numberValue.tested ?_
  intro hours
  by_cases hnegative : hours < 0
  · exact .inr ⟨_, if_pos hnegative⟩
  · exact .inl (if_neg hnegative)

theorem uniform_edit (field : String) (value : Json) :
    Field.Uniform id contents field value (edit field value) := by
  unfold edit
  split
  · exact Field.reads_stringValue.uniform (fun s (t : TimeLog) => { t with content := s })
      (fun _ _ => rfl) fun s t name => by grind [contents, Keyed.lookup_cons_ite]
  · exact Field.reads_boolValue.uniform (fun b (t : TimeLog) => { t with billable := b })
      (fun _ _ => rfl) fun b t name => by grind [contents, Keyed.lookup_cons_ite]
  · exact reads_hoursValue.uniform (fun x (t : TimeLog) => { t with hoursLogged := x })
      (fun _ _ => rfl) fun x t name => by grind [contents, Keyed.lookup_cons_ite]
  · exact Field.uniform_refusal _ rfl
  · exact Field.uniform_refusal _ rfl

end TimeLog

/-! ## All kinds -/

namespace Kind

variable {k : Kind}

/-- What a record holds in each of its fields, as the fields are declared. -/
def contents : {k : Kind} → k.Record → List (String × Content)
  | .contact => Contact.contents
  | .account => Account.contents
  | .case => Case.contents
  | .timeLog => TimeLog.contents

/-- What a record holds in a field; the identifier is no field. -/
def content? (r : k.Record) (field : String) : Option Content :=
  (contents r).lookup field

/-- A record is written as its identifier and its contents. -/
theorem members_eq (r : k.Record) :
    members r = (idKey, Identifier.toJson (Entity.id r)) ::
      (contents r).map fun e => (e.1, e.2.toJson) := by
  cases k <;> rfl

theorem id_withId (id : UInt64) (r : k.Record) : Entity.id (Entity.withId id r) = id := by
  cases k <;> rfl

/-- The identifier is no part of the contents. -/
theorem content?_withId (id : UInt64) (r : k.Record) (field : String) :
    content? (Entity.withId id r) field = content? r field := by
  cases k <;> rfl

/-- Some value is accepted for the field. -/
def Patchable (k : Kind) (field : String) : Prop :=
  ∃ value, ∃ r r' : k.Record, Entity.applyField field value r = .ok r'

theorem change_cases (k : Kind) (field : String) (value : Json) :
    (∃ e : FieldError, e.field = field ∧
      ∀ r : k.Record, Entity.change field value r = (.error e, r)) ∨
    ∃ content, Content.ofJson? value = some content ∧
      ∀ r : k.Record, ∃ r', Entity.change field value r = (.ok (), r') ∧
        Entity.id r' = Entity.id r ∧
        ∀ name, content? r' name = if name = field then some content else content? r name := by
  cases k with
  | contact => exact Contact.uniform_edit field value
  | account => exact Account.uniform_edit field value
  | case => exact Case.uniform_edit field value
  | timeLog => exact TimeLog.uniform_edit field value

theorem applyField_cases (k : Kind) (field : String) (value : Json) :
    (∃ e : FieldError, e.field = field ∧
      ∀ r : k.Record, Entity.applyField field value r = .error e) ∨
    ∃ content, Content.ofJson? value = some content ∧
      ∀ r : k.Record, ∃ r', Entity.applyField field value r = .ok r' ∧
        Entity.id r' = Entity.id r ∧
        ∀ name, content? r' name = if name = field then some content else content? r name := by
  rcases change_cases k field value with ⟨e, hfield, hrefused⟩ | ⟨content, hvalue, haccepted⟩
  · exact .inl ⟨e, hfield, fun r => Entity.applyField_eq_error_iff.2 ⟨r, hrefused r⟩⟩
  · refine .inr ⟨content, hvalue, fun r => ?_⟩
    rcases haccepted r with ⟨r', hchange, hid, hcontent⟩
    exact ⟨r', Entity.applyField_eq_ok_iff.2 hchange, hid, hcontent⟩

end Kind
end FieldPatch
