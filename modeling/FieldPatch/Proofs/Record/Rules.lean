import FieldPatch.Proofs.Record.Changes

/-!
# Rules for fields

Some fields of a kind may not hold whatever their type allows. Records are created without regard to
these rules, but a change obeys them.

* `Rule`: the rules; `Rule.Holds` is said of contents, `Rule.Admits` of values;
* `Kind.rules`: the fields of a kind that have a rule, and `Kind.choicesOf`: those among them that
  have choices;
* `Kind.exists_applyField_iff`: a change of such a field is accepted if and only if the rule admits
  its value. What it puts into the field then obeys the rule (`Kind.holds_of_accepts`);
* `Kind.Lawful`: the records that obey all of the rules.
-/

namespace FieldPatch

theorem Choice.offers_iff {choices : List Choice} {value : String} :
    Choice.offers choices value = true ↔ ∃ choice ∈ choices, choice.value = value := by
  simp [Choice.offers]

inductive Rule where
  | oneOf (choices : List Choice)
  /-- Not all of the text is white space. -/
  | notBlank
  | notNegative
deriving DecidableEq

namespace Rule

/-- The content obeys the rule. -/
def Holds : Rule → Content → Prop
  | oneOf choices, .text s => ∃ choice ∈ choices, choice.value = s
  | notBlank, .text s => ∃ c ∈ s.toList, Text.isBlank c = false
  | notNegative, .hours x => x.isFinite ∧ ¬ x < 0
  | _, _ => False

/-- The value may be put into a field with this rule. -/
def Admits : Rule → Json → Prop
  | oneOf choices, .string s => ∃ choice ∈ choices, choice.value = s
  | notBlank, .string s => ∃ c ∈ s.toList, Text.isBlank c = false
  | notNegative, .number n => ¬ n.toFloat < 0
  | _, _ => False

/-- A number that is admitted has to be finite besides. -/
theorem Admits.holds {rule : Rule} {value : Json} {content : Content} (h : rule.Admits value)
    (hcontent : Content.ofJson? value = some content)
    (hfinite : ∀ n, value = .number n → n.toFloat.isFinite) : rule.Holds content := by
  unfold Admits at h
  split at h
  · cases hcontent
    exact h
  · cases hcontent
    exact h
  · cases hcontent
    exact ⟨hfinite _ rfl, h⟩
  · exact h.elim

theorem admits_oneOf_iff {choices : List Choice} {value : Json} :
    (oneOf choices).Admits value ↔ ∃ choice ∈ choices, value = .string choice.value := by
  cases value with
  | string s => simp [Admits, eq_comm]
  | _ => simp [Admits]

end Rule

/-! ## Readings that test -/

namespace Field

variable {α ρ : Type} {field : String} {value : Json}

/-- A change that puts what it reads into a record is accepted if it can read the value. -/
theorem exists_run_put_iff (reading : Except FieldError α) (put : α → ρ → ρ) (r : ρ) :
    (∃ r', Edit.run (do
      let r ← get
      set (put (← reading) r)) r = (.ok (), r')) ↔ ∃ a, reading = .ok a := by
  rw [Edit.run_put]
  cases reading with
  | error e => simp
  | ok a => simp

theorem exists_choiceValue_iff {choices : List Choice} :
    (∃ s, choiceValue field choices value = .ok s) ↔ (Rule.oneOf choices).Admits value := by
  cases value with
  | string s =>
    simp only [Rule.Admits, ← Choice.offers_iff]
    change (∃ s', (if Choice.offers choices s then Except.ok s else _) = Except.ok s') ↔ _
    split
    · rename_i hoffer
      exact ⟨fun _ => hoffer, fun _ => ⟨s, rfl⟩⟩
    · rename_i hoffer
      exact ⟨nofun, fun h => absurd h hoffer⟩
  | _ => exact ⟨nofun, False.elim⟩

end Field

theorem Account.exists_nameValue_iff {field : String} {value : Json} :
    (∃ s, nameValue field value = .ok s) ↔ Rule.notBlank.Admits value := by
  cases value with
  | string s =>
    have hblank : Rule.notBlank.Admits (.string s) ↔ ¬ Text.allBlank s = true := by
      simp [Rule.Admits, Text.allBlank]
    rw [hblank]
    change (∃ s', (if Text.allBlank s then _ else Except.ok s) = Except.ok s') ↔ _
    split
    · rename_i hall
      exact ⟨nofun, fun h => absurd hall h⟩
    · rename_i hall
      exact ⟨fun _ => hall, fun _ => ⟨s, rfl⟩⟩
  | _ => exact ⟨nofun, False.elim⟩

theorem TimeLog.exists_hoursValue_iff {field : String} {value : Json} :
    (∃ x, hoursValue field value = .ok x) ↔ Rule.notNegative.Admits value := by
  cases value with
  | number n =>
    change (∃ x, (if n.toFloat < 0 then _ else Except.ok n.toFloat) = Except.ok x) ↔ _
    split
    · rename_i hnegative
      exact ⟨nofun, fun h => absurd hnegative h⟩
    · rename_i hnegative
      exact ⟨fun _ => hnegative, fun _ => ⟨n.toFloat, rfl⟩⟩
  | _ => exact ⟨nofun, False.elim⟩

/-! ## The rules of a kind -/

namespace Kind

variable {k : Kind}

def rules : Kind → List (String × Rule)
  | .contact => [("email_address_status", .oneOf Contact.emailAddressStatuses)]
  | .account => [("name", .notBlank), ("status", .oneOf Account.statuses)]
  | .case =>
    [("status", .oneOf Case.statuses), ("priority", .oneOf Case.priorityLevels),
      ("type", .oneOf Case.types)]
  | .timeLog => [("hours_logged", .notNegative)]

/-- The choices for a field; none if it has no rule of this sort. -/
def choicesOf (k : Kind) (field : String) : List Choice :=
  match k.rules.lookup field with
  | some (.oneOf choices) => choices
  | _ => []

theorem choicesOf_of_mem {field : String} {choices : List Choice}
    (h : (field, .oneOf choices) ∈ k.rules) : k.choicesOf field = choices := by
  have hkeys : (k.rules.map Prod.fst).Nodup := by
    cases k <;> decide
  have hlookup : k.rules.lookup field = some (.oneOf choices) := Keyed.lookup_of_mem hkeys h
  simp [choicesOf, hlookup]

/-- A field has choices if and only if a rule names them. -/
theorem choicesOf_ne_nil_iff {field : String} :
    k.choicesOf field ≠ [] ↔ ∃ choices, (field, .oneOf choices) ∈ k.rules := by
  constructor
  · intro h
    unfold choicesOf at h
    split at h
    · rename_i choices hlookup
      exact ⟨choices, Keyed.mem_of_lookup hlookup⟩
    · exact absurd rfl h
  · rintro ⟨choices, hmem⟩
    -- no rule leaves a field without any choice
    have hsome : ∀ e ∈ k.rules, e.2 ≠ .oneOf [] := by
      cases k <;> decide
    rw [choicesOf_of_mem hmem]
    rintro rfl
    exact hsome _ hmem rfl

theorem mem_fieldNames_of_mem_rules {field : String} {rule : Rule}
    (h : (field, rule) ∈ k.rules) : field ∈ k.fieldNames := by
  have hfields : ∀ e ∈ k.rules, e.1 ∈ k.fieldNames := by
    cases k <;> decide
  exact hfields _ h

theorem exists_applyField_iff {field : String} {rule : Rule} (h : (field, rule) ∈ k.rules)
    (value : Json) (r : k.Record) :
    (∃ r', Entity.applyField field value r = .ok r') ↔ rule.Admits value := by
  simp only [Entity.applyField_eq_ok_iff]
  cases k with
  | contact =>
    obtain ⟨rfl, rfl⟩ : field = "email_address_status" ∧ rule = .oneOf _ := by simpa [rules] using h
    exact (Field.exists_run_put_iff _ _ r).trans Field.exists_choiceValue_iff
  | account =>
    simp only [rules, List.mem_cons, Prod.mk.injEq, List.not_mem_nil, or_false] at h
    rcases h with ⟨rfl, rfl⟩ | ⟨rfl, rfl⟩
    · exact (Field.exists_run_put_iff _ _ r).trans Account.exists_nameValue_iff
    · exact (Field.exists_run_put_iff _ _ r).trans Field.exists_choiceValue_iff
  | case =>
    simp only [rules, List.mem_cons, Prod.mk.injEq, List.not_mem_nil, or_false] at h
    rcases h with ⟨rfl, rfl⟩ | ⟨rfl, rfl⟩ | ⟨rfl, rfl⟩
    · exact (Field.exists_run_put_iff _ _ r).trans Field.exists_choiceValue_iff
    · exact (Field.exists_run_put_iff _ _ r).trans Field.exists_choiceValue_iff
    · exact (Field.exists_run_put_iff _ _ r).trans Field.exists_choiceValue_iff
  | timeLog =>
    obtain ⟨rfl, rfl⟩ : field = "hours_logged" ∧ rule = .notNegative := by simpa [rules] using h
    exact (Field.exists_run_put_iff _ _ r).trans TimeLog.exists_hoursValue_iff

/-- The values that the rule of a field admits are the ones that all records accept for it. -/
theorem accepts_iff_admits {field : String} {rule : Rule} {value : Json}
    (h : (field, rule) ∈ k.rules) (r : k.Record) :
    k.Accepts (field, value) ↔ rule.Admits value := by
  rw [← exists_applyField_iff h value r]
  constructor
  · intro haccepts
    exact haccepts r
  · rintro ⟨r', hr'⟩
    exact accepts_of_applyField hr'

/-- What an accepted change puts into a field obeys the rule of the field. -/
theorem holds_of_accepts {field : String} {rule : Rule} {value : Json} {content : Content}
    (h : (field, rule) ∈ k.rules) (r : k.Record) (haccepts : k.Accepts (field, value))
    (hcontent : Content.ofJson? value = some content)
    (hfinite : ∀ n, value = .number n → n.toFloat.isFinite) : rule.Holds content :=
  ((accepts_iff_admits h r).1 haccepts).holds hcontent hfinite

/-! ## Records -/

/-- The record obeys the rule in this field. -/
def Obeys (r : k.Record) (field : String) (rule : Rule) : Prop :=
  ∃ content, content? r field = some content ∧ rule.Holds content

/-- The record obeys all rules of its kind. -/
def Lawful (r : k.Record) : Prop :=
  ∀ field rule, (field, rule) ∈ k.rules → Obeys r field rule

end Kind
end FieldPatch
