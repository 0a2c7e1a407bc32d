import FieldPatch.Proofs.Record.Revision
import FieldPatch.Proofs.Record.Rules

/-!
# Written records

The JSON of a record, taken as changes. The fields that a record writes are the fields that it can
be patched in, and what it writes of them is what it reads from them.

* `Content.eq_of_ofJson?_toJson`: a content that can be read back is read as itself;
* `Rule.admits_toJson_iff`: a rule admits a written content if the content obeys it;
* `Kind.freeFields`: the fields without a rule, which accept all that they hold;
* `Kind.accepts_toJson_iff`: the content of a field is accepted for it if it obeys the rules;
* `Kind.acceptsAll_toObject_iff`: the JSON of a record is accepted if the record is lawful;
* `Kind.Patched.eq_of_toObject`: what it makes of a record with the same identifier is the record
  that was written.
-/

namespace FieldPatch

/-! ## Contents -/

theorem Field.mapM_stringValue_map_string (field : String) (items : List String) :
    (items.map Json.string).mapM (stringValue field) = .ok items := by
  induction items with
  | nil => rfl
  | cons item rest ih =>
    rw [List.map_cons, List.mapM_cons, ih]
    rfl

theorem Field.stringsValue_array (field : String) (items : List String) :
    stringsValue field (.array (items.map .string)) = .ok items :=
  mapM_stringValue_map_string field items

namespace Content

/-- Hours that are not finite are written as null, which is no content. -/
theorem ofJson?_ofFloat (x : Float) :
    ofJson? (.ofFloat x) = if x.isFinite then some (.hours x) else none := by
  unfold Json.ofFloat
  split
  · rfl
  · rfl

theorem eq_of_ofJson?_toJson {c c' : Content} (h : ofJson? c.toJson = some c') : c' = c := by
  cases c with
  | text s => exact (Option.some.inj h).symm
  | truth b => exact (Option.some.inj h).symm
  | texts items =>
    have hitems : ofJson? (.array (items.map .string)) = some (.texts items) := by
      simpa [Field.Reads, Field.stringsValue_array] using
        @Field.reads_stringsValue "" (.array (items.map .string))
    exact Option.some.inj (h.symm.trans hitems)
  | hours x =>
    have hhours : (if x.isFinite then some (hours x) else none) = some c' :=
      (ofJson?_ofFloat x).symm.trans h
    split at hhours
    · exact (Option.some.inj hhours).symm
    · -- hours that were written as null are never read back
      cases hhours

end Content

theorem Rule.admits_toJson_iff {rule : Rule} {c : Content} :
    rule.Admits c.toJson ↔ rule.Holds c := by
  cases c with
  | hours x =>
    -- only the test for negative hours is left when the hours can be written
    by_cases hfinite : x.isFinite = true
    · cases rule <;>
        simp [Content.toJson, Json.ofFloat, hfinite, Admits, Holds, Json.Number.toFloat]
    · cases rule <;> simp [Content.toJson, Json.ofFloat, hfinite, Admits, Holds]
  | _ => cases rule <;> rfl

namespace Kind

variable {k : Kind}

/-! ## One field -/

/-- The fields that no rule names. -/
def freeFields : Kind → List String
  | .contact => ["first_name", "last_name", "description", "email_addresses"]
  | .account => ["description", "website"]
  | .case => ["subject", "description", "is_archived"]
  | .timeLog => ["content", "billable"]

theorem mem_freeFields {field : String} (hfield : field ∈ k.fieldNames)
    (hrule : ∀ rule, (field, rule) ∉ k.rules) : field ∈ k.freeFields := by
  have hall : ∀ name ∈ k.fieldNames, name ∉ k.rules.map Prod.fst → name ∈ k.freeFields := by
    cases k <;> decide
  exact hall field hfield (by simpa using hrule)

/-- A field without a rule accepts whatever content it holds. -/
theorem accepts_of_mem_freeFields {field : String} {c : Content} {r : k.Record}
    (hfield : field ∈ k.freeFields) (hcontent : content? r field = some c) :
    k.Accepts (field, c.toJson) := by
  cases k with
  | contact =>
    simp only [freeFields, List.mem_cons, List.not_mem_nil, or_false] at hfield
    rcases hfield with rfl | rfl | rfl | rfl
    · cases hcontent
      exact fun r' => ⟨_, rfl⟩
    · cases hcontent
      exact fun r' => ⟨_, rfl⟩
    · cases hcontent
      exact fun r' => ⟨_, rfl⟩
    · -- the only field that is read item by item
      cases hcontent
      intro r'
      rcases (Field.exists_run_put_iff _ _ r').2 ⟨_, Field.stringsValue_array _ _⟩ with
        ⟨r₁, hchange⟩
      exact ⟨r₁, Entity.applyField_eq_ok_iff.2 hchange⟩
  | account =>
    simp only [freeFields, List.mem_cons, List.not_mem_nil, or_false] at hfield
    rcases hfield with rfl | rfl
    · cases hcontent
      exact fun r' => ⟨_, rfl⟩
    · cases hcontent
      exact fun r' => ⟨_, rfl⟩
  | case =>
    simp only [freeFields, List.mem_cons, List.not_mem_nil, or_false] at hfield
    rcases hfield with rfl | rfl | rfl
    · cases hcontent
      exact fun r' => ⟨_, rfl⟩
    · cases hcontent
      exact fun r' => ⟨_, rfl⟩
    · cases hcontent
      exact fun r' => ⟨_, rfl⟩
  | timeLog =>
    simp only [freeFields, List.mem_cons, List.not_mem_nil, or_false] at hfield
    rcases hfield with rfl | rfl
    · cases hcontent
      exact fun r' => ⟨_, rfl⟩
    · cases hcontent
      exact fun r' => ⟨_, rfl⟩

/-- What a record holds in a field is accepted for the field if it obeys the rules. -/
theorem accepts_toJson_iff {field : String} {c : Content} {r : k.Record}
    (hcontent : content? r field = some c) :
    k.Accepts (field, c.toJson) ↔ ∀ rule, (field, rule) ∈ k.rules → rule.Holds c := by
  constructor
  · intro haccepts rule hmem
    exact Rule.admits_toJson_iff.1 ((accepts_iff_admits hmem r).1 haccepts)
  · intro hholds
    by_cases hrule : ∃ rule, (field, rule) ∈ k.rules
    · rcases hrule with ⟨rule, hmem⟩
      exact (accepts_iff_admits hmem r).2 (Rule.admits_toJson_iff.2 (hholds rule hmem))
    · have hfield : field ∈ k.fieldNames := (isSome_content?_iff r field).1 (by simp [hcontent])
      exact accepts_of_mem_freeFields (mem_freeFields hfield (not_exists.1 hrule)) hcontent

/-! ## Whole records -/

/-- The members that a record writes beside its identifier are its contents. -/
theorem get?_toObject_eq_some_iff {r : k.Record} {field : String} {value : Json}
    (hne : field ≠ idKey) :
    (toObject r).get? field = some value ↔ ∃ c, content? r field = some c ∧ c.toJson = value := by
  simp [get?_toObject, hne]

theorem get?_toObject_idKey (r : k.Record) :
    (toObject r).get? idKey = some (.ofInt (Entity.id r).toNat) := by
  simp [get?_toObject, Identifier.toJson]

/-- The JSON of a record is accepted if and only if the record is lawful. -/
theorem acceptsAll_toObject_iff {r : k.Record} : k.AcceptsAll (toObject r) ↔ Lawful r := by
  constructor
  · intro haccepts field rule hmem
    have hfield : field ∈ k.fieldNames := mem_fieldNames_of_mem_rules hmem
    have hne : field ≠ idKey := ne_idKey_of_mem hfield
    rcases Option.isSome_iff_exists.1 ((isSome_content?_iff r field).2 hfield) with ⟨c, hc⟩
    have hwritten := haccepts field c.toJson hne ((get?_toObject_eq_some_iff hne).2 ⟨c, hc, rfl⟩)
    exact ⟨c, hc, (accepts_toJson_iff hc).1 hwritten rule hmem⟩
  · intro hlawful field value hne hvalue
    rcases (get?_toObject_eq_some_iff hne).1 hvalue with ⟨c, hc, rfl⟩
    refine (accepts_toJson_iff hc).2 ?_
    intro rule hmem
    rcases hlawful field rule hmem with ⟨c', hc', hholds⟩
    have hsame : c' = c := Option.some.inj (hc'.symm.trans hc)
    simpa [hsame] using hholds

/-- The JSON of a record overwrites every field of another one. -/
theorem Patched.eq_of_toObject {r current updated : k.Record}
    (h : Patched (toObject r) current updated) (hid : Entity.id current = Entity.id r) :
    updated = r := by
  apply ext_content? (h.id_eq.trans hid)
  intro field
  by_cases hfield : field = idKey
  · simp [hfield, content?_idKey]
  have hupdated := h.content?_eq field hfield
  cases hc : content? r field with
  | none =>
    -- a field that one record lacks is lacking in all of the kind
    have hnot : ¬ (content? updated field).isSome := by
      simp [isSome_content?_iff, ← isSome_content?_iff r field, hc]
    exact Option.not_isSome_iff_eq_none.1 hnot
  | some c =>
    have hwritten : content? updated field = Content.ofJson? c.toJson := by
      simpa [(get?_toObject_eq_some_iff hfield).2 ⟨c, hc, rfl⟩] using hupdated
    have hsome : (content? updated field).isSome := by
      simp [isSome_content?_iff, ← isSome_content?_iff r field, hc]
    rcases Option.isSome_iff_exists.1 hsome with ⟨c', hc'⟩
    have hread : c' = c := Content.eq_of_ofJson?_toJson (hwritten.symm.trans hc')
    simpa [hread] using hc'

end Kind
end FieldPatch
