import FieldPatch.Proofs.Desk.Patch
import FieldPatch.Proofs.Desk.Replies
import FieldPatch.Proofs.Record.Rules

/-!
# Choices offered and values accepted

The choices that a desk offers for a field are found by the name of the field, and the values that a
record accepts are told by its rules. The two agree.

* `Desk.offers`: what a look-up leads to, and `Desk.result_choicesForField`: what callers get of it;
* `Desk.offers_eq`: for a field of a kind, these are the choices that its rule names;
* `Desk.isSuccess_update_iff`: an update of a stored record is applied if its change is accepted;
* `Desk.offered_iff_accepted`: a field that has choices takes these and no other values.
-/

namespace FieldPatch
namespace Desk

open Kind Server

/-! ## Choices -/

/-- The choices to which the look-up of a field leads. -/
def offers (d : Desk) (kind : Kind) (field : String) : List Choice :=
  match registry.resolve kind field with
  | .ok found => ((d.server found.accessor.1).choices found.accessor.2).toOption.getD []
  | .error _ => []

theorem result_choicesForField (config : Config) (d : Desk) (kind : Kind) (field : String) :
    (d.call ((executor config).choicesForField kind field)).result =
      d.offers kind field := by
  have hregistry : (executor config).registry = registry := rfl
  rw [result_call, Executor.choicesForField, Registry.eval_choicesForField, hregistry, offers]
  cases registry.resolve kind field with
  | error e => rfl
  | ok found =>
    rcases found with ⟨name, ⟨kind', accessor⟩, exact⟩
    simp only [relays_fetch]
    cases (d.server kind').choices accessor with
    | error e => rfl
    | ok list => rfl

/-- Where the servers have the tables of their records, the accessor that a field finds, if it finds
one, serves the choices of the field's own rule. -/
theorem offers_eq {d : Desk}
    (htable : ∀ kind, (d.server kind).table = collect (Entity.choiceLists kind.Record))
    {kind : Kind} {field : String} (h : field ∈ kind.fieldNames) :
    d.offers kind field = kind.choicesOf field := by
  have hoffers : d.offers kind field = ({} : Desk).offers kind field := by
    have hfresh (kind : Kind) : (({} : Desk).server kind).table =
        collect (Entity.choiceLists kind.Record) := by
      cases kind <;> rfl
    simp only [offers, choices, htable, hfresh]
  have hall : ∀ field ∈ kind.fieldNames, ({} : Desk).offers kind field = kind.choicesOf field := by
    cases kind <;> decide
  exact hoffers.trans (hall field h)

/-! ## Updates of stored records -/

variable {config : Config} {d : Desk} {kind : Kind}

theorem acceptsAll_single {v value : Json} {field : String} (h : field ≠ idKey) :
    kind.AcceptsAll (Payload.single v field value).toObject ↔ kind.Accepts (field, value) := by
  constructor
  · intro hall
    exact hall field value h (by simp [Payload.get?_toObject, h])
  · intro haccepts name value' hname hget
    rw [Payload.get?_toObject, if_neg hname] at hget
    split at hget
    · rename_i hfield
      cases hget
      exact hfield ▸ haccepts
    · cases hget

variable {field : String} {value : Json} {id : UInt64} {r : kind.Record}

theorem conducts_update (config : Config) (hfield : field ∈ kind.fieldNames) (target : Target)
    (value : Json) :
    Conducts config d kind (Payload.single target.id field value).toObject
      (d.call ((executor config).updateField kind target field (.single value))) := by
  apply conducts_updateField
  apply Change.payload_single_eq_ok_iff.2
  refine ⟨?_, ne_idKey_of_mem hfield, rfl⟩
  rintro rfl
  cases kind <;> simp [fieldNames] at hfield

/-- A record that is stored is addressed by itself. -/
theorem applicable_of_accepts (hconsistent : (d.server kind).Consistent)
    (hget : (d.server kind).get? id = some r) (hfield : field ≠ idKey)
    (haccepts : kind.Accepts (field, value)) :
    d.Applicable kind (Payload.single (Target.ofRecord r).id field value).toObject id r := by
  refine ⟨?_, hget, (acceptsAll_single hfield).2 haccepts⟩
  simp [Payload.get?_toObject_single, Target.ofRecord, Identifier.toJson, hconsistent id r hget]

theorem isSuccess_update_iff (config : Config) (hconsistent : (d.server kind).Consistent)
    (hget : (d.server kind).get? id = some r) (hfield : field ∈ kind.fieldNames) :
    (d.call ((executor config).updateField kind (.ofRecord r) field
        (.single value))).result.isSuccess ↔ kind.Accepts (field, value) := by
  have hne : field ≠ idKey := ne_idKey_of_mem hfield
  have hagrees := (conducts_update config hfield (.ofRecord r) value).agrees hconsistent
  refine hagrees.isSuccess_iff.trans ⟨?_, ?_⟩
  · rintro ⟨_, _, happlicable⟩
    exact (acceptsAll_single hne).1 happlicable.accepted
  · intro haccepts
    exact ⟨id, r, applicable_of_accepts hconsistent hget hne haccepts⟩

/-- An update that is accepted leaves the content of its value in the record. -/
theorem exists_content_of_update (config : Config) (hconsistent : (d.server kind).Consistent)
    (hget : (d.server kind).get? id = some r) (hfield : field ∈ kind.fieldNames)
    (haccepts : kind.Accepts (field, value)) :
    ∃ r', ((d.call ((executor config).updateField kind (.ofRecord r) field
        (.single value))).state.server kind).get? id = some r' ∧
      content? r' field = Content.ofJson? value := by
  have hne : field ≠ idKey := ne_idKey_of_mem hfield
  have hagrees := (conducts_update config hfield (.ofRecord r) value).agrees hconsistent
  have happlicable := applicable_of_accepts hconsistent hget hne haccepts
  rcases hagrees.applied id r happlicable with ⟨updated, hpatched, _, _, hreplaces, _⟩
  refine ⟨updated, hreplaces.get?_self, ?_⟩
  have hget? : (Payload.single (Target.ofRecord r).id field value).toObject.get? field =
      some value := by
    simp [Payload.get?_toObject, hne]
  rw [hpatched.content?_eq field hne, hget?]
  rfl

/-! ## Offers -/

/-- In a desk at work, a field of a kind has choices if and only if its rule names some. The values
of these choices are the ones that a stored record accepts for the field, and the record then holds
the value. -/
theorem offered_iff_accepted (config : Config) {trace : List Event} {d₀ : Desk}
    (hstart : start config = .ok (trace, d₀)) (commands : List Command) {kind : Kind}
    {field : String} (hfield : kind.Patchable field) :
    let d := d₀.performAll config commands
    let offered := (d.call ((executor config).choicesForField kind field)).result
    (offered ≠ [] ↔ ∃ choices, (field, .oneOf choices) ∈ kind.rules) ∧
    (offered ≠ [] → ∀ id r, (d.server kind).get? id = some r → ∀ value,
      let run := d.call ((executor config).updateField kind (.ofRecord r) field (.single value))
      (run.result.isSuccess ↔ ∃ choice ∈ offered, value = .string choice.value) ∧
      ∀ s, value = .string s → run.result.isSuccess →
        ∃ r', (run.state.server kind).get? id = some r' ∧ content? r' field = some (.text s)) := by
  intro d offered
  have hmem : field ∈ kind.fieldNames := patchable_iff.1 hfield
  have hoffered : offered = kind.choicesOf field :=
    (result_choicesForField config d kind field).trans
      (offers_eq (table_performAll hstart commands) hmem)
  have hconsistent := consistent_performAll hstart commands kind
  refine ⟨hoffered ▸ choicesOf_ne_nil_iff, ?_⟩
  intro hne id r hget value run
  rcases choicesOf_ne_nil_iff.1 (hoffered ▸ hne) with ⟨choices, hrule⟩
  have hsuccess : run.result.isSuccess ↔ kind.Accepts (field, value) :=
    isSuccess_update_iff config hconsistent hget hmem
  refine ⟨?_, ?_⟩
  · calc
      run.result.isSuccess ↔ kind.Accepts (field, value) := hsuccess
      _ ↔ (Rule.oneOf choices).Admits value := accepts_iff_admits hrule r
      _ ↔ ∃ choice ∈ offered, value = .string choice.value := by
        rw [Rule.admits_oneOf_iff, hoffered, choicesOf_of_mem hrule]
  · intro s hs happlied
    subst hs
    exact exists_content_of_update config hconsistent hget hmem (hsuccess.1 happlied)

/-- The priority of a stored case is a field with choices. It becomes "high", and it does not
become "urgent". -/
theorem offered_iff_accepted_priority :
    ∃ trace d₀, start {} = .ok (trace, d₀) ∧ Kind.Patchable .case "priority" ∧
      let d := d₀.performAll {} [.request ⟨.case, .create (.new "Printer on fire")⟩]
      let offered := (d.call ((executor {}).choicesForField .case "priority")).result
      offered ≠ [] ∧ ∃ r, (d.server .case).get? 1 = some r ∧
        let run (value : String) :=
          d.call ((executor {}).updateField .case (.ofRecord r) "priority" (.single (.string value)))
        (run "high").result.isSuccess ∧ ¬ (run "urgent").result.isSuccess ∧
          ∃ r', ((run "high").state.server .case).get? 1 = some r' ∧
            content? r' "priority" = some (.text "high") := by
  have hfield : Kind.Patchable .case "priority" := patchable_iff.2 (by decide)
  refine ⟨_, _, rfl, hfield, ?_⟩
  intro d offered
  have haccord := offered_iff_accepted {} rfl
    [.request ⟨.case, .create (.new "Printer on fire")⟩] hfield
  have hne : offered ≠ [] := haccord.1.2 ⟨Case.priorityLevels, by decide⟩
  refine ⟨hne, _, rfl, ?_⟩
  intro run
  have hcase := haccord.2 hne 1 _ rfl
  have hhigh : (run "high").result.isSuccess := by
    refine (hcase (.string "high")).1.2 ⟨⟨"high", "High"⟩, ?_, rfl⟩
    decide
  have hurgent : ¬ (run "urgent").result.isSuccess := by
    decide
  exact ⟨hhigh, hurgent, (hcase (.string "high")).2 "high" rfl hhigh⟩

end Desk
end FieldPatch
