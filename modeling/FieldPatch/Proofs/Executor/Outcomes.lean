import FieldPatch.Executor.Basic
import FieldPatch.Proofs.Dialogue.Eval

/-!
# Results of calls

What the calls of an executor return, for any service that answers their questions.

* `Change.payload`: the payload that changed data make, or why they make none;
* `Config.createArgs_eq`, `Executor.updateField_eq`: what is built is announced before it is sent;
* `Outcome.of`: the outcome that `Executor.patch` makes of a result of `Executor.tryPatch`;
* `Executor.eval_tryPatch`, `Executor.eval_patch`, `Executor.eval_updateField`: the calls. Each asks
  one question at most, and the state is changed by its answer only;
* `Registry.eval_choicesForField`: the same for the choices of a field.
-/

namespace FieldPatch

/-- An object is taken as it is. Otherwise a field is needed that may be patched, and a target. -/
def Change.payload (change : Change) (field : Option String) (target : Option Target) :
    Except PatchError Payload :=
  match change with
  | .object o => .ok (.full o)
  | .single value =>
    if field.getD "" = "" then .error (.invalidField "")
    else if field.getD "" = idKey then .error (.readOnlyField idKey)
    else
      match target with
      | none => .error (.missingTarget (field.getD ""))
      | some target => .ok (.single target.id (field.getD "") value)

theorem Change.payload_single_eq_ok_iff {value : Json} {field : String} {target : Target}
    {payload : Payload} :
    (Change.single value).payload (some field) (some target) = .ok payload ↔
      field ≠ "" ∧ field ≠ idKey ∧ payload = .single target.id field value := by
  simp only [Change.payload, Option.getD_some]
  by_cases hempty : field = ""
  · simp [hempty]
  · by_cases hid : field = idKey
    · have hne : ¬ idKey = "" := by decide
      simp [hid, hne]
    · simp [hempty, hid, eq_comm]

/-- How the user is told of a result. -/
def Outcome.of (config : Config) (kind : Kind) : Except PatchError Json → Outcome
  | .ok response => .applied response (config.successMessage kind)
  | .error reason => .failed reason config.errorMessage

namespace Config

variable {Q σ : Type} [Question Q] (config : Config)

/-- A payload for the display-name field sets the page title. -/
def announce : Except PatchError Payload → Dialogue Q Unit
  | .ok (.single _ field value) =>
    if field = config.displayNameField then config.retitle value else .done ()
  | _ => .done ()

/-- Building a payload is announcing it and no more. -/
theorem createArgs_eq (change : Change) (field : Option String) (target : Option Target) :
    (config.createArgs change field target : Dialogue Q (Except PatchError Payload)) =
      (config.announce (change.payload field target)).bind fun _ =>
        .done (change.payload field target) := by
  cases change with
  | object o => rfl
  | single value =>
    simp only [createArgs, Change.payload]
    by_cases hempty : field.getD "" = ""
    · simp [hempty, announce]
    · by_cases hid : field.getD "" = idKey
      · -- the identifier has a name, so that it is told apart from a missing name
        have hne : ¬ idKey = "" := by decide
        simp only [hid, hne, if_true, if_false]
        rfl
      · simp only [hempty, hid, if_false]
        cases target with
        | none => rfl
        | some target =>
          -- only here is anything announced
          by_cases htitle : field.getD "" = config.displayNameField
          · simp [htitle, announce]
          · simp [htitle, announce]

@[simp] theorem eval_announce (payload : Except PatchError Payload)
    (serve : Dialogue.Service Q σ) (s : σ) :
    (config.announce payload).eval serve s = ((), s) := by
  unfold announce
  split
  · split <;> rfl
  · rfl

end Config

namespace Executor

variable {ε α σ : Type} (x : Executor ε α) (serve : Dialogue.Service (Query ε α) σ) (s : σ)

theorem eval_tryPatch (kind : Kind) (payload : Payload) :
    (x.tryPatch kind payload).eval serve s =
      match x.registry.endpoint kind with
      | .error e => (.error (.registry e), s)
      | .ok endpoint =>
        ((serve (.patch endpoint payload) s).2.1.mapError .remote,
          (serve (.patch endpoint payload) s).2.2) := by
  rw [tryPatch, Dialogue.eval_inSpan]
  cases x.registry.endpoint kind with
  | error e => rfl
  | ok endpoint =>
    -- the one question of the call
    have hquery : (Dialogue.query (Query.patch (α := α) endpoint payload)).eval serve s =
        (serve (.patch endpoint payload) s).2 := rfl
    simp only [Dialogue.bind_eq, Dialogue.eval_bind, Dialogue.eval_log, hquery]
    rcases serve (.patch endpoint payload) s with ⟨entries, answer, s'⟩
    cases answer with
    | ok response => rfl
    | error e => rfl

theorem eval_patch (kind : Kind) (payload : Payload) :
    (x.patch kind payload).eval serve s =
      (.of x.config kind ((x.tryPatch kind payload).eval serve s).1,
        ((x.tryPatch kind payload).eval serve s).2) := by
  simp only [patch, Dialogue.bind_eq, Dialogue.eval_bind]
  cases ((x.tryPatch kind payload).eval serve s).1 with
  | ok response => rfl
  | error reason => rfl

theorem updateField_eq (kind : Kind) (target : Target) (field : String) (change : Change) :
    x.updateField kind target field change =
      (x.config.announce (change.payload (some field) (some target))).bind fun _ =>
        match change.payload (some field) (some target) with
        | .ok payload => x.patch kind payload
        | .error reason => fail x.config kind reason := by
  rw [updateField, Config.createArgs_eq, Dialogue.bind_eq, Dialogue.bind_assoc]
  rfl

theorem eval_updateField (kind : Kind) (target : Target) (field : String) (change : Change) :
    (x.updateField kind target field change).eval serve s =
      match change.payload (some field) (some target) with
      | .ok payload => (x.patch kind payload).eval serve s
      | .error reason => (.failed reason x.config.errorMessage, s) := by
  rw [updateField_eq, Dialogue.eval_bind, Config.eval_announce]
  cases change.payload (some field) (some target) with
  | ok payload => rfl
  | error reason => rfl

end Executor

namespace Registry

variable {ε α σ : Type} (r : Registry ε α) (serve : Dialogue.Service (Query ε α) σ) (s : σ)

@[simp] theorem eval_logAll {Q : Type} [Question Q] (serve : Dialogue.Service Q σ)
    (entries : List Log.Entry) : (logAll entries : Dialogue Q Unit).eval serve s = ((), s) := by
  induction entries with
  | nil => rfl
  | cons entry rest ih => exact ih

theorem eval_choicesForField (kind : Kind) (field : String) :
    (r.choicesForField kind field).eval serve s =
      match r.resolve kind field with
      | .error _ => ([], s)
      | .ok found =>
        ((serve (.fetch found.accessor) s).2.1.toOption.getD [],
          (serve (.fetch found.accessor) s).2.2) := by
  have hlook : (r.lookUp kind field).eval serve s = (r.resolve kind field, s) := by
    simp [lookUp]
  simp only [choicesForField, Dialogue.eval_inSpan, Dialogue.bind_eq, Dialogue.eval_bind, hlook]
  cases r.resolve kind field with
  | error e => rfl
  | ok found =>
    have hfetch : (fetch (ε := ε) found.accessor).eval serve s =
        (serve (.fetch found.accessor) s).2 := rfl
    simp only [Dialogue.eval_bind, hfetch]
    rcases serve (.fetch found.accessor) s with ⟨entries, answer, s'⟩
    cases answer with
    | ok list => rfl
    | error e => rfl

end Registry
end FieldPatch
