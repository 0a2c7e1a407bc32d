import FieldPatch.Proofs.Desk.Command

/-!
# Outcomes and stores

The user is told of success if and only if the record has been changed.

* `Desk.Applicable`: a patch carries the identifier of a stored record and changes it accepts;
* `Desk.Refused`: the three reasons for which a patch is refused otherwise;
* `Desk.Agrees`: the outcome of a run agrees with what has become of the stores;
* `Desk.Conducts`: a run that serves one patch. Such a run agrees with the stores;
* `Desk.outcome_agrees`: every patch and every update of a desk at work does.
-/

namespace FieldPatch
namespace Desk

open Kind Server

structure Applicable (d : Desk) (kind : Kind) (fields : Json.Object) (id : UInt64)
    (current : kind.Record) : Prop where
  id_eq : fields.get? idKey = some (.ofInt id.toNat)
  stored : (d.server kind).get? id = some current
  accepted : kind.AcceptsAll fields

inductive Refused (d : Desk) (kind : Kind) (fields : Json.Object) : RemoteError → Prop where
  | unusableId (h : ∀ id : UInt64, fields.get? idKey ≠ some (.ofInt id.toNat)) :
      Refused d kind fields (.rejected ServerError.missingId.message)
  | absent (id : UInt64) (hid : fields.get? idKey = some (.ofInt id.toNat))
      (h : (d.server kind).get? id = none) :
      Refused d kind fields (.notFound (toString id.toNat))
  | field (id : UInt64) (current : kind.Record) (e : FieldError)
      (hid : fields.get? idKey = some (.ofInt id.toNat))
      (hcurrent : (d.server kind).get? id = some current) (h : kind.Refuses fields e) :
      Refused d kind fields (.rejected e.message)

/-- What a run that patches the desk with these members returns, and what it leaves. -/
structure Agrees (config : Config) (d : Desk) (kind : Kind) (fields : Json.Object)
    (run : Dialogue.Run Desk Outcome) : Prop where
  isSuccess_iff : run.result.isSuccess ↔ ∃ id current, d.Applicable kind fields id current
  /-- The record is replaced by the one in the response, and nothing else changes. -/
  applied : ∀ id current, d.Applicable kind fields id current →
    ∃ updated, Patched fields current updated ∧ Entity.id updated = id ∧
      run.result = .applied (toObject updated).toJson (config.successMessage kind) ∧
      Replaces id updated (d.server kind) (run.state.server kind) ∧
      ∀ kind', kind' ≠ kind → run.state.server kind' = d.server kind'
  /-- Nothing changes, and the user gets one of the three reasons. -/
  failed : (¬ ∃ id current, d.Applicable kind fields id current) →
    ∃ reason, d.Refused kind fields reason ∧
      run.result = .failed (.remote reason) config.errorMessage ∧
      ∀ kind', run.state.server kind' = d.server kind'

variable {config : Config} {d : Desk} {kind : Kind} {fields : Json.Object}
  {run : Dialogue.Run Desk Outcome}

/-! ## Refused and applicable patches -/

theorem Refused.not_applicable {reason : RemoteError} (h : d.Refused kind fields reason)
    (id : UInt64) (current : kind.Record) : ¬ d.Applicable kind fields id current := by
  intro happlicable
  have hid := addressee?_eq_some_iff.2 happlicable.id_eq
  cases h with
  | unusableId h => exact h id happlicable.id_eq
  | absent id' hid' h =>
    have hsame : id = id' := Option.some.inj (hid.symm.trans (addressee?_eq_some_iff.2 hid'))
    subst hsame
    -- the record cannot be stored and absent
    have hstored := happlicable.stored
    simp [h] at hstored
  | field id' current' e _ _ h => exact not_acceptsAll_of_refuses current' h happlicable.accepted

theorem Applicable.unique {id id' : UInt64} {current current' : kind.Record}
    (h : d.Applicable kind fields id current) (h' : d.Applicable kind fields id' current') :
    id' = id ∧ current' = current := by
  have hid := addressee?_eq_some_iff.2 h.id_eq
  have hid' := addressee?_eq_some_iff.2 h'.id_eq
  have hsame : id' = id := Option.some.inj (hid'.symm.trans hid)
  subst hsame
  exact ⟨rfl, Option.some.inj (h'.stored.symm.trans h.stored)⟩

/-- The outcome and the servers after a run that serves one patch and nothing else. -/
structure Conducts (config : Config) (d : Desk) (kind : Kind) (fields : Json.Object)
    (run : Dialogue.Run Desk Outcome) : Prop where
  result_eq : run.result =
    .of config kind ((response ((d.server kind).patch fields).1).mapError .remote)
  server_self : run.state.server kind = ((d.server kind).patch fields).2
  server_other : ∀ kind', kind' ≠ kind → run.state.server kind' = d.server kind'

theorem Conducts.agrees_of_refused {e : ServerError} (h : Conducts config d kind fields run)
    (hserve : (d.server kind).patch fields = (.error e, d.server kind))
    (hrefused : d.Refused kind fields (.ofServer e)) : Agrees config d kind fields run := by
  have hfailed : run.result = .failed (.remote (.ofServer e)) config.errorMessage := by
    rw [h.result_eq, hserve]
    rfl
  have hnot : ¬ ∃ id current, d.Applicable kind fields id current := by
    intro h
    rcases h with ⟨id, current, happlicable⟩
    exact hrefused.not_applicable id current happlicable
  refine ⟨?_, ?_, ?_⟩
  · simp [hfailed, Outcome.isSuccess, hnot]
  · intro id current happlicable
    exact absurd ⟨id, current, happlicable⟩ hnot
  · intro _
    refine ⟨_, hrefused, hfailed, ?_⟩
    intro kind'
    by_cases hkind : kind' = kind
    · -- a refused patch leaves even its own server as it was
      subst hkind
      simp [h.server_self, hserve]
    · exact h.server_other kind' hkind

theorem Conducts.agrees_of_applied {id : UInt64} {current updated : kind.Record}
    (h : Conducts config d kind fields run) (hconsistent : (d.server kind).Consistent)
    (happlicable : d.Applicable kind fields id current) (hpatched : Patched fields current updated)
    (hserve : (d.server kind).patch fields =
      (.ok updated, { d.server kind with store := (d.server kind).store.put id updated })) :
    Agrees config d kind fields run := by
  have happlied : run.result =
      .applied (toObject updated).toJson (config.successMessage kind) := by
    rw [h.result_eq, hserve]
    rfl
  have hid : Entity.id updated = id := by
    calc
      Entity.id updated = Entity.id current := hpatched.id_eq
      _ = id := hconsistent id current happlicable.stored
  have hreplaces : Replaces id updated (d.server kind) (run.state.server kind) := by
    simpa [h.server_self, hserve] using replaces_put updated happlicable.stored
  refine ⟨?_, ?_, ?_⟩
  · rw [happlied]
    exact ⟨fun _ => ⟨id, current, happlicable⟩, fun _ => rfl⟩
  · -- there is no other record that the patch could be meant for
    intro id' current' happlicable'
    rcases happlicable.unique happlicable' with ⟨rfl, rfl⟩
    exact ⟨updated, hpatched, hid, happlied, hreplaces, h.server_other⟩
  · intro hnot
    exact absurd ⟨id, current, happlicable⟩ hnot

theorem Conducts.agrees (h : Conducts config d kind fields run)
    (hconsistent : (d.server kind).Consistent) : Agrees config d kind fields run := by
  rcases (d.server kind).patch_kind_cases fields with ⟨hnone, hserve⟩ | ⟨id, hid, hcases⟩
  · refine h.agrees_of_refused hserve (.unusableId ?_)
    intro id hkey
    simp [addressee?_eq_some_iff.2 hkey] at hnone
  · have hkey := addressee?_eq_some_iff.1 hid
    rcases hcases with ⟨hmissing, hserve⟩ | ⟨current, hcurrent, ⟨e, he, hserve⟩ | ⟨hall, updated,
      hpatched, hserve⟩⟩
    · exact h.agrees_of_refused hserve (.absent id hkey hmissing)
    · exact h.agrees_of_refused hserve (.field id current e hkey hcurrent he)
    · exact h.agrees_of_applied hconsistent ⟨hkey, hcurrent, hall⟩ hpatched hserve

/-! ## Calls -/

theorem conducts_of_eval
    (h : (run.result, run.state) =
      (.of config kind ((response ((d.server kind).patch fields).1).mapError .remote),
        (d.serve ⟨kind, .patch fields⟩).2.settle)) :
    Conducts config d kind fields run := by
  rcases Prod.mk.inj h with ⟨hresult, hstate⟩
  refine ⟨hresult, ?_, ?_⟩
  · have hserve : (d.serve ⟨kind, .patch fields⟩).2.server kind =
        ((d.server kind).patch fields).2 := d.server_serve kind (.patch fields)
    simpa [hstate] using hserve
  · intro kind' hne
    simpa [hstate] using d.server_serve_of_ne ⟨kind, .patch fields⟩ hne

theorem conducts_patch (config : Config) (d : Desk) (kind : Kind) (payload : Payload) :
    Conducts config d kind payload.toObject (d.call ((executor config).patch kind payload)) := by
  have hcall := d.eval_call ((executor config).patch kind payload)
  rw [Executor.eval_patch, eval_tryPatch] at hcall
  exact conducts_of_eval hcall

/-- An update whose payload can be built is the patch of that payload. -/
theorem conducts_updateField (config : Config) (d : Desk) (kind : Kind) {target : Target}
    {field : String} {change : Change} (payload : Payload)
    (h : change.payload (some field) (some target) = .ok payload) :
    Conducts config d kind payload.toObject
      (d.call ((executor config).updateField kind target field change)) := by
  have hcall := d.eval_call ((executor config).updateField kind target field change)
  rw [Executor.eval_updateField, h] at hcall
  simp only [Executor.eval_patch, eval_tryPatch] at hcall
  exact conducts_of_eval hcall

/-- An update without a payload fails before any server is asked. -/
theorem call_updateField_of_error (config : Config) (d : Desk) (kind : Kind) {target : Target}
    {field : String} {change : Change} {reason : PatchError}
    (h : change.payload (some field) (some target) = .error reason) :
    let run := d.call ((executor config).updateField kind target field change)
    run.result = .failed reason config.errorMessage ∧ run.state = d := by
  have hcall := d.eval_call ((executor config).updateField kind target field change)
  rw [Executor.eval_updateField, h] at hcall
  exact Prod.mk.inj hcall

/-- The outcome that the user sees agrees with the stores, whatever has been done to the desk
before. An update of a single field fails on its own account only for a field that has no name or
that is the identifier. -/
theorem outcome_agrees (config : Config) {trace : List Event} {d₀ : Desk}
    (hstart : start config = .ok (trace, d₀)) (commands : List Command) (kind : Kind) :
    let d := d₀.performAll config commands
    (∀ payload, Agrees config d kind payload.toObject
      (d.call ((executor config).patch kind payload))) ∧
    ∀ target field change,
      let run := d.call ((executor config).updateField kind target field change)
      match change with
      | .object o => Agrees config d kind o run
      | .single value =>
        if field = "" then
          run.result = .failed (.invalidField field) config.errorMessage ∧ run.state = d
        else if field = idKey then
          run.result = .failed (.readOnlyField field) config.errorMessage ∧ run.state = d
        else Agrees config d kind (Payload.single target.id field value).toObject run := by
  intro d
  -- all that the commands before have to provide for is that records keep their identifiers
  have hconsistent := consistent_performAll hstart commands kind
  refine ⟨fun payload => (conducts_patch config d kind payload).agrees hconsistent, ?_⟩
  intro target field change
  cases change with
  | object o => exact (conducts_updateField config d kind (.full o) rfl).agrees hconsistent
  | single value =>
    by_cases hempty : field = ""
    · subst hempty
      exact call_updateField_of_error config d kind rfl
    · by_cases hid : field = idKey
      · subst hid
        exact call_updateField_of_error config d kind rfl
      · have hpayload : (Change.single value).payload (some field) (some target) =
            .ok (.single target.id field value) := by
          simp [Change.payload, hempty, hid]
        simp only [hempty, hid, if_false]
        exact (conducts_updateField config d kind _ hpayload).agrees hconsistent

/-- One account is stored: a patch of it is applied, and a patch of a second one is refused. -/
theorem outcome_agrees_acme :
    ∃ trace d₀, start {} = .ok (trace, d₀) ∧
      let d := d₀.performAll {} [.request ⟨.account, .create (.new "Acme")⟩]
      let rename (id : Int) : Payload := .single (.ofInt id) "name" (.string "Globex")
      (∃ id current, d.Applicable .account (rename 1).toObject id current) ∧
        ∃ reason, d.Refused .account (rename 2).toObject reason := by
  refine ⟨_, _, rfl, ?_⟩
  intro d rename
  have hagrees := outcome_agrees {} rfl [.request ⟨.account, .create (.new "Acme")⟩] .account
  refine ⟨(hagrees.1 (rename 1)).isSuccess_iff.1 rfl, ?_⟩
  have hfailed : ¬ ∃ id current, d.Applicable .account (rename 2).toObject id current := by
    intro happlicable
    have hsuccess := (hagrees.1 (rename 2)).isSuccess_iff.2 happlicable
    cases hsuccess
  rcases (hagrees.1 (rename 2)).failed hfailed with ⟨reason, hrefused, _⟩
  exact ⟨reason, hrefused⟩

end Desk
end FieldPatch
