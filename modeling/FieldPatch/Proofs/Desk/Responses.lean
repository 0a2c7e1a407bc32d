import FieldPatch.Proofs.Desk.Patch
import FieldPatch.Proofs.Record.Decoded

/-!
# Responses read back

A caller that decodes the response to a patch gets the record that the desk has stored.

* `Desk.RespondsWithStored`: the response of a run, where it is applied, stands for a stored record;
* `Desk.Agrees.respondsWithStored`: a run that agrees with the stores responds so;
* `Desk.json_decodes_to_record`: records, choices and kinds are read back from their JSON, and so are
  the responses of every patch and every update of a desk at work.
-/

namespace FieldPatch
namespace Desk

open Kind Server

/-- If the run is applied, the record that the patch addresses is stored after it. The response is
decoded to this record, or it cannot be decoded because the hours are written as null. -/
def RespondsWithStored (kind : Kind) (fields : Json.Object) (run : Dialogue.Run Desk Outcome) :
    Prop :=
  ∀ response message, run.result = .applied response message →
    ∃ id : UInt64, fields.get? idKey = some (.ofInt id.toNat) ∧
      ∃ r, (run.state.server kind).get? id = some r ∧
        (HoursFinite r → kind.decode response = .ok r) ∧
        (¬ HoursFinite r → kind.decode response = .error (.wrongShape .null "f64"))

theorem Agrees.respondsWithStored {config : Config} {d : Desk} {kind : Kind} {fields : Json.Object}
    {run : Dialogue.Run Desk Outcome} (h : Agrees config d kind fields run) :
    RespondsWithStored kind fields run := by
  intro response message hresult
  have hsuccess : run.result.isSuccess := by
    rw [hresult]
    rfl
  rcases h.isSuccess_iff.1 hsuccess with ⟨id, current, happlicable⟩
  rcases h.applied id current happlicable with ⟨updated, _, _, happlied, hreplaces, _⟩
  rcases Outcome.applied.inj (happlied.symm.trans hresult) with ⟨hresponse, _⟩
  subst hresponse
  refine ⟨id, happlicable.id_eq, updated, hreplaces.get?_self, ?_, ?_⟩
  · intro hfinite
    exact (readsBack hfinite).own
  · intro hfinite
    exact decode_of_not_hoursFinite hfinite

/-- Records whose hours are finite, choices and kinds are read back from their JSON: from the object
as it is written, from every object that has more keys, and from the array of the values in the order
of their declaration. Hours that are not finite are written as null, from which no record is read. So
the response of an applied patch or update is decoded to the record that is stored then, unless its
hours are not finite. -/
theorem json_decodes_to_record :
    (∀ (kind : Kind) (r : kind.Record), HoursFinite r →
      Decode.ReadsBack kind.decode (members r) r) ∧
    (∀ t : TimeLog, ¬ t.hoursLogged.isFinite →
      t.toObject.get? "hours_logged" = some .null ∧
        ∀ o : Json.Object, o.Extends t.toObject →
          TimeLog.decode o.toJson = .error (.wrongShape .null "f64")) ∧
    (∀ c : Choice, Decode.ReadsBack Choice.decode c.members c) ∧
    (∀ kind : Kind, ofJson kind.toJson = .ok kind) ∧
    ∀ (config : Config) (trace : List Event) (d₀ : Desk), start config = .ok (trace, d₀) →
      ∀ (commands : List Command) (kind : Kind),
        let d := d₀.performAll config commands
        (∀ payload, RespondsWithStored kind payload.toObject
          (d.call ((executor config).patch kind payload))) ∧
        ∀ target field change,
          let run := d.call ((executor config).updateField kind target field change)
          match change.payload (some field) (some target) with
          | .ok payload => RespondsWithStored kind payload.toObject run
          | .error reason => run.result = .failed reason config.errorMessage := by
  refine ⟨fun kind r => readsBack, fun t => TimeLog.decode_of_not_finite, Choice.readsBack,
    ofJson_toJson, ?_⟩
  intro config trace d₀ hstart commands kind d
  have hconsistent := consistent_performAll hstart commands kind
  refine ⟨?_, ?_⟩
  · intro payload
    exact ((conducts_patch config d kind payload).agrees hconsistent).respondsWithStored
  · intro target field change run
    cases hpayload : change.payload (some field) (some target) with
    | ok payload =>
      have hagrees := (conducts_updateField config d kind payload hpayload).agrees hconsistent
      exact hagrees.respondsWithStored
    | error reason => exact (call_updateField_of_error config d kind hpayload).1

/-- Two time logs become billable. The first is read back from the response; the hours of the second
are not finite, so that its response cannot be decoded. -/
theorem json_decodes_to_record_hours :
    ∃ trace d₀, start {} = .ok (trace, d₀) ∧
      let d := d₀.performAll {} [.request ⟨.timeLog, .create (.new "Setup" 1.5)⟩,
        .request ⟨.timeLog, .create (.new "Review" (0 / 0))⟩]
      let bill (id : UInt64) : Payload := .single (.ofInt id.toNat) "billable" (.bool true)
      let run (id : UInt64) := d.call ((executor {}).patch .timeLog (bill id))
      (∃ response message, (run 1).result = .applied response message ∧
        TimeLog.decode response = .ok ⟨1, "Setup", 1.5, true⟩) ∧
      ∃ response message, (run 2).result = .applied response message ∧
        TimeLog.decode response = .error (.wrongShape .null "f64") := by
  refine ⟨_, _, rfl, ?_⟩
  intro d bill run
  have hresponds := (json_decodes_to_record.2.2.2.2 {} _ _ rfl
    [.request ⟨.timeLog, .create (.new "Setup" 1.5)⟩,
      .request ⟨.timeLog, .create (.new "Review" (0 / 0))⟩] .timeLog).1
  have haddressee {id id' : UInt64} (h : (bill id).toObject.get? idKey = some (.ofInt id'.toNat)) :
      id' = id :=
    Option.some.inj ((addressee?_eq_some_iff.2 h).symm.trans (addressee?_single.2 rfl))
  refine ⟨⟨_, _, rfl, ?_⟩, _, _, rfl, ?_⟩
  · rcases hresponds (bill 1) _ _ rfl with ⟨id, hid, r, hr, hfinite, _⟩
    obtain rfl := haddressee hid
    have hr' : (⟨1, "Setup", 1.5, true⟩ : TimeLog) = r := Option.some.inj hr
    subst hr'
    have hhours : (1.5 : Float).isFinite := by decide +kernel
    exact hfinite hhours
  · rcases hresponds (bill 2) _ _ rfl with ⟨id, hid, r, hr, _, hnot⟩
    obtain rfl := haddressee hid
    have hr' : (⟨2, "Review", 0 / 0, true⟩ : TimeLog) = r := Option.some.inj hr
    subst hr'
    have hhours : ¬ (0 / 0 : Float).isFinite := by decide +kernel
    exact hnot hhours

end Desk
end FieldPatch
