import FieldPatch.Line
import FieldPatch.Proofs.Dialogue.Follows
import FieldPatch.Proofs.Executor.Outcomes

/-!
# Calls of clients

The calls that may share a server: requests through its client, and updates by an executor whose
endpoint is that client.

* `Client.Call`, `Client.Result`: the calls and what they return;
* `Client.Conveys`: at most one patch was sent, and a response shows the record that it left;
* `Client.Call.Returns`: what a call returns for the answers that it got;
* `Client.Call.ends_dialogue`, `Client.Call.length_le_of_follows`: every call returns so, and is
  answered once at most.
-/

namespace FieldPatch
namespace Client

inductive Call (ι ρ : Type) where
  | request (r : Request ι ρ)
  | update (x : Executor Unit String) (kind : Kind) (target : Target) (field : String)
      (change : Change)

inductive Result (ι ρ : Type) where
  | reply (r : Answered (Request ι ρ))
  | outcome (o : Outcome)

variable {ι ρ : Type} [Entity ι ρ]

def Call.dialogue : Call ι ρ → Dialogue (Request ι ρ) (Result ι ρ)
  | .request r => do return .reply ⟨r, ← ask r⟩
  | .update x kind target field change => do
    return .outcome (← (x.updateField kind target field change).through relay)

/-- A patch that was accepted, with the record that it left. -/
abbrev accepted (fields : Json.Object) (updated : ρ) : Answered (Request ι ρ) :=
  ⟨.patch fields, (.ok updated : Except ServerError ρ)⟩

/-- No more than one answer was got, and a response is the record that these members have left. -/
def Conveys (fields : Json.Object) (answers : List (Answered (Request ι ρ)))
    (response? : Option Json) : Prop :=
  answers.length ≤ 1 ∧ ∀ response, response? = some response →
    ∃ updated, answers = [accepted fields updated] ∧ Entity.encode updated = .ok response

/-- A request returns its reply, and an update that is applied what its own patch has left. -/
def Call.Returns (call : Call ι ρ) (answers : List (Answered (Request ι ρ)))
    (result : Result ι ρ) : Prop :=
  match call with
  | .request r => ∃ answer, answers = [⟨r, answer⟩] ∧ result = .reply ⟨r, answer⟩
  | .update _ _ target field change =>
    ∃ o, result = .outcome o ∧
      match change.payload (some field) (some target) with
      | .ok payload => Conveys payload.toObject answers o.response?
      | .error _ => answers = [] ∧ o.response? = none

/-- What asks no more questions conveys as much. -/
theorem Conveys.append_nil {fields : Json.Object} {answers : List (Answered (Request ι ρ))}
    {response? : Option Json} (h : Conveys fields answers response?) :
    Conveys fields (answers ++ []) response? := by
  simpa using h

/-! ## Parts of a call -/

theorem conveys_none {fields : Json.Object} {answers : List (Answered (Request ι ρ))}
    (h : answers.length ≤ 1) : Conveys fields answers none :=
  ⟨h, nofun⟩

theorem ends_patch (payload : Payload) :
    (patch payload : Dialogue (Request ι ρ) (Except RemoteError Json)).Ends
      fun answers result => Conveys payload.toObject answers result.toOption := by
  intro answer
  cases answer with
  | error e => exact conveys_none (by simp)
  | ok record =>
    simp only [Dialogue.done_bind]
    cases hencode : Entity.encode record with
    | ok json =>
      refine ⟨by simp, ?_⟩
      intro response hresponse
      cases hresponse
      exact ⟨record, rfl, hencode⟩
    | error why => exact conveys_none (by simp)

theorem ends_tryPatch (x : Executor Unit String) (kind : Kind) (payload : Payload) :
    ((x.tryPatch kind payload).through (relay (ρ := ρ))).Ends
      fun answers result => Conveys payload.toObject answers result.toOption := by
  unfold Executor.tryPatch
  cases x.registry.endpoint kind with
  | error e => exact conveys_none (by simp)
  | ok endpoint =>
    -- the one question of the call is answered by the client
    refine Dialogue.Ends.bind ((ends_patch payload).mono ?_)
    intro answers result hconveys
    cases result with
    | ok response => exact hconveys.append_nil
    | error e => exact hconveys.append_nil

theorem ends_executorPatch (x : Executor Unit String) (kind : Kind) (payload : Payload) :
    ((x.patch kind payload).through (relay (ρ := ρ))).Ends
      fun answers o => Conveys payload.toObject answers o.response? := by
  rw [Executor.patch, Dialogue.bind_eq, Dialogue.through_bind]
  refine Dialogue.Ends.bind ((ends_tryPatch x kind payload).mono ?_)
  intro answers result hconveys
  -- the notification is no question, so that the answers stay as they are
  cases result with
  | ok response => exact hconveys.append_nil
  | error reason => exact hconveys.append_nil

theorem ends_announce (config : Config) (payload : Except PatchError Payload) :
    ((config.announce payload).through (relay (ρ := ρ))).Ends fun answers _ => answers = [] := by
  unfold Config.announce
  split
  · split <;> rfl
  · rfl

theorem ends_updateField (x : Executor Unit String) (kind : Kind) (target : Target) (field : String)
    (change : Change) :
    ((x.updateField kind target field change).through (relay (ρ := ρ))).Ends fun answers o =>
      match change.payload (some field) (some target) with
      | .ok payload => Conveys payload.toObject answers o.response?
      | .error _ => answers = [] ∧ o.response? = none := by
  rw [Executor.updateField_eq, Dialogue.through_bind]
  refine Dialogue.Ends.bind ((ends_announce x.config _).mono ?_)
  intro answers _ hnil
  subst hnil
  cases change.payload (some field) (some target) with
  | ok payload => simpa using ends_executorPatch x kind payload
  | error reason => exact ⟨rfl, rfl⟩

/-! ## Calls -/

namespace Call

theorem Returns.length_le {call : Call ι ρ} {answers : List (Answered (Request ι ρ))}
    {result : Result ι ρ} (h : call.Returns answers result) : answers.length ≤ 1 := by
  cases call with
  | request r =>
    rcases h with ⟨answer, rfl, _⟩
    simp
  | update x kind target field change =>
    rcases h with ⟨o, _, hend⟩
    cases hpayload : change.payload (some field) (some target) with
    | ok payload =>
      have hconveys : Conveys payload.toObject answers o.response? := by
        simpa [hpayload] using hend
      exact hconveys.1
    | error reason =>
      have hnone : answers = [] ∧ o.response? = none := by
        simpa [hpayload] using hend
      simp [hnone.1]

theorem ends_dialogue (call : Call ι ρ) : call.dialogue.Ends call.Returns := by
  cases call with
  | request r =>
    intro answer
    exact ⟨answer, rfl, rfl⟩
  | update x kind target field change =>
    refine Dialogue.Ends.bind ((ends_updateField x kind target field change).mono ?_)
    intro answers o hend
    refine ⟨o, rfl, ?_⟩
    simpa using hend

/-- A call is answered once at most. -/
theorem length_le_of_follows (call : Call ι ρ) {answers : List (Answered (Request ι ρ))}
    {rest : Dialogue (Request ι ρ) (Result ι ρ)} (h : call.dialogue.Follows answers rest) :
    answers.length ≤ 1 := by
  have hrest := call.ends_dialogue.of_follows h
  -- some end follows, and there all answers together are one at most
  have hinhabited : ∀ r : Request ι ρ, Nonempty (Answer r) := fun r => ⟨r.unanswered .closed⟩
  rcases hrest.exists_end with ⟨more, result, hend⟩
  have hlength := hend.length_le
  rw [List.length_append] at hlength
  omega

/-- A call that asks has not been answered before. -/
theorem eq_nil_of_follows_ask (call : Call ι ρ) {answers : List (Answered (Request ι ρ))}
    {question : Request ι ρ} {next : Answer question → Dialogue (Request ι ρ) (Result ι ρ)}
    (h : call.dialogue.Follows answers (.ask question next)) : answers = [] := by
  -- otherwise the next answer would be a second one
  have hlength := call.length_le_of_follows (h.answered (question.unanswered .closed))
  rw [List.length_append, List.length_singleton] at hlength
  exact List.length_eq_zero_iff.1 (by omega)

end Call
end Client
end FieldPatch
