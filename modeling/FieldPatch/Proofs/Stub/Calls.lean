import FieldPatch.Proofs.Executor.Notices
import FieldPatch.Stub.Endpoint

/-!
# Calls on a bench

What one call of an executor does to scripted endpoints.

* `Executor.delivery`: the endpoint and the payload that a call comes to, or why it comes to none;
* `Executor.eval_perform`: a call is its delivery, whoever takes it;
* `Bench.recalling`: a bench as a service that remembers misuse, and `Bench.eval_eq`: a dialogue on a
  bench is a run against this service, which counts until misuse;
* `Bench.call_cases`: all that a call can do to a bench;
* `Bench.notifications_call`: a call that misuse ends has not notified.
-/

namespace FieldPatch

/-! ## Deliveries -/

namespace Executor

namespace Call

def kind : Call → Kind
  | tryPatch kind _ => kind
  | patch kind _ => kind
  | updateField kind _ _ _ => kind

def payload : Call → Except PatchError Payload
  | tryPatch _ payload => .ok payload
  | patch _ payload => .ok payload
  | updateField _ target field change => change.payload (some field) (some target)

/-- What a call returns for the result of its request. -/
def reply (config : Config) (result : Except PatchError Json) : Call → Reply
  | tryPatch _ _ => .result result
  | patch kind _ => .outcome (.of config kind result)
  | updateField kind _ _ _ => .outcome (.of config kind result)

end Call

variable {ε α σ : Type}

/-- The payload goes to the endpoint that is registered for the kind of the call. -/
def delivery (x : Executor ε α) (call : Call) : Except PatchError (ε × Payload) :=
  match call.payload, x.registry.endpoint call.kind with
  | .error reason, _ => .error reason
  | .ok _, .error e => .error (.registry e)
  | .ok payload, .ok endpoint => .ok (endpoint, payload)

/-- A call asks for its delivery and nothing else, and returns what it got for that. -/
theorem eval_perform (x : Executor ε α) (serve : Dialogue.Service (Query ε α) σ) (s : σ)
    (call : Call) :
    (x.perform call).eval serve s =
      match x.delivery call with
      | .error reason => (call.reply x.config (.error reason), s)
      | .ok (endpoint, payload) =>
        (call.reply x.config ((serve (.patch endpoint payload) s).2.1.mapError .remote),
          (serve (.patch endpoint payload) s).2.2) := by
  cases call with
  | tryPatch kind payload =>
    simp only [perform, Dialogue.bind_eq, Dialogue.eval_bind, eval_tryPatch, delivery, Call.payload,
      Call.kind]
    cases x.registry.endpoint kind with
    | error e => rfl
    | ok endpoint => rfl
  | patch kind payload =>
    simp only [perform, Dialogue.bind_eq, Dialogue.eval_bind, eval_patch, eval_tryPatch, delivery,
      Call.payload, Call.kind]
    cases x.registry.endpoint kind with
    | error e => rfl
    | ok endpoint => rfl
  | updateField kind target field change =>
    simp only [perform, Dialogue.bind_eq, Dialogue.eval_bind, eval_updateField, eval_patch,
      eval_tryPatch, delivery, Call.payload, Call.kind]
    cases change.payload (some field) (some target) with
    | error reason => rfl
    | ok payload =>
      cases x.registry.endpoint kind with
      | error e => rfl
      | ok endpoint => rfl

end Executor

namespace Bench

variable {ε α : Type} [DecidableEq ε] (b : Bench ε)

@[simp] theorem endpoint_set_self (handle : ε) (e : ScriptedEndpoint) :
    (b.set handle e).endpoint handle = e := by
  simp [set]

theorem endpoint_set_of_ne {handle h : ε} (e : ScriptedEndpoint) (hne : h ≠ handle) :
    (b.set handle e).endpoint h = b.endpoint h := by
  simp [set, hne]

/-! ## Dialogues on a bench -/

def eval (d : Dialogue (Query ε (List Choice)) α) : Except Misuse α × Bench ε :=
  ((b.call d).result, (b.call d).state)

/-- A bench that remembers the first misuse and takes nothing after it. -/
def recalling : Dialogue.Service (Query ε (List Choice)) (Option Misuse × Bench ε)
  | _, (some misuse, b) => ([], .error (.notFound ""), (some misuse, b))
  | query, (none, b) =>
    match b.answer query with
    | (.ok answer, b') => ([], answer, (none, b'))
    | (.error misuse, b') => ([], .error (.notFound ""), (some misuse, b'))

/-- What is left of a run when the answers after a misuse are left out of account. -/
def upToMisuse : α × Option Misuse × Bench ε → Except Misuse α × Bench ε
  | (result, none, b) => (.ok result, b)
  | (_, some misuse, b) => (.error misuse, b)

theorem eval_recalling_some (d : Dialogue (Query ε (List Choice)) α) (misuse : Misuse) :
    (d.eval recalling (some misuse, b)).2 = (some misuse, b) := by
  induction d with
  | done result => rfl
  | emit event next ih => exact ih
  | ask query next ih => exact ih (.error (.notFound ""))

/-- Misuse ends a dialogue, but it would make no difference if the dialogue went on. -/
theorem eval_eq (d : Dialogue (Query ε (List Choice)) α) :
    b.eval d = upToMisuse (d.eval recalling (none, b)) := by
  induction d generalizing b with
  | done result => rfl
  | emit event next ih => exact ih b
  | ask query next ih =>
    simp only [eval, call, Dialogue.eval_ask, recalling]
    rcases b.answer query with ⟨answer, b'⟩
    cases answer with
    | ok answer => exact ih answer b'
    | error misuse =>
      -- the rest of the run keeps the misuse, whatever its result
      have hkept := b'.eval_recalling_some (next (.error (.notFound ""))) misuse
      rcases hrest : (next (.error (.notFound ""))).eval recalling (some misuse, b') with ⟨r, s⟩
      have hstate : s = (some misuse, b') := by simpa [hrest] using hkept
      simp [hstate, upToMisuse]

/-- A dialogue that notifies at its end, if at all, has notified of nothing when misuse ends it. -/
theorem notifications_call {P : α → List Notification → Prop}
    {d : Dialogue (Query ε (List Choice)) α} (h : d.ClosesWith P) :
    match (b.call d).result with
    | .ok result => P result (Event.notifications (b.call d).trace)
    | .error _ => Event.notifications (b.call d).trace = [] := by
  induction d generalizing b with
  | done result => exact h
  | emit event next ih =>
    cases hn : event.notification? with
    | none =>
      have hnext : next.ClosesWith P := by simpa [Dialogue.ClosesWith, hn] using h
      have htrace : Event.notifications (b.call (.emit event next)).trace =
          Event.notifications (b.call next).trace := by
        simp [call, Dialogue.Run.after, Event.notifications, hn]
      rw [htrace]
      exact ih b hnext
    | some n =>
      -- the notification is the last event
      have hend : ∃ result, next = .done result ∧ P result [n] := by
        simpa [Dialogue.ClosesWith, hn] using h
      rcases hend with ⟨result, rfl, hresult⟩
      simpa [call, Dialogue.Run.after, Event.notifications, hn] using hresult
  | ask query next ih =>
    simp only [call]
    rcases b.answer query with ⟨answer, b'⟩
    cases answer with
    | ok answer => exact ih answer b' (h answer)
    | error misuse => rfl

/-! ## Calls -/

/-- A call comes to no endpoint and leaves the bench as it is; or its payload comes to one endpoint,
which has no result left and ends the call, or gives away its first one. -/
theorem call_cases (x : Executor ε (List Choice)) (call : Executor.Call) :
    (∃ reason, x.delivery call = .error reason ∧
      b.eval (x.perform call) = (.ok (call.reply x.config (.error reason)), b)) ∨
    ∃ handle payload, x.delivery call = .ok (handle, payload) ∧
      let received := (b.endpoint handle).received ++ [payload]
      (((b.endpoint handle).replies = [] ∧
        b.eval (x.perform call) = (.error .unexpectedPatch, b.set handle ⟨[], received⟩)) ∨
      ∃ result rest, (b.endpoint handle).replies = result :: rest ∧
        b.eval (x.perform call) = (.ok (call.reply x.config (result.mapError .remote)),
          b.set handle ⟨rest, received⟩)) := by
  rw [eval_eq, Executor.eval_perform]
  cases hdelivery : x.delivery call with
  | error reason => exact .inl ⟨reason, rfl, rfl⟩
  | ok delivered =>
    rcases delivered with ⟨handle, payload⟩
    refine .inr ⟨handle, payload, rfl, ?_⟩
    cases hreplies : (b.endpoint handle).replies with
    | nil =>
      refine .inl ⟨rfl, ?_⟩
      simp [recalling, answer, ScriptedEndpoint.deliver, hreplies, upToMisuse]
    | cons result rest =>
      refine .inr ⟨result, rest, rfl, ?_⟩
      simp [recalling, answer, ScriptedEndpoint.deliver, hreplies, upToMisuse]

end Bench
end FieldPatch
