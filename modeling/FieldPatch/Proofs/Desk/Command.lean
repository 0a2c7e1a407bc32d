import FieldPatch.Desk.Basic
import FieldPatch.Proofs.Executor.Outcomes
import FieldPatch.Proofs.Server.Choices
import FieldPatch.Proofs.Server.Patch

/-!
# Commands to a desk

What callers do with a running desk, one after the other, and which server each of them reaches.

* `Desk.relays`: how the executor's questions are answered by the servers;
* `Desk.Command`: the calls of executor and clients, and `Desk.Command.inquiry?`: the request that a
  command leads to, if it leads to one;
* `Desk.perform`, `Desk.performAll`: the desk after a command, or after many;
* `Desk.server_perform`: a command does to the servers what its request does to one of them;
* `Desk.holds_performAll`: so what every request keeps holds in a desk at work, such as the tables of
  choices (`Desk.table_performAll`).
-/

namespace FieldPatch
namespace Desk

/-! ## Servers -/

/-- Every server has run by now. -/
def settle (d : Desk) : Desk :=
  { d with asleep := [] }

@[simp] theorem server_settle (d : Desk) (kind : Kind) : d.settle.server kind = d.server kind := by
  cases kind <;> rfl

theorem server_serve (d : Desk) (kind : Kind) (request : Request UInt64 kind.Record) :
    (d.serve ⟨kind, request⟩).2.server kind = ((d.server kind).serve request).2 :=
  d.server_setServer kind _

theorem server_serve_of_ne (d : Desk) (inquiry : Inquiry) {kind : Kind} (h : kind ≠ inquiry.kind) :
    (d.serve inquiry).2.server kind = d.server kind :=
  d.server_setServer_of_ne _ h

/-- The servers of a desk that has just been started are empty. -/
theorem server_start {config : Config} {trace : List Event} {d : Desk}
    (h : start config = .ok (trace, d)) (kind : Kind) : d.server kind = .counting := by
  unfold start at h
  cases hcapacity : Mailbox.Capacity.ofNat config.mailboxCapacity.toNat with
  | error e =>
    -- without a capacity there is no mailbox, and no desk
    rw [hcapacity] at h
    cases h
  | ok capacity =>
    rw [hcapacity] at h
    cases h
    cases kind <;> rfl

/-! ## Questions of the executor -/

def relays : Dialogue.Service (Query Kind (Kind × String)) Desk :=
  Dialogue.relayed service relay

/-- What a client makes of the answer to a patch. -/
def response {k : Kind} : Except ServerError k.Record → Except RemoteError Json
  | .ok r => .ok (Kind.toObject r).toJson
  | .error e => .error (.ofServer e)

theorem relays_patch (d : Desk) (kind : Kind) (payload : Payload) :
    (relays (.patch kind payload) d).2 =
      (response ((d.server kind).patch payload.toObject).1,
        (d.serve ⟨kind, .patch payload.toObject⟩).2.settle) := by
  have hask : (Dialogue.relayed service (direct kind) (.patch payload.toObject) d).2 =
      (((d.server kind).patch payload.toObject).1,
        (d.serve ⟨kind, .patch payload.toObject⟩).2.settle) := rfl
  change (relay (.patch kind payload)).eval service d = _
  rw [relay, Dialogue.eval_through, Client.eval_patch, hask]
  cases ((d.server kind).patch payload.toObject).1 with
  | error e => rfl
  | ok record => rfl

theorem relays_fetch (d : Desk) (kind : Kind) (accessor : String) :
    (relays (.fetch (kind, accessor)) d).2 =
      (((d.server kind).choices accessor).mapError .ofServer,
        (d.serve ⟨kind, .choices accessor⟩).2.settle) := by
  have hask : (Dialogue.relayed service (direct kind) (.choices accessor) d).2 =
      ((d.server kind).choices accessor, (d.serve ⟨kind, .choices accessor⟩).2.settle) := rfl
  change (relay (.fetch (kind, accessor))).eval service d = _
  rw [relay, Dialogue.eval_through, Client.eval_fetch, hask]

theorem endpoint_registry (kind : Kind) : registry.endpoint kind = .ok kind := by
  cases kind <;> rfl

variable {α : Type}

theorem eval_call (d : Desk) (dialogue : Dialogue (Query Kind (Kind × String)) α) :
    ((d.call dialogue).result, (d.call dialogue).state) = dialogue.eval relays d :=
  Dialogue.eval_through service relay dialogue d

theorem eval_tryPatch (config : Config) (d : Desk) (kind : Kind) (payload : Payload) :
    ((executor config).tryPatch kind payload).eval relays d =
      ((response ((d.server kind).patch payload.toObject).1).mapError .remote,
        (d.serve ⟨kind, .patch payload.toObject⟩).2.settle) := by
  have hendpoint : (executor config).registry.endpoint kind = .ok kind := endpoint_registry kind
  simp only [Executor.eval_tryPatch, hendpoint, relays_patch]

/-! ## Commands -/

inductive Command where
  /-- A request through the client of a server. -/
  | request (inquiry : Inquiry)
  | tryPatch (kind : Kind) (payload : Payload)
  | patch (kind : Kind) (payload : Payload)
  | update (kind : Kind) (target : Target) (field : String) (change : Change)
  | choices (kind : Kind) (field : String)

/-- The request that a command leads to. -/
def Command.inquiry? : Command → Option Inquiry
  | .request inquiry => some inquiry
  | .tryPatch kind payload => some ⟨kind, .patch payload.toObject⟩
  | .patch kind payload => some ⟨kind, .patch payload.toObject⟩
  | .update kind target field change =>
    match change.payload (some field) (some target) with
    | .ok payload => some ⟨kind, .patch payload.toObject⟩
    | .error _ => none
  | .choices kind field =>
    match registry.resolve kind field with
    | .ok found => some ⟨found.accessor.1, .choices found.accessor.2⟩
    | .error _ => none

/-- The desk after a command. -/
def perform (config : Config) (d : Desk) : Command → Desk
  | .request inquiry => (d.ask inquiry.kind inquiry.request).state
  | .tryPatch kind payload => (d.call ((executor config).tryPatch kind payload)).state
  | .patch kind payload => (d.call ((executor config).patch kind payload)).state
  | .update kind target field change =>
    (d.call ((executor config).updateField kind target field change)).state
  | .choices kind field => (d.call ((executor config).choicesForField kind field)).state

def performAll (config : Config) (d : Desk) (commands : List Command) : Desk :=
  commands.foldl (perform config) d

theorem performAll_snoc (config : Config) (d : Desk) (commands : List Command)
    (command : Command) :
    d.performAll config (commands ++ [command]) =
      (d.performAll config commands).perform config command := by
  simp [performAll]

theorem perform_eq (config : Config) (d : Desk) (command : Command) :
    d.perform config command =
      match command.inquiry? with
      | some inquiry => (d.serve inquiry).2.settle
      | none => d := by
  have hstate {α : Type} (dialogue : Dialogue (Query Kind (Kind × String)) α) :
      (d.call dialogue).state = (dialogue.eval relays d).2 :=
    congrArg Prod.snd (d.eval_call dialogue)
  -- the trace and the result of a call are left out of account
  cases command with
  | request inquiry => rfl
  | tryPatch kind payload =>
    simp only [perform, hstate, eval_tryPatch, Command.inquiry?]
  | patch kind payload =>
    simp only [perform, hstate, Executor.eval_patch, eval_tryPatch, Command.inquiry?]
  | update kind target field change =>
    rw [perform, hstate, Executor.eval_updateField, Command.inquiry?]
    cases change.payload (some field) (some target) with
    | ok payload =>
      simp only [Executor.eval_patch, eval_tryPatch]
    | error reason => rfl
  | choices kind field =>
    have hregistry : (executor config).registry = registry := rfl
    rw [perform, hstate, Executor.choicesForField, Registry.eval_choicesForField, hregistry,
      Command.inquiry?]
    cases registry.resolve kind field with
    | ok found =>
      rcases found with ⟨name, ⟨kind', accessor⟩, exact⟩
      simp only [relays_fetch]
    | error e => rfl

/-- A command is to the servers what its request is to one of them. -/
theorem server_perform (config : Config) (d : Desk) (command : Command) (kind : Kind) :
    (d.perform config command).server kind =
      match command.inquiry? with
      | some inquiry => (d.serve inquiry).2.server kind
      | none => d.server kind := by
  rw [perform_eq]
  cases command.inquiry? with
  | some inquiry => exact server_settle _ kind
  | none => rfl

/-- What holds of a server that has just been started, and is kept by every request, holds in a desk
at work. -/
theorem holds_performAll {config : Config} {trace : List Event} {d : Desk}
    (hstart : start config = .ok (trace, d)) (commands : List Command) {kind : Kind}
    {P : Server UInt64 kind.Record → Prop} (hcounting : P .counting)
    (hserve : ∀ s, P s → ∀ request, P (s.serve request).2) :
    P ((d.performAll config commands).server kind) := by
  induction commands using List.reverseRecOn with
  | nil => simpa [performAll, server_start hstart] using hcounting
  | append_singleton before command ih =>
    rw [performAll_snoc, server_perform]
    cases command.inquiry? with
    | none => exact ih
    | some inquiry =>
      change P (((d.performAll config before).serve inquiry).2.server kind)
      by_cases hkind : kind = inquiry.kind
      · -- the request is for this server
        subst hkind
        rw [server_serve]
        exact hserve _ ih inquiry.request
      · rw [server_serve_of_ne _ inquiry hkind]
        exact ih

variable {config : Config} {trace : List Event} {d : Desk}

/-- In a desk at work, each record bears the identifier under which it is stored. -/
theorem consistent_performAll (hstart : start config = .ok (trace, d)) (commands : List Command)
    (kind : Kind) : ((d.performAll config commands).server kind).Consistent :=
  holds_performAll hstart commands Server.consistent_counting fun _ h => h.serve

/-- In a desk at work, the servers have the lists of choices that their records declare. -/
theorem table_performAll (hstart : start config = .ok (trace, d)) (commands : List Command)
    (kind : Kind) : ((d.performAll config commands).server kind).table =
      Server.collect (Entity.choiceLists kind.Record) := by
  refine holds_performAll hstart commands (P := fun s => s.table = _) rfl ?_
  intro s htable request
  simpa using htable

end Desk
end FieldPatch
