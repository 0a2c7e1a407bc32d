import FieldPatch.Proofs.Dialogue.Crowd
import FieldPatch.Proofs.Executor.Outcomes

/-!
# Notifications of an executor

Every patch and every update tells the user how it went, once and truthfully; a `tryPatch` tells
nothing.

* `Executor.Call`: the calls that patch, and `Executor.perform`: their dialogues;
* `Outcome.Truthful`: a notification says what an outcome says;
* `Executor.closesWith_perform`: each call notifies at its end, if at all;
* `Executor.exactly_one_notification`: the same for any number of calls that overlap.
-/

namespace FieldPatch

def Notification.message : Notification → String
  | success message _ => message
  | error message _ => message

namespace Outcome

/-- The notification that an outcome calls for. -/
def notification (config : Config) (kind : Kind) : Outcome → Notification
  | applied _ _ => .success (config.successMessage kind) config.successTitle
  | failed _ _ => .error config.errorMessage config.errorTitle

structure Truthful (config : Config) (kind : Kind) (o : Outcome) (n : Notification) : Prop where
  message_eq : n.message = o.message
  success_iff : n = .success (config.successMessage kind) config.successTitle ↔ o.isSuccess = true
  error_iff : n = .error config.errorMessage config.errorTitle ↔ o.isSuccess = false

theorem truthful_applied (config : Config) (kind : Kind) (response : Json) :
    Truthful config kind (.applied response (config.successMessage kind))
      (.success (config.successMessage kind) config.successTitle) := by
  refine ⟨rfl, ?_, ?_⟩
  · simp [isSuccess]
  · simp [isSuccess]

theorem truthful_failed (config : Config) (kind : Kind) (reason : PatchError) :
    Truthful config kind (.failed reason config.errorMessage)
      (.error config.errorMessage config.errorTitle) := by
  refine ⟨rfl, ?_, ?_⟩
  · simp [isSuccess]
  · simp [isSuccess]

theorem Truthful.eq_notification {config : Config} {kind : Kind} {o : Outcome} {n : Notification}
    (h : Truthful config kind o n) : n = o.notification config kind := by
  cases o with
  | applied response message => exact h.success_iff.2 rfl
  | failed reason message => exact h.error_iff.2 rfl

end Outcome

namespace Executor

variable {ε α : Type}

inductive Call where
  | tryPatch (kind : Kind) (payload : Payload)
  | patch (kind : Kind) (payload : Payload)
  | updateField (kind : Kind) (target : Target) (field : String) (change : Change)

inductive Reply where
  | result (r : Except PatchError Json)
  | outcome (o : Outcome)

def perform (x : Executor ε α) : Call → Dialogue (Query ε α) Reply
  | .tryPatch kind payload => do return .result (← x.tryPatch kind payload)
  | .patch kind payload => do return .outcome (← x.patch kind payload)
  | .updateField kind target field change => do
    return .outcome (← x.updateField kind target field change)

/-- The kind that the user is told of, if the user is told anything. -/
def Call.notifies? : Call → Option Kind
  | .tryPatch _ _ => none
  | .patch kind _ => some kind
  | .updateField kind _ _ _ => some kind

/-- What a call with this reply has told the user. -/
def Call.told (config : Config) (call : Call) : Reply → List Notification
  | .result _ => []
  | .outcome o => call.notifies?.toList.map fun kind => o.notification config kind

/-- One truthful notification for the calls that notify, and none for the others. -/
def Call.Tells (config : Config) (call : Call) (reply : Reply) (said : List Notification) : Prop :=
  match call.notifies? with
  | none => ∃ r, reply = .result r ∧ said = []
  | some kind => ∃ o n, reply = .outcome o ∧ said = [n] ∧ o.Truthful config kind n

theorem Call.Tells.eq_told {config : Config} {call : Call} {reply : Reply}
    {said : List Notification} (h : call.Tells config reply said) :
    said = call.told config reply := by
  unfold Tells at h
  cases hkind : call.notifies? with
  | none =>
    have hnone : ∃ r, reply = .result r ∧ said = [] := by simpa [hkind] using h
    rcases hnone with ⟨r, rfl, hsaid⟩
    exact hsaid
  | some kind =>
    have hone : ∃ o n, reply = .outcome o ∧ said = [n] ∧ o.Truthful config kind n := by
      simpa [hkind] using h
    rcases hone with ⟨o, n, rfl, hsaid, htrue⟩
    -- a truthful notification is the one that the outcome calls for
    simpa [told, hkind, htrue.eq_notification] using hsaid

/-! ## The parts of a call -/

section Parts

variable {Q β : Type} [Question Q] (config : Config)

/-- The dialogue returns an outcome, and ends with the notification of it. -/
abbrev Concludes (kind : Kind) (d : Dialogue Q Outcome) : Prop :=
  d.ClosesWith fun o said => ∃ n, said = [n] ∧ o.Truthful config kind n

theorem concludes_succeed (kind : Kind) (response : Json) :
    Concludes config kind (succeed config kind response : Dialogue Q Outcome) :=
  ⟨_, rfl, _, rfl, Outcome.truthful_applied config kind response⟩

theorem concludes_fail (kind : Kind) (reason : PatchError) :
    Concludes config kind (fail config kind reason : Dialogue Q Outcome) :=
  ⟨_, rfl, _, rfl, Outcome.truthful_failed config kind reason⟩

theorem quiet_announce (payload : Except PatchError Payload) :
    (config.announce payload : Dialogue Q Unit).Quiet := by
  unfold Config.announce
  split
  · split <;> rfl
  · rfl

end Parts

theorem quiet_tryPatch (x : Executor ε α) (kind : Kind) (payload : Payload) :
    (x.tryPatch kind payload).Quiet := by
  unfold tryPatch
  cases x.registry.endpoint kind with
  | error e => rfl
  | ok endpoint =>
    -- the answer decides between two ends without a notification
    intro answer
    cases answer with
    | ok response => rfl
    | error e => rfl

theorem concludes_patch (x : Executor ε α) (kind : Kind) (payload : Payload) :
    Concludes x.config kind (x.patch kind payload) := by
  refine (x.quiet_tryPatch kind payload).bind ?_
  intro result
  cases result with
  | ok response => exact concludes_succeed x.config kind response
  | error reason => exact concludes_fail x.config kind reason

theorem concludes_updateField (x : Executor ε α) (kind : Kind) (target : Target) (field : String)
    (change : Change) : Concludes x.config kind (x.updateField kind target field change) := by
  rw [updateField_eq]
  refine (quiet_announce x.config _).bind ?_
  intro _
  cases change.payload (some field) (some target) with
  | ok payload => exact x.concludes_patch kind payload
  | error reason => exact concludes_fail x.config kind reason

/-! ## Calls -/

theorem closesWith_perform (x : Executor ε α) (call : Call) :
    (x.perform call).ClosesWith (call.Tells x.config) := by
  cases call with
  | tryPatch kind payload =>
    have hquiet : (x.tryPatch kind payload).ClosesWith
        fun r said => Call.Tells x.config (.tryPatch kind payload) (.result r) said := by
      simpa [Call.Tells, Call.notifies?] using x.quiet_tryPatch kind payload
    exact hquiet.map
  | patch kind payload =>
    have hends : (x.patch kind payload).ClosesWith
        fun o said => Call.Tells x.config (.patch kind payload) (.outcome o) said := by
      simpa [Call.Tells, Call.notifies?] using x.concludes_patch kind payload
    exact hends.map
  | updateField kind target field change =>
    have hends : (x.updateField kind target field change).ClosesWith
        fun o said =>
          Call.Tells x.config (.updateField kind target field change) (.outcome o) said := by
      simpa [Call.Tells, Call.notifies?] using x.concludes_updateField kind target field change
    exact hends.map

/-- In a crowd of calls, an open call has notified of nothing, and one that has ended has told what
its reply says. -/
theorem notifications_of_reaches (x : Executor ε α) {calls : List Call}
    {c : Crowd (Query ε α) Reply} (h : Crowd.Reaches (calls.map x.perform) c) {i : Nat}
    {call : Call} (hcall : calls[i]? = some call) :
    match c.result? i with
    | none => c.notifications i = []
    | some reply => call.Tells x.config reply (c.notifications i) := by
  have hdialogue : (calls.map x.perform)[i]? = some (x.perform call) := by simp [hcall]
  rcases Crowd.path_of_reaches h hdialogue with ⟨p, hp, hpath⟩
  have hresult : c.result? i = p.result? := by simp [Crowd.result?, hp]
  have hacts : (c.acts i).filterMap Act.notification? = c.notifications i := rfl
  have hsaid := hpath.notifications (x.closesWith_perform call)
  rw [hacts] at hsaid
  rw [hresult]
  cases hend : p.result? with
  | none => simpa [hend] using hsaid
  | some reply => simpa [hend] using hsaid

theorem notifications_eq_told (x : Executor ε α) {calls : List Call}
    {c : Crowd (Query ε α) Reply} (h : Crowd.Reaches (calls.map x.perform) c) {i : Nat}
    (hi : i < calls.length) :
    c.notifications i =
      match calls[i]?, c.result? i with
      | some call, some reply => call.told x.config reply
      | _, _ => [] := by
  have hcall := List.getElem?_eq_getElem hi
  have hsaid := x.notifications_of_reaches h hcall
  rw [hcall]
  cases hend : c.result? i with
  | none => simpa [hend] using hsaid
  | some reply =>
    have htells : calls[i].Tells x.config reply (c.notifications i) := by
      simpa [hend] using hsaid
    exact htells.eq_told

/-- The outcome of a patch is told by what `tryPatch` returns for the same answer. -/
theorem result_patch {σ : Type} (x : Executor ε α) (kind : Kind) (payload : Payload)
    (serve : Dialogue.Service (Query ε α) σ) (s : σ) :
    ((x.patch kind payload).run serve s).result =
      .of x.config kind ((x.tryPatch kind payload).run serve s).result :=
  congrArg Prod.fst (x.eval_patch serve s kind payload)

open scoped List in
/-- However the calls overlap: a patch or an update that has ended has notified exactly once, and
truthfully. Open calls and calls of `tryPatch` have not notified. All notifications together are
those that the outcomes call for. -/
theorem exactly_one_notification (x : Executor ε α) (calls : List Call)
    {c : Crowd (Query ε α) Reply} (h : Crowd.Reaches (calls.map x.perform) c) :
    (∀ i call, calls[i]? = some call →
      match call.notifies?, c.result? i with
      | some kind, some reply =>
        ∃ o n, reply = .outcome o ∧ c.notifications i = [n] ∧ o.Truthful x.config kind n
      | _, _ => c.notifications i = []) ∧
    (c.allNotifications ~ (List.range calls.length).flatMap fun i =>
      match calls[i]?, c.result? i with
      | some call, some reply => call.told x.config reply
      | _, _ => []) ∧
    ∀ {σ : Type} kind payload (serve : Dialogue.Service (Query ε α) σ) (s : σ),
      let outcome := ((x.patch kind payload).run serve s).result
      let result := ((x.tryPatch kind payload).run serve s).result
      (∀ response, outcome.response? = some response ↔ result = .ok response) ∧
        ∀ reason, outcome.reason? = some reason ↔ result = .error reason := by
  refine ⟨?_, ?_, ?_⟩
  · intro i call hcall
    have hsaid := x.notifications_of_reaches h hcall
    cases hend : c.result? i with
    | none =>
      -- the call is open, whatever it will tell
      have hnone : c.notifications i = [] := by simpa [hend] using hsaid
      cases call.notifies? with
      | none => exact hnone
      | some kind => exact hnone
    | some reply =>
      have htells : call.Tells x.config reply (c.notifications i) := by simpa [hend] using hsaid
      unfold Call.Tells at htells
      cases hkind : call.notifies? with
      | none =>
        have hnone : ∃ r, reply = .result r ∧ c.notifications i = [] := by
          simpa [hkind] using htells
        rcases hnone with ⟨r, _, hsilent⟩
        exact hsilent
      | some kind => simpa [hkind] using htells
  · have hperm := Crowd.notifications_perm h
    rw [List.length_map] at hperm
    rw [← List.flatMap_congr fun i hi => x.notifications_eq_told h (List.mem_range.1 hi)]
    exact hperm
  · intro σ kind payload serve s
    simp only [x.result_patch]
    cases ((x.tryPatch kind payload).run serve s).result with
    | ok response => simp [Outcome.of, Outcome.response?, Outcome.reason?]
    | error reason => simp [Outcome.of, Outcome.response?, Outcome.reason?]

/-- A patch and a `tryPatch` that are both applied. -/
theorem exactly_one_notification_applied :
    let x : Executor Unit String := ⟨⟨[(.account, ⟨(), []⟩)], by simp⟩, {}⟩
    let calls : List Call := [.patch .account (.full .empty), .tryPatch .account (.full .empty)]
    ∃ c, Crowd.Reaches (calls.map x.perform) c ∧ (c.result? 0).isSome ∧
      (c.notifications 0).length = 1 ∧ c.notifications 1 = [] := by
  intro x calls
  let serve : Dialogue.Service (Query Unit String) Unit := fun
    | .patch _ _, s => ([], .ok .null, s)
    | .fetch _, s => ([], .ok [], s)
  rcases Progress.exists_path_run serve (x.perform (.patch .account (.full .empty))) () with
    ⟨acts, hpath⟩
  rcases Progress.exists_path_run serve (x.perform (.tryPatch .account (.full .empty))) () with
    ⟨acts', hpath'⟩
  have hstart : Crowd.Reaches (calls.map x.perform) (.start (calls.map x.perform)) := .refl
  have hfirst := Crowd.reaches_along hpath hstart (i := 0) rfl
  have hboth := Crowd.reaches_along hpath' hfirst (i := 1) rfl
  refine ⟨_, hboth, rfl, ?_⟩
  have hone := x.exactly_one_notification calls hboth
  rcases hone.1 0 _ rfl with ⟨o, n, _, hsaid, _⟩
  exact ⟨congrArg List.length hsaid, hone.1 1 _ rfl⟩

end Executor
end FieldPatch
