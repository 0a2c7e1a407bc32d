import FieldPatch.Proofs.Channel.Progress
import FieldPatch.Proofs.Server.Transcript

/-!
# Attended channels

A server receives from a channel. It takes the first request, answers it, and then looks for the
next; it leaves when it finds the queue empty and no client is left. Calls, clients and server take
their steps in any order.

* `Attended`: a channel with the server that attends to it;
* `Attended.Step`: the steps; those of the server are steps of a receiver
  (`Attended.Invariant.advances`);
* `Attended.Invariant`: the server is there as long as a client is, and the calls that have an
  answer have it from the server. Each step keeps it so (`Attended.Invariant.step`);
* `Attended.Invariant.idle`: where nothing is left to do, all calls have ended, and the server has
  left if no client is there;
* `Attended.Dependable`: what clients can count on.
-/

namespace FieldPatch

/-! ## Answers -/

variable {ι ρ : Type}

/-- The answer is not one that a client makes up for lack of an answer. -/
def Answered.Proper (reply : Answered (Request ι ρ)) : Prop :=
  reply.answer ≠ reply.question.unanswered .closed ∧
    reply.answer ≠ reply.question.unanswered .dropped

theorem Answered.proper_of_ok {request : Request ι ρ} (reply : request.Reply) :
    Proper ⟨request, (.ok reply : Except ServerError request.Reply)⟩ :=
  ⟨by simp [Request.unanswered], by simp [Request.unanswered]⟩

theorem Answered.proper_of_error {request : Request ι ρ} {e : ServerError} (h : e ≠ .closed)
    (h' : e ≠ .dropped) : Proper ⟨request, request.unanswered e⟩ :=
  ⟨fun he => h (Except.error.inj he), fun he => h' (Except.error.inj he)⟩

theorem Channel.Ending.story_eq_of_proper {request : Request ι ρ} {story : List (Mark ι ρ)}
    {answer : Answer request} (h : Ending request story answer)
    (hproper : Answered.Proper ⟨request, answer⟩) :
    story = [.entered, .answered ⟨request, answer⟩] := by
  cases h with
  | refused => exact absurd rfl hproper.1
  | lost => exact absurd rfl hproper.2
  | answered => rfl

/-- If the call has got an answer, it is a proper one. -/
def Channel.Call.Proper (call : Call ι ρ) : Prop :=
  ∀ answer, call.phase = .replied answer ∨ call.phase = .ended answer →
    Answered.Proper ⟨call.request, answer⟩

variable [DecidableEq ι] [Identifier ι] [Entity ι ρ]

theorem Server.proper_serve (s : Server ι ρ) (request : Request ι ρ) :
    Answered.Proper ⟨request, (s.serve request).1⟩ := by
  cases request with
  | create record => exact Answered.proper_of_ok _
  | get id => exact Answered.proper_of_ok _
  | patch fields =>
    change Answered.Proper ⟨.patch fields, (s.patch fields).1⟩
    rcases s.patch_cases fields with ⟨_, hserve⟩ | ⟨id, _, ⟨_, hserve⟩ | ⟨current, _,
      ⟨e, _, hserve⟩ | ⟨updated, _, hserve⟩⟩⟩
    · rw [hserve]
      exact Answered.proper_of_error (by simp) (by simp)
    · rw [hserve]
      exact Answered.proper_of_error (by simp) (by simp)
    · rw [hserve]
      exact Answered.proper_of_error (by simp) (by simp)
    · rw [hserve]
      exact Answered.proper_of_ok _
  | choices accessor =>
    change Answered.Proper ⟨.choices accessor, s.choices accessor⟩
    unfold Server.choices
    split
    · exact Answered.proper_of_ok _
    · exact Answered.proper_of_error (by simp) (by simp)

/-! ## Steps -/

structure Attended (ι ρ : Type) where
  channel : Channel ι ρ
  server : Server ι ρ
  /-- The call whose request the server has taken. -/
  serving : Option Nat := none

namespace Attended

open Channel (Mark Phase Call Placed)

/-- The server is at work, and one client is there. -/
def start (capacity : Mailbox.Capacity) (server : Server ι ρ) : Attended ι ρ :=
  { channel := .start capacity, server }

/-- A step of a call or of the server; the clients want nothing more. -/
inductive Advances : Attended ι ρ → Attended ι ρ → Prop where
  | itself {a : Attended ι ρ} {c : Channel ι ρ} (h : a.channel.ByItself c) :
      Advances a { a with channel := c }
  | receive {a : Attended ι ρ} {i : Nat} {call : Call ι ρ} {rest : List Nat}
      (hopen : a.channel.isOpen = true) (hidle : a.serving = none)
      (hqueue : a.channel.queue = i :: rest) (hcall : a.channel.calls[i]? = some call) :
      Advances a { a with channel := a.channel.received i call rest, serving := some i }
  | answer {a : Attended ι ρ} {i : Nat} {call : Call ι ρ} (hserving : a.serving = some i)
      (hcall : a.channel.calls[i]? = some call) :
      Advances a
        { channel := a.channel.answered i call (a.server.serve call.request).1
          server := (a.server.serve call.request).2 }
  /-- The server finds nothing in the queue, and nobody who could still send. -/
  | leave {a : Attended ι ρ} (hopen : a.channel.isOpen = true) (hidle : a.serving = none)
      (hqueue : a.channel.queue = []) (hgone : ∀ client, ¬ a.channel.Lives client) :
      Advances a { a with channel := a.channel.closed }

inductive Step : Attended ι ρ → Attended ι ρ → Prop where
  | client {a : Attended ι ρ} {c : Channel ι ρ} (h : a.channel.ByClient c) :
      Step a { a with channel := c }
  | advance {a a' : Attended ι ρ} (h : a.Advances a') : Step a a'

def Reaches : Attended ι ρ → Attended ι ρ → Prop :=
  Relation.ReflTransGen Step

namespace Reaches

variable {a a' a'' : Attended ι ρ} {c : Channel ι ρ}

theorem client (h : a.Reaches a') (hstep : a'.channel.ByClient c) :
    a.Reaches { a' with channel := c } :=
  h.tail (.client hstep)

theorem itself (h : a.Reaches a') (hstep : a'.channel.ByItself c) :
    a.Reaches { a' with channel := c } :=
  h.tail (.advance (.itself hstep))

theorem advance (h : a.Reaches a') (hstep : a'.Advances a'') : a.Reaches a'' :=
  h.tail (.advance hstep)

end Reaches

/-! ## The invariant -/

structure Invariant (s₀ : Server ι ρ) (a : Attended ι ρ) : Prop where
  channel : a.channel.Invariant
  serving : Placed a.channel.calls Call.IsHeld a.serving.toList
  staffed : ∀ client, a.channel.Lives client → a.channel.isOpen = true
  proper : ∀ call ∈ a.channel.calls, call.Proper
  server_eq : a.server = s₀.serveAll (a.channel.replies.map Answered.question)
  replies_eq : a.channel.replies = s₀.transcript (a.channel.replies.map Answered.question)

variable {s₀ : Server ι ρ} {a a' : Attended ι ρ} {c : Channel ι ρ} {i : Nat} {call : Call ι ρ}

theorem invariant_start (capacity : Mailbox.Capacity) (s₀ : Server ι ρ) :
    Invariant s₀ (start capacity s₀) := by
  refine ⟨Channel.invariant_start capacity, ⟨.nil, ?_⟩, ?_, ?_, rfl, rfl⟩ <;>
    simp [start, Channel.start]

namespace Invariant

/-- The server is there as long as any call is under way. -/
theorem isOpen_of_unfinished (h : Invariant s₀ a) (hcall : a.channel.calls[i]? = some call)
    (hunfinished : ¬ call.IsEnded) : a.channel.isOpen = true :=
  h.staffed _ (h.channel.alive call (List.mem_of_getElem? hcall) hunfinished)

/-- What the server takes its steps for is what a receiver may do. -/
theorem advances (h : Invariant s₀ a) (hstep : a.Advances a') : a.channel.Advances a'.channel := by
  cases hstep with
  | itself hitself => exact .inl hitself
  | receive hopen hidle hqueue hcall => exact .inr (.receive hopen hqueue hcall)
  | answer hserving hcall =>
    have hheld := (h.serving.mem_iff_of_eq_some hcall).1 (by simp [hserving])
    exact .inr (.answer hcall hheld _)
  | leave hopen hidle hqueue hgone => exact .inr (.close hopen)

theorem proper_set (h : Invariant s₀ a) {call' : Call ι ρ} (hproper : call'.Proper) :
    ∀ call ∈ a.channel.calls.set i call', call.Proper := by
  intro call hmem
  rcases List.mem_or_eq_of_mem_set hmem with hold | rfl
  · exact h.proper call hold
  · exact hproper

/-- A call moves on without the server. -/
theorem moved (h : Invariant s₀ a) (hcall : a.channel.calls[i]? = some call)
    (hnot : ¬ call.IsHeld) {phase : Phase call.request} {waiting queue : List Nat}
    {marks : List (Mark ι ρ)}
    (hstep : a.channel.ByItself (a.channel.moved i call phase waiting queue marks))
    (hnot' : ¬ (call.goto phase).IsHeld) (hproper : (call.goto phase).Proper)
    (hmarks : marks.filterMap Mark.reply? = []) :
    Invariant s₀ { a with channel := a.channel.moved i call phase waiting queue marks } := by
  have hreplies :
      (a.channel.moved i call phase waiting queue marks).replies = a.channel.replies := by
    rw [Channel.replies_moved, hmarks, List.append_nil]
  refine ⟨h.channel.byItself hstep, h.serving.keep hcall hnot hnot', h.staffed,
    h.proper_set hproper, ?_, ?_⟩
  · rw [hreplies]
    exact h.server_eq
  · rw [hreplies]
    exact h.replies_eq

theorem itself (h : Invariant s₀ a) (hstep : a.channel.ByItself c) :
    Invariant s₀ { a with channel := c } := by
  cases id hstep with
  | send hcall hphase =>
    exact h.moved hcall (by simp [hphase]) hstep (by simp)
      (by simp [Call.Proper, Call.goto]) rfl
  | enter hopen hroom hwaiting hcall =>
    have hphase := h.channel.phase_of_mem_waiting (by simp [hwaiting]) hcall
    exact h.moved hcall (by simp [hphase]) hstep (by simp)
      (by simp [Call.Proper, Call.goto]) rfl
  | refuse hclosed hwaiting hcall =>
    -- the server has not left while a call waits
    have hphase := h.channel.phase_of_mem_waiting hwaiting hcall
    have hopen := h.isOpen_of_unfinished hcall (by simp [hphase])
    simp [hclosed] at hopen
  | spill hclosed hqueue hcall =>
    have hphase := h.channel.phase_of_mem_queue (by simp [hqueue]) hcall
    have hopen := h.isOpen_of_unfinished hcall (by simp [hphase])
    simp [hclosed] at hopen
  | take hcall hphase =>
    have hproper := h.proper _ (List.mem_of_getElem? hcall) _ (.inl hphase)
    refine h.moved hcall (by simp [hphase]) hstep (by simp) ?_ rfl
    simpa [Call.Proper, Call.goto] using hproper

theorem client (h : Invariant s₀ a) (hstep : a.channel.ByClient c) :
    Invariant s₀ { a with channel := c } := by
  have hchannel := h.channel.byClient hstep
  cases hstep with
  | copy hlives =>
    exact ⟨hchannel, h.serving, fun _ _ => h.staffed _ hlives, h.proper, h.server_eq, h.replies_eq⟩
  | release hlives hidle =>
    exact ⟨hchannel, h.serving, fun _ _ => h.staffed _ hlives, h.proper, h.server_eq, h.replies_eq⟩
  | call hlives request =>
    refine ⟨hchannel, h.serving.snoc (by simp), fun _ _ => h.staffed _ hlives, ?_, h.server_eq,
      h.replies_eq⟩
    intro call hmem
    rcases List.mem_append.1 hmem with hold | hnew
    · exact h.proper call hold
    · have hphase : call.phase = .ready := by
        rw [List.mem_singleton.1 hnew]
      simp [Call.Proper, hphase]

theorem answer (h : Invariant s₀ a) (hserving : a.serving = some i)
    (hcall : a.channel.calls[i]? = some call) :
    Invariant s₀
      { channel := a.channel.answered i call (a.server.serve call.request).1
        server := (a.server.serve call.request).2 } := by
  have hheld := (h.serving.mem_iff_of_eq_some hcall).1 (by simp [hserving])
  have hreplies : (a.channel.answered i call (a.server.serve call.request).1).replies =
      a.channel.replies ++ [⟨call.request, (a.server.serve call.request).1⟩] :=
    Channel.replies_moved ..
  refine ⟨h.channel.byReceiver (.answer hcall hheld _), ?_, h.staffed, ?_, ?_, ?_⟩
  · have hplaced := h.serving
    rw [hserving] at hplaced
    exact hplaced.remove_head hcall (by simp)
  · apply h.proper_set
    have hproper := a.server.proper_serve call.request
    simpa [Call.Proper, Call.goto] using hproper
  · rw [hreplies, List.map_append, List.map_singleton, Server.serveAll_snoc, ← h.server_eq]
  · rw [hreplies, List.map_append, List.map_singleton, Server.transcript_snoc, ← h.server_eq,
      ← h.replies_eq]

theorem receive (h : Invariant s₀ a) {rest : List Nat} (hopen : a.channel.isOpen = true)
    (hidle : a.serving = none) (hqueue : a.channel.queue = i :: rest)
    (hcall : a.channel.calls[i]? = some call) :
    Invariant s₀ { a with channel := a.channel.received i call rest, serving := some i } := by
  have hphase := h.channel.phase_of_mem_queue (by simp [hqueue]) hcall
  have hreplies : (a.channel.received i call rest).replies = a.channel.replies := by
    simp [Channel.received, Channel.replies_moved]
  refine ⟨h.channel.byReceiver (.receive hopen hqueue hcall), ?_, h.staffed, ?_, ?_, ?_⟩
  · have hplaced := h.serving
    rw [hidle] at hplaced
    exact hplaced.add hcall (by simp [hphase]) rfl
  · apply h.proper_set
    simp [Call.Proper, Call.goto]
  · rw [hreplies]
    exact h.server_eq
  · rw [hreplies]
    exact h.replies_eq

theorem step (h : Invariant s₀ a) (hstep : a.Step a') : Invariant s₀ a' := by
  cases hstep with
  | client hclient => exact h.client hclient
  | advance hadvance =>
    cases hadvance with
    | itself hitself => exact h.itself hitself
    | receive hopen hidle hqueue hcall => exact h.receive hopen hidle hqueue hcall
    | answer hserving hcall => exact h.answer hserving hcall
    | leave hopen hidle hqueue hgone =>
      refine ⟨h.channel.byReceiver (.close hopen), h.serving, ?_, h.proper, h.server_eq,
        h.replies_eq⟩
      intro client hlives
      exact absurd hlives (hgone client)

end Invariant

theorem invariant_of_reaches {capacity : Mailbox.Capacity} (h : (start capacity s₀).Reaches a) :
    Invariant s₀ a := by
  induction h with
  | refl => exact invariant_start capacity s₀
  | tail _ hstep ih => exact ih.step hstep

/-! ## What follows -/

namespace Invariant

/-- What a call has returned is what the server has answered. -/
theorem story_of_result? (h : Invariant s₀ a) {reply : Answered (Request ι ρ)}
    (hresult : a.channel.result? i = some reply) :
    reply.Proper ∧ a.channel.story i = [.entered, .answered reply] := by
  have hending := h.channel.ending hresult
  rcases Channel.result?_eq_some_iff.1 hresult with ⟨call, answer, hcall, hphase, rfl⟩
  have hproper := h.proper call (List.mem_of_getElem? hcall) answer (.inr hphase)
  exact ⟨hproper, hending.story_eq_of_proper hproper⟩

theorem mem_replies_of_result? (h : Invariant s₀ a) {reply : Answered (Request ι ρ)}
    (hresult : a.channel.result? i = some reply) : reply ∈ a.channel.replies := by
  have hmem : Mark.answered reply ∈ a.channel.story i := by
    simp [(h.story_of_result? hresult).2]
  exact List.mem_filterMap.2 ⟨_, Numbered.mem_entriesOf.1 hmem, rfl⟩

/-- The server has left only after the last client, and with nothing in the queue unanswered. -/
theorem answered_of_closed (h : Invariant s₀ a) (hclosed : a.channel.isOpen = false)
    (hentered : .entered ∈ a.channel.story i) :
    ∃ reply, .answered reply ∈ a.channel.story i := by
  by_cases hlt : i < a.channel.calls.length
  · have hcall := List.getElem?_eq_getElem hlt
    by_cases hended : a.channel.calls[i].IsEnded
    · rcases hended with ⟨answer, hphase⟩
      have hresult := Channel.result?_eq_some_iff.2 ⟨_, answer, hcall, hphase, rfl⟩
      refine ⟨⟨_, answer⟩, ?_⟩
      simp [(h.story_of_result? hresult).2]
    · have hopen := h.isOpen_of_unfinished hcall hended
      simp [hclosed] at hopen
  · simp [h.channel.silent i (Nat.le_of_not_lt hlt)] at hentered

/-- Where calls and server have nothing left to do, all calls have ended, and the server has left if
no client is there. -/
theorem idle (h : Invariant s₀ a) (hidle : ∀ a', ¬ a.Advances a') :
    (∀ call ∈ a.channel.calls, call.IsEnded) ∧
      ((∀ client, ¬ a.channel.Lives client) → a.channel.isOpen = false) := by
  have hfree : a.serving = none := by
    cases hserving : a.serving with
    | none => rfl
    | some i =>
      rcases (h.serving.mem_iff i).1 (by simp [hserving]) with ⟨call, hcall, _⟩
      exact absurd (.answer hserving hcall) (hidle _)
  have hempty : a.channel.isOpen = true → a.channel.queue = [] := by
    intro hopen
    by_contra hne
    rcases List.exists_cons_of_ne_nil hne with ⟨i, rest, hqueue⟩
    rcases (hqueue ▸ h.channel.queue).exists_call with ⟨call, hcall⟩
    exact hidle _ (.receive hopen hfree hqueue hcall)
  refine ⟨?_, ?_⟩
  · intro call hmem
    rcases h.channel.standing (fun c hstep => hidle _ (.itself hstep)) hmem with
      hended | hheld | ⟨hopen, hqueue⟩
    · exact hended
    · rcases List.getElem?_of_mem hmem with ⟨i, hcall⟩
      have hserving := (h.serving.mem_iff_of_eq_some hcall).2 hheld
      simp [hfree] at hserving
    · exact absurd (hempty hopen) hqueue
  · intro hgone
    cases hopen : a.channel.isOpen with
    | false => rfl
    | true => exact absurd (.leave hopen hfree (hempty hopen) hgone) (hidle _)

end Invariant

/-- Calls get the answers of the server, and the server does not leave before it has given all of
them and nobody can ask any more. -/
structure Dependable (s₀ : Server ι ρ) (a : Attended ι ρ) : Prop where
  proper : ∀ i reply, a.channel.result? i = some reply → reply.Proper ∧ reply ∈ a.channel.replies
  served : a.channel.replies = s₀.transcript (a.channel.replies.map Answered.question)
  deserted : a.channel.isOpen = false → ∀ client, ¬ a.channel.Lives client
  answered : a.channel.isOpen = false → ∀ i, .entered ∈ a.channel.story i →
    ∃ reply, .answered reply ∈ a.channel.story i
  bounded : ∀ a', a.Advances a' → a'.channel.remaining < a.channel.remaining
  idle : (∀ a', ¬ a.Advances a') → (∀ call ∈ a.channel.calls, call.IsEnded) ∧
    ((∀ client, ¬ a.channel.Lives client) → a.channel.isOpen = false)

theorem Invariant.dependable (h : Invariant s₀ a) : a.Dependable s₀ where
  proper _ _ hresult := ⟨(h.story_of_result? hresult).1, h.mem_replies_of_result? hresult⟩
  served := h.replies_eq
  deserted hclosed client hlives := by simp [h.staffed client hlives] at hclosed
  answered hclosed _ hentered := h.answered_of_closed hclosed hentered
  bounded _ hstep := h.channel.remaining_lt (h.advances hstep)
  idle hidle := h.idle hidle

end Attended
end FieldPatch
