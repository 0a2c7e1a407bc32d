import FieldPatch.Proofs.Channel.Basic

/-!
# Ends of calls

Calls end, and they end once. A call that has ended has returned what its request calls for; each
step of a call or of the receiver brings the channel closer to a state in which all calls have
ended; and until then a call stands still only where the receiver owes it something.

* `Channel.Invariant.ending`: what a call has returned agrees with what became of its request;
* `Channel.Invariant.advances_cases`: a step moves one call nearer to its end, or closes the
  channel;
* `Channel.Invariant.result?_of_reaches`: a result stays;
* `Channel.Invariant.remaining_lt`: there are only so many steps until the clients want more;
* `Channel.Invariant.standing`: who stands still has ended, or waits for the receiver;
* `Channel.Truthful`: all of this together.
-/

namespace FieldPatch
namespace Channel

variable {ι ρ : Type} {c c' : Channel ι ρ} {i : Nat} {call : Call ι ρ}

/-! ## Results -/

theorem result?_eq_some_iff {reply : Answered (Request ι ρ)} :
    c.result? i = some reply ↔ ∃ call answer, c.calls[i]? = some call ∧
      call.phase = .ended answer ∧ reply = ⟨call.request, answer⟩ := by
  simp only [result?, Option.bind_eq_some_iff]
  constructor
  · rintro ⟨call, hcall, hresult⟩
    unfold Call.result? at hresult
    split at hresult
    · rename_i answer hphase
      exact ⟨call, answer, hcall, hphase, (Option.some.inj hresult).symm⟩
    · cases hresult
  · rintro ⟨call, answer, hcall, hphase, rfl⟩
    exact ⟨call, hcall, by simp [Call.result?, hphase]⟩

theorem Invariant.ending (h : Invariant c) {reply : Answered (Request ι ρ)}
    (hresult : c.result? i = some reply) : Ending reply.question (c.story i) reply.answer := by
  rcases result?_eq_some_iff.1 hresult with ⟨call, answer, hcall, hphase, rfl⟩
  exact h.story_eq hcall hphase

/-! ## Steps towards the end -/

/-- The largest number of steps that a call may still take. -/
def Phase.rank {request : Request ι ρ} : Phase request → Nat
  | .ready => 5
  | .waiting => 4
  | .queued => 3
  | .held => 2
  | .replied _ => 1
  | .ended _ => 0

def ranks : List (Call ι ρ) → Nat
  | [] => 0
  | call :: rest => call.phase.rank + ranks rest

/-- The largest number of steps of calls and receiver, unless the clients want more. -/
def remaining (c : Channel ι ρ) : Nat :=
  ranks c.calls + c.isOpen.toNat

/-- What a step of a call or of the receiver does. -/
theorem Invariant.advances_cases (h : Invariant c) (hstep : c.Advances c') :
    (c.isOpen = true ∧ c' = c.closed) ∨
      ∃ i call phase waiting queue marks, c.calls[i]? = some call ∧
        phase.rank < call.phase.rank ∧ c' = c.moved i call phase waiting queue marks := by
  rcases hstep with hitself | hreceiver
  · right
    cases hitself with
    | send hcall hphase => exact ⟨_, _, _, _, _, _, hcall, by simp [Phase.rank, hphase], rfl⟩
    | enter hopen hroom hwaiting hcall =>
      have hphase := h.phase_of_mem_waiting (by simp [hwaiting]) hcall
      exact ⟨_, _, _, _, _, _, hcall, by simp [Phase.rank, hphase], rfl⟩
    | refuse hclosed hwaiting hcall =>
      have hphase := h.phase_of_mem_waiting hwaiting hcall
      exact ⟨_, _, _, _, _, _, hcall, by simp [Phase.rank, hphase], rfl⟩
    | spill hclosed hqueue hcall =>
      have hphase := h.phase_of_mem_queue (by simp [hqueue]) hcall
      exact ⟨_, _, _, _, _, _, hcall, by simp [Phase.rank, hphase], rfl⟩
    | take hcall hphase => exact ⟨_, _, _, _, _, _, hcall, by simp [Phase.rank, hphase], rfl⟩
  · cases hreceiver with
    | receive hopen hqueue hcall =>
      have hphase := h.phase_of_mem_queue (by simp [hqueue]) hcall
      exact .inr ⟨_, _, _, _, _, _, hcall, by simp [Phase.rank, hphase], rfl⟩
    | @answer i call hcall hheld answer =>
      have hphase : call.phase = .held := hheld
      exact .inr ⟨_, _, _, _, _, _, hcall, by simp [Phase.rank, hphase], rfl⟩
    | @discard i call hcall hheld =>
      have hphase : call.phase = .held := hheld
      exact .inr ⟨_, _, _, _, _, _, hcall, by simp [Phase.rank, hphase], rfl⟩
    | close hopen => exact .inl ⟨hopen, rfl⟩

/-- A call that moves makes up for the difference of its phases. -/
theorem ranks_set {calls : List (Call ι ρ)} (hcall : calls[i]? = some call) (call' : Call ι ρ) :
    ranks (calls.set i call') + call.phase.rank = ranks calls + call'.phase.rank := by
  induction calls generalizing i with
  | nil => cases hcall
  | cons first rest ih =>
    cases i with
    | zero =>
      cases hcall
      simp only [List.set_cons_zero, ranks]
      omega
    | succ j =>
      have hrest := @ih j (by simpa using hcall)
      simp only [List.set_cons_succ, ranks]
      omega

theorem remaining_moved (hcall : c.calls[i]? = some call) (phase : Phase call.request)
    (waiting queue : List Nat) (marks : List (Mark ι ρ)) :
    (c.moved i call phase waiting queue marks).remaining + call.phase.rank =
      c.remaining + phase.rank := by
  have hranks : ranks (c.calls.set i (call.goto phase)) + call.phase.rank =
      ranks c.calls + phase.rank := ranks_set hcall (call.goto phase)
  simp only [remaining, moved]
  omega

/-- Unless the clients want more, there is an end to the steps. -/
theorem Invariant.remaining_lt (h : Invariant c) (hstep : c.Advances c') :
    c'.remaining < c.remaining := by
  rcases h.advances_cases hstep with
    ⟨hopen, rfl⟩ | ⟨i, call, phase, waiting, queue, marks, hcall, hrank, rfl⟩
  · simp [remaining, closed, hopen]
  · have hmoved := remaining_moved hcall phase waiting queue marks
    omega

/-! ## Results stay -/

theorem Invariant.result?_of_step (h : Invariant c) (hstep : c.Step c')
    {reply : Answered (Request ι ρ)} (hresult : c.result? i = some reply) :
    c'.result? i = some reply := by
  rcases hstep with hclient | hadvance
  · cases hclient with
    | copy hlives => exact hresult
    | release hlives hidle => exact hresult
    | call hlives request =>
      rcases result?_eq_some_iff.1 hresult with ⟨call, answer, hcall, hphase, rfl⟩
      have hlt := (List.getElem?_eq_some_iff.1 hcall).1
      exact result?_eq_some_iff.2
        ⟨call, answer, (List.getElem?_append_left hlt).trans hcall, hphase, rfl⟩
  · rcases h.advances_cases hadvance with
      ⟨_, rfl⟩ | ⟨j, call', phase, waiting, queue, marks, hcall', hrank, rfl⟩
    · exact hresult
    · rcases result?_eq_some_iff.1 hresult with ⟨call, answer, hcall, hphase, rfl⟩
      -- the call that has moved had not ended
      have hne : j ≠ i := by
        intro he
        subst he
        cases hcall.symm.trans hcall'
        simp [hphase, Phase.rank] at hrank
      exact result?_eq_some_iff.2
        ⟨call, answer, (List.getElem?_set_ne hne).trans hcall, hphase, rfl⟩

theorem Invariant.result?_of_reaches (h : Invariant c) (hreaches : c.Reaches c')
    {reply : Answered (Request ι ρ)} (hresult : c.result? i = some reply) :
    c'.result? i = some reply := by
  induction hreaches with
  | refl => exact hresult
  | tail hbefore hstep ih => exact (h.reaches hbefore).result?_of_step hstep ih

/-! ## Calls that stand still -/

theorem Placed.exists_call {calls : List (Call ι ρ)} {At : Call ι ρ → Prop} {rest : List Nat}
    (h : Placed calls At (i :: rest)) : ∃ call, calls[i]? = some call := by
  rcases (h.mem_iff i).1 (by simp) with ⟨call, hcall, _⟩
  exact ⟨call, hcall⟩

/-- Where nothing moves by itself, a call has ended, or the receiver has taken it, or there are
requests that the receiver can take. -/
theorem Invariant.standing (h : Invariant c) (hstill : ∀ c', ¬ c.ByItself c')
    (hmem : call ∈ c.calls) :
    call.IsEnded ∨ call.IsHeld ∨ (c.isOpen = true ∧ c.queue ≠ []) := by
  rcases List.getElem?_of_mem hmem with ⟨i, hcall⟩
  cases hphase : call.phase with
  | ready => exact absurd (.send hcall hphase) (hstill _)
  | waiting =>
    have hwaiting : i ∈ c.waiting := (h.waiting.mem_iff_of_eq_some hcall).2 hphase
    cases hopen : c.isOpen with
    | false => exact absurd (.refuse hopen hwaiting hcall) (hstill _)
    | true =>
      refine .inr (.inr ⟨rfl, ?_⟩)
      intro hempty
      -- there would be room for the first of those who wait
      rcases List.exists_cons_of_ne_nil (List.ne_nil_of_mem hwaiting) with ⟨j, rest, hfirst⟩
      rcases (hfirst ▸ h.waiting).exists_call with ⟨call', hcall'⟩
      have hroom : c.queue.length < c.capacity.size := by simpa [hempty] using c.capacity.pos
      exact hstill _ (.enter hopen hroom hfirst hcall')
  | queued =>
    have hqueue : i ∈ c.queue := (h.queue.mem_iff_of_eq_some hcall).2 hphase
    rcases List.exists_cons_of_ne_nil (List.ne_nil_of_mem hqueue) with ⟨j, rest, hfirst⟩
    cases hopen : c.isOpen with
    | false =>
      rcases (hfirst ▸ h.queue).exists_call with ⟨call', hcall'⟩
      exact absurd (.spill hopen hfirst hcall') (hstill _)
    | true => exact .inr (.inr ⟨rfl, by simp [hfirst]⟩)
  | held => exact .inr (.inl hphase)
  | replied answer => exact absurd (.take hcall hphase) (hstill _)
  | ended answer => exact .inl ⟨answer, hphase⟩

/-! ## All together -/

/-- Calls return one result each, and say what has become of their requests. -/
structure Truthful (c : Channel ι ρ) : Prop where
  ending : ∀ i reply, c.result? i = some reply → Ending reply.question (c.story i) reply.answer
  lasting : ∀ i reply c', c.result? i = some reply → c.Reaches c' → c'.result? i = some reply
  bounded : ∀ c', c.Advances c' → c'.remaining < c.remaining
  /-- A call that can go no further without the receiver is one that the receiver has taken, or
  can still come to. -/
  standing : (∀ c', ¬ c.ByItself c') → ∀ call ∈ c.calls,
    call.IsEnded ∨ call.IsHeld ∨ (c.isOpen = true ∧ c.queue ≠ [])

theorem Invariant.truthful (h : Invariant c) : c.Truthful where
  ending _ _ hresult := h.ending hresult
  lasting _ _ _ hresult hreaches := h.result?_of_reaches hreaches hresult
  bounded _ hstep := h.remaining_lt hstep
  standing hstill _ hmem := h.standing hstill hmem

end Channel
end FieldPatch
