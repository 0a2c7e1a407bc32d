import FieldPatch.Proofs.Channel.Attended
import FieldPatch.Proofs.Exchange.Line

/-!
# Lines as channels

What the calls of one client, a line and whoever receives from it do together is what some run of a
channel does. A line leaves nothing to chance: requests enter as soon as there is room, and calls
take what lies ready for them at once.

* `Client.call`: a call that makes one request, and tells for what it got its answer;
* `Line.Operated`: the lines that such calls and a receiver have led to;
* `Channel.Matches`: a line and a channel in the same situation;
* `Line.Operated.exists_channel`: every line matches a channel that is reached, with the same
  results;
* `Line.Reached.exists_attended`: a line whose receiver is a server matches an attended channel;
* `Channel.dependable_and_truthful`: a server answers all calls, and calls to any other receiver
  tell what has become of them.
-/

namespace FieldPatch

/-! ## Lines -/

variable {ι ρ : Type}

def Client.call (request : Request ι ρ) : Dialogue (Request ι ρ) (Answered (Request ι ρ)) := do
  return ⟨request, ← ask request⟩

/-- A line for such calls. -/
abbrev ClientLine (ι ρ : Type) := Line ι ρ (Answered (Request ι ρ))

abbrev ClientMessage (ι ρ : Type) := Message (Request ι ρ) (Answered (Request ι ρ))

/-- What has come of an empty mailbox, with the messages that the receiver has taken. These it can
answer even after it has gone away from the line. -/
inductive Line.Operated (capacity : Mailbox.Capacity) :
    ClientLine ι ρ → List (ClientMessage ι ρ) → Prop where
  | empty : Operated capacity { mailbox := .empty capacity } []
  | start {line : ClientLine ι ρ} {held : List (ClientMessage ι ρ)}
      (h : Operated capacity line held) (request : Request ι ρ) :
      Operated capacity (line.start (Client.call request)).2 held
  | receive {line line' : ClientLine ι ρ} {held : List (ClientMessage ι ρ)}
      {message : ClientMessage ι ρ} (h : Operated capacity line held)
      (hreceive : line.receive? = some (message, line')) :
      Operated capacity line' (held ++ [message])
  | answer {line : ClientLine ι ρ} {before after : List (ClientMessage ι ρ)}
      {message : ClientMessage ι ρ} (h : Operated capacity line (before ++ message :: after))
      (a : Answer message.question) : Operated capacity (line.answer message a).2 (before ++ after)
  | drop {line : ClientLine ι ρ} {before after : List (ClientMessage ι ρ)}
      {message : ClientMessage ι ρ} (h : Operated capacity line (before ++ message :: after)) :
      Operated capacity (line.drop message).2 (before ++ after)
  | close {line : ClientLine ι ρ} {held : List (ClientMessage ι ρ)}
      (h : Operated capacity line held) : Operated capacity line.close.2 held

/-- Nobody waits in front of a closed mailbox. -/
theorem Mailbox.waiting_eq_nil_of_closed {μ : Type} {m : Mailbox μ} (h : m.isOpen = false) :
    m.waiting = [] := by
  apply m.waiting_eq_nil
  simpa [m.empty_of_closed h] using m.capacity.pos

/-- The message of a call. -/
def Client.message (caller : Nat) (request : Request ι ρ) : ClientMessage ι ρ :=
  ⟨caller, request, fun answer => .done ⟨request, answer⟩⟩

theorem Line.start_call (line : ClientLine ι ρ) (request : Request ι ρ) :
    (line.start (Client.call request)).2 =
      match line.mailbox.send? (Client.message line.started request) with
      | some mailbox => { line with started := line.started + 1, mailbox }
      | none =>
        (answer { line with started := line.started + 1 } (Client.message line.started request)
          (request.unanswered .closed)).2 := by
  change (advance line.started (.ask request fun answer => .done ⟨request, answer⟩)
    { line with started := line.started + 1 }).2 = _
  simp only [advance]
  split
  · rename_i mailbox hsend
    have hsent : line.mailbox.send? (Client.message line.started request) = some mailbox := hsend
    rw [hsent]
  · rename_i hsend
    have hrefused : line.mailbox.send? (Client.message line.started request) = none := hsend
    rw [hrefused]
    rfl

namespace Channel

open Client (message)

/-! ## Runs without the receiver -/

def Flows : Channel ι ρ → Channel ι ρ → Prop :=
  Relation.ReflTransGen fun c c' => c.ByClient c' ∨ c.ByItself c'

namespace Flows

variable {c c' c'' : Channel ι ρ}

theorem client (h : c.Flows c') (hstep : c'.ByClient c'') : c.Flows c'' :=
  h.tail (.inl hstep)

theorem itself (h : c.Flows c') (hstep : c'.ByItself c'') : c.Flows c'' :=
  h.tail (.inr hstep)

theorem reaches (h : c.Flows c') : c.Reaches c' := by
  induction h with
  | refl => exact .refl
  | tail _ hstep ih =>
    rcases hstep with hclient | hitself
    · exact ih.client hclient
    · exact ih.itself hitself

end Flows

/-! ## Matching -/

/-- The message belongs to one of these calls. -/
def Carries (calls : List (Call ι ρ)) (m : ClientMessage ι ρ) : Prop :=
  ∃ i call, calls[i]? = some call ∧ m = message i call.request

/-- The line and the channel are in the same situation, if these messages are in the queue of the
line, in front of it, and with the receiver. -/
structure Matches (line : ClientLine ι ρ) (queue waiting held : List (ClientMessage ι ρ))
    (c : Channel ι ρ) : Prop where
  invariant : c.Invariant
  lives : c.Lives 0
  started_eq : line.started = c.calls.length
  capacity_eq : line.mailbox.capacity = c.capacity
  isOpen_eq : line.mailbox.isOpen = c.isOpen
  queue_eq : c.queue = queue.map Message.caller
  waiting_eq : c.waiting = waiting.map Message.caller
  taken : Placed c.calls Call.IsHeld (held.map Message.caller)
  carried : ∀ m ∈ queue ++ (waiting ++ held), Carries c.calls m
  result?_eq : ∀ i, line.result? i = c.result? i

variable {line : ClientLine ι ρ} {queue waiting held : List (ClientMessage ι ρ)}
  {c c' : Channel ι ρ} {i : Nat} {request : Request ι ρ} {call : Call ι ρ}

theorem Carries.set {calls : List (Call ι ρ)} {m : ClientMessage ι ρ} (h : Carries calls m)
    (hcall : calls[i]? = some call) (phase : Phase call.request) :
    Carries (calls.set i (call.goto phase)) m := by
  rcases h with ⟨j, call', hcall', rfl⟩
  have hlt : i < calls.length := (List.getElem?_eq_some_iff.1 hcall).1
  by_cases hij : i = j
  · subst hij
    cases hcall.symm.trans hcall'
    exact ⟨i, call.goto phase, by simp [hlt], rfl⟩
  · exact ⟨j, call', (List.getElem?_set_ne hij).trans hcall', rfl⟩

theorem result?_moved (hcall : c.calls[i]? = some call) (phase : Phase call.request)
    (waiting queue : List Nat) (marks : List (Mark ι ρ)) (j : Nat) :
    (c.moved i call phase waiting queue marks).result? j =
      if i = j then (call.goto phase).result? else c.result? j := by
  have hlt : i < c.calls.length := (List.getElem?_eq_some_iff.1 hcall).1
  by_cases hij : i = j
  · subst hij
    simp [result?, moved, hlt]
  · simp [result?, moved, hij]

theorem result?_snoc (hnone : call.result? = none) (j : Nat) :
    ({ c with calls := c.calls ++ [call] } : Channel ι ρ).result? j = c.result? j := by
  by_cases hlt : j < c.calls.length
  · simp only [result?, List.getElem?_append_left hlt]
  · -- the one more call has not ended
    have hbeyond : c.result? j = none := by
      simp [result?, List.getElem?_eq_none (Nat.le_of_not_lt hlt)]
    rw [hbeyond, result?, Option.bind_eq_none_iff]
    intro call' hcall'
    rcases getElem?_snoc_cases hcall' with hold | ⟨_, rfl⟩
    · exact absurd (List.getElem?_eq_some_iff.1 hold).1 hlt
    · exact hnone

namespace Matches

theorem exists_message (h : Matches line queue waiting held c) (m : ClientMessage ι ρ)
    (hmem : m ∈ queue ++ (waiting ++ held)) : ∃ i request, m = message i request := by
  rcases h.carried m hmem with ⟨i, call, _, rfl⟩
  exact ⟨i, call.request, rfl⟩

/-- The call of a message that is on its way. -/
theorem exists_call (h : Matches line queue waiting held c)
    (hmem : message i request ∈ queue ++ (waiting ++ held)) :
    ∃ call, c.calls[i]? = some call ∧ call.request = request := by
  rcases h.carried _ hmem with ⟨j, call, hcall, hmessage⟩
  cases hmessage
  exact ⟨call, hcall, rfl⟩

/-- A call moves on, and its message with it. -/
theorem moved (h : Matches line queue waiting held c) (hcall : c.calls[i]? = some call)
    {phase : Phase call.request} {queue' waiting' held' : List (ClientMessage ι ρ)}
    {queueNumbers waitingNumbers : List Nat} {marks : List (Mark ι ρ)}
    (hinvariant : (c.moved i call phase waitingNumbers queueNumbers marks).Invariant)
    (hqueue : queueNumbers = queue'.map Message.caller)
    (hwaiting : waitingNumbers = waiting'.map Message.caller)
    (hheld : Placed (c.calls.set i (call.goto phase)) Call.IsHeld (held'.map Message.caller))
    (hcarried : ∀ m ∈ queue' ++ (waiting' ++ held'),
      m ∈ queue ++ (waiting ++ held) ∨ m = message i call.request)
    (hresult : (call.goto phase).result? = call.result?) :
    Matches line queue' waiting' held'
      (c.moved i call phase waitingNumbers queueNumbers marks) := by
  refine ⟨hinvariant, h.lives, ?_, h.capacity_eq, h.isOpen_eq, hqueue, hwaiting, hheld, ?_, ?_⟩
  · simpa [Channel.moved] using h.started_eq
  · intro m hmem
    rcases hcarried m hmem with hold | rfl
    · exact (h.carried m hold).set hcall phase
    · exact Carries.set ⟨i, call, hcall, rfl⟩ hcall phase
  · intro j
    rw [result?_moved hcall, h.result?_eq]
    by_cases hij : i = j
    · subst hij
      simp [hresult, result?, hcall]
    · simp [hij]

/-- A call takes what lies ready for it. -/
theorem conclude (h : Matches line queue waiting held c) (hcall : c.calls[i]? = some call)
    {answer : Answer call.request} (hphase : call.phase = .replied answer) :
    ∃ c', c.ByItself c' ∧
      Matches { line with results := line.results ++ [(i, ⟨call.request, answer⟩)] } queue waiting
        held c' := by
  refine ⟨_, .take hcall hphase, h.invariant.take hcall hphase, h.lives, ?_, h.capacity_eq,
    h.isOpen_eq, h.queue_eq, h.waiting_eq, ?_, ?_, ?_⟩
  · simpa [Channel.moved] using h.started_eq
  · exact h.taken.keep hcall (by simp [hphase]) (by simp)
  · intro m hmem
    exact (h.carried m hmem).set hcall _
  · intro j
    rw [result?_moved hcall]
    by_cases hij : i = j
    · subst hij
      have hnone : line.results.lookup i = none := by
        simpa [Line.result?, result?, hcall, Call.result?, hphase] using h.result?_eq i
      simp [Line.result?, List.lookup_append, hnone, Call.goto, Call.result?]
    · have hother : (j == i) = false := by simpa using Ne.symm hij
      have hsame : line.results.lookup j = c.result? j := h.result?_eq j
      simp [Line.result?, List.lookup_append, List.lookup_cons, hij, hother, hsame]

/-- A call gets its reply, and takes it. -/
theorem settle (h : Matches line queue waiting held c) (hcall : c.calls[i]? = some call)
    (hnone : call.result? = none) {answer : Answer call.request}
    {queue' waiting' held' : List (ClientMessage ι ρ)} {queueNumbers waitingNumbers : List Nat}
    {marks : List (Mark ι ρ)}
    (hinvariant : (c.moved i call (.replied answer) waitingNumbers queueNumbers marks).Invariant)
    (hqueue : queueNumbers = queue'.map Message.caller)
    (hwaiting : waitingNumbers = waiting'.map Message.caller)
    (hheld : Placed (c.calls.set i (call.goto (.replied answer))) Call.IsHeld
      (held'.map Message.caller))
    (hcarried : ∀ m ∈ queue' ++ (waiting' ++ held'), m ∈ queue ++ (waiting ++ held)) :
    ∃ c', (c.moved i call (.replied answer) waitingNumbers queueNumbers marks).Flows c' ∧
      Matches (line.answer (message i call.request) answer).2 queue' waiting' held' c' := by
  have hlt : i < c.calls.length := (List.getElem?_eq_some_iff.1 hcall).1
  have hmoved := h.moved hcall hinvariant hqueue hwaiting hheld
    (fun m hmem => .inl (hcarried m hmem)) hnone.symm
  have hcall' : (c.moved i call (.replied answer) waitingNumbers queueNumbers marks).calls[i]? =
      some (call.goto (.replied answer)) := by
    simp [Channel.moved, hlt]
  rcases hmoved.conclude hcall' rfl with ⟨c', hstep, hmatches⟩
  exact ⟨c', Flows.itself .refl hstep, hmatches⟩

/-- The first of those who wait enters the queue. -/
theorem enter (h : Matches line queue (message i request :: waiting) held c)
    (hopen : c.isOpen = true) (hroom : queue.length < c.capacity.size) :
    ∃ c', c.ByItself c' ∧ Matches line (queue ++ [message i request]) waiting held c' := by
  have hmem : message i request ∈ queue ++ (message i request :: waiting ++ held) := by simp
  rcases h.exists_call hmem with ⟨call, hcall, rfl⟩
  have hfirst : c.waiting = i :: waiting.map Message.caller := h.waiting_eq
  have hphase := h.invariant.phase_of_mem_waiting (by simp [hfirst]) hcall
  have hroom' : c.queue.length < c.capacity.size := by simpa [h.queue_eq] using hroom
  refine ⟨_, .enter hopen hroom' hfirst hcall, ?_⟩
  have hqueue : c.queue ++ [i] = (queue ++ [message i call.request]).map Message.caller := by
    simp [h.queue_eq, message]
  refine h.moved hcall (h.invariant.enter hfirst hcall) hqueue rfl ?_ ?_ ?_
  · exact h.taken.keep hcall (by simp [hphase]) (by simp)
  · intro m hmem
    exact .inl (by simpa using hmem)
  · simp [Call.result?, Call.goto, hphase]

/-- Whoever waits first finds the line closed. -/
theorem refuse (h : Matches line queue (message i request :: waiting) held c)
    (hclosed : c.isOpen = false) :
    ∃ c', c.Flows c' ∧
      Matches (line.answer (message i request) (request.unanswered .closed)).2 queue waiting held
        c' := by
  have hmem : message i request ∈ queue ++ (message i request :: waiting ++ held) := by simp
  rcases h.exists_call hmem with ⟨call, hcall, rfl⟩
  have hfirst : c.waiting = i :: waiting.map Message.caller := h.waiting_eq
  have hwaiting : i ∈ c.waiting := by simp [hfirst]
  have hphase := h.invariant.phase_of_mem_waiting hwaiting hcall
  have hnone : call.result? = none := by simp [Call.result?, hphase]
  have hstep : c.ByItself _ := .refuse hclosed hwaiting hcall
  have hnumbers : c.waiting.erase i = waiting.map Message.caller := by simp [hfirst]
  have hcarried : ∀ m ∈ queue ++ (waiting ++ held),
      m ∈ queue ++ (message i call.request :: waiting ++ held) := by
    intro m hmem
    simp at hmem ⊢
    tauto
  rcases h.settle hcall hnone (h.invariant.byItself hstep) h.queue_eq hnumbers
    (h.taken.keep hcall (by simp [hphase]) (by simp)) hcarried with ⟨c', hflows, hmatches⟩
  exact ⟨c', .head (.inr hstep) hflows, hmatches⟩

/-- The first request that was left in the queue is lost. -/
theorem spill (h : Matches line (message i request :: queue) waiting held c)
    (hclosed : c.isOpen = false) :
    ∃ c', c.Flows c' ∧
      Matches (line.answer (message i request) (request.unanswered .dropped)).2 queue waiting held
        c' := by
  have hmem : message i request ∈ message i request :: queue ++ (waiting ++ held) := by simp
  rcases h.exists_call hmem with ⟨call, hcall, rfl⟩
  have hfirst : c.queue = i :: queue.map Message.caller := h.queue_eq
  have hphase := h.invariant.phase_of_mem_queue (by simp [hfirst]) hcall
  have hnone : call.result? = none := by simp [Call.result?, hphase]
  have hstep : c.ByItself _ := .spill hclosed hfirst hcall
  rcases h.settle hcall hnone (h.invariant.byItself hstep) rfl h.waiting_eq
    (h.taken.keep hcall (by simp [hphase]) (by simp))
    (fun m hmem => List.mem_cons_of_mem _ hmem) with ⟨c', hflows, hmatches⟩
  exact ⟨c', .head (.inr hstep) hflows, hmatches⟩

/-- The receiver takes the first message. -/
theorem receive (h : Matches line (message i request :: queue) waiting held c)
    (hopen : c.isOpen = true) :
    ∃ call, c.queue = i :: queue.map Message.caller ∧ c.calls[i]? = some call ∧
      Matches line queue waiting (held ++ [message i request])
        (c.received i call (queue.map Message.caller)) := by
  have hmem : message i request ∈ message i request :: queue ++ (waiting ++ held) := by simp
  rcases h.exists_call hmem with ⟨call, hcall, rfl⟩
  have hfirst : c.queue = i :: queue.map Message.caller := h.queue_eq
  have hphase := h.invariant.phase_of_mem_queue (by simp [hfirst]) hcall
  have hinvariant := h.invariant.byReceiver (.receive hopen hfirst hcall)
  refine ⟨call, hfirst, hcall, h.moved hcall hinvariant rfl h.waiting_eq ?_ ?_ ?_⟩
  · rw [List.map_append]
    exact h.taken.add hcall (by simp [hphase]) rfl
  · intro m hmem
    refine .inl ?_
    simp at hmem ⊢
    tauto
  · simp [Call.result?, Call.goto, hphase]

/-- A message that the receiver has taken leaves its hands with an answer, or without one. -/
theorem leave_hand {before after : List (ClientMessage ι ρ)}
    (h : Matches line queue waiting (before ++ message i request :: after) c) :
    ∃ call, c.calls[i]? = some call ∧ call.IsHeld ∧ call.request = request ∧
      ∀ (answer : Answer call.request) (marks : List (Mark ι ρ)),
        Ending call.request (.entered :: marks) answer →
        ∃ c', (c.moved i call (.replied answer) c.waiting c.queue marks).Flows c' ∧
          Matches (line.answer (message i call.request) answer).2 queue waiting (before ++ after)
            c' := by
  have hmem : message i request ∈ queue ++ (waiting ++ (before ++ message i request :: after)) := by
    simp
  rcases h.exists_call hmem with ⟨call, hcall, rfl⟩
  have hheld : call.IsHeld :=
    (h.taken.mem_iff_of_eq_some hcall).1 (by simp [Client.message])
  refine ⟨call, hcall, hheld, rfl, ?_⟩
  intro answer marks hending
  have hphase : call.phase = .held := hheld
  have hnone : call.result? = none := by simp [Call.result?, hphase]
  refine h.settle hcall hnone (h.invariant.leave_hand hcall hheld hending) h.queue_eq h.waiting_eq
    ?_ ?_
  · have hnodup := h.taken.nodup
    rw [List.map_append, List.map_cons] at hnodup
    -- no other message is of the same call
    have hnew : i ∉ before.map Message.caller := fun hi =>
      (List.nodup_append.1 hnodup).2.2 i hi i (by simp [Client.message]) rfl
    have hnumbers : ((before ++ message i call.request :: after).map Message.caller).erase i =
        (before ++ after).map Message.caller := by
      rw [List.map_append, List.map_cons, List.erase_append_right _ hnew, List.map_append]
      exact congrArg _ (List.erase_cons_head ..)
    rw [← hnumbers]
    exact h.taken.remove hcall (by simp)
  · intro m hmem
    simp at hmem ⊢
    tauto

/-- A client makes a call. -/
theorem called (h : Matches line queue waiting held c) (request : Request ι ρ) :
    ∃ c' call, c.ByClient c' ∧ c'.calls[line.started]? = some call ∧ call.request = request ∧
      call.phase = .ready ∧
      Matches { line with started := line.started + 1 } queue waiting held c' := by
  let called : Channel ι ρ := { c with calls := c.calls ++ [{ client := 0, request }] }
  have hcalled : c.ByClient called := .call h.lives request
  refine ⟨called, { client := 0, request }, hcalled, ?_, rfl, rfl, h.invariant.byClient hcalled,
    h.lives, ?_, h.capacity_eq, h.isOpen_eq, h.queue_eq, h.waiting_eq, h.taken.snoc (by simp), ?_,
    ?_⟩
  · simp [called, h.started_eq]
  · simp [called, h.started_eq]
  · intro m hmem
    rcases h.carried m hmem with ⟨j, call', hcall', rfl⟩
    have hlt := (List.getElem?_eq_some_iff.1 hcall').1
    exact ⟨j, call', (List.getElem?_append_left hlt).trans hcall', rfl⟩
  · intro j
    exact (h.result?_eq j).trans (result?_snoc rfl j).symm

/-- A new request comes to wait behind all the others. -/
theorem send (h : Matches line queue waiting held c) (request : Request ι ρ) :
    ∃ c', c.Flows c' ∧
      Matches { line with started := line.started + 1 } queue
        (waiting ++ [message line.started request]) held c' := by
  rcases h.called request with ⟨c₁, call, hclient, hcall, rfl, hphase, h₁⟩
  have hsend : c₁.ByItself _ := .send hcall hphase
  refine ⟨_, (Flows.client .refl hclient).itself hsend, ?_⟩
  refine h₁.moved hcall (h₁.invariant.byItself hsend) h₁.queue_eq ?_ ?_ ?_ ?_
  · simp [h₁.waiting_eq, Client.message]
  · exact h₁.taken.keep hcall (by simp [hphase]) (by simp)
  · intro m hmem
    simp at hmem ⊢
    tauto
  · simp [Call.result?, Call.goto, hphase]

/-- The mailbox itself counts only for its capacity and for being open. -/
theorem with_mailbox (h : Matches line queue waiting held c)
    {mailbox : Mailbox (ClientMessage ι ρ)} (hopen : mailbox.isOpen = line.mailbox.isOpen)
    (hcapacity : mailbox.capacity = line.mailbox.capacity) :
    Matches { line with mailbox } queue waiting held c :=
  { h with capacity_eq := hcapacity.trans h.capacity_eq, isOpen_eq := hopen.trans h.isOpen_eq }

/-- A call is started, and gets as far as it can. -/
theorem start (h : Matches line line.mailbox.queue line.mailbox.waiting held c)
    (request : Request ι ρ) :
    let line' := (line.start (Client.call request)).2
    ∃ c', c.Flows c' ∧ Matches line' line'.mailbox.queue line'.mailbox.waiting held c' := by
  intro line'
  rcases h.send request with ⟨c₁, hflows, h₁⟩
  cases hsend : line.mailbox.send? (message line.started request) with
  | none =>
    have hline : line' = (Line.answer { line with started := line.started + 1 }
        (message line.started request) (request.unanswered .closed)).2 := by
      simpa [hsend] using line.start_call request
    -- the line is closed, and nobody else waits in front of it
    have hclosed := (line.mailbox.send?_eq_none_iff _).1 hsend
    have hnobody := Mailbox.waiting_eq_nil_of_closed hclosed
    rw [hnobody] at h₁
    rcases h₁.refuse (h₁.isOpen_eq.symm.trans hclosed) with ⟨c₂, hflows', h₂⟩
    refine ⟨c₂, hflows.trans hflows', ?_⟩
    rw [hline]
    change Matches _ line.mailbox.queue line.mailbox.waiting held c₂
    rw [hnobody]
    exact h₂
  | some mailbox =>
    have hline : line' = { line with started := line.started + 1, mailbox } := by
      simpa [hsend] using line.start_call request
    rw [hline]
    rcases Mailbox.of_send?_eq_some hsend with ⟨hopen, hcapacity, hplaced⟩
    split at hplaced
    · rename_i hroom
      rcases hplaced with ⟨hqueue, hnobody, hwaiting⟩
      rw [hnobody] at h₁
      have hopen' : line.mailbox.isOpen = true := by
        simpa [hsend] using (line.mailbox.send?_eq_none_iff (message line.started request)).not
      have hroom' : line.mailbox.queue.length < c₁.capacity.size := h₁.capacity_eq ▸ hroom
      rcases h₁.enter (h₁.isOpen_eq.symm.trans hopen') hroom' with ⟨c₂, hstep, h₂⟩
      refine ⟨c₂, hflows.itself hstep, ?_⟩
      simp only [hqueue, hwaiting]
      exact h₂.with_mailbox hopen hcapacity
    · rcases hplaced with ⟨hqueue, hwaiting⟩
      refine ⟨c₁, hflows, ?_⟩
      simp only [hqueue, hwaiting]
      exact h₁.with_mailbox hopen hcapacity

/-- Whoever waits first takes the place that has become free. -/
theorem refill (h : Matches line queue waiting held c) (hopen : c.isOpen = true)
    (hroom : queue.length < c.capacity.size) :
    ∃ c', c.Flows c' ∧ Matches line (queue ++ waiting.take 1) (waiting.drop 1) held c' := by
  cases waiting with
  | nil =>
    refine ⟨c, .refl, ?_⟩
    simpa using h
  | cons first others =>
    rcases h.exists_message first (by simp) with ⟨i, request, rfl⟩
    rcases h.enter hopen hroom with ⟨c', hstep, hmatches⟩
    exact ⟨c', Flows.itself .refl hstep, hmatches⟩

/-- The receiver takes the first message of the line. -/
theorem receive_line (h : Matches line line.mailbox.queue line.mailbox.waiting held c)
    {m : ClientMessage ι ρ} {mailbox : Mailbox (ClientMessage ι ρ)}
    (hreceive : line.mailbox.receive? = some (m, mailbox)) :
    ∃ i request call rest c', m = message i request ∧ c.isOpen = true ∧ c.queue = i :: rest ∧
      c.calls[i]? = some call ∧ (c.received i call rest).Flows c' ∧
        Matches { line with mailbox } mailbox.queue mailbox.waiting (held ++ [m]) c' := by
  rcases Mailbox.of_receive?_eq_some hreceive with
    ⟨hopen, hcapacity, rest, hhead, hqueue, hwaiting⟩
  -- a closed mailbox holds nothing
  have hopen' : line.mailbox.isOpen = true := by
    by_contra hclosed
    have hnil := line.mailbox.empty_of_closed (by simpa using hclosed)
    simp [hhead] at hnil
  have hopen'' : c.isOpen = true := h.isOpen_eq.symm.trans hopen'
  have hroom : rest.length < line.mailbox.capacity.size := by
    have hbounded := line.mailbox.bounded
    rw [hhead] at hbounded
    exact hbounded
  rw [hhead] at h
  rcases h.exists_message m (by simp) with ⟨i, request, rfl⟩
  rcases h.receive hopen'' with ⟨call, hfirst, hcall, h₁⟩
  rcases h₁.refill hopen'' (h₁.capacity_eq ▸ hroom) with ⟨c', hflows, h₂⟩
  refine ⟨i, request, call, _, c', rfl, hopen'', hfirst, hcall, hflows, ?_⟩
  rw [hqueue, hwaiting]
  exact h₂.with_mailbox hopen hcapacity

/-- Those who wait in front of a closed line learn of it one after the other. -/
theorem refuse_all (h : Matches line queue waiting held c) (hclosed : line.mailbox.isOpen = false) :
    let line' := (Line.failAll .closed waiting line).2
    line'.mailbox = line.mailbox ∧ ∃ c', c.Flows c' ∧ Matches line' queue [] held c' := by
  induction waiting generalizing line c with
  | nil => exact ⟨rfl, c, .refl, h⟩
  | cons first rest ih =>
    rcases h.exists_message first (by simp) with ⟨i, request, rfl⟩
    rcases h.refuse (h.isOpen_eq.symm.trans hclosed) with ⟨c₁, hflows, h₁⟩
    rcases ih h₁ hclosed with ⟨hmailbox, c₂, hflows', h₂⟩
    exact ⟨hmailbox, c₂, hflows.trans hflows', h₂⟩

/-- What was left in the queue of a closed line is lost. -/
theorem spill_all (h : Matches line queue waiting held c) (hclosed : line.mailbox.isOpen = false) :
    let line' := (Line.failAll .dropped queue line).2
    line'.mailbox = line.mailbox ∧ ∃ c', c.Flows c' ∧ Matches line' [] waiting held c' := by
  induction queue generalizing line c with
  | nil => exact ⟨rfl, c, .refl, h⟩
  | cons first rest ih =>
    rcases h.exists_message first (by simp) with ⟨i, request, rfl⟩
    rcases h.spill (h.isOpen_eq.symm.trans hclosed) with ⟨c₁, hflows, h₁⟩
    rcases ih h₁ hclosed with ⟨hmailbox, c₂, hflows', h₂⟩
    exact ⟨hmailbox, c₂, hflows.trans hflows', h₂⟩

/-- The receiver goes away, unless it has already gone. -/
theorem close (h : Matches line queue waiting held c) :
    ∃ c', c.Reaches c' ∧
      Matches { line with mailbox := line.mailbox.close } queue waiting held c' := by
  cases hopen : c.isOpen with
  | false => exact ⟨c, .refl, { h with isOpen_eq := hopen.symm }⟩
  | true =>
    have hstep : c.ByReceiver c.closed := .close hopen
    exact ⟨c.closed, Reaches.receiver .refl hstep,
      { h with invariant := h.invariant.byReceiver hstep, isOpen_eq := rfl }⟩

/-- The line is closed, and nothing is left on its way. -/
theorem close_line (h : Matches line line.mailbox.queue line.mailbox.waiting held c) :
    let line' := line.close.2
    ∃ c', c.Reaches c' ∧ Matches line' line'.mailbox.queue line'.mailbox.waiting held c' := by
  intro line'
  rcases h.close with ⟨c₁, hreaches, h₁⟩
  rcases h₁.refuse_all rfl with ⟨hmailbox₁, c₂, hflows, h₂⟩
  rcases h₂.spill_all (by rw [hmailbox₁]; rfl) with ⟨hmailbox₂, c₃, hflows', h₃⟩
  refine ⟨c₃, (hreaches.trans hflows.reaches).trans hflows'.reaches, ?_⟩
  have hmailbox : line'.mailbox = line.mailbox.close := hmailbox₂.trans hmailbox₁
  rw [hmailbox]
  exact h₃

/-- A message that the receiver has taken is answered, or thrown away. -/
theorem answer_line {before after : List (ClientMessage ι ρ)} {m : ClientMessage ι ρ}
    (h : Matches line line.mailbox.queue line.mailbox.waiting (before ++ m :: after) c)
    (answer : Answer m.question) :
    let line' := (line.answer m answer).2
    ∃ c', c.Reaches c' ∧
      Matches line' line'.mailbox.queue line'.mailbox.waiting (before ++ after) c' := by
  intro line'
  rcases h.exists_message m (by simp) with ⟨i, request, rfl⟩
  rcases h.leave_hand with ⟨call, hcall, hheld, rfl, hleave⟩
  rcases hleave answer [.answered ⟨call.request, answer⟩] (.answered answer) with
    ⟨c', hflows, hmatches⟩
  have hanswered : c.ByReceiver _ := .answer hcall hheld answer
  exact ⟨c', .head (.inr (.inr hanswered)) hflows.reaches, hmatches⟩

theorem drop_line {before after : List (ClientMessage ι ρ)} {m : ClientMessage ι ρ}
    (h : Matches line line.mailbox.queue line.mailbox.waiting (before ++ m :: after) c) :
    let line' := (line.drop m).2
    ∃ c', c.Reaches c' ∧
      Matches line' line'.mailbox.queue line'.mailbox.waiting (before ++ after) c' := by
  intro line'
  rcases h.exists_message m (by simp) with ⟨i, request, rfl⟩
  rcases h.leave_hand with ⟨call, hcall, hheld, rfl, hleave⟩
  rcases hleave (call.request.unanswered .dropped) [.dropped] .lost with ⟨c', hflows, hmatches⟩
  have hdiscarded : c.ByReceiver _ := .discard hcall hheld
  exact ⟨c', .head (.inr (.inr hdiscarded)) hflows.reaches, hmatches⟩

end Matches

theorem matches_empty (capacity : Mailbox.Capacity) :
    Matches ({ mailbox := .empty capacity } : ClientLine ι ρ) [] [] [] (start capacity) := by
  refine ⟨invariant_start capacity, rfl, rfl, rfl, rfl, rfl, rfl, ⟨.nil, ?_⟩, by simp, fun _ => rfl⟩
  simp [start]

end Channel

/-! ## Runs of lines -/

/-- Whatever calls and receiver do with a line, a channel can come to the same situation, and then
its calls have the same results. -/
theorem Line.Operated.exists_channel {capacity : Mailbox.Capacity} {line : ClientLine ι ρ}
    {held : List (ClientMessage ι ρ)} (h : Operated capacity line held) :
    ∃ c, (Channel.start capacity).Reaches c ∧
      Channel.Matches line line.mailbox.queue line.mailbox.waiting held c := by
  induction h with
  | empty => exact ⟨_, .refl, Channel.matches_empty capacity⟩
  | start _ request ih =>
    rcases ih with ⟨c, hreaches, hmatches⟩
    rcases hmatches.start request with ⟨c', hflows, hmatches'⟩
    exact ⟨c', hreaches.trans hflows.reaches, hmatches'⟩
  | receive _ hreceive ih =>
    rcases ih with ⟨c, hreaches, hmatches⟩
    rcases Option.map_eq_some_iff.1 hreceive with ⟨⟨message, mailbox⟩, hmailbox, hline⟩
    cases hline
    rcases hmatches.receive_line hmailbox with
      ⟨i, request, call, rest, c', _, hopen, hqueue, hcall, hflows, hmatches'⟩
    exact ⟨c', (hreaches.receiver (.receive hopen hqueue hcall)).trans hflows.reaches, hmatches'⟩
  | answer _ a ih =>
    rcases ih with ⟨c, hreaches, hmatches⟩
    rcases hmatches.answer_line a with ⟨c', hreaches', hmatches'⟩
    exact ⟨c', hreaches.trans hreaches', hmatches'⟩
  | drop _ ih =>
    rcases ih with ⟨c, hreaches, hmatches⟩
    rcases hmatches.drop_line with ⟨c', hreaches', hmatches'⟩
    exact ⟨c', hreaches.trans hreaches', hmatches'⟩
  | close _ ih =>
    rcases ih with ⟨c, hreaches, hmatches⟩
    rcases hmatches.close_line with ⟨c', hreaches', hmatches'⟩
    exact ⟨c', hreaches.trans hreaches', hmatches'⟩

variable [DecidableEq ι] [Identifier ι] [Entity ι ρ]

theorem Attended.Reaches.flows {a a' : Attended ι ρ} {c : Channel ι ρ} (h : a.Reaches a')
    (hflows : a'.channel.Flows c) : a.Reaches { a' with channel := c } := by
  induction hflows with
  | refl => exact h
  | tail _ hstep ih =>
    rcases hstep with hclient | hitself
    · exact ih.client hclient
    · exact ih.itself hitself

/-- Where the receiver of the line is a server, it attends to the channel. -/
theorem Line.Reached.exists_attended {capacity : Mailbox.Capacity} {s₀ s : Server ι ρ}
    {calls : List (Dialogue (Request ι ρ) (Answered (Request ι ρ)))} {line : ClientLine ι ρ}
    (h : Reached capacity s₀ calls s line)
    (hcalls : ∀ call ∈ calls, ∃ request, call = Client.call request) :
    ∃ a, (Attended.start capacity s₀).Reaches a ∧ a.server = s ∧ a.serving = none ∧
      Channel.Matches line line.mailbox.queue line.mailbox.waiting [] a.channel := by
  induction h with
  | empty => exact ⟨_, .refl, rfl, rfl, Channel.matches_empty capacity⟩
  | start _ call ih =>
    rcases ih (fun call hmem => hcalls call (by simp [hmem])) with
      ⟨a, hreaches, hserver, hidle, hmatches⟩
    rcases hcalls call (by simp) with ⟨request, rfl⟩
    rcases hmatches.start request with ⟨c, hflows, hmatches'⟩
    exact ⟨_, hreaches.flows hflows, hserver, hidle, hmatches'⟩
  | serve _ hserve ih =>
    rcases ih hcalls with ⟨a, hreaches, rfl, hidle, hmatches⟩
    rcases Line.of_serveNext?_eq_some hserve with ⟨message, mailbox, hmailbox, rfl, rfl⟩
    rcases hmatches.receive_line hmailbox with
      ⟨i, request, call, rest, c, rfl, hopen, hqueue, hcall, hflows, hmatches'⟩
    have hreceived := (hreaches.advance (.receive hopen hidle hqueue hcall)).flows hflows
    -- the server holds this one message
    have hheld : Channel.Matches _ _ _ ([] ++ Client.message i request :: []) c := hmatches'
    rcases hheld.leave_hand with ⟨call', hcall', _, rfl, hleave⟩
    rcases hleave (a.server.serve call'.request).1
      [.answered ⟨call'.request, (a.server.serve call'.request).1⟩] (.answered _) with
      ⟨c', hflows', hmatches''⟩
    have hanswered := (hreceived.advance (.answer rfl hcall')).flows hflows'
    exact ⟨_, hanswered, rfl, rfl, hmatches''⟩

/-! ## Calls and their ends -/

/-- However calls, clients and receiver take turns, calls to a server at work get its answers, and
the server leaves only when no client is there and nothing has been left unanswered. With any other
receiver, a call returns one result: that the channel is closed if its request never entered the
queue, that it was dropped if it entered and was thrown away, and otherwise its answer. The results
that come out of a line are results of this kind. -/
theorem Channel.dependable_and_truthful (capacity : Mailbox.Capacity) (s₀ : Server ι ρ) :
    (∀ a, (Attended.start capacity s₀).Reaches a → a.Dependable s₀) ∧
    (∀ c : Channel ι ρ, (Channel.start capacity).Reaches c → c.Truthful) ∧
    (∀ calls s (line : ClientLine ι ρ), Line.Reached capacity s₀ calls s line →
      (∀ call ∈ calls, ∃ request, call = Client.call request) →
      ∃ a, (Attended.start capacity s₀).Reaches a ∧ a.server = s ∧
        ∀ i, line.result? i = a.channel.result? i) ∧
    ∀ (line : ClientLine ι ρ) held, Line.Operated capacity line held →
      ∃ c, (Channel.start capacity).Reaches c ∧ ∀ i, line.result? i = c.result? i := by
  refine ⟨?_, ?_, ?_, ?_⟩
  · intro a hreaches
    exact (Attended.invariant_of_reaches hreaches).dependable
  · intro c hreaches
    exact (Channel.invariant_of_reaches hreaches).truthful
  · intro calls s line hline hcalls
    rcases hline.exists_attended hcalls with ⟨a, hreaches, hserver, _, hmatches⟩
    exact ⟨a, hreaches, hserver, hmatches.result?_eq⟩
  · intro line held hline
    rcases hline.exists_channel with ⟨c, hreaches, hmatches⟩
    exact ⟨c, hreaches, hmatches.result?_eq⟩

/-- A server answers the one call that there is, and leaves after the client. Another receiver goes
away while one request is in the queue and one waits in front of it. -/
theorem Channel.dependable_and_truthful_get :
    (∃ a : Attended UInt64 Account, (Attended.start .one Server.counting).Reaches a ∧
      a.Dependable Server.counting ∧ a.channel.isOpen = false ∧
        a.channel.result? 0 = some ⟨.get 1, (.ok none : Except ServerError (Option Account))⟩) ∧
    ∃ c : Channel UInt64 Account, (Channel.start .one).Reaches c ∧ c.Truthful ∧
      c.result? 0 = some ⟨.get 1, Request.unanswered .dropped (.get 1)⟩ ∧
        c.result? 1 = some ⟨.get 2, Request.unanswered .closed (.get 2)⟩ := by
  have hboth := dependable_and_truthful .one (Server.counting (ρ := Account))
  refine ⟨?_, ?_⟩
  · have hstart : (Attended.start .one (Server.counting (ρ := Account))).Reaches _ := .refl
    have hqueued := ((hstart.client (@ByClient.call _ _ _ 0 (by exact rfl) (.get 1))).itself
      (@ByItself.send _ _ _ 0 _ rfl rfl)).itself
        (@ByItself.enter _ _ _ 0 _ _ rfl (by decide) rfl rfl)
    have hended := ((hqueued.advance (.receive rfl rfl rfl rfl)).advance (.answer rfl rfl)).itself
      (@ByItself.take _ _ _ 0 _ _ rfl rfl)
    -- the only client goes away, and then the server leaves
    have hreleased := hended.client (@ByClient.release _ _ _ 0 (by exact rfl) (by
      intro call hmem _
      rw [List.mem_singleton.1 hmem]
      exact ⟨_, rfl⟩))
    have hleft := hreleased.advance (.leave rfl rfl rfl (by
      intro client hlives
      cases client <;> cases hlives))
    exact ⟨_, hleft, hboth.1 _ hleft, rfl, rfl⟩
  · have hstart : (start .one : Channel UInt64 Account).Reaches _ := .refl
    have hcalled := (hstart.client (@ByClient.call _ _ _ 0 (by exact rfl) (.get 1))).client
      (@ByClient.call _ _ _ 0 (by exact rfl) (.get 2))
    have hwaiting := ((hcalled.itself (@ByItself.send _ _ _ 0 _ rfl rfl)).itself
      (@ByItself.enter _ _ _ 0 _ _ rfl (by decide) rfl rfl)).itself
        (@ByItself.send _ _ _ 1 _ rfl rfl)
    -- the receiver goes away with one request in the queue and one in front of it
    have hrefused := ((hwaiting.receiver (.close rfl)).itself
      (@ByItself.refuse _ _ _ 1 _ rfl (by decide) rfl)).itself
        (@ByItself.spill _ _ _ 0 _ _ rfl rfl rfl)
    have hended := (hrefused.itself (@ByItself.take _ _ _ 0 _ _ rfl rfl)).itself
      (@ByItself.take _ _ _ 1 _ _ rfl rfl)
    exact ⟨_, hended, hboth.2.1 _ hended, rfl, rfl⟩

end FieldPatch
