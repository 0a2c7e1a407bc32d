import FieldPatch.Proofs.Exchange.Order

/-!
# Lines as exchanges

A line lets a call run until it waits for an answer, and moves a message into the mailbox as soon
as there is room. An exchange leaves all of this to the schedule. What a line does is what some
schedule of an exchange does, so that lines serve in sequence as well.

* `Line.Reached`: the lines that calls and a server have led to from an empty mailbox;
* `Exchange.Matches`: a line and an exchange in the same situation;
* `Line.Reached.exists_schedule`: every line that is reached matches an exchange that is reached;
* `Line.Reached.serves_in_sequence`: its server and its replies are those of the requests in order.
-/

namespace FieldPatch

/-! ## Mailboxes -/

namespace Mailbox

variable {μ : Type} {m m' : Mailbox μ} {message : μ}

/-- A message enters where there is room, and otherwise goes to the end of those who wait. -/
theorem of_send?_eq_some (h : m.send? message = some m') :
    m'.isOpen = m.isOpen ∧ m'.capacity = m.capacity ∧
      if m.queue.length < m.capacity.size then
        m'.queue = m.queue ++ [message] ∧ m.waiting = [] ∧ m'.waiting = []
      else m'.queue = m.queue ∧ m'.waiting = m.waiting ++ [message] := by
  simp only [send?] at h
  split at h
  · split at h
    · rename_i hroom
      cases h
      have hnobody := m.waiting_eq_nil hroom
      simp [hroom, hnobody]
    · rename_i hfull
      cases h
      simp [hfull]
  · cases h

/-- The first message leaves, and whoever waited first takes its place. -/
theorem of_receive?_eq_some (h : m.receive? = some (message, m')) :
    m'.isOpen = m.isOpen ∧ m'.capacity = m.capacity ∧
      ∃ rest, m.queue = message :: rest ∧ m'.queue = rest ++ m.waiting.take 1 ∧
        m'.waiting = m.waiting.drop 1 := by
  simp only [receive?] at h
  split at h
  · cases h
  · rename_i first rest hqueue
    cases h
    exact ⟨rfl, rfl, rest, hqueue, rfl, rfl⟩

end Mailbox

/-! ## Lines -/

namespace Line

variable {ι ρ α : Type}

theorem started_advance (caller : Nat) (d : Dialogue (Request ι ρ) α) (line : Line ι ρ α) :
    (advance caller d line).2.started = line.started := by
  induction d generalizing line with
  | done result => rfl
  | emit event next ih => exact ih line
  | ask request next ih =>
    simp only [advance]
    split
    · rfl
    · exact ih _ line

/-- The server answers the first message, and the call of this message goes on. -/
theorem of_serveNext?_eq_some [DecidableEq ι] [Identifier ι] [Entity ι ρ] {s s' : Server ι ρ}
    {line line' : Line ι ρ α} {trace : List Event}
    (h : line.serveNext? s = some (trace, s', line')) :
    ∃ message mailbox, line.mailbox.receive? = some (message, mailbox) ∧
      s' = (s.serve message.question).2 ∧
      line' = (advance message.caller (message.resume (s.serve message.question).1)
        { line with mailbox }).2 := by
  rcases Option.map_eq_some_iff.1 h with ⟨⟨message, line₁⟩, hreceive, hnext⟩
  rcases Option.map_eq_some_iff.1 hreceive with ⟨⟨first, mailbox⟩, hmailbox, hfirst⟩
  cases hfirst
  cases hnext
  exact ⟨message, mailbox, hmailbox, rfl, rfl⟩

/-- The lines that lead from an empty mailbox to here: calls are started, and the server takes the
first message. -/
inductive Reached [DecidableEq ι] [Identifier ι] [Entity ι ρ] (capacity : Mailbox.Capacity)
    (s₀ : Server ι ρ) : List (Dialogue (Request ι ρ) α) → Server ι ρ → Line ι ρ α → Prop where
  | empty : Reached capacity s₀ [] s₀ { mailbox := .empty capacity }
  | start {calls : List (Dialogue (Request ι ρ) α)} {s : Server ι ρ} {line : Line ι ρ α}
      (h : Reached capacity s₀ calls s line) (call : Dialogue (Request ι ρ) α) :
      Reached capacity s₀ (calls ++ [call]) s (line.start call).2
  | serve {calls : List (Dialogue (Request ι ρ) α)} {s s' : Server ι ρ} {line line' : Line ι ρ α}
      {trace : List Event} (h : Reached capacity s₀ calls s line)
      (hserve : line.serveNext? s = some (trace, s', line')) :
      Reached capacity s₀ calls s' line'

end Line

namespace Exchange

variable {ι ρ α : Type} {e e' : Exchange ι ρ α}

theorem result?_eq_none_of_sent {i : Nat} (h : e.stages[i]? = some .sent) : e.result? i = none := by
  simp [result?, h]

/-- The stage of one caller says nothing about the results of the others. -/
theorem result?_of_set {caller i : Nat} {stage : Stage (Request ι ρ) α}
    (hstages : e'.stages = e.stages.set caller stage) (hne : i ≠ caller) :
    e'.result? i = e.result? i := by
  simp [result?, hstages, List.getElem?_set_ne (Ne.symm hne)]

/-- Nor does it say anything about the calls that come later. -/
theorem drop_stages_of_set {caller count : Nat} {stage : Stage (Request ι ρ) α}
    (hstages : e'.stages = e.stages.set caller stage) (hcaller : caller < count) :
    e'.stages.drop count = e.stages.drop count := by
  rw [hstages, List.drop_set_of_lt hcaller]

/-- Whoever waited first stands in the queue. -/
def refilled (e : Exchange ι ρ α) : Exchange ι ρ α :=
  { e with queue := e.queue ++ e.waiting.take 1, waiting := e.waiting.drop 1 }

variable [DecidableEq ι] [Identifier ι] [Entity ι ρ]

theorem run_trans {e'' : Exchange ι ρ α} {front back : List Move} (h : e.run front = some e')
    (h' : e'.run back = some e'') : e.run (front ++ back) = some e'' := by
  calc
    e.run (front ++ back) = (e.run front).bind fun e₁ => e₁.run back := List.foldlM_append
    _ = e'.run back := by simp [h]
    _ = some e'' := h'

/-- Where there is room, the first of those who wait can enter. -/
theorem exists_refill (e : Exchange ι ρ α) (hroom : e.queue.length < e.capacity.size) :
    ∃ schedule, e.run schedule = some e.refilled := by
  cases hwaiting : e.waiting with
  | nil =>
    have hsame : e = e.refilled := by
      rw [refilled, hwaiting, List.take_nil, List.drop_nil, List.append_nil, ← hwaiting]
    exact ⟨[], congrArg some hsame⟩
  | cons message rest =>
    refine ⟨[.enter], ?_⟩
    simp [run, step?, refilled, hwaiting, hroom]

/-- The first message is answered, the next one enters, and the caller goes on. -/
def answered (e : Exchange ι ρ α) (message : Message (Request ι ρ) α)
    (rest : List (Message (Request ι ρ) α)) : Exchange ι ρ α :=
  (e.serve message rest).refilled.proceed message.caller
    (message.resume (e.server.serve message.question).1)

@[simp] theorem stages_answered (e : Exchange ι ρ α) (message : Message (Request ι ρ) α)
    (rest : List (Message (Request ι ρ) α)) : (e.answered message rest).stages =
      e.stages.set message.caller
        (.active (message.resume (e.server.serve message.question).1)) := by
  simp [answered, proceed, refilled, serve]

theorem exists_answered {message : Message (Request ι ρ) α} {rest : List (Message (Request ι ρ) α)}
    (hqueue : e.queue = message :: rest) (hbounded : e.queue.length ≤ e.capacity.size)
    (hlt : message.caller < e.stages.length) :
    ∃ schedule, e.run schedule = some (e.answered message rest) := by
  have hstep : e.step? .serve = some (e.serve message rest) := by
    simp [step?, hqueue]
  -- the first message has made room
  have hroom : (e.serve message rest).queue.length < (e.serve message rest).capacity.size := by
    rw [hqueue] at hbounded
    exact hbounded
  rcases exists_refill _ hroom with ⟨schedule, hrefill⟩
  have htake : (e.serve message rest).refilled.run [.take message.caller] =
      some (e.answered message rest) := by
    simp [run, step?, answered, refilled, serve, hlt]
  have hserved : e.run (.serve :: schedule) = some (e.serve message rest).refilled := by
    simpa [run, hstep] using hrefill
  exact ⟨_, run_trans hserved htake⟩

/-! ## Matching -/

/-- Results are known of the settled callers, and the calls that come later have not begun. -/
structure Matches (settled : Nat → Prop) (later : List (Dialogue (Request ι ρ) α)) (s : Server ι ρ)
    (line : Line ι ρ α) (e : Exchange ι ρ α) : Prop where
  isOpen : line.mailbox.isOpen = true
  capacity_eq : e.capacity = line.mailbox.capacity
  server_eq : e.server = s
  queue_eq : e.queue = line.mailbox.queue
  waiting_eq : e.waiting = line.mailbox.waiting
  later_eq : e.stages.drop line.started = later.map .active
  settled_eq : ∀ i, settled i → line.result? i = e.result? i
  unsettled_eq : ∀ i, ¬ settled i → line.result? i = none

variable {later : List (Dialogue (Request ι ρ) α)} {s : Server ι ρ} {line : Line ι ρ α}

namespace Matches

section Stages

omit [DecidableEq ι] [Identifier ι] [Entity ι ρ]

/-- The result of the caller is written down. -/
theorem record {caller : Nat} {result : α}
    (h : Matches (fun i => i < line.started ∧ i ≠ caller) later s line e)
    (hcaller : caller < line.started)
    (hstage : e.stages[caller]? = some (.active (.done result))) :
    Matches (fun i => i < line.started) later s
      { line with results := line.results ++ [(caller, result)] } e := by
  have hrecorded : ∀ i, (line.results ++ [(caller, result)]).lookup i =
      (line.result? i).or (if i = caller then some result else none) := by
    intro i
    by_cases hic : i = caller
    · simp [Line.result?, List.lookup_append, hic]
    · have hother : (i == caller) = false := by simpa using hic
      simp [Line.result?, List.lookup_append, List.lookup_cons, hic, hother]
  refine ⟨h.isOpen, h.capacity_eq, h.server_eq, h.queue_eq, h.waiting_eq, h.later_eq, ?_, ?_⟩
  · intro i hi
    by_cases hic : i = caller
    · subst hic
      have hnone : line.result? i = none := h.unsettled_eq i (by simp)
      have hresult : e.result? i = some result := by simp [result?, hstage]
      exact (hrecorded i).trans (by simp [hnone, hresult])
    · have hsettled := h.settled_eq i ⟨hi, hic⟩
      exact (hrecorded i).trans (by simp [hic, hsettled])
  · intro i hi
    have hic : i ≠ caller := fun he => hi (he ▸ hcaller)
    have hnone : line.result? i = none := h.unsettled_eq i fun hsettled => hi hsettled.1
    exact (hrecorded i).trans (by simp [hic, hnone])

/-- The caller goes on, which nobody sees yet. -/
theorem proceed {caller : Nat} (h : Matches (fun i => i < line.started ∧ i ≠ caller) later s line e)
    (hcaller : caller < line.started) (rest : Dialogue (Request ι ρ) α) :
    Matches (fun i => i < line.started ∧ i ≠ caller) later s line (e.proceed caller rest) := by
  have hstages : (e.proceed caller rest).stages = e.stages.set caller (.active rest) := rfl
  refine ⟨h.isOpen, h.capacity_eq, h.server_eq, h.queue_eq, h.waiting_eq, ?_, ?_, h.unsettled_eq⟩
  · exact (drop_stages_of_set hstages hcaller).trans h.later_eq
  · intro i hi
    calc
      line.result? i = e.result? i := h.settled_eq i hi
      _ = (e.proceed caller rest).result? i := (result?_of_set hstages hi.2).symm

/-- The caller has sent a message, which stands in the mailbox as it does in the exchange. -/
theorem of_sent {caller : Nat} {mailbox : Mailbox (Message (Request ι ρ) α)}
    (h : Matches (fun i => i < line.started ∧ i ≠ caller) later s line e)
    (hcaller : caller < line.started) (hlt : caller < e.stages.length)
    (hopen : mailbox.isOpen = true) (hcapacity : e'.capacity = mailbox.capacity)
    (hserver : e'.server = e.server) (hstages : e'.stages = e.stages.set caller .sent)
    (hqueue : e'.queue = mailbox.queue) (hwaiting : e'.waiting = mailbox.waiting) :
    Matches (fun i => i < line.started) later s { line with mailbox } e' := by
  refine ⟨hopen, hcapacity, hserver.trans h.server_eq, hqueue, hwaiting, ?_, ?_, ?_⟩
  · exact (drop_stages_of_set hstages hcaller).trans h.later_eq
  · intro i hi
    by_cases hic : i = caller
    · -- whoever waits for an answer has no result
      subst hic
      calc
        line.result? i = none := h.unsettled_eq i (by simp)
        _ = e'.result? i := (result?_eq_none_of_sent (by simp [hstages, hlt])).symm
    · calc
        line.result? i = e.result? i := h.settled_eq i ⟨hi, hic⟩
        _ = e'.result? i := (result?_of_set hstages hic).symm
  · intro i hi
    exact h.unsettled_eq i fun hsettled => hi hsettled.1

end Stages

/-- A message that the mailbox takes can be sent, and enter if there is room. -/
theorem send {message : Message (Request ι ρ) α} {mailbox : Mailbox (Message (Request ι ρ) α)}
    (h : Matches (fun i => i < line.started ∧ i ≠ message.caller) later s line e)
    (hcaller : message.caller < line.started)
    (hstage : e.stages[message.caller]? = some (.active (.ask message.question message.resume)))
    (hsend : line.mailbox.send? message = some mailbox) :
    ∃ schedule e', e.run schedule = some e' ∧
      Matches (fun i => i < line.started) later s { line with mailbox } e' := by
  have hlt : message.caller < e.stages.length := (List.getElem?_eq_some_iff.1 hstage).1
  have hstep : e.step? (.act message.caller) = some (e.send message) := by
    simp [step?, hstage]
  rcases Mailbox.of_send?_eq_some hsend with ⟨hopen, hcapacity, hplaced⟩
  have hcapacity' : e.capacity = mailbox.capacity := h.capacity_eq.trans hcapacity.symm
  split at hplaced
  · -- there is room, so that the message enters at once
    rename_i hroom
    rcases hplaced with ⟨hqueue, hnobody, hwaiting⟩
    have hroom' : (e.send message).queue.length < (e.send message).capacity.size := by
      simpa [Exchange.send, h.queue_eq, h.capacity_eq] using hroom
    rcases exists_refill _ hroom' with ⟨schedule, hrun⟩
    refine ⟨.act message.caller :: schedule, (e.send message).refilled, ?_, ?_⟩
    · simpa [run, hstep] using hrun
    · refine h.of_sent hcaller hlt (hopen.trans h.isOpen) hcapacity' rfl rfl ?_ ?_
      · simp [refilled, Exchange.send, h.queue_eq, h.waiting_eq, hnobody, hqueue]
      · simp [refilled, Exchange.send, h.waiting_eq, hnobody, hwaiting]
  · -- the mailbox is full, and the message waits in front of it
    rcases hplaced with ⟨hqueue, hwaiting⟩
    refine ⟨[.act message.caller], e.send message, by simp [run, hstep], ?_⟩
    refine h.of_sent hcaller hlt (hopen.trans h.isOpen) hcapacity' rfl rfl ?_ ?_
    · exact h.queue_eq.trans hqueue.symm
    · simp [Exchange.send, h.waiting_eq, hwaiting]

/-- A caller that a line lets run gets as far in the exchange. -/
theorem advance {caller : Nat} {d : Dialogue (Request ι ρ) α}
    (h : Matches (fun i => i < line.started ∧ i ≠ caller) later s line e)
    (hcaller : caller < line.started) (hstage : e.stages[caller]? = some (.active d)) :
    ∃ schedule e', e.run schedule = some e' ∧
      Matches (fun i => i < line.started) later s (Line.advance caller d line).2 e' := by
  induction d generalizing e with
  | done result => exact ⟨[], e, rfl, h.record hcaller hstage⟩
  | emit event next ih =>
    have hlt : caller < e.stages.length := (List.getElem?_eq_some_iff.1 hstage).1
    have hstep : e.step? (.act caller) = some (e.proceed caller next) := by
      simp [step?, hstage]
    have hnext : (e.proceed caller next).stages[caller]? = some (.active next) := by
      simp [Exchange.proceed, hlt]
    rcases ih (h.proceed hcaller next) hnext with ⟨schedule, e', hrun, hmatches⟩
    refine ⟨.act caller :: schedule, e', ?_, hmatches⟩
    simpa [run, hstep] using hrun
  | ask request next ih =>
    cases hsend : line.mailbox.send? ⟨caller, request, next⟩ with
    | none =>
      -- an open mailbox refuses nobody
      have hclosed := (line.mailbox.send?_eq_none_iff _).1 hsend
      simp [h.isOpen] at hclosed
    | some mailbox =>
      have hadvance : (Line.advance caller (.ask request next) line).2 = { line with mailbox } := by
        simp [Line.advance, hsend]
      rw [hadvance]
      exact h.send hcaller hstage hsend

/-- A server that takes the first message of the line answers it in the exchange. -/
theorem serve {calls : List (Dialogue (Request ι ρ) α)} {s₀ s' : Server ι ρ} {line' : Line ι ρ α}
    {trace : List Event} (h : Matches (fun i => i < line.started) later s line e)
    (hinvariant : Invariant s₀ calls e) (hserve : line.serveNext? s = some (trace, s', line')) :
    ∃ schedule e', e.run schedule = some e' ∧
      Matches (fun i => i < line'.started) later s' line' e' := by
  rcases Line.of_serveNext?_eq_some hserve with ⟨message, mailbox, hmailbox, rfl, rfl⟩
  rcases Mailbox.of_receive?_eq_some hmailbox with ⟨hopen, hcapacity, rest, hhead, hqueue, hwaiting⟩
  have hhead' : e.queue = message :: rest := h.queue_eq.trans hhead
  have hsent : e.stages[message.caller]? = some .sent :=
    (hinvariant.awaited message (by simp [pending, hhead'])).1
  have hlt : message.caller < e.stages.length := (List.getElem?_eq_some_iff.1 hsent).1
  have hcaller : message.caller < line.started := by
    -- the calls that come later have sent nothing yet
    by_contra hge
    have hlater : (e.stages.drop line.started)[message.caller - line.started]? = some .sent := by
      simpa [List.getElem?_drop, Nat.add_sub_cancel' (Nat.le_of_not_lt hge)] using hsent
    simp [h.later_eq] at hlater
  rcases exists_answered hhead' hinvariant.bounded hlt with ⟨schedule, hrun⟩
  let line₁ : Line ι ρ α := { line with mailbox }
  have hanswered : Matches (fun i => i < line₁.started ∧ i ≠ message.caller) later
      (s.serve message.question).2 line₁ (e.answered message rest) := by
    refine ⟨hopen.trans h.isOpen, h.capacity_eq.trans hcapacity.symm, ?_, ?_, ?_, ?_, ?_, ?_⟩
    · simp [answered, Exchange.proceed, refilled, Exchange.serve, h.server_eq]
    · simp [answered, Exchange.proceed, refilled, Exchange.serve, line₁, hqueue, h.waiting_eq]
    · simp [answered, Exchange.proceed, refilled, Exchange.serve, line₁, hwaiting, h.waiting_eq]
    · exact (drop_stages_of_set (stages_answered e message rest) hcaller).trans h.later_eq
    · intro i hi
      calc
        line.result? i = e.result? i := h.settled_eq i hi.1
        _ = (e.answered message rest).result? i :=
          (result?_of_set (stages_answered e message rest) hi.2).symm
    · intro i hi
      by_cases hic : i = message.caller
      · -- nothing was written down for a caller who waited
        subst hic
        calc
          line.result? message.caller = e.result? message.caller := h.settled_eq _ hcaller
          _ = none := result?_eq_none_of_sent hsent
      · exact h.unsettled_eq i fun hlt => hi ⟨hlt, hic⟩
  have hstage : (e.answered message rest).stages[message.caller]? =
      some (.active (message.resume (s.serve message.question).1)) := by
    simp [hlt, h.server_eq]
  rcases hanswered.advance hcaller hstage with ⟨schedule', e', hrun', hmatches⟩
  refine ⟨schedule ++ schedule', e', run_trans hrun hrun', ?_⟩
  rw [Line.started_advance]
  exact hmatches

/-- The first of the calls that come later is started. -/
theorem start {call : Dialogue (Request ι ρ) α}
    (h : Matches (fun i => i < line.started) (call :: later) s line e) :
    ∃ schedule e', e.run schedule = some e' ∧
      Matches (fun i => i < (line.start call).2.started) later s (line.start call).2 e' := by
  have hfirst : (e.stages.drop line.started)[0]? = some (.active call) := by
    simp [h.later_eq]
  have hstage : e.stages[line.started]? = some (.active call) := by
    simpa using hfirst
  let line₁ : Line ι ρ α := { line with started := line.started + 1 }
  have hbegun : Matches (fun i => i < line₁.started ∧ i ≠ line.started) later s line₁ e := by
    refine ⟨h.isOpen, h.capacity_eq, h.server_eq, h.queue_eq, h.waiting_eq, ?_, ?_, ?_⟩
    · calc
        e.stages.drop (line.started + 1) = (e.stages.drop line.started).tail := List.tail_drop.symm
        _ = later.map .active := by simp [h.later_eq]
    · intro i hi
      have hlt : i < line.started := Nat.lt_of_le_of_ne (Nat.le_of_lt_succ hi.1) hi.2
      exact h.settled_eq i hlt
    · intro i hi
      apply h.unsettled_eq i
      intro hlt
      exact hi ⟨Nat.lt_succ_of_lt hlt, Nat.ne_of_lt hlt⟩
  rcases hbegun.advance (Nat.lt_succ_self _) hstage with ⟨schedule, e', hrun, hmatches⟩
  refine ⟨schedule, e', hrun, ?_⟩
  rw [Line.start, Line.started_advance]
  exact hmatches

end Matches

/-! ## Runs of lines -/

theorem matches_of_reached {capacity : Mailbox.Capacity} {s₀ : Server ι ρ}
    {calls : List (Dialogue (Request ι ρ) α)} (h : Line.Reached capacity s₀ calls s line)
    (later : List (Dialogue (Request ι ρ) α)) :
    ∃ schedule e, (start capacity s₀ (calls ++ later)).run schedule = some e ∧
      Matches (fun i => i < line.started) later s line e := by
  -- the exchange knows from the beginning which calls the line will be given
  induction h generalizing later with
  | empty =>
    refine ⟨[], _, rfl, rfl, rfl, rfl, rfl, rfl, rfl, ?_, fun _ _ => rfl⟩
    intro i hi
    exact absurd hi (Nat.not_lt_zero i)
  | @start calls s line h call ih =>
    rcases ih (call :: later) with ⟨schedule, e, hrun, hmatches⟩
    rcases hmatches.start with ⟨schedule', e', hrun', hmatches'⟩
    refine ⟨schedule ++ schedule', e', ?_, hmatches'⟩
    simpa using run_trans hrun hrun'
  | @serve calls s s' line line' trace h hserve ih =>
    rcases ih later with ⟨schedule, e, hrun, hmatches⟩
    have hinvariant := invariant_run capacity hrun
    rcases hmatches.serve hinvariant hserve with ⟨schedule', e', hrun', hmatches'⟩
    exact ⟨schedule ++ schedule', e', run_trans hrun hrun', hmatches'⟩

end Exchange

namespace Line.Reached

variable {ι ρ : Type} [DecidableEq ι] [Identifier ι] [Entity ι ρ] {capacity : Mailbox.Capacity}
  {s₀ s : Server ι ρ}

/-- What a line does is what some schedule of an exchange does. -/
theorem exists_schedule {α : Type} {calls : List (Dialogue (Request ι ρ) α)} {line : Line ι ρ α}
    (h : Reached capacity s₀ calls s line) :
    ∃ schedule e, (Exchange.start capacity s₀ calls).run schedule = some e ∧ e.server = s ∧
      e.queue = line.mailbox.queue ∧ e.waiting = line.mailbox.waiting ∧
      ∀ i, line.result? i = e.result? i := by
  rcases Exchange.matches_of_reached h [] with ⟨schedule, e, hrun, hmatches⟩
  rw [List.append_nil] at hrun
  refine ⟨schedule, e, hrun, hmatches.server_eq, hmatches.queue_eq, hmatches.waiting_eq, ?_⟩
  intro i
  by_cases hi : i < line.started
  · exact hmatches.settled_eq i hi
  · -- all calls have begun
    have hlength : e.stages.length ≤ line.started := List.drop_eq_nil_iff.1 hmatches.later_eq
    have hnone : e.stages[i]? = none := List.getElem?_eq_none (by omega)
    calc
      line.result? i = none := hmatches.unsettled_eq i hi
      _ = e.result? i := by simp [Exchange.result?, hnone]

/-- A line serves every request once at most, and a reply is the answer that its request gets after
those that were served before. -/
theorem serves_in_sequence {mint : Nat → ι} {calls : List (Client.Call ι ρ)}
    {line : Line ι ρ (Client.Result ι ρ)}
    (h : Reached capacity (.start mint) (calls.map Client.Call.dialogue) s line) :
    let s₀ : Server ι ρ := .start mint
    ∃ served : List (Nat × Answered (Request ι ρ)),
      (served.map Prod.fst).Nodup ∧ s = s₀.serveAll (served.map fun entry => entry.2.question) ∧
      ∀ i r result, calls[i]? = some (.request r) → line.result? i = some result →
        ∃ before answer after, served = before ++ (i, ⟨r, answer⟩) :: after ∧
          answer = ((s₀.serveAll (before.map fun entry => entry.2.question)).serve r).1 ∧
          result = .reply ⟨r, answer⟩ := by
  intro s₀
  rcases h.exists_schedule with ⟨schedule, e, hrun, hserver, -, -, hresults⟩
  have hsound : Exchange.Sound s₀ calls e := Exchange.invariant_run capacity hrun
  refine ⟨e.served, hsound.nodup_served, hserver.symm.trans hsound.server_eq, ?_⟩
  intro i r result hcall hresult
  rw [hresults] at hresult
  exact hsound.reply_eq hcall hresult

end Line.Reached
end FieldPatch
