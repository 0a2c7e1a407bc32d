import FieldPatch.Mailbox
import FieldPatch.Message
import FieldPatch.Proofs.Dialogue.Numbered
import FieldPatch.Proofs.Server.Transcript

/-!
# Exchanges

Many calls, one server, and a bounded queue between them, step by step and in any order. A call that
has begun to send waits in front of the queue until it is its turn to enter; the server serves the
head of the queue; a reply lies ready until its caller takes it.

* `Exchange`: the state, with the order in which the calls began to send and what has been served;
* `Exchange.step?`: one step, named by a `Move`; `Exchange.run`: a whole schedule of them;
* `Exchange.Invariant`: callers who wait, queue, server and replies fit together. Each move keeps it
  so (`Exchange.Invariant.step`), and so does every schedule (`Exchange.invariant_run`).
-/

namespace FieldPatch

/-- Where a call stands. -/
inductive Stage (Q α : Type) [Question Q] where
  | active (rest : Dialogue Q α)
  /-- Its message is on the way. -/
  | sent
  /-- The reply lies ready. -/
  | replied (rest : Dialogue Q α)

structure Exchange (ι ρ α : Type) where
  capacity : Mailbox.Capacity
  server : Server ι ρ
  stages : List (Stage (Request ι ρ) α)
  queue : List (Message (Request ι ρ) α) := []
  /-- The messages that wait in front of the queue, in the order in which they were sent. -/
  waiting : List (Message (Request ι ρ) α) := []
  /-- The callers in the order in which they began to send. -/
  begun : List Nat := []
  /-- The requests that were served, beside the numbers of their callers. -/
  served : List (Nat × Answered (Request ι ρ)) := []

inductive Move where
  | act (caller : Nat)
  | enter
  | serve
  | take (caller : Nat)

namespace Exchange

variable {ι ρ α : Type}

def start (capacity : Mailbox.Capacity) (server : Server ι ρ)
    (calls : List (Dialogue (Request ι ρ) α)) : Exchange ι ρ α :=
  { capacity, server, stages := calls.map .active }

/-- All messages on their way to the server, in order. -/
def pending (e : Exchange ι ρ α) : List (Message (Request ι ρ) α) :=
  e.queue ++ e.waiting

def requests (e : Exchange ι ρ α) : List (Request ι ρ) :=
  e.served.map fun entry => entry.2.question

/-- What a caller has been answered. -/
def answers (e : Exchange ι ρ α) (i : Nat) : List (Answered (Request ι ρ)) :=
  Numbered.entriesOf i e.served

/-- The result of a call that has ended. -/
def result? (e : Exchange ι ρ α) (i : Nat) : Option α :=
  match e.stages[i]? with
  | some (.active (.done result)) => some result
  | _ => none

/-! ## Moves -/

def proceed (e : Exchange ι ρ α) (i : Nat) (rest : Dialogue (Request ι ρ) α) : Exchange ι ρ α :=
  { e with stages := e.stages.set i (.active rest) }

def send (e : Exchange ι ρ α) (message : Message (Request ι ρ) α) : Exchange ι ρ α :=
  { e with
    stages := e.stages.set message.caller .sent
    waiting := e.waiting ++ [message]
    begun := e.begun ++ [message.caller] }

variable [DecidableEq ι] [Identifier ι] [Entity ι ρ]

/-- The server answers the first message of the queue. -/
def serve (e : Exchange ι ρ α) (message : Message (Request ι ρ) α)
    (rest : List (Message (Request ι ρ) α)) : Exchange ι ρ α :=
  let (answer, server) := e.server.serve message.question
  { e with
    server
    stages := e.stages.set message.caller (.replied (message.resume answer))
    queue := rest
    served := e.served ++ [(message.caller, ⟨message.question, answer⟩)] }

def step? (e : Exchange ι ρ α) : Move → Option (Exchange ι ρ α)
  | .act i =>
    match e.stages[i]? with
    | some (.active (.emit _ next)) => some (e.proceed i next)
    | some (.active (.ask request next)) => some (e.send ⟨i, request, next⟩)
    | _ => none
  | .enter =>
    match e.waiting with
    | [] => none
    | message :: rest =>
      if e.queue.length < e.capacity.size then
        some { e with queue := e.queue ++ [message], waiting := rest }
      else none
  | .serve =>
    match e.queue with
    | [] => none
    | message :: rest => some (e.serve message rest)
  | .take i =>
    match e.stages[i]? with
    | some (.replied rest) => some (e.proceed i rest)
    | _ => none

def run (e : Exchange ι ρ α) (schedule : List Move) : Option (Exchange ι ρ α) :=
  schedule.foldlM step? e

/-! ## The invariant -/

structure Invariant (s₀ : Server ι ρ) (calls : List (Dialogue (Request ι ρ) α))
    (e : Exchange ι ρ α) : Prop where
  bounded : e.queue.length ≤ e.capacity.size
  /-- Who has begun has been served or is on the way, in this order. -/
  begun_eq : e.begun = e.served.map Prod.fst ++ e.pending.map Message.caller
  server_eq : e.server = s₀.serveAll e.requests
  served_eq : e.served.map Prod.snd = s₀.transcript e.requests
  length_eq : e.stages.length = calls.length
  distinct : (e.pending.map Message.caller).Nodup
  /-- A message on its way is the next request of a caller who waits for the reply. -/
  awaited : ∀ message ∈ e.pending, e.stages[message.caller]? = some .sent ∧
    ∃ d, calls[message.caller]? = some d ∧
      d.Follows (e.answers message.caller) (.ask message.question message.resume)
  /-- No message of a caller who waits is lost. -/
  carried : ∀ i, e.stages[i]? = some .sent → i ∈ e.pending.map Message.caller
  /-- What is left of any other call is what its answers have left of it. -/
  standing : ∀ (i : Nat) (d rest : Dialogue (Request ι ρ) α), calls[i]? = some d →
    e.stages[i]? = some (.active rest) ∨ e.stages[i]? = some (.replied rest) →
      d.Follows (e.answers i) rest
  /-- What was served was asked by its caller. -/
  asked : ∀ entry ∈ e.served, ∃ d before next, calls[entry.1]? = some d ∧
    d.Follows before (.ask entry.2.question next)

variable {s₀ : Server ι ρ} {calls : List (Dialogue (Request ι ρ) α)} {e e' : Exchange ι ρ α}

theorem invariant_start (capacity : Mailbox.Capacity) (s₀ : Server ι ρ)
    (calls : List (Dialogue (Request ι ρ) α)) : Invariant s₀ calls (start capacity s₀ calls) := by
  refine ⟨by simp [start], rfl, rfl, rfl, by simp [start], by simp [start, pending],
    by simp [start, pending], ?_, ?_, by simp [start]⟩
  · -- nobody has sent anything yet
    intro i hsent
    rcases List.mem_map.1 (List.mem_of_getElem? hsent) with ⟨d, _, hd⟩
    cases hd
  · intro i d rest hd hstage
    have hrest : rest = d := by simpa [start, hd, eq_comm] using hstage
    subst hrest
    exact .here rest

namespace Invariant

/-- A caller who is not on the way may go on as its answers allow. -/
theorem proceed (h : Invariant s₀ calls e) {i : Nat} {stage : Stage (Request ι ρ) α}
    {rest : Dialogue (Request ι ρ) α} (hstage : e.stages[i]? = some stage) (hfree : stage ≠ .sent)
    (hrest : ∀ d, calls[i]? = some d → d.Follows (e.answers i) rest) :
    Invariant s₀ calls (e.proceed i rest) := by
  have hlt : i < e.stages.length := (List.getElem?_eq_some_iff.1 hstage).1
  refine ⟨h.bounded, h.begun_eq, h.server_eq, h.served_eq, ?_, h.distinct, ?_, ?_, ?_, h.asked⟩
  · simpa [Exchange.proceed] using h.length_eq
  · intro message hmem
    rcases h.awaited message hmem with ⟨hsent, hcall⟩
    -- the message belongs to somebody else, for its caller waits
    have hne : i ≠ message.caller := by
      intro he
      subst he
      exact hfree (Option.some.inj (hstage.symm.trans hsent))
    exact ⟨by simpa [Exchange.proceed, hne] using hsent, hcall⟩
  · intro j hsent
    by_cases hij : i = j
    · subst hij
      simp [Exchange.proceed, hlt] at hsent
    · exact h.carried j (by simpa [Exchange.proceed, hij] using hsent)
  · intro j d rest' hd hj
    by_cases hij : i = j
    · subst hij
      have hsame : rest' = rest := by simpa [Exchange.proceed, hlt, eq_comm] using hj
      subst hsame
      exact hrest d hd
    · exact h.standing j d rest' hd (by simpa [Exchange.proceed, hij] using hj)

theorem send (h : Invariant s₀ calls e) {message : Message (Request ι ρ) α}
    (hstage : e.stages[message.caller]? = some (.active (.ask message.question message.resume))) :
    Invariant s₀ calls (e.send message) := by
  have hlt : message.caller < e.stages.length := (List.getElem?_eq_some_iff.1 hstage).1
  have hpending : (e.send message).pending = e.pending ++ [message] := by
    simp [Exchange.send, pending]
  -- the caller has been active, so that none of its messages is on the way
  have hnew : ∀ m ∈ e.pending, message.caller ≠ m.caller := by
    intro m hmem he
    have hsent := (h.awaited m hmem).1
    simp [← he, hstage] at hsent
  have hcall : ∃ d, calls[message.caller]? = some d :=
    ⟨_, List.getElem?_eq_getElem (h.length_eq ▸ hlt)⟩
  rcases hcall with ⟨d, hd⟩
  have hfollows := h.standing _ d _ hd (.inl hstage)
  refine ⟨h.bounded, ?_, h.server_eq, h.served_eq, ?_, ?_, ?_, ?_, ?_, h.asked⟩
  · rw [hpending]
    simp [Exchange.send, h.begun_eq]
  · simpa [Exchange.send] using h.length_eq
  · rw [hpending, List.map_append]
    apply Keyed.nodup_snoc h.distinct
    intro hmem
    rcases List.mem_map.1 hmem with ⟨m, hm, he⟩
    exact hnew m hm he.symm
  · intro m hmem
    rw [hpending] at hmem
    -- the messages before it wait as they did
    rcases List.mem_append.1 hmem with hold | hlast
    · rcases h.awaited m hold with ⟨hsent, hcall⟩
      exact ⟨by simpa [Exchange.send, hnew m hold] using hsent, hcall⟩
    · have hsame : m = message := by simpa using hlast
      subst hsame
      exact ⟨by simp [Exchange.send, hlt], d, hd, hfollows⟩
  · intro j hsent
    rw [hpending, List.map_append]
    by_cases hij : message.caller = j
    · simp [hij]
    · have hold := h.carried j (by simpa [Exchange.send, hij] using hsent)
      exact List.mem_append_left _ hold
  · intro j d rest hd hj
    by_cases hij : message.caller = j
    · subst hij
      simp [Exchange.send, hlt] at hj
    · exact h.standing j d rest hd (by simpa [Exchange.send, hij] using hj)

theorem enter (h : Invariant s₀ calls e) {message : Message (Request ι ρ) α}
    {rest : List (Message (Request ι ρ) α)} (hwaiting : e.waiting = message :: rest)
    (hroom : e.queue.length < e.capacity.size) :
    Invariant s₀ calls { e with queue := e.queue ++ [message], waiting := rest } := by
  -- entering the queue leaves the order of all messages as it is
  have hpending : (e.queue ++ [message]) ++ rest = e.pending := by
    simp [pending, hwaiting]
  refine ⟨by simpa using Nat.succ_le_of_lt hroom, ?_, h.server_eq, h.served_eq, h.length_eq, ?_,
    ?_, ?_, h.standing, h.asked⟩
  · simpa [pending, hwaiting] using h.begun_eq
  · simpa [pending, hwaiting] using h.distinct
  · intro m hmem
    exact h.awaited m (hpending ▸ hmem)
  · simpa [pending, hwaiting] using h.carried

theorem serve (h : Invariant s₀ calls e) {message : Message (Request ι ρ) α}
    {rest : List (Message (Request ι ρ) α)} (hqueue : e.queue = message :: rest) :
    Invariant s₀ calls (e.serve message rest) := by
  have hpending : e.pending = message :: (rest ++ e.waiting) := by
    simp [pending, hqueue]
  have hmessage : message ∈ e.pending := by simp [hpending]
  rcases h.awaited message hmessage with ⟨hsent, d, hd, hfollows⟩
  have hlt : message.caller < e.stages.length := (List.getElem?_eq_some_iff.1 hsent).1
  have hdistinct : (message.caller :: (rest ++ e.waiting).map Message.caller).Nodup := by
    simpa [hpending] using h.distinct
  have hother : ∀ m ∈ rest ++ e.waiting, message.caller ≠ m.caller := by
    intro m hmem he
    exact (List.nodup_cons.1 hdistinct).1 (he ▸ List.mem_map_of_mem hmem)
  have hanswers : ∀ i, (e.serve message rest).answers i = e.answers i ++
      if message.caller = i then [⟨message.question, (e.server.serve message.question).1⟩]
      else [] := by
    intro i
    simpa [Exchange.serve, answers] using Numbered.entriesOf_map i message.caller
      [(⟨message.question, (e.server.serve message.question).1⟩ : Answered (Request ι ρ))]
  have hrequests : (e.serve message rest).requests = e.requests ++ [message.question] := by
    simp [Exchange.serve, requests]
  refine ⟨?_, ?_, ?_, ?_, ?_, ?_, ?_, ?_, ?_, ?_⟩
  · have hbounded : rest.length + 1 ≤ e.capacity.size := by simpa [hqueue] using h.bounded
    exact Nat.le_of_succ_le hbounded
  · simpa [Exchange.serve, pending, hqueue] using h.begun_eq
  · calc
      (e.serve message rest).server = (e.server.serve message.question).2 := rfl
      _ = ((s₀.serveAll e.requests).serve message.question).2 := by rw [← h.server_eq]
      _ = s₀.serveAll (e.requests ++ [message.question]) := (s₀.serveAll_snoc _ _).symm
      _ = s₀.serveAll (e.serve message rest).requests := by rw [hrequests]
  · rw [hrequests, Server.transcript_snoc, ← h.server_eq, ← h.served_eq]
    simp [Exchange.serve]
  · simpa [Exchange.serve] using h.length_eq
  · exact (List.nodup_cons.1 hdistinct).2
  · intro m hmem
    have hne := hother m hmem
    rcases h.awaited m (hpending ▸ List.mem_cons_of_mem _ hmem) with ⟨hsent', hcall⟩
    refine ⟨by simpa [Exchange.serve, hne] using hsent', ?_⟩
    simpa [hanswers, hne] using hcall
  · intro j hsent'
    by_cases hij : message.caller = j
    · subst hij
      simp [Exchange.serve, hlt] at hsent'
    · -- the message of another caller is still on its way
      have hold := h.carried j (by simpa [Exchange.serve, hij] using hsent')
      rw [hpending, List.map_cons] at hold
      exact (List.mem_cons.1 hold).resolve_left fun he => hij he.symm
  · intro j d' rest' hd' hj
    by_cases hij : message.caller = j
    · -- the caller goes on from the answer that it has just got
      subst hij
      have hrest : rest' = message.resume (e.server.serve message.question).1 := by
        simpa [Exchange.serve, hlt, eq_comm] using hj
      have hsame : d' = d := Option.some.inj (hd'.symm.trans hd)
      subst hrest hsame
      simpa [hanswers] using hfollows.answered (e.server.serve message.question).1
    · have hj' := h.standing j d' rest' hd' (by simpa [Exchange.serve, hij] using hj)
      simpa [hanswers, hij] using hj'
  · intro entry hmem
    have hcases : entry ∈ e.served ∨ entry =
        (message.caller, ⟨message.question, (e.server.serve message.question).1⟩) := by
      simpa [Exchange.serve] using hmem
    rcases hcases with hold | rfl
    · exact h.asked entry hold
    · exact ⟨d, _, _, hd, hfollows⟩

/-- Every move keeps the invariant. -/
theorem step (h : Invariant s₀ calls e) {move : Move} (hstep : e.step? move = some e') :
    Invariant s₀ calls e' := by
  cases move with
  | act i =>
    simp only [step?] at hstep
    split at hstep
    · rename_i event next hstage
      cases hstep
      refine h.proceed hstage (by simp) ?_
      intro d hd
      exact (h.standing i d _ hd (.inl hstage)).emitted
    · rename_i request next hstage
      cases hstep
      exact h.send hstage
    · cases hstep
  | enter =>
    simp only [step?] at hstep
    split at hstep
    · cases hstep
    · rename_i message rest hwaiting
      split at hstep
      · rename_i hroom
        cases hstep
        exact h.enter hwaiting hroom
      · cases hstep
  | serve =>
    simp only [step?] at hstep
    split at hstep
    · cases hstep
    · rename_i message rest hqueue
      cases hstep
      exact h.serve hqueue
  | take i =>
    simp only [step?] at hstep
    split at hstep
    · rename_i rest hstage
      cases hstep
      refine h.proceed hstage (by simp) ?_
      intro d hd
      exact h.standing i d _ hd (.inr hstage)
    · cases hstep

end Invariant

/-- Every schedule keeps the invariant. -/
theorem invariant_run (capacity : Mailbox.Capacity) {schedule : List Move}
    (h : (start capacity s₀ calls).run schedule = some e) : Invariant s₀ calls e := by
  -- the induction is over schedules that begin anywhere
  have hfrom : ∀ e₁, Invariant s₀ calls e₁ → e₁.run schedule = some e → Invariant s₀ calls e := by
    clear h
    induction schedule with
    | nil =>
      intro e₁ h₁ hrun
      cases hrun
      exact h₁
    | cons move rest ih =>
      intro e₁ h₁ hrun
      rcases Option.bind_eq_some_iff.1 hrun with ⟨e₂, hstep, hrest⟩
      exact ih e₂ (h₁.step hstep) hrest
  exact hfrom _ (invariant_start capacity s₀ calls) h

end Exchange
end FieldPatch
