import FieldPatch.Keyed
import FieldPatch.Mailbox
import FieldPatch.Proofs.Dialogue.Follows
import FieldPatch.Proofs.Dialogue.Numbered
import FieldPatch.Server.Request
import Mathlib.Logic.Relation

/-!
# Channels

A channel connects any number of clients with one receiver, which answers requests, throws them
away or goes away itself, whenever it likes. Clients may be copied, and they are released; a client
with a call under way is not. Nothing is said here about the order in which all of this happens.

* `Channel`: the state, with a log of what has become of the requests;
* `Channel.ByClient`, `Channel.ByItself`, `Channel.ByReceiver`: the steps, by who takes them;
* `Channel.Ending`: how a call ends, told by what has become of its request;
* `Channel.Invariant`: calls, queue and log fit together. Each step keeps it so
  (`Channel.Invariant.step`), and so does every run (`Channel.invariant_of_reaches`).
-/

namespace FieldPatch
namespace Channel

variable {ι ρ : Type}

/-! ## Calls -/

/-- Where a call stands. -/
inductive Phase (request : Request ι ρ) where
  | ready
  /-- The request waits in front of the queue. -/
  | waiting
  | queued
  /-- The receiver has taken the request, and owes an answer. -/
  | held
  /-- What the call is going to return lies ready. -/
  | replied (answer : Answer request)
  | ended (answer : Answer request)

structure Call (ι ρ : Type) where
  /-- The number of the client whose call this is. -/
  client : Nat
  request : Request ι ρ
  phase : Phase request := .ready

namespace Call

def IsWaiting (call : Call ι ρ) : Prop :=
  call.phase = .waiting

def IsQueued (call : Call ι ρ) : Prop :=
  call.phase = .queued

def IsHeld (call : Call ι ρ) : Prop :=
  call.phase = .held

def IsEnded (call : Call ι ρ) : Prop :=
  ∃ answer, call.phase = .ended answer

@[simp] theorem isWaiting_iff {call : Call ι ρ} : call.IsWaiting ↔ call.phase = .waiting := .rfl

@[simp] theorem isQueued_iff {call : Call ι ρ} : call.IsQueued ↔ call.phase = .queued := .rfl

@[simp] theorem isHeld_iff {call : Call ι ρ} : call.IsHeld ↔ call.phase = .held := .rfl

@[simp] theorem isEnded_iff {call : Call ι ρ} :
    call.IsEnded ↔ ∃ answer, call.phase = .ended answer := .rfl

/-- What a call that has ended has returned. -/
def result? (call : Call ι ρ) : Option (Answered (Request ι ρ)) :=
  match call.phase with
  | .ended answer => some ⟨call.request, answer⟩
  | _ => none

/-- The same call in another phase. -/
def goto (call : Call ι ρ) (phase : Phase call.request) : Call ι ρ :=
  { call with phase }

@[simp] theorem goto_phase (call : Call ι ρ) (phase : Phase call.request) :
    (call.goto phase).phase = phase := rfl

end Call

/-- What becomes of a request. -/
inductive Mark (ι ρ : Type) where
  | entered
  | answered (reply : Answered (Request ι ρ))
  /-- Whoever could have answered has thrown the request away. -/
  | dropped

def Mark.reply? : Mark ι ρ → Option (Answered (Request ι ρ))
  | .answered reply => some reply
  | _ => none

/-- What a call returns for what has become of its request: one that never entered the queue found
the channel closed, one that was thrown away was dropped, and any other got its answer. The answer
is returned whatever it is, be it an error that reads like one of these. -/
inductive Ending (request : Request ι ρ) : List (Mark ι ρ) → Answer request → Prop where
  | refused : Ending request [] (request.unanswered .closed)
  | lost : Ending request [.entered, .dropped] (request.unanswered .dropped)
  | answered (answer : Answer request) :
      Ending request [.entered, .answered ⟨request, answer⟩] answer

end Channel

structure Channel (ι ρ : Type) where
  capacity : Mailbox.Capacity
  /-- For each client that there has been, whether it is still there. -/
  clients : List Bool := [true]
  calls : List (Channel.Call ι ρ) := []
  /-- The calls that wait in front of the queue, in the order in which they came. -/
  waiting : List Nat := []
  queue : List Nat := []
  /-- The receiver is there. -/
  isOpen : Bool := true
  /-- What has become of the requests, beside the numbers of the calls. -/
  log : List (Nat × Channel.Mark ι ρ) := []

namespace Channel

variable {ι ρ : Type}

/-- One client, and nothing called yet. -/
def start (capacity : Mailbox.Capacity) : Channel ι ρ :=
  { capacity }

def Lives (c : Channel ι ρ) (client : Nat) : Prop :=
  c.clients[client]? = some true

/-- What has become of the request of a call. -/
def story (c : Channel ι ρ) (i : Nat) : List (Mark ι ρ) :=
  Numbered.entriesOf i c.log

def result? (c : Channel ι ρ) (i : Nat) : Option (Answered (Request ι ρ)) :=
  c.calls[i]?.bind Call.result?

/-- The requests that were answered, with their answers, in order. -/
def replies (c : Channel ι ρ) : List (Answered (Request ι ρ)) :=
  c.log.filterMap fun entry => entry.2.reply?

/-! ## Steps -/

/-- One call has moved on, and perhaps into the queue or out of it. -/
def moved (c : Channel ι ρ) (i : Nat) (call : Call ι ρ) (phase : Phase call.request)
    (waiting queue : List Nat) (marks : List (Mark ι ρ)) : Channel ι ρ :=
  { c with
    calls := c.calls.set i (call.goto phase)
    waiting
    queue
    log := c.log ++ marks.map (i, ·) }

theorem replies_moved (c : Channel ι ρ) (i : Nat) (call : Call ι ρ) (phase : Phase call.request)
    (waiting queue : List Nat) (marks : List (Mark ι ρ)) :
    (c.moved i call phase waiting queue marks).replies =
      c.replies ++ marks.filterMap Mark.reply? := by
  simp [replies, moved, List.filterMap_map]

def received (c : Channel ι ρ) (i : Nat) (call : Call ι ρ) (rest : List Nat) : Channel ι ρ :=
  c.moved i call .held c.waiting rest []

def answered (c : Channel ι ρ) (i : Nat) (call : Call ι ρ) (answer : Answer call.request) :
    Channel ι ρ :=
  c.moved i call (.replied answer) c.waiting c.queue [.answered ⟨call.request, answer⟩]

/-- The receiver has gone away. -/
def closed (c : Channel ι ρ) : Channel ι ρ :=
  { c with isOpen := false }

inductive ByClient : Channel ι ρ → Channel ι ρ → Prop where
  | copy {c : Channel ι ρ} {client : Nat} (hlives : c.Lives client) :
      ByClient c { c with clients := c.clients ++ [true] }
  /-- A call borrows its client until it has ended. -/
  | release {c : Channel ι ρ} {client : Nat} (hlives : c.Lives client)
      (hidle : ∀ call ∈ c.calls, call.client = client → call.IsEnded) :
      ByClient c { c with clients := c.clients.set client false }
  | call {c : Channel ι ρ} {client : Nat} (hlives : c.Lives client) (request : Request ι ρ) :
      ByClient c { c with calls := c.calls ++ [{ client, request }] }

/-- Steps that nobody decides on. -/
inductive ByItself : Channel ι ρ → Channel ι ρ → Prop where
  | send {c : Channel ι ρ} {i : Nat} {call : Call ι ρ} (hcall : c.calls[i]? = some call)
      (hphase : call.phase = .ready) :
      ByItself c (c.moved i call .waiting (c.waiting ++ [i]) c.queue [])
  | enter {c : Channel ι ρ} {i : Nat} {call : Call ι ρ} {rest : List Nat} (hopen : c.isOpen = true)
      (hroom : c.queue.length < c.capacity.size) (hwaiting : c.waiting = i :: rest)
      (hcall : c.calls[i]? = some call) :
      ByItself c (c.moved i call .queued rest (c.queue ++ [i]) [.entered])
  /-- A request that waits finds that the receiver is gone. -/
  | refuse {c : Channel ι ρ} {i : Nat} {call : Call ι ρ} (hclosed : c.isOpen = false)
      (hwaiting : i ∈ c.waiting) (hcall : c.calls[i]? = some call) :
      ByItself c (c.moved i call (.replied (call.request.unanswered .closed)) (c.waiting.erase i)
        c.queue [])
  /-- A request that was left in the queue goes the way of its receiver. -/
  | spill {c : Channel ι ρ} {i : Nat} {call : Call ι ρ} {rest : List Nat}
      (hclosed : c.isOpen = false) (hqueue : c.queue = i :: rest)
      (hcall : c.calls[i]? = some call) :
      ByItself c (c.moved i call (.replied (call.request.unanswered .dropped)) c.waiting rest
        [.dropped])
  | take {c : Channel ι ρ} {i : Nat} {call : Call ι ρ} {answer : Answer call.request}
      (hcall : c.calls[i]? = some call) (hphase : call.phase = .replied answer) :
      ByItself c (c.moved i call (.ended answer) c.waiting c.queue [])

inductive ByReceiver : Channel ι ρ → Channel ι ρ → Prop where
  | receive {c : Channel ι ρ} {i : Nat} {call : Call ι ρ} {rest : List Nat}
      (hopen : c.isOpen = true) (hqueue : c.queue = i :: rest) (hcall : c.calls[i]? = some call) :
      ByReceiver c (c.received i call rest)
  | answer {c : Channel ι ρ} {i : Nat} {call : Call ι ρ} (hcall : c.calls[i]? = some call)
      (hheld : call.IsHeld) (answer : Answer call.request) :
      ByReceiver c (c.answered i call answer)
  | discard {c : Channel ι ρ} {i : Nat} {call : Call ι ρ} (hcall : c.calls[i]? = some call)
      (hheld : call.IsHeld) :
      ByReceiver c (c.moved i call (.replied (call.request.unanswered .dropped)) c.waiting c.queue
        [.dropped])
  | close {c : Channel ι ρ} (hopen : c.isOpen = true) : ByReceiver c c.closed

/-- A step of a call or of the receiver; the clients want nothing more. -/
def Advances (c c' : Channel ι ρ) : Prop :=
  c.ByItself c' ∨ c.ByReceiver c'

def Step (c c' : Channel ι ρ) : Prop :=
  c.ByClient c' ∨ c.Advances c'

def Reaches : Channel ι ρ → Channel ι ρ → Prop :=
  Relation.ReflTransGen Step

namespace Reaches

variable {c c' c'' : Channel ι ρ}

theorem client (h : c.Reaches c') (hstep : c'.ByClient c'') : c.Reaches c'' :=
  h.tail (.inl hstep)

theorem itself (h : c.Reaches c') (hstep : c'.ByItself c'') : c.Reaches c'' :=
  h.tail (.inr (.inl hstep))

theorem receiver (h : c.Reaches c') (hstep : c'.ByReceiver c'') : c.Reaches c'' :=
  h.tail (.inr (.inr hstep))

end Reaches

/-! ## Places -/

/-- A call that is found among these and one more is found among these, or it is the one. -/
theorem getElem?_snoc_cases {calls : List (Call ι ρ)} {call call' : Call ι ρ} {j : Nat}
    (h : (calls ++ [call])[j]? = some call') :
    calls[j]? = some call' ∨ (j = calls.length ∧ call' = call) := by
  rw [List.getElem?_append] at h
  split at h
  · exact .inl h
  · rename_i hge
    have hlt := (List.getElem?_eq_some_iff.1 h).1
    rw [List.length_singleton] at hlt
    exact .inr ⟨by omega, List.mem_singleton.1 (List.mem_of_getElem? h)⟩

/-- The list consists of the numbers of these calls, each of them once. -/
structure Placed (calls : List (Call ι ρ)) (At : Call ι ρ → Prop) (list : List Nat) : Prop where
  nodup : list.Nodup
  mem_iff : ∀ i, i ∈ list ↔ ∃ call, calls[i]? = some call ∧ At call

namespace Placed

variable {calls : List (Call ι ρ)} {At : Call ι ρ → Prop} {list : List Nat} {i : Nat}
  {call call' : Call ι ρ}

theorem mem_iff_of_eq_some (h : Placed calls At list) (hcall : calls[i]? = some call) :
    i ∈ list ↔ At call := by
  simp [h.mem_iff, hcall]

/-- The other calls are where they were. -/
theorem mem_iff_of_ne (h : Placed calls At list) {j : Nat} (hne : i ≠ j) :
    (∃ call, (calls.set i call')[j]? = some call ∧ At call) ↔ j ∈ list := by
  rw [List.getElem?_set_ne hne, h.mem_iff]

theorem mem_iff_of_set (hcall : calls[i]? = some call) :
    (∃ call, (calls.set i call')[i]? = some call ∧ At call) ↔ At call' := by
  have hlt : i < calls.length := (List.getElem?_eq_some_iff.1 hcall).1
  simp [hlt]

theorem keep (h : Placed calls At list) (hcall : calls[i]? = some call) (hnot : ¬ At call)
    (hnot' : ¬ At call') : Placed (calls.set i call') At list := by
  refine ⟨h.nodup, ?_⟩
  intro j
  by_cases hij : i = j
  · subst hij
    rw [mem_iff_of_set hcall, h.mem_iff_of_eq_some hcall]
    exact ⟨fun hold => absurd hold hnot, fun hnew => absurd hnew hnot'⟩
  · exact (h.mem_iff_of_ne hij).symm

theorem add (h : Placed calls At list) (hcall : calls[i]? = some call) (hnot : ¬ At call)
    (hat : At call') : Placed (calls.set i call') At (list ++ [i]) := by
  have hnew : i ∉ list := fun hmem => hnot ((h.mem_iff_of_eq_some hcall).1 hmem)
  refine ⟨Keyed.nodup_snoc h.nodup hnew, ?_⟩
  intro j
  by_cases hij : i = j
  · subst hij
    rw [mem_iff_of_set hcall]
    simpa using hat
  · rw [h.mem_iff_of_ne hij]
    simp [Ne.symm hij]

theorem remove (h : Placed calls At list) (hcall : calls[i]? = some call)
    (hnot : ¬ At call') : Placed (calls.set i call') At (list.erase i) := by
  refine ⟨h.nodup.erase i, ?_⟩
  intro j
  by_cases hij : i = j
  · subst hij
    rw [mem_iff_of_set hcall, h.nodup.mem_erase_iff]
    exact ⟨fun hmem => absurd rfl hmem.1, fun hat => absurd hat hnot⟩
  · rw [h.mem_iff_of_ne hij, h.nodup.mem_erase_iff]
    simp [Ne.symm hij]

theorem remove_head {rest : List Nat} (h : Placed calls At (i :: rest))
    (hcall : calls[i]? = some call) (hnot : ¬ At call') : Placed (calls.set i call') At rest := by
  simpa using h.remove hcall hnot

theorem snoc (h : Placed calls At list) (hnot : ¬ At call) : Placed (calls ++ [call]) At list := by
  refine ⟨h.nodup, ?_⟩
  intro j
  rw [h.mem_iff]
  constructor
  · rintro ⟨call', hcall', hat⟩
    have hlt : j < calls.length := (List.getElem?_eq_some_iff.1 hcall').1
    exact ⟨call', by rwa [List.getElem?_append_left hlt], hat⟩
  · rintro ⟨call', hcall', hat⟩
    rcases getElem?_snoc_cases hcall' with hold | ⟨_, rfl⟩
    · exact ⟨call', hold, hat⟩
    · exact absurd hat hnot

end Placed

/-! ## The invariant -/

/-- What has become of a request, for every phase of its call. -/
def Told {request : Request ι ρ} (story : List (Mark ι ρ)) : Phase request → Prop
  | .ready => story = []
  | .waiting => story = []
  | .queued => story = [.entered]
  | .held => story = [.entered]
  | .replied answer => Ending request story answer
  | .ended answer => Ending request story answer

structure Invariant (c : Channel ι ρ) : Prop where
  waiting : Placed c.calls Call.IsWaiting c.waiting
  queue : Placed c.calls Call.IsQueued c.queue
  told : ∀ i call, c.calls[i]? = some call → Told (c.story i) call.phase
  silent : ∀ i, c.calls.length ≤ i → c.story i = []
  /-- A client is there as long as it has a call under way. -/
  alive : ∀ call ∈ c.calls, ¬ call.IsEnded → c.Lives call.client

variable {c c' : Channel ι ρ} {i : Nat} {call : Call ι ρ}

theorem invariant_start (capacity : Mailbox.Capacity) :
    Invariant (start capacity : Channel ι ρ) := by
  refine ⟨⟨.nil, ?_⟩, ⟨.nil, ?_⟩, ?_, ?_, ?_⟩ <;> simp [start, story, Numbered.entriesOf]

namespace Invariant

/-- One call moves on, and what has become of its request is in keeping with it. -/
theorem moved (h : Invariant c) (hcall : c.calls[i]? = some call) (hfree : ¬ call.IsEnded)
    {phase : Phase call.request} {waiting queue : List Nat} {marks : List (Mark ι ρ)}
    (hwaiting : Placed (c.calls.set i (call.goto phase)) Call.IsWaiting waiting)
    (hqueue : Placed (c.calls.set i (call.goto phase)) Call.IsQueued queue)
    (htold : Told (c.story i ++ marks) phase) :
    Invariant (c.moved i call phase waiting queue marks) := by
  have hlt : i < c.calls.length := (List.getElem?_eq_some_iff.1 hcall).1
  have hstory : ∀ j, (c.moved i call phase waiting queue marks).story j =
      c.story j ++ if i = j then marks else [] := by
    intro j
    simp [Channel.moved, story]
  refine ⟨hwaiting, hqueue, ?_, ?_, ?_⟩
  · intro j call' hcall'
    rw [hstory]
    by_cases hij : i = j
    · subst hij
      have hsame : call.goto phase = call' := by simpa [Channel.moved, hlt] using hcall'
      subst hsame
      rw [if_pos rfl]
      exact htold
    · simpa [hij] using h.told j call' (by simpa [Channel.moved, hij] using hcall')
  · intro j hj
    have hle : c.calls.length ≤ j := by simpa [Channel.moved] using hj
    have hij : i ≠ j := by omega
    simpa [hstory, hij] using h.silent j hle
  · intro call' hmem hunfinished
    rcases List.mem_or_eq_of_mem_set hmem with hold | rfl
    · exact h.alive call' hold hunfinished
    · exact h.alive call (List.mem_of_getElem? hcall) hfree

theorem byClient (h : Invariant c) (hstep : c.ByClient c') : Invariant c' := by
  cases hstep with
  | copy hlives =>
    refine ⟨h.waiting, h.queue, h.told, h.silent, ?_⟩
    intro call hmem hunfinished
    have hlives' := h.alive call hmem hunfinished
    have hlt := (List.getElem?_eq_some_iff.1 hlives').1
    exact (List.getElem?_append_left hlt).trans hlives'
  | @release client hlives hidle =>
    refine ⟨h.waiting, h.queue, h.told, h.silent, ?_⟩
    intro call hmem hunfinished
    -- the client that goes away has no call of this kind
    have hne : client ≠ call.client := fun he => hunfinished (hidle call hmem he.symm)
    exact (List.getElem?_set_ne hne).trans (h.alive call hmem hunfinished)
  | @call client hlives request =>
    refine ⟨h.waiting.snoc (by simp), h.queue.snoc (by simp), ?_, ?_, ?_⟩
    · intro j call' hcall'
      rcases getElem?_snoc_cases hcall' with hold | ⟨rfl, rfl⟩
      · exact h.told j call' hold
      · exact h.silent _ (Nat.le_refl _)
    · intro j hj
      exact h.silent j (by simp at hj; omega)
    · intro call' hmem hunfinished
      rcases List.mem_append.1 hmem with hold | hnew
      · exact h.alive call' hold hunfinished
      · rw [List.mem_singleton.1 hnew]
        exact hlives

theorem phase_of_mem_waiting (h : Invariant c) (hwaiting : i ∈ c.waiting)
    (hcall : c.calls[i]? = some call) : call.phase = .waiting :=
  (h.waiting.mem_iff_of_eq_some hcall).1 hwaiting

theorem phase_of_mem_queue (h : Invariant c) (hqueue : i ∈ c.queue)
    (hcall : c.calls[i]? = some call) : call.phase = .queued :=
  (h.queue.mem_iff_of_eq_some hcall).1 hqueue

theorem story_eq (h : Invariant c) (hcall : c.calls[i]? = some call) {phase : Phase call.request}
    (hphase : call.phase = phase) : Told (c.story i) phase :=
  hphase ▸ h.told i call hcall

theorem send (h : Invariant c) (hcall : c.calls[i]? = some call) (hphase : call.phase = .ready) :
    Invariant (c.moved i call .waiting (c.waiting ++ [i]) c.queue []) := by
  have hstory : c.story i = [] := h.story_eq hcall hphase
  refine h.moved hcall (by simp [hphase]) ?_ ?_ ?_
  · exact h.waiting.add hcall (by simp [hphase]) rfl
  · exact h.queue.keep hcall (by simp [hphase]) (by simp)
  · simp [Told, hstory]

theorem enter (h : Invariant c) {rest : List Nat} (hwaiting : c.waiting = i :: rest)
    (hcall : c.calls[i]? = some call) :
    Invariant (c.moved i call .queued rest (c.queue ++ [i]) [.entered]) := by
  have hphase := h.phase_of_mem_waiting (by simp [hwaiting]) hcall
  have hstory : c.story i = [] := h.story_eq hcall hphase
  refine h.moved hcall (by simp [hphase]) ?_ ?_ ?_
  · exact (hwaiting ▸ h.waiting).remove_head hcall (by simp)
  · exact h.queue.add hcall (by simp [hphase]) rfl
  · simp [Told, hstory]

theorem refuse (h : Invariant c) (hwaiting : i ∈ c.waiting) (hcall : c.calls[i]? = some call) :
    Invariant (c.moved i call (.replied (call.request.unanswered .closed)) (c.waiting.erase i)
      c.queue []) := by
  have hphase := h.phase_of_mem_waiting hwaiting hcall
  have hstory : c.story i = [] := h.story_eq hcall hphase
  refine h.moved hcall (by simp [hphase]) ?_ ?_ ?_
  · exact h.waiting.remove hcall (by simp)
  · exact h.queue.keep hcall (by simp [hphase]) (by simp)
  · simpa [Told, hstory] using Ending.refused

theorem leave_queue (h : Invariant c) {rest : List Nat} (hqueue : c.queue = i :: rest)
    (hcall : c.calls[i]? = some call) {phase : Phase call.request} {marks : List (Mark ι ρ)}
    (hnot : ¬ (call.goto phase).IsWaiting) (hnot' : ¬ (call.goto phase).IsQueued)
    (htold : Told (.entered :: marks) phase) :
    Invariant (c.moved i call phase c.waiting rest marks) := by
  have hphase := h.phase_of_mem_queue (by simp [hqueue]) hcall
  have hstory : c.story i = [.entered] := h.story_eq hcall hphase
  refine h.moved hcall (by simp [hphase]) ?_ ?_ ?_
  · exact h.waiting.keep hcall (by simp [hphase]) hnot
  · exact (hqueue ▸ h.queue).remove_head hcall hnot'
  · simpa [hstory] using htold

theorem leave_hand (h : Invariant c) (hcall : c.calls[i]? = some call) (hheld : call.IsHeld)
    {answer : Answer call.request} {marks : List (Mark ι ρ)}
    (hending : Ending call.request (.entered :: marks) answer) :
    Invariant (c.moved i call (.replied answer) c.waiting c.queue marks) := by
  have hphase : call.phase = .held := hheld
  have hstory : c.story i = [.entered] := h.story_eq hcall hphase
  refine h.moved hcall (by simp [hphase]) ?_ ?_ ?_
  · exact h.waiting.keep hcall (by simp [hphase]) (by simp)
  · exact h.queue.keep hcall (by simp [hphase]) (by simp)
  · simpa [Told, hstory] using hending

theorem take (h : Invariant c) (hcall : c.calls[i]? = some call) {answer : Answer call.request}
    (hphase : call.phase = .replied answer) :
    Invariant (c.moved i call (.ended answer) c.waiting c.queue []) := by
  have hending : Ending call.request (c.story i) answer := h.story_eq hcall hphase
  refine h.moved hcall (by simp [hphase]) ?_ ?_ ?_
  · exact h.waiting.keep hcall (by simp [hphase]) (by simp)
  · exact h.queue.keep hcall (by simp [hphase]) (by simp)
  · simpa [Told] using hending

theorem byItself (h : Invariant c) (hstep : c.ByItself c') : Invariant c' := by
  cases hstep with
  | send hcall hphase => exact h.send hcall hphase
  | enter hopen hroom hwaiting hcall => exact h.enter hwaiting hcall
  | refuse hclosed hwaiting hcall => exact h.refuse hwaiting hcall
  | spill hclosed hqueue hcall => exact h.leave_queue hqueue hcall (by simp) (by simp) .lost
  | take hcall hphase => exact h.take hcall hphase

theorem byReceiver (h : Invariant c) (hstep : c.ByReceiver c') : Invariant c' := by
  cases hstep with
  | receive hopen hqueue hcall => exact h.leave_queue hqueue hcall (by simp) (by simp) rfl
  | answer hcall hheld answer => exact h.leave_hand hcall hheld (.answered answer)
  | discard hcall hheld => exact h.leave_hand hcall hheld .lost
  | close hopen => exact ⟨h.waiting, h.queue, h.told, h.silent, h.alive⟩

theorem step (h : Invariant c) (hstep : c.Step c') : Invariant c' := by
  rcases hstep with hclient | hitself | hreceiver
  · exact h.byClient hclient
  · exact h.byItself hitself
  · exact h.byReceiver hreceiver

theorem reaches (h : Invariant c) (hreaches : c.Reaches c') : Invariant c' := by
  induction hreaches with
  | refl => exact h
  | tail _ hstep ih => exact ih.step hstep

end Invariant

theorem invariant_of_reaches {capacity : Mailbox.Capacity}
    (h : (start capacity).Reaches c) : Invariant c :=
  (invariant_start capacity).reaches h

end Channel
end FieldPatch
