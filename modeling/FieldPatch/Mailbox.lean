import FieldPatch.Misuse

/-!
# Mailboxes

A mailbox stands between many senders and one receiver. It holds a bounded number of messages; a
sender that finds it full waits, and those who wait enter in the order in which they came.

* `Mailbox.Capacity`: how many messages a mailbox may hold, at least one;
* `Mailbox.empty`: a mailbox of a given capacity;
* `Mailbox.send?`: a message enters or waits; it is refused once the mailbox is closed;
* `Mailbox.receive?`: the first message leaves, and the first of those who wait enters;
* `Mailbox.close`: the receiver goes away.

Messages come out in the order in which they were sent: what is sent goes to the end of the messages
on their way (`pending_of_send?`), and what is received was their first one (`pending_of_receive?`).
-/

namespace FieldPatch

namespace Mailbox

/-- The largest number of messages that a mailbox can be made for. -/
def maxCapacity : Nat := (UInt64.size - 1) / 8

structure Capacity where
  size : Nat
  pos : 0 < size
  le_max : size ≤ maxCapacity

/-- The least room that a mailbox can have. -/
def Capacity.one : Capacity := ⟨1, by decide, by decide⟩

def Capacity.ofNat (size : Nat) : Except Misuse Capacity :=
  if h : size = 0 then .error .zeroCapacity
  else if h' : size ≤ maxCapacity then .ok ⟨size, Nat.pos_of_ne_zero h, h'⟩
  else .error .excessiveCapacity

end Mailbox

/-- Nobody waits while there is room, and a closed mailbox holds nothing. -/
structure Mailbox (μ : Type) where
  capacity : Mailbox.Capacity
  queue : List μ := []
  waiting : List μ := []
  isOpen : Bool := true
  bounded : queue.length ≤ capacity.size := by simp
  full_of_waiting : waiting ≠ [] → queue.length = capacity.size := by simp
  empty_of_closed : isOpen = false → queue = [] := by simp

namespace Mailbox

variable {μ : Type}

def empty (capacity : Capacity) : Mailbox μ := { capacity }

/-- All messages on their way to the receiver, in order. -/
def pending (m : Mailbox μ) : List μ :=
  m.queue ++ m.waiting

/-! ## Sending -/

def send? (m : Mailbox μ) (message : μ) : Option (Mailbox μ) :=
  if hopen : m.isOpen then
    if hroom : m.queue.length < m.capacity.size then
      some { m with
        queue := m.queue ++ [message]
        bounded := by simpa using Nat.succ_le_of_lt hroom
        full_of_waiting := fun h => absurd (m.full_of_waiting h) (Nat.ne_of_lt hroom)
        empty_of_closed := fun h => by simp [hopen] at h }
    else
      some { m with
        waiting := m.waiting ++ [message]
        full_of_waiting := fun _ => Nat.le_antisymm m.bounded (Nat.le_of_not_lt hroom) }
  else none

/-- Who finds room in the mailbox finds nobody waiting. -/
theorem waiting_eq_nil (m : Mailbox μ) (h : m.queue.length < m.capacity.size) :
    m.waiting = [] := by
  by_cases hw : m.waiting = []
  · exact hw
  · exact absurd (m.full_of_waiting hw) (Nat.ne_of_lt h)

theorem send?_eq_none_iff (m : Mailbox μ) (message : μ) :
    m.send? message = none ↔ m.isOpen = false := by
  simp only [send?]
  split
  · rename_i hopen
    split <;> simp [hopen]
  · rename_i hclosed
    simpa using hclosed

theorem pending_of_send? {m m' : Mailbox μ} {message : μ} (h : m.send? message = some m') :
    m'.pending = m.pending ++ [message] := by
  simp only [send?] at h
  split at h
  · split at h
    · rename_i hroom
      obtain rfl := Option.some.inj h
      simp [pending, waiting_eq_nil m hroom]
    · obtain rfl := Option.some.inj h
      simp [pending]
  · simp at h

/-! ## Receiving -/

def receive? (m : Mailbox μ) : Option (μ × Mailbox μ) :=
  match hq : m.queue with
  | [] => none
  | message :: rest =>
    some (message, { m with
      queue := rest ++ m.waiting.take 1
      waiting := m.waiting.drop 1
      bounded := by
        have hle := m.bounded
        simp only [hq, List.length_cons] at hle
        simp only [List.length_append, List.length_take]
        omega
      full_of_waiting := fun h => by
        cases hw : m.waiting with
        | nil => simp [hw] at h
        | cons first others =>
          -- whoever waited first takes the place that has become free
          have hfull := m.full_of_waiting (by simp [hw])
          simpa [hq] using hfull
      empty_of_closed := fun h => by
        have hnil := m.empty_of_closed h
        simp [hq] at hnil })

theorem pending_of_receive? {m m' : Mailbox μ} {message : μ}
    (h : m.receive? = some (message, m')) : m.pending = message :: m'.pending := by
  simp only [receive?] at h
  split at h
  · simp at h
  · rename_i first rest hq
    obtain ⟨rfl, rfl⟩ := Prod.mk.inj (Option.some.inj h)
    have hsplit : m.waiting.take 1 ++ m.waiting.drop 1 = m.waiting := List.take_append_drop 1 _
    simp only [pending, hq, List.cons_append, List.append_assoc, hsplit]

/-- Nothing is received only where nothing is on its way. -/
theorem receive?_eq_none_iff (m : Mailbox μ) : m.receive? = none ↔ m.pending = [] := by
  simp only [receive?]
  split
  · rename_i hq
    have hroom : m.queue.length < m.capacity.size := by simpa [hq] using m.capacity.pos
    simp [pending, hq, waiting_eq_nil m hroom]
  · rename_i first rest hq
    simp [pending, hq]

/-! ## Closing -/

/-- The closed mailbox; what it held and what waited for it is gone. -/
def close (m : Mailbox μ) : Mailbox μ :=
  { capacity := m.capacity, isOpen := false }

end Mailbox
end FieldPatch
