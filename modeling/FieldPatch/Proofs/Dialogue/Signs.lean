import FieldPatch.Proofs.Dialogue.Crowd

/-!
# Signs of a call

What others notice of a call, in order: new titles, the arrival of its questions, and notifications.
Logs and spans are left out.

* `Sign`, `Act.sign?`: the acts that are signs; `Crowd.signs`: the signs of one call in a crowd;
* `Dialogue.Shows`: whatever is answered, signs and result are related so in the end;
* `Progress.Path.shows`: what a call has shown on its way counts for the end of it.

A dialogue shows what its parts show, one after the other (`Dialogue.Shows.bind`).
-/

namespace FieldPatch

inductive Sign (Q : Type) where
  | titled (context value : String)
  | asked (question : Q)
  | notified (n : Notification)

namespace Act

variable {Q : Type}

def sign? : Act Q → Option (Sign Q)
  | event (.title context value) => some (.titled context value)
  | event (.notify n) => some (.notified n)
  | event _ => none
  | asked question => some (.asked question)

/-- Nothing is notified without a sign. -/
theorem notification?_of_sign? {a : Act Q} {n : Notification} (h : a.sign? = some (.notified n)) :
    a.notification? = some n := by
  cases a with
  | event e =>
    cases e with
    | notify n' =>
      have hsame : n' = n := by simpa [sign?] using h
      simp [notification?, Event.notification?, hsame]
    | _ => simp [sign?] at h
  | asked question => simp [sign?] at h

end Act

namespace Crowd

variable {Q α : Type} [Question Q]

/-- The signs of a call, in order. -/
def signs (c : Crowd Q α) (i : Nat) : List (Sign Q) :=
  (c.acts i).filterMap Act.sign?

theorem mem_notifications_of_signs {c : Crowd Q α} {i : Nat} {n : Notification}
    (h : .notified n ∈ c.signs i) : n ∈ c.notifications i := by
  rcases List.mem_filterMap.1 h with ⟨a, hmem, hsign⟩
  exact List.mem_filterMap.2 ⟨a, hmem, Act.notification?_of_sign? hsign⟩

end Crowd

/-! ## Signs and results -/

namespace Dialogue

variable {Q α β : Type} [Question Q]

/-- However the dialogue goes, its signs and its result are related so. -/
def Shows (R : List (Sign Q) → α → Prop) : Dialogue Q α → Prop
  | done result => R [] result
  | emit event next => next.Shows fun rest => R ((Act.event event).sign?.toList ++ rest)
  | ask question next => ∀ answer, (next answer).Shows fun rest => R (.asked question :: rest)

namespace Shows

theorem bind {R : List (Sign Q) → β → Prop} {d : Dialogue Q α} {f : α → Dialogue Q β}
    (h : d.Shows fun signs result => (f result).Shows fun rest => R (signs ++ rest)) :
    (d.bind f).Shows R := by
  induction d generalizing R with
  | done result => exact h
  | emit event next ih =>
    apply ih
    simpa only [Shows, List.append_assoc] using h
  | ask question next ih =>
    intro answer
    exact ih answer (h answer)

theorem mono {R R' : List (Sign Q) → α → Prop} {d : Dialogue Q α} (h : d.Shows R)
    (himp : ∀ signs result, R signs result → R' signs result) : d.Shows R' := by
  induction d generalizing R R' with
  | done result => exact himp _ _ h
  | emit event next ih => exact ih h fun rest result => himp _ result
  | ask question next ih =>
    intro answer
    exact ih answer (h answer) fun rest result => himp _ result

/-- Where every question can be answered, some end is possible. -/
theorem exists_end [∀ q : Q, Nonempty (Answer q)] {R : List (Sign Q) → α → Prop}
    {d : Dialogue Q α} (h : d.Shows R) : ∃ signs result, R signs result := by
  induction d generalizing R with
  | done result => exact ⟨[], result, h⟩
  | emit event next ih =>
    rcases ih h with ⟨rest, result, hend⟩
    exact ⟨_, result, hend⟩
  | ask question next ih =>
    rcases ‹∀ q : Q, Nonempty (Answer q)› question with ⟨answer⟩
    rcases ih answer (h answer) with ⟨rest, result, hend⟩
    exact ⟨_, result, hend⟩

end Shows
end Dialogue

/-! ## Signs of calls under way -/

namespace Progress

variable {Q α : Type} [Question Q] {R : List (Sign Q) → α → Prop}

def Shows (R : List (Sign Q) → α → Prop) : Progress Q α → Prop
  | active rest => rest.Shows R
  | waiting _ resume => ∀ answer, (resume answer).Shows R

/-- Along a path, signs move from those that are to come to those that have come. -/
theorem Path.shows {p p' : Progress Q α} {acts : List (Act Q)} (h : Path p acts p')
    (hp : p.Shows R) : p'.Shows fun rest => R (acts.filterMap Act.sign? ++ rest) := by
  induction h generalizing R with
  | here p => simpa using hp
  | step hstep hpath ih =>
    cases hstep with
    | emit event next =>
      have hrest := ih (R := fun rest => R ((Act.event event).sign?.toList ++ rest)) hp
      cases hsign : (Act.event event : Act Q).sign? with
      | none => simpa [hsign] using hrest
      | some sign => simpa [hsign] using hrest
    | ask question next =>
      have hrest := ih (R := fun rest => R (.asked question :: rest)) hp
      simpa [Act.sign?] using hrest
    | answer question next answer => exact ih (hp answer)

theorem Shows.exists_end [∀ q : Q, Nonempty (Answer q)] {p : Progress Q α} (h : p.Shows R) :
    ∃ signs result, R signs result := by
  cases p with
  | active rest => exact Dialogue.Shows.exists_end h
  | waiting question resume =>
    rcases ‹∀ q : Q, Nonempty (Answer q)› question with ⟨answer⟩
    exact (h answer).exists_end

theorem Shows.of_result? {p : Progress Q α} {result : α} (h : p.Shows R)
    (hend : p.result? = some result) : R [] result := by
  cases p with
  | active rest =>
    cases rest with
    | done result' =>
      have hsame : result' = result := by simpa [result?] using hend
      subst hsame
      exact h
    | _ => simp [result?] at hend
  | waiting question resume => simp [result?] at hend

end Progress
end FieldPatch
