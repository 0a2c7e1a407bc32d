import FieldPatch.Dialogue
import FieldPatch.Proofs.Dialogue.Numbered
import Mathlib.Logic.Relation

/-!
# Calls that overlap

Any number of dialogues at the same time. Whoever answers their questions may take any time to do so
and give any answer, and the dialogues take their steps in any order.

* `Progress`: how far a call has come, with its steps and the paths along them;
* `Crowd`: all calls, with the log of what they did; `Crowd.Reaches`: what their steps lead to;
* `Crowd.path_of_reaches`: in a crowd, each call runs along a path of its own;
* `Crowd.notifications_perm`: the notifications of a crowd are those of its calls;
* `Dialogue.ClosesWith`: a dialogue that notifies at its very end or never; `Dialogue.Quiet`: never.
-/

namespace FieldPatch

inductive Progress (Q α : Type) [Question Q] where
  | active (rest : Dialogue Q α)
  | waiting (question : Q) (resume : Answer question → Dialogue Q α)

/-- What a call does for others to see: it emits an event, or its question arrives. -/
inductive Act (Q : Type) where
  | event (e : Event)
  | asked (question : Q)

def Act.notification? {Q : Type} : Act Q → Option Notification
  | event e => e.notification?
  | asked _ => none

structure Crowd (Q α : Type) [Question Q] where
  calls : List (Progress Q α)
  /-- What the calls did, from the first to the last, each act beside the number of its call. -/
  log : List (Nat × Act Q) := []

namespace Progress

variable {Q α : Type} [Question Q]

/-- The result of a call that has ended. -/
def result? : Progress Q α → Option α
  | active (.done result) => some result
  | _ => none

/-- A step of one call, with what it does. A call that waits may be given any answer. -/
inductive Step : Progress Q α → List (Act Q) → Progress Q α → Prop where
  | emit (event : Event) (next : Dialogue Q α) :
      Step (.active (.emit event next)) [.event event] (.active next)
  | ask (question : Q) (next : Answer question → Dialogue Q α) :
      Step (.active (.ask question next)) [.asked question] (.waiting question next)
  | answer (question : Q) (next : Answer question → Dialogue Q α) (answer : Answer question) :
      Step (.waiting question next) [] (.active (next answer))

/-- Any number of steps of one call. -/
inductive Path : Progress Q α → List (Act Q) → Progress Q α → Prop where
  | here (p : Progress Q α) : Path p [] p
  | step {p p' p'' : Progress Q α} {acts acts' : List (Act Q)} (h : Step p acts p')
      (h' : Path p' acts' p'') : Path p (acts ++ acts') p''

theorem Path.snoc {p p' p'' : Progress Q α} {acts acts' : List (Act Q)} (h : Path p acts p')
    (h' : Step p' acts' p'') : Path p (acts ++ acts') p'' := by
  induction h with
  | here p => simpa using Path.step h' (.here p'')
  | step h _ ih => simpa using Path.step h (ih h')

/-- A service leads a dialogue along a path to the result of its run. -/
theorem exists_path_run {σ : Type} (serve : Dialogue.Service Q σ) (d : Dialogue Q α) (s : σ) :
    ∃ acts, Path (.active d) acts (.active (.done (d.run serve s).result)) := by
  induction d generalizing s with
  | done result => exact ⟨[], .here _⟩
  | emit event next ih =>
    rcases ih s with ⟨acts, hpath⟩
    exact ⟨_, .step (.emit event next) hpath⟩
  | ask question next ih =>
    -- the service gives one of the answers that the call may be given
    rcases ih (serve question s).2.1 (serve question s).2.2 with ⟨acts, hpath⟩
    exact ⟨_, .step (.ask question next) (.step (.answer question next _) hpath)⟩

end Progress

namespace Crowd

open scoped List

variable {Q α : Type} [Question Q]

def start (dialogues : List (Dialogue Q α)) : Crowd Q α :=
  { calls := dialogues.map .active }

/-- One of the calls takes a step. -/
inductive Step : Crowd Q α → Crowd Q α → Prop where
  | act {c : Crowd Q α} {i : Nat} {p p' : Progress Q α} {acts : List (Act Q)}
      (hp : c.calls[i]? = some p) (h : p.Step acts p') :
      Step c ⟨c.calls.set i p', c.log ++ acts.map (i, ·)⟩

def Reaches (dialogues : List (Dialogue Q α)) (c : Crowd Q α) : Prop :=
  Relation.ReflTransGen Step (start dialogues) c

/-- While the others stand still, a call may run along any of its paths. -/
theorem reaches_along {dialogues : List (Dialogue Q α)} {p p' : Progress Q α}
    {acts : List (Act Q)} (hpath : p.Path acts p') {c : Crowd Q α} (h : Reaches dialogues c)
    {i : Nat} (hp : c.calls[i]? = some p) :
    Reaches dialogues ⟨c.calls.set i p', c.log ++ acts.map (i, ·)⟩ := by
  induction hpath generalizing c with
  | here p =>
    -- nothing has moved
    have hsame : c.calls.set i p = c.calls := by
      rcases List.getElem?_eq_some_iff.1 hp with ⟨hlt, rfl⟩
      exact List.set_getElem_self hlt
    simpa [hsame] using h
  | @step p p₁ p₂ acts acts' hstep _ ih =>
    have hlt : i < c.calls.length := (List.getElem?_eq_some_iff.1 hp).1
    have hnext : Reaches dialogues ⟨c.calls.set i p₁, c.log ++ acts.map (i, ·)⟩ :=
      h.tail (.act hp hstep)
    simpa using ih hnext (by simp [hlt])

/-! ## One call among others -/

/-- What a call did, in order. -/
def acts (c : Crowd Q α) (i : Nat) : List (Act Q) :=
  Numbered.entriesOf i c.log

/-- The notifications of a call, in order. -/
def notifications (c : Crowd Q α) (i : Nat) : List Notification :=
  (c.acts i).filterMap Act.notification?

def result? (c : Crowd Q α) (i : Nat) : Option α :=
  c.calls[i]?.bind Progress.result?

/-- However the calls overlap, each of them has run along a path of its own dialogue. -/
theorem path_of_reaches {dialogues : List (Dialogue Q α)} {c : Crowd Q α}
    (h : Reaches dialogues c) {i : Nat} {d : Dialogue Q α} (hd : dialogues[i]? = some d) :
    ∃ p, c.calls[i]? = some p ∧ (Progress.active d).Path (c.acts i) p := by
  induction h with
  | refl => exact ⟨.active d, by simp [start, hd], .here _⟩
  | @tail c₁ c₂ _ hstep ih =>
    rcases ih with ⟨p, hp, hpath⟩
    cases hstep with
    | @act j p₁ p₂ acts hp₁ hact =>
      have hacts : Crowd.acts ⟨c₁.calls.set j p₂, c₁.log ++ acts.map (j, ·)⟩ i =
          c₁.acts i ++ if j = i then acts else [] := by
        simp [Crowd.acts]
      rw [hacts]
      by_cases hji : j = i
      · -- it is this call that takes the step
        subst hji
        have hsame : p₁ = p := Option.some.inj (hp₁.symm.trans hp)
        subst hsame
        have hlt : j < c₁.calls.length := (List.getElem?_eq_some_iff.1 hp).1
        refine ⟨p₂, by simp [hlt], ?_⟩
        simpa using hpath.snoc hact
      · -- the step of another call is not seen here
        refine ⟨p, by simpa [List.getElem?_set_ne hji] using hp, ?_⟩
        simpa [hji] using hpath

/-! ## The log by calls -/

theorem Step.length_calls {c c' : Crowd Q α} (h : Step c c') :
    c'.calls.length = c.calls.length := by
  cases h with
  | act hp hact => simp

/-- The log of a crowd names its calls only. -/
theorem lt_length_of_reaches {dialogues : List (Dialogue Q α)} {c : Crowd Q α}
    (h : Reaches dialogues c) :
    c.calls.length = dialogues.length ∧ ∀ entry ∈ c.log, entry.1 < dialogues.length := by
  induction h with
  | refl => simp [start]
  | tail _ hstep ih =>
    rcases ih with ⟨hlength, hlog⟩
    refine ⟨hstep.length_calls.trans hlength, ?_⟩
    cases hstep with
    | @act i p p' acts hp hact =>
      have hi : i < dialogues.length := hlength ▸ (List.getElem?_eq_some_iff.1 hp).1
      intro entry hmem
      rcases List.mem_append.1 hmem with hold | hnew
      · exact hlog entry hold
      · rcases List.mem_map.1 hnew with ⟨a, _, rfl⟩
        exact hi

/-- The notifications of all calls, in the order of time. -/
def allNotifications (c : Crowd Q α) : List Notification :=
  (c.log.map Prod.snd).filterMap Act.notification?

theorem notifications_perm {dialogues : List (Dialogue Q α)} {c : Crowd Q α}
    (h : Reaches dialogues c) :
    c.allNotifications ~ (List.range dialogues.length).flatMap c.notifications := by
  have hlog := Numbered.perm_flatMap_range dialogues.length c.log (lt_length_of_reaches h).2
  have hsaid := hlog.filterMap Act.notification?
  rwa [List.filterMap_flatMap] at hsaid

end Crowd

/-! ## Notifications at the end -/

namespace Dialogue

variable {Q α β : Type} [Question Q]

/-- Whatever is answered, the dialogue notifies in its last step before the result or not at all,
and the result suits what it has notified. -/
def ClosesWith (P : α → List Notification → Prop) : Dialogue Q α → Prop
  | done result => P result []
  | emit event next =>
    match event.notification? with
    | none => next.ClosesWith P
    | some n => ∃ result, next = done result ∧ P result [n]
  | ask _ next => ∀ answer, (next answer).ClosesWith P

/-- The dialogue notifies of nothing. -/
abbrev Quiet (d : Dialogue Q α) : Prop :=
  d.ClosesWith fun _ said => said = []

variable {P : β → List Notification → Prop}

/-- What goes on after a quiet dialogue decides how both end. -/
theorem Quiet.bind {d : Dialogue Q α} {f : α → Dialogue Q β} (h : d.Quiet)
    (hf : ∀ result, (f result).ClosesWith P) : (d.bind f).ClosesWith P := by
  induction d with
  | done result => exact hf result
  | emit event next ih =>
    cases hn : event.notification? with
    | none =>
      have hnext : next.Quiet := by simpa [ClosesWith, hn] using h
      simpa [ClosesWith, hn] using ih hnext
    | some n =>
      -- a quiet dialogue has nothing to notify of
      simp [ClosesWith, hn] at h
  | ask question next ih =>
    intro answer
    exact ih answer (h answer)

theorem ClosesWith.map {d : Dialogue Q α} {f : α → β}
    (h : d.ClosesWith fun result said => P (f result) said) :
    (d.bind fun result => done (f result)).ClosesWith P := by
  induction d with
  | done result => exact h
  | emit event next ih =>
    cases hn : event.notification? with
    | none =>
      have hnext : next.ClosesWith fun result said => P (f result) said := by
        simpa [ClosesWith, hn] using h
      simpa [ClosesWith, hn] using ih hnext
    | some n =>
      have hend : ∃ result, next = done result ∧ P (f result) [n] := by
        simpa [ClosesWith, hn] using h
      rcases hend with ⟨result, rfl, hresult⟩
      simpa [ClosesWith, hn] using hresult
  | ask question next ih =>
    intro answer
    exact ih answer (h answer)

end Dialogue

namespace Progress

variable {Q α : Type} [Question Q] {P : α → List Notification → Prop}

def ClosesWith (P : α → List Notification → Prop) : Progress Q α → Prop
  | active rest => rest.ClosesWith P
  | waiting _ resume => ∀ answer, (resume answer).ClosesWith P

/-- Along a path, nothing is notified before the end. -/
theorem Path.notifications {p p' : Progress Q α} {acts : List (Act Q)} (h : Path p acts p')
    (hp : p.ClosesWith P) :
    match p'.result? with
    | some result => P result (acts.filterMap Act.notification?)
    | none => acts.filterMap Act.notification? = [] := by
  induction h with
  | here p =>
    -- without a step, only a call that is at its end counts as ended
    cases p with
    | active rest =>
      cases rest with
      | done result => exact hp
      | _ => rfl
    | waiting question resume => rfl
  | step hstep hpath ih =>
    cases hstep with
    | emit event next =>
      cases hn : event.notification? with
      | none =>
        have hnext : next.ClosesWith P := by simpa [ClosesWith, Dialogue.ClosesWith, hn] using hp
        simpa [Act.notification?, hn] using ih hnext
      | some n =>
        have hend : ∃ result, next = .done result ∧ P result [n] := by
          simpa [ClosesWith, Dialogue.ClosesWith, hn] using hp
        rcases hend with ⟨result, rfl, hresult⟩
        -- the call has ended, so that there is no further step
        cases hpath with
        | here => simpa [Act.notification?, hn, result?] using hresult
        | step hnone _ => cases hnone
    | ask question next => exact ih hp
    | answer question next answer => exact ih (hp answer)

end Progress
end FieldPatch
