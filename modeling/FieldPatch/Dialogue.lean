import FieldPatch.Event

/-!
# Dialogues

A dialogue is a computation that emits events and asks questions, and goes on with the answers. It
says nothing about who answers, when, or what happens in between.

* `Question`: a type of questions, each with the type of its answers;
* `Dialogue`: the dialogues, a monad;
* `Dialogue.through`: every question replaced by a dialogue that finds its answer;
* `Dialogue.run`: the whole dialogue against a state that answers at once.

Replacing questions and running go part by part (`through_bind`, `run_bind`).
-/

namespace FieldPatch

class Question (Q : Type) where
  Answer : Q → Type

export Question (Answer)

inductive Dialogue (Q : Type) [Question Q] (α : Type) : Type where
  | done (result : α)
  | emit (event : Event) (next : Dialogue Q α)
  | ask (question : Q) (next : Answer question → Dialogue Q α)

/-- There is nothing to ask. -/
instance : Question Empty where
  Answer := nofun

namespace Dialogue

variable {Q R σ α β : Type} [Question Q] [Question R]

/-! ## Dialogues in sequence -/

def bind : Dialogue Q α → (α → Dialogue Q β) → Dialogue Q β
  | done result, f => f result
  | emit event next, f => emit event (next.bind f)
  | ask question next, f => ask question fun answer => (next answer).bind f

instance : Monad (Dialogue Q) where
  pure := done
  bind := bind

@[simp] theorem pure_eq (result : α) : (pure result : Dialogue Q α) = done result := rfl

@[simp] theorem bind_eq (d : Dialogue Q α) (f : α → Dialogue Q β) : d >>= f = d.bind f := rfl

@[simp] theorem done_bind (result : α) (f : α → Dialogue Q β) : (done result).bind f = f result :=
  rfl

@[simp] theorem emit_bind (event : Event) (d : Dialogue Q α) (f : α → Dialogue Q β) :
    (emit event d).bind f = emit event (d.bind f) := rfl

@[simp] theorem ask_bind (q : Q) (k : Answer q → Dialogue Q α) (f : α → Dialogue Q β) :
    (ask q k).bind f = ask q fun answer => (k answer).bind f := rfl

@[simp] theorem bind_done (d : Dialogue Q α) : d.bind done = d := by
  induction d with
  | done result => rfl
  | emit event next ih => rw [emit_bind, ih]
  | ask question next ih =>
    rw [ask_bind]
    exact congrArg (ask question) (funext ih)

theorem bind_assoc {γ : Type} (d : Dialogue Q α) (f : α → Dialogue Q β) (g : β → Dialogue Q γ) :
    (d.bind f).bind g = d.bind fun result => (f result).bind g := by
  induction d with
  | done result => rfl
  | emit event next ih => rw [emit_bind, emit_bind, emit_bind, ih]
  | ask question next ih =>
    rw [ask_bind, ask_bind, ask_bind]
    exact congrArg (ask question) (funext ih)

instance : LawfulMonad (Dialogue Q) :=
  LawfulMonad.mk' _ (fun d => bind_done d) (fun _ _ => rfl) bind_assoc

/-! ## Steps -/

def tell (event : Event) : Dialogue Q Unit :=
  emit event (done ())

def log (entry : Log.Entry) : Dialogue Q Unit :=
  tell (.log entry)

/-- Asks a question and returns the answer. -/
def query (q : Q) : Dialogue Q (Answer q) :=
  ask q done

/-- The dialogue as a stretch of work of its own. -/
def inSpan (span : Log.Span) (d : Dialogue Q α) : Dialogue Q α :=
  emit (.enter span) (d.bind fun result => emit .leave (done result))

/-! ## Answers -/

/-- Asks in place of each question the questions by which it is answered. -/
def through (f : (q : Q) → Dialogue R (Answer q)) : Dialogue Q α → Dialogue R α
  | done result => done result
  | emit event next => emit event (next.through f)
  | ask question next => (f question).bind fun answer => (next answer).through f

theorem through_bind (f : (q : Q) → Dialogue R (Answer q)) (d : Dialogue Q α)
    (g : α → Dialogue Q β) :
    (d.bind g).through f = (d.through f).bind fun result => (g result).through f := by
  induction d with
  | done result => rfl
  | emit event next ih => rw [emit_bind, through, through, emit_bind, ih]
  | ask question next ih =>
    rw [ask_bind, through, through, bind_assoc]
    exact congrArg ((f question).bind ·) (funext ih)

/-- What is left of a finished run: the events in order, the result and the last state. -/
structure Run (σ α : Type) where
  trace : List Event
  result : α
  state : σ

/-- How a state answers the questions: what it writes to the log, the answer, the next state. -/
abbrev Service (Q σ : Type) [Question Q] :=
  (q : Q) → σ → List Log.Entry × Answer q × σ

/-- Puts events in front of a run. -/
def Run.after (events : List Event) (r : Run σ α) : Run σ α :=
  { r with trace := events ++ r.trace }

/-- Runs a dialogue to its end. -/
def run (serve : Service Q σ) : Dialogue Q α → σ → Run σ α
  | done result, s => ⟨[], result, s⟩
  | emit event next, s => (next.run serve s).after [event]
  | ask question next, s =>
    let (entries, answer, s) := serve question s
    ((next answer).run serve s).after [.served entries]

/-- A dialogue in two parts runs the second part after the first, from the state that it left. -/
theorem run_bind (serve : Service Q σ) (d : Dialogue Q α) (f : α → Dialogue Q β) (s : σ) :
    (d.bind f).run serve s =
      ((f (d.run serve s).result).run serve (d.run serve s).state).after (d.run serve s).trace := by
  induction d generalizing s with
  | done result => rfl
  | emit event next ih => simp [run, ih, Run.after]
  | ask question next ih => simp [run, ih, Run.after]

/-- The run of a dialogue without questions. -/
def alone (d : Dialogue Empty α) : Run Unit α :=
  d.run nofun ()

end Dialogue
end FieldPatch
