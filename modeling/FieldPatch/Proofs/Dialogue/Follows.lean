import FieldPatch.Dialogue

/-!
# Dialogues under way

How far a dialogue has come, told by the answers that it got, whoever gave them.

* `Answered`: a question with its answer;
* `Dialogue.Follows`: with these answers, a dialogue comes from here to there. The answers determine
  the result (`Dialogue.Follows.result_unique`);
* `Dialogue.Ends`: whatever the answers, they and the result are related so in the end;
* `Dialogue.Asks`: whatever the answers, these are the questions.
-/

namespace FieldPatch

structure Answered (Q : Type) [Question Q] where
  question : Q
  answer : Answer question

namespace Dialogue

variable {Q α β : Type} [Question Q]

/-- The second dialogue is left of the first one after these answers. -/
inductive Follows : Dialogue Q α → List (Answered Q) → Dialogue Q α → Prop where
  | here (d : Dialogue Q α) : Follows d [] d
  | emit {event : Event} {next d : Dialogue Q α} {answers : List (Answered Q)}
      (h : Follows next answers d) : Follows (.emit event next) answers d
  | ask {question : Q} {next : Answer question → Dialogue Q α} {d : Dialogue Q α}
      {answers : List (Answered Q)} (answer : Answer question)
      (h : Follows (next answer) answers d) :
      Follows (.ask question next) (⟨question, answer⟩ :: answers) d

namespace Follows

variable {d d' d'' : Dialogue Q α} {answers answers' : List (Answered Q)}

theorem trans (h : Follows d answers d') (h' : Follows d' answers' d'') :
    Follows d (answers ++ answers') d'' := by
  induction h with
  | here d => exact h'
  | emit h ih => exact .emit (ih h')
  | ask answer h ih => exact .ask answer (ih h')

theorem emitted {event : Event} {next : Dialogue Q α}
    (h : Follows d answers (.emit event next)) : Follows d answers next := by
  simpa using h.trans (.emit (.here next))

theorem answered {question : Q} {next : Answer question → Dialogue Q α}
    (h : Follows d answers (.ask question next)) (answer : Answer question) :
    Follows d (answers ++ [⟨question, answer⟩]) (next answer) :=
  h.trans (.ask answer (.here (next answer)))

/-- A dialogue that has come to its result gets no further answers. -/
theorem result_unique {result result' : α} (h : Follows d answers (.done result))
    (h' : Follows d answers' (.done result')) (hfront : answers <+: answers') :
    result = result' := by
  -- the end is set apart, so that the induction runs over all that leads to it
  generalize hend : (.done result : Dialogue Q α) = d₁ at h
  induction h generalizing answers' with
  | here d =>
    subst hend
    cases h'
    rfl
  | emit h ih =>
    cases h' with
    | emit h' => exact ih h' hfront hend
  | ask answer h ih =>
    cases h' with
    | ask answer' h' =>
      -- both got the same first answer and go on alike
      rcases List.cons_prefix_cons.1 hfront with ⟨hfirst, hrest⟩
      cases hfirst
      exact ih h' hrest hend

/-- After the same answers a dialogue asks the same question. -/
theorem question_unique {q q' : Q} {next : Answer q → Dialogue Q α}
    {next' : Answer q' → Dialogue Q α} (h : Follows d answers (.ask q next))
    (h' : Follows d answers (.ask q' next')) : q = q' := by
  -- as for results, but the answers are the same, so that no beginning is compared
  generalize hend : (.ask q next : Dialogue Q α) = d₁ at h
  induction h with
  | here d =>
    subst hend
    cases h'
    rfl
  | emit h ih =>
    cases h' with
    | emit h' => exact ih h' hend
  | ask answer h ih =>
    cases h' with
    | ask _ h' => exact ih h' hend

end Follows

/-! ## Ends -/

/-- However the dialogue goes, its answers and its result are related so. -/
def Ends (R : List (Answered Q) → α → Prop) : Dialogue Q α → Prop
  | done result => R [] result
  | emit _ next => next.Ends R
  | ask question next => ∀ answer, (next answer).Ends fun rest => R (⟨question, answer⟩ :: rest)

namespace Ends

theorem bind {R : List (Answered Q) → β → Prop} {d : Dialogue Q α} {f : α → Dialogue Q β}
    (h : d.Ends fun answers result => (f result).Ends fun rest => R (answers ++ rest)) :
    (d.bind f).Ends R := by
  induction d generalizing R with
  | done result => exact h
  | emit event next ih => exact ih h
  | ask question next ih =>
    intro answer
    exact ih answer (h answer)

theorem mono {R R' : List (Answered Q) → α → Prop} {d : Dialogue Q α} (h : d.Ends R)
    (himp : ∀ answers result, R answers result → R' answers result) : d.Ends R' := by
  induction d generalizing R R' with
  | done result => exact himp _ _ h
  | emit event next ih => exact ih h himp
  | ask question next ih =>
    intro answer
    exact ih answer (h answer) fun rest result => himp _ result

variable {R : List (Answered Q) → α → Prop} {d d' : Dialogue Q α} {answers : List (Answered Q)}

/-- What is left of a dialogue ends as the whole of it does. -/
theorem of_follows (h : d.Ends R) (hfollows : d.Follows answers d') :
    d'.Ends fun rest => R (answers ++ rest) := by
  -- each answer on the way moves from what is to come to what has come
  induction hfollows generalizing R with
  | here d => exact h
  | emit hfollows ih => exact ih h
  | ask answer hfollows ih => exact ih (h answer)

theorem of_follows_done {result : α} (h : d.Ends R)
    (hfollows : d.Follows answers (.done result)) : R answers result := by
  simpa [Ends] using h.of_follows hfollows

/-- Where every question can be answered, a dialogue has some end. -/
theorem exists_end [∀ q : Q, Nonempty (Answer q)] (h : d.Ends R) :
    ∃ answers result, R answers result := by
  induction d generalizing R with
  | done result => exact ⟨[], result, h⟩
  | emit event next ih => exact ih h
  | ask question next ih =>
    -- any answer will do
    rcases ‹∀ q : Q, Nonempty (Answer q)› question with ⟨answer⟩
    rcases ih answer (h answer) with ⟨rest, result, hend⟩
    exact ⟨_, result, hend⟩

end Ends

/-! ## Questions -/

/-- However the dialogue goes, it asks these questions, in this order, and no others. -/
def Asks (questions : List Q) (d : Dialogue Q α) : Prop :=
  d.Ends fun answers _ => answers.map Answered.question = questions

theorem Asks.bind {questions questions' : List Q} {d : Dialogue Q α} {f : α → Dialogue Q β}
    (h : d.Asks questions) (hf : ∀ result, (f result).Asks questions') :
    (d.bind f).Asks (questions ++ questions') := by
  apply Ends.bind
  apply Ends.mono h
  rintro answers result rfl
  apply Ends.mono (hf result)
  rintro rest _ rfl
  simp

/-- What goes on without a question adds none. -/
theorem Asks.bind_silent {questions : List Q} {d : Dialogue Q α} {f : α → Dialogue Q β}
    (h : d.Asks questions) (hf : ∀ result, (f result).Asks []) : (d.bind f).Asks questions := by
  simpa using h.bind hf

theorem Asks.inSpan {questions : List Q} {d : Dialogue Q α} (span : Log.Span)
    (h : d.Asks questions) : (Dialogue.inSpan span d).Asks questions := by
  have hleave : (d.bind fun result => .emit .leave (.done result)).Asks questions :=
    h.bind_silent fun _ => rfl
  exact hleave

end Dialogue
end FieldPatch
