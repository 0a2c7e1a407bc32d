import FieldPatch.Dialogue

/-!
# Results and states of runs

A run without its trace: what the dialogue returns and the state that it leaves.

* `Dialogue.eval`: the result and the state, with an equation for each way to make a dialogue;
* `Dialogue.eval_through`: a question that is answered by a dialogue counts like one that the state
  answers at once.
-/

namespace FieldPatch
namespace Dialogue

variable {Q R σ α β : Type} [Question Q] [Question R]

def eval (serve : Service Q σ) (d : Dialogue Q α) (s : σ) : α × σ :=
  ((d.run serve s).result, (d.run serve s).state)

variable (serve : Service Q σ) (s : σ)

@[simp] theorem eval_done (result : α) : (done result : Dialogue Q α).eval serve s = (result, s) :=
  rfl

@[simp] theorem eval_emit (event : Event) (next : Dialogue Q α) :
    (emit event next).eval serve s = next.eval serve s := rfl

@[simp] theorem eval_ask (q : Q) (next : Answer q → Dialogue Q α) :
    (ask q next).eval serve s = (next (serve q s).2.1).eval serve (serve q s).2.2 := rfl

@[simp] theorem eval_bind (d : Dialogue Q α) (f : α → Dialogue Q β) :
    (d.bind f).eval serve s = (f (d.eval serve s).1).eval serve (d.eval serve s).2 := by
  simp only [eval, run_bind]
  rfl

@[simp] theorem eval_tell (event : Event) : (tell event).eval serve s = ((), s) := rfl

@[simp] theorem eval_log (entry : Log.Entry) : (log entry).eval serve s = ((), s) := rfl

@[simp] theorem eval_query (q : Q) : (query q).eval serve s = (serve q s).2 := rfl

@[simp] theorem eval_inSpan (span : Log.Span) (d : Dialogue Q α) :
    (inSpan span d).eval serve s = d.eval serve s := by
  rw [inSpan, eval_emit, eval_bind]
  rfl

/-- The service that answers a question by running a dialogue, and writes nothing itself. -/
def relayed (serve : Service R σ) (f : (q : Q) → Dialogue R (Answer q)) : Service Q σ :=
  fun q s => ([], (f q).eval serve s)

theorem eval_through (serve : Service R σ) (f : (q : Q) → Dialogue R (Answer q))
    (d : Dialogue Q α) (s : σ) :
    (d.through f).eval serve s = d.eval (relayed serve f) s := by
  induction d generalizing s with
  | done result => rfl
  | emit event next ih => exact ih s
  | ask question next ih =>
    -- the dialogue that finds the answer runs first, and leaves the state for the rest
    rw [through, eval_bind, ih]
    rfl

end Dialogue
end FieldPatch
