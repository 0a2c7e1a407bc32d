import FieldPatch.Proofs.Desk.Command
import FieldPatch.Proofs.Dialogue.Follows
import FieldPatch.Proofs.Registry.Resolution

/-!
# Replies of a desk

What the callers of a desk get, command by command.

* `Desk.reply`: the reply to a command, and `Desk.transcript`: the replies to many;
* `Desk.Command.kind`: the kind that a command is for. A command reaches the server of this kind or
  none (`Desk.Command.kind_of_inquiry?`), and changes no other (`Desk.server_perform_of_ne`);
* `Desk.reply_congr_server`: the reply depends only on what the server of this kind answers.
-/

namespace FieldPatch

namespace Desk

/-! ## Replies -/

instance : Question Command where
  Answer
    | .request inquiry => Answer inquiry
    | .tryPatch _ _ => Except PatchError Json
    | .patch _ _ => Outcome
    | .update _ _ _ _ => Outcome
    | .choices _ _ => List Choice

/-- What the caller of a command gets. -/
def reply (config : Config) (d : Desk) : (command : Command) → Answer command
  | .request inquiry => (d.ask inquiry.kind inquiry.request).result
  | .tryPatch kind payload => (d.call ((executor config).tryPatch kind payload)).result
  | .patch kind payload => (d.call ((executor config).patch kind payload)).result
  | .update kind target field change =>
    (d.call ((executor config).updateField kind target field change)).result
  | .choices kind field => (d.call ((executor config).choicesForField kind field)).result

/-- The commands with their replies, in the order in which they are served. -/
def transcript (config : Config) (d : Desk) : List Command → List (Answered Command)
  | [] => []
  | command :: rest =>
    ⟨command, d.reply config command⟩ :: (d.perform config command).transcript config rest

theorem map_question_transcript (config : Config) (d : Desk) (commands : List Command) :
    (d.transcript config commands).map Answered.question = commands := by
  induction commands generalizing d with
  | nil => rfl
  | cons command rest ih => simp [transcript, ih]

theorem result_call {α : Type} (d : Desk) (dialogue : Dialogue (Query Kind (Kind × String)) α) :
    (d.call dialogue).result = (dialogue.eval relays d).1 :=
  congrArg Prod.fst (d.eval_call dialogue)

/-- Where the request of a command gets the same answer, the command gets the same reply. -/
theorem reply_congr (config : Config) {d d' : Desk} {command : Command}
    (h : ∀ inquiry, command.inquiry? = some inquiry →
      (d.serve inquiry).1 = (d'.serve inquiry).1) :
    d.reply config command = d'.reply config command := by
  cases command with
  | request inquiry => exact h inquiry rfl
  | tryPatch kind payload =>
    have hanswer : ((d.server kind).patch payload.toObject).1 =
        ((d'.server kind).patch payload.toObject).1 := h _ rfl
    simp only [reply, result_call, eval_tryPatch, hanswer]
  | patch kind payload =>
    have hanswer : ((d.server kind).patch payload.toObject).1 =
        ((d'.server kind).patch payload.toObject).1 := h _ rfl
    simp only [reply, result_call, Executor.eval_patch, eval_tryPatch, hanswer]
  | update kind target field change =>
    simp only [Command.inquiry?] at h
    simp only [reply, result_call, Executor.eval_updateField]
    cases hbuilt : change.payload (some field) (some target) with
    | error reason => rfl
    | ok payload =>
      have hanswer : ((d.server kind).patch payload.toObject).1 =
          ((d'.server kind).patch payload.toObject).1 :=
        h ⟨kind, .patch payload.toObject⟩ (by simp [hbuilt])
      simp only [Executor.eval_patch, eval_tryPatch, hanswer]
  | choices kind field =>
    simp only [Command.inquiry?] at h
    have hregistry : (executor config).registry = registry := rfl
    simp only [reply, result_call, Executor.choicesForField, Registry.eval_choicesForField,
      hregistry]
    cases hfound : registry.resolve kind field with
    | error e => rfl
    | ok found =>
      rcases found with ⟨name, ⟨kind', accessor⟩, exact⟩
      have hanswer : (d.server kind').choices accessor = (d'.server kind').choices accessor :=
        h ⟨kind', .choices accessor⟩ (by simp [hfound])
      simp only [relays_fetch, hanswer]

/-! ## Kinds -/

/-- The kind whose records a command is for. -/
def Command.kind : Command → Kind
  | .request inquiry => inquiry.kind
  | .tryPatch kind _ => kind
  | .patch kind _ => kind
  | .update kind _ _ _ => kind
  | .choices kind _ => kind

/-- The accessors of a kind lead to the server of this kind. -/
theorem accessor_entry {kind : Kind} {entry : Registry.Entry Kind (Kind × String)}
    (h : registry.entry kind = .ok entry) : ∀ accessor ∈ entry.accessors, accessor.2.1 = kind := by
  cases kind with
  | contact =>
    cases h
    decide
  | account =>
    cases h
    decide
  | case =>
    cases h
    decide
  | timeLog =>
    cases h
    decide

theorem accessor_of_resolve {kind : Kind} {field : String}
    {found : Registry.Resolved (Kind × String)} (h : registry.resolve kind field = .ok found) :
    found.accessor.1 = kind := by
  rcases Registry.exists_entry_of_resolve h with ⟨entry, hentry, _, hfirst⟩
  exact accessor_entry (Registry.entry_eq_ok_iff.2 hentry) _ hfirst.mem_accessors

/-- A command reaches the server of its kind, if it reaches one at all. -/
theorem Command.kind_of_inquiry? {command : Command} {inquiry : Inquiry}
    (h : command.inquiry? = some inquiry) : inquiry.kind = command.kind := by
  cases command with
  | request inquiry' =>
    cases h
    rfl
  | tryPatch kind payload =>
    cases h
    rfl
  | patch kind payload =>
    cases h
    rfl
  | update kind target field change =>
    simp only [inquiry?] at h
    split at h
    · cases h
      rfl
    · cases h
  | choices kind field =>
    simp only [inquiry?] at h
    split at h
    · rename_i found hfound
      cases h
      exact accessor_of_resolve hfound
    · cases h

theorem server_perform_of_ne (config : Config) (d : Desk) {command : Command} {kind : Kind}
    (h : command.kind ≠ kind) : (d.perform config command).server kind = d.server kind := by
  rw [server_perform]
  cases hinquiry : command.inquiry? with
  | none => rfl
  | some inquiry =>
    apply server_serve_of_ne
    intro hkind
    exact h ((Command.kind_of_inquiry? hinquiry).symm.trans hkind.symm)

/-- Where the servers of its kind answer alike, a command gets the same reply. -/
theorem reply_congr_server (config : Config) {d d' : Desk} {command : Command}
    (h : ∀ request, command.inquiry? = some ⟨command.kind, request⟩ →
      ((d.server command.kind).serve request).1 = ((d'.server command.kind).serve request).1) :
    d.reply config command = d'.reply config command := by
  apply reply_congr
  intro inquiry hinquiry
  rcases inquiry with ⟨kind, request⟩
  have hkind : kind = command.kind := Command.kind_of_inquiry? hinquiry
  subst hkind
  exact h request hinquiry

end Desk
end FieldPatch
