import FieldPatch.Proofs.Desk.Replies
import FieldPatch.Proofs.Server.Effect

/-!
# Records and kinds do not interfere

Two runs of a desk are compared, of which the second one leaves out commands of the first.

* `Server.AgreeAt`: servers that agree about one record. Every request keeps them so, and so does a
  patch of another record that only one of them serves;
* `Desk.Unwinding`: the conditions, step by step, under which commands may be left out, and
  `Desk.Unwinding.run`: what follows for all runs;
* `Desk.unwinding_kind`, `Desk.unwinding_record`: commands for other kinds, and patches of other
  records, may be left out;
* `Desk.no_interference`: so neither replies nor records depend on them.
-/

namespace FieldPatch

/-! ## Servers that agree about a record -/

/-- The request is not for another record. -/
def Request.concerns {ρ : Type} (id : UInt64) : Request UInt64 ρ → Bool
  | .create _ => true
  | .get id' => id' = id
  | .patch fields => Server.addressee? fields = some id
  | .choices _ => true

namespace Server

open Kind

variable {k : Kind} {id : UInt64} {s s' : Server UInt64 k.Record}

/-- Both servers hold the same record under the identifier, serve the same lists, and will make the
same identifiers. -/
structure AgreeAt (id : UInt64) (s s' : Server UInt64 k.Record) : Prop where
  get?_eq : s.get? id = s'.get? id
  created_eq : s.created = s'.created
  mint_eq : s.mint = s'.mint
  table_eq : s.table = s'.table

theorem AgreeAt.refl (id : UInt64) (s : Server UInt64 k.Record) : AgreeAt id s s :=
  ⟨rfl, rfl, rfl, rfl⟩

theorem AgreeAt.serve (h : AgreeAt id s s') (request : Request UInt64 k.Record) :
    AgreeAt id (s.serve request).2 (s'.serve request).2 := by
  refine ⟨?_, ?_, ?_, ?_⟩
  · cases request with
    | create record =>
      -- both servers put the new record in the same place
      have hmint : s.mint s.created = s'.mint s'.created := by simp [h.mint_eq, h.created_eq]
      have hget : s.store.get? id = s'.store.get? id := h.get?_eq
      simp [Server.serve, create, Server.get?, Store.get?_put, hmint, hget]
    | get id' => exact h.get?_eq
    | patch fields =>
      change (s.patch fields).2.get? id = (s'.patch fields).2.get? id
      simp [get?_patch, h.get?_eq]
    | choices accessor => exact h.get?_eq
  · simp [created_serve, h.created_eq]
  · simp [h.mint_eq]
  · simp [h.table_eq]

theorem AgreeAt.patch_left (h : AgreeAt id s s') {fields : Json.Object}
    (hother : addressee? fields ≠ some id) : AgreeAt id (s.patch fields).2 s' := by
  refine ⟨?_, ?_, ?_, ?_⟩
  · simpa [get?_patch, hother] using h.get?_eq
  · simpa using h.created_eq
  · simpa using h.mint_eq
  · simpa using h.table_eq

theorem AgreeAt.answer_eq (h : AgreeAt id s s') {request : Request UInt64 k.Record}
    (hconcerns : request.concerns id) : (s.serve request).1 = (s'.serve request).1 := by
  cases request with
  | create record =>
    have hmint : s.mint s.created = s'.mint s'.created := by simp [h.mint_eq, h.created_eq]
    simp [Server.serve, create, hmint]
  | get id' =>
    have hid : id' = id := by simpa [Request.concerns] using hconcerns
    subst hid
    simp [Server.serve, h.get?_eq]
  | patch fields =>
    have hid : addressee? fields = some id := by simpa [Request.concerns] using hconcerns
    change (s.patch fields).1 = (s'.patch fields).1
    apply patch_congr
    intro id' hid'
    have hsame : id = id' := by simpa [hid] using hid'
    subst hsame
    exact h.get?_eq
  | choices accessor => exact answer_choices_congr h.table_eq accessor

end Server

namespace Desk

/-! ## Two runs -/

variable {config : Config} {R : Desk → Desk → Prop} {kept seen : Command → Bool}

/-- Desks stay related while both serve what is kept and only the first one serves what is not; and
what is seen is replied alike. -/
structure Unwinding (config : Config) (R : Desk → Desk → Prop) (kept seen : Command → Bool) :
    Prop where
  keep : ∀ {d d' : Desk} {command : Command}, R d d' → kept command = true →
    R (d.perform config command) (d'.perform config command)
  drop : ∀ {d d' : Desk} {command : Command}, R d d' → kept command = false →
    R (d.perform config command) d'
  reply_eq : ∀ {d d' : Desk} {command : Command}, R d d' → seen command = true →
    d.reply config command = d'.reply config command
  seen_kept : ∀ {command : Command}, seen command = true → kept command = true

theorem Unwinding.run (h : Unwinding config R kept seen) {d d' : Desk} (hrel : R d d')
    (commands : List Command) :
    R (d.performAll config commands) (d'.performAll config (commands.filter kept)) ∧
    (d.transcript config commands).filter (fun served => seen served.question) =
      (d'.transcript config (commands.filter kept)).filter fun served => seen served.question := by
  induction commands generalizing d d' with
  | nil => exact ⟨hrel, rfl⟩
  | cons command rest ih =>
    cases hkept : kept command with
    | false =>
      -- the second run goes on where it is
      have hseen : seen command = false := by
        cases hseen : seen command with
        | false => rfl
        | true => simp [h.seen_kept hseen] at hkept
      rcases ih (h.drop hrel hkept) with ⟨hstate, hreplies⟩
      exact ⟨by simpa [performAll, hkept] using hstate,
        by simpa [transcript, hkept, hseen] using hreplies⟩
    | true =>
      -- both runs serve the command, and it is replied alike if it is seen
      rcases ih (h.keep hrel hkept) with ⟨hstate, hreplies⟩
      refine ⟨by simpa [performAll, hkept] using hstate, ?_⟩
      cases hseen : seen command with
      | false => simpa [transcript, hkept, hseen] using hreplies
      | true =>
        have hreply := h.reply_eq hrel hseen
        simpa [transcript, hkept, hseen, hreply] using hreplies

/-- What every request keeps of a server, every command keeps of the server of a kind. -/
theorem relate_perform {kind : Kind}
    {R : Server UInt64 kind.Record → Server UInt64 kind.Record → Prop}
    (hserve : ∀ {s s'}, R s s' → ∀ request, R (s.serve request).2 (s'.serve request).2)
    {d d' : Desk} (hrel : R (d.server kind) (d'.server kind)) (command : Command) :
    R ((d.perform config command).server kind) ((d'.perform config command).server kind) := by
  rw [server_perform, server_perform]
  cases command.inquiry? with
  | none => exact hrel
  | some inquiry =>
    rcases inquiry with ⟨kind', request⟩
    by_cases hkind : kind = kind'
    · subst hkind
      simpa only [server_serve] using hserve hrel request
    · simpa only [server_serve_of_ne _ ⟨kind', request⟩ hkind] using hrel

/-! ## Other kinds -/

theorem unwinding_kind (config : Config) (kind : Kind) :
    Unwinding config (fun d d' => d.server kind = d'.server kind)
      (fun command => command.kind = kind) (fun command => command.kind = kind) := by
  refine ⟨?_, ?_, ?_, ?_⟩
  · intro d d' command hrel _
    apply relate_perform (R := Eq) _ hrel
    intro s s' hsame request
    rw [hsame]
  · intro d d' command hrel hdropped
    have hkind : command.kind ≠ kind := by simpa using hdropped
    simpa only [server_perform_of_ne config d hkind] using hrel
  · intro d d' command hrel hseen
    have hkind : command.kind = kind := by simpa using hseen
    subst hkind
    apply reply_congr_server
    intro request _
    rw [hrel]
  · intro command hseen
    exact hseen

/-! ## Other records -/

/-- The command is for the kind, and what it asks of the server is not for another record. -/
def Command.concerns (kind : Kind) (id : UInt64) (command : Command) : Bool :=
  command.kind = kind &&
    match command.inquiry? with
    | some inquiry => inquiry.request.concerns id
    | none => true

theorem Command.kind_of_concerns {kind : Kind} {id : UInt64} {command : Command}
    (h : command.concerns kind id = true) : command.kind = kind :=
  of_decide_eq_true (Bool.and_eq_true_iff.1 h).1

/-- The command sends a patch of the kind in which the identifier is not the given one. -/
def Command.patchesOther (kind : Kind) (id : UInt64) (command : Command) : Bool :=
  match command.inquiry? with
  | some ⟨kind', .patch fields⟩ => kind' = kind && Server.addressee? fields ≠ some id
  | _ => false

theorem Command.patchesOther_iff {kind : Kind} {id : UInt64} {command : Command} :
    command.patchesOther kind id = true ↔
      ∃ fields, command.inquiry? = some ⟨kind, .patch fields⟩ ∧
        Server.addressee? fields ≠ some id := by
  constructor
  · intro h
    unfold patchesOther at h
    split at h
    · rename_i kind' fields hinquiry
      have hboth : kind' = kind ∧ Server.addressee? fields ≠ some id := by simpa using h
      rcases hboth with ⟨rfl, hother⟩
      exact ⟨fields, hinquiry, hother⟩
    · cases h
  · rintro ⟨fields, hinquiry, hother⟩
    simp [patchesOther, hinquiry, hother]

theorem unwinding_record (config : Config) (kind : Kind) (id : UInt64) :
    Unwinding config (fun d d' => Server.AgreeAt id (d.server kind) (d'.server kind))
      (fun command => !command.patchesOther kind id) (Command.concerns kind id) := by
  refine ⟨?_, ?_, ?_, ?_⟩
  · intro d d' command hrel _
    exact relate_perform (fun hagree request => hagree.serve request) hrel command
  · intro d d' command hrel hdropped
    have hpatch : command.patchesOther kind id = true := by simpa using hdropped
    rcases Command.patchesOther_iff.1 hpatch with ⟨fields, hinquiry, hother⟩
    simp only [server_perform, hinquiry, server_serve]
    exact hrel.patch_left hother
  · intro d d' command hrel hseen
    have hkind : command.kind = kind := Command.kind_of_concerns hseen
    subst hkind
    apply reply_congr_server
    intro request hinquiry
    -- the request is for the record about which the servers agree, or for none
    apply hrel.answer_eq
    simpa [Command.concerns, hinquiry] using hseen
  · intro command hseen
    cases hpatch : command.patchesOther kind id with
    | false => rfl
    | true =>
      rcases Command.patchesOther_iff.1 hpatch with ⟨fields, hinquiry, hother⟩
      simp [Command.concerns, hinquiry, Request.concerns, hother] at hseen

/-! ## Results -/

/-- Of all that is done with a desk, neither the replies to the commands for a kind nor its server
depend on what is done for other kinds. Neither the replies to what concerns a record nor the record
itself depend on the patches of other records of the kind. -/
theorem no_interference (config : Config) (d : Desk) (commands : List Command) (kind : Kind) :
    (let own := commands.filter fun command => command.kind = kind
     (d.transcript config commands).filter (fun served => served.question.kind = kind) =
        d.transcript config own ∧
      (d.performAll config commands).server kind = (d.performAll config own).server kind) ∧
    ∀ id,
      let kept := commands.filter fun command => !command.patchesOther kind id
      (d.transcript config commands).filter (fun served => served.question.concerns kind id) =
        (d.transcript config kept).filter (fun served => served.question.concerns kind id) ∧
      ((d.performAll config commands).server kind).get? id =
        ((d.performAll config kept).server kind).get? id := by
  constructor
  · intro own
    rcases (unwinding_kind config kind).run (d := d) rfl commands with ⟨hserver, hreplies⟩
    refine ⟨?_, hserver⟩
    rw [hreplies]
    -- the second run has commands for the kind only
    apply List.filter_eq_self.2
    intro served hserved
    have hquestion : served.question ∈ own := by
      rw [← map_question_transcript config d own]
      exact List.mem_map_of_mem hserved
    exact (List.mem_filter.1 hquestion).2
  · intro id kept
    rcases (unwinding_record config kind id).run (Server.AgreeAt.refl id (d.server kind)) commands
      with ⟨hagree, hreplies⟩
    exact ⟨hreplies, hagree.get?_eq⟩

end Desk
end FieldPatch
