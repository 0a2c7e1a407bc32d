import FieldPatch.Proofs.Exchange.Basic
import FieldPatch.Proofs.Exchange.Call
import FieldPatch.Proofs.Record.Changes

/-!
# The order of service

Calls that share a server are served as if they came one after the other, in the order in which they
began to send.

* `Exchange.Sound.nodup_served`: every call is served once at most;
* `Exchange.Sound.reply_eq`: a request returns the answer that it got when its turn came;
* `Exchange.Sound.agrees`: neither capacity nor schedule has a say in the result of a call;
* `Exchange.Sound.own_change`: an update that is applied shows the record that its own change left;
* `Exchange.served_in_sequence`: all of this for every state that a schedule leads to.
-/

namespace FieldPatch
namespace Exchange

variable {ι ρ : Type} [DecidableEq ι] [Identifier ι] [Entity ι ρ]

/-- The calls of clients, none of which has begun. -/
def ofCalls (capacity : Mailbox.Capacity) (server : Server ι ρ) (calls : List (Client.Call ι ρ)) :
    Exchange ι ρ (Client.Result ι ρ) :=
  start capacity server (calls.map Client.Call.dialogue)

/-- The invariant of an exchange between the calls of clients. -/
abbrev Sound (s₀ : Server ι ρ) (calls : List (Client.Call ι ρ))
    (e : Exchange ι ρ (Client.Result ι ρ)) : Prop :=
  Invariant s₀ (calls.map Client.Call.dialogue) e

variable {s₀ : Server ι ρ} {calls : List (Client.Call ι ρ)}
  {e e' : Exchange ι ρ (Client.Result ι ρ)}

/-! ## One state -/

/-- A call stands where its answers have led it. -/
theorem Sound.follows (h : Sound s₀ calls e) {i : Nat} {call : Client.Call ι ρ}
    (hcall : calls[i]? = some call) : ∃ rest, call.dialogue.Follows (e.answers i) rest := by
  have hdialogue : (calls.map Client.Call.dialogue)[i]? = some call.dialogue := by simp [hcall]
  have hlt : i < e.stages.length := by
    rw [h.length_eq]
    exact (List.getElem?_eq_some_iff.1 hdialogue).1
  cases hstage : e.stages[i] with
  | active rest =>
    exact ⟨rest, h.standing i _ rest hdialogue (.inl (by simp [hlt, hstage]))⟩
  | replied rest =>
    exact ⟨rest, h.standing i _ rest hdialogue (.inr (by simp [hlt, hstage]))⟩
  | sent =>
    -- the message on the way tells how far its caller has come
    rcases List.mem_map.1 (h.carried i (by simp [hlt, hstage])) with ⟨message, hmem, rfl⟩
    rcases (h.awaited message hmem).2 with ⟨d, hd, hfollows⟩
    have hsame : d = call.dialogue := Option.some.inj (hd.symm.trans hdialogue)
    subst hsame
    exact ⟨_, hfollows⟩

theorem Sound.length_answers_le (h : Sound s₀ calls e) (i : Nat) : (e.answers i).length ≤ 1 := by
  cases hcall : calls[i]? with
  | some call =>
    rcases h.follows hcall with ⟨rest, hfollows⟩
    exact call.length_le_of_follows hfollows
  | none =>
    -- nothing is served to a caller that there is not
    have hnone : e.answers i = [] := by
      apply List.eq_nil_iff_forall_not_mem.2
      intro served hmem
      rcases h.asked _ (Numbered.mem_entriesOf.1 hmem) with ⟨d, _, _, hd, _⟩
      simp [hcall] at hd
    simp [hnone]

theorem Sound.nodup_served (h : Sound s₀ calls e) : (e.served.map Prod.fst).Nodup :=
  Numbered.nodup_of_length_entriesOf_le h.length_answers_le

theorem Sound.prefix_begun (h : Sound s₀ calls e) : e.served.map Prod.fst <+: e.begun :=
  ⟨_, h.begun_eq.symm⟩

/-- What was served is what the requests before it made of the server. -/
theorem Sound.answer_eq (h : Sound s₀ calls e) {before after : List (Nat × Answered (Request ι ρ))}
    {i : Nat} {served : Answered (Request ι ρ)}
    (hsplit : e.served = before ++ (i, served) :: after) :
    served.answer =
      ((s₀.serveAll (before.map fun entry => entry.2.question)).serve served.question).1 := by
  have htranscript : s₀.transcript e.requests =
      before.map Prod.snd ++ served :: after.map Prod.snd := by
    simp [← h.served_eq, hsplit]
  have hanswer := Server.answer_of_transcript htranscript
  rwa [List.map_map] at hanswer

/-- A call that has ended returned what its answers made it return. -/
theorem Sound.returns (h : Sound s₀ calls e) {i : Nat} {call : Client.Call ι ρ}
    {result : Client.Result ι ρ} (hcall : calls[i]? = some call)
    (hresult : e.result? i = some result) :
    call.dialogue.Follows (e.answers i) (.done result) ∧ call.Returns (e.answers i) result := by
  have hdialogue : (calls.map Client.Call.dialogue)[i]? = some call.dialogue := by simp [hcall]
  have hstage : e.stages[i]? = some (.active (.done result)) := by
    simp only [result?] at hresult
    split at hresult
    · rename_i result' hstage
      cases hresult
      exact hstage
    · cases hresult
  have hfollows := h.standing i _ _ hdialogue (.inl hstage)
  exact ⟨hfollows, call.ends_dialogue.of_follows_done hfollows⟩

omit [DecidableEq ι] [Identifier ι] [Entity ι ρ] in
/-- The answer of a call that was answered once, with what was served before. -/
theorem split_of_answers {i : Nat} {served : Answered (Request ι ρ)}
    (hanswers : e.answers i = [served]) :
    ∃ before after, e.served = before ++ (i, served) :: after := by
  have hmem : (i, served) ∈ e.served := by
    apply Numbered.mem_entriesOf.1
    have hone : Numbered.entriesOf i e.served = [served] := hanswers
    simp [hone]
  exact List.append_of_mem hmem

/-- A request that has ended returned the answer that it got when its turn came. -/
theorem Sound.reply_eq (h : Sound s₀ calls e) {i : Nat} {r : Request ι ρ}
    {result : Client.Result ι ρ} (hcall : calls[i]? = some (.request r))
    (hresult : e.result? i = some result) :
    ∃ before answer after, e.served = before ++ (i, ⟨r, answer⟩) :: after ∧
      answer = ((s₀.serveAll (before.map fun entry => entry.2.question)).serve r).1 ∧
      result = .reply ⟨r, answer⟩ := by
  rcases (h.returns hcall hresult).2 with ⟨answer, hanswers, rfl⟩
  rcases split_of_answers hanswers with ⟨before, after, hsplit⟩
  exact ⟨before, answer, after, hsplit, h.answer_eq hsplit, rfl⟩

/-! ## Two states -/

/-- Where the callers began in one order, the same was served to those served in both. -/
theorem Sound.prefix_served (h : Sound s₀ calls e) (h' : Sound s₀ calls e')
    (hcallers : e.served.map Prod.fst <+: e'.served.map Prod.fst) : e.served <+: e'.served := by
  have hrequests : e.requests <+: e'.requests := by
    refine Numbered.prefix_map_of_agree hcallers ?_
    intro entry hmem entry' hmem' hsame
    rcases h.asked entry hmem with ⟨d, before, next, hd, hfollows⟩
    rcases h'.asked entry' hmem' with ⟨d', before', next', hd', hfollows'⟩
    have hdialogue : d = d' := by
      have hd₁ : (calls.map Client.Call.dialogue)[entry'.1]? = some d := by simpa [hsame] using hd
      exact Option.some.inj (hd₁.symm.trans hd')
    subst hdialogue
    -- both are the first request of the same call
    have hcall : ∃ call : Client.Call ι ρ, call.dialogue = d := by
      rcases List.mem_map.1 (List.mem_of_getElem? hd) with ⟨call, _, hcall⟩
      exact ⟨call, hcall⟩
    rcases hcall with ⟨call, rfl⟩
    have hnil := call.eq_nil_of_follows_ask hfollows
    have hnil' := call.eq_nil_of_follows_ask hfollows'
    subst hnil hnil'
    exact hfollows.question_unique hfollows'
  -- the same requests get the same answers from the same server
  have hentries : e.served.map Prod.snd <+: e'.served.map Prod.snd := by
    rcases hrequests with ⟨more, hmore⟩
    calc
      e.served.map Prod.snd = s₀.transcript e.requests := h.served_eq
      _ <+: s₀.transcript e.requests ++ (s₀.serveAll e.requests).transcript more :=
        List.prefix_append _ _
      _ = s₀.transcript e'.requests := by rw [← hmore, Server.transcript_append]
      _ = e'.served.map Prod.snd := h'.served_eq.symm
  exact Numbered.prefix_of_map hcallers hentries

theorem Sound.exists_call (h : Sound s₀ calls e) {i : Nat} {result : Client.Result ι ρ}
    (hresult : e.result? i = some result) : ∃ call, calls[i]? = some call := by
  have hlt : i < e.stages.length := by
    by_contra hge
    have hnone : e.stages[i]? = none := List.getElem?_eq_none (Nat.le_of_not_lt hge)
    simp [result?, hnone] at hresult
  have hcalls : i < calls.length := by simpa [h.length_eq] using hlt
  exact ⟨calls[i], List.getElem?_eq_getElem hcalls⟩

theorem Sound.result_agrees_of_prefix (h : Sound s₀ calls e) (h' : Sound s₀ calls e')
    (hserved : e.served <+: e'.served) {i : Nat} {result result' : Client.Result ι ρ}
    (hresult : e.result? i = some result) (hresult' : e'.result? i = some result') :
    result = result' := by
  rcases h.exists_call hresult with ⟨call, hcall⟩
  have hfollows := (h.returns hcall hresult).1
  have hfollows' := (h'.returns hcall hresult').1
  exact hfollows.result_unique hfollows' (Numbered.prefix_entriesOf hserved i)

/-- Where the calls began in one order, those that have ended in both states returned the same, and
the servers are the same once they have served as much. -/
theorem Sound.agrees (h : Sound s₀ calls e) (h' : Sound s₀ calls e')
    (hbegun : e.begun <+: e'.begun) :
    (∀ i result result', e.result? i = some result → e'.result? i = some result' →
      result = result') ∧
    (e.served.length = e'.served.length → e.server = e'.server) := by
  have hcallers := h.prefix_begun.trans hbegun
  -- one of the two has served at least as much as the other
  rcases List.prefix_or_prefix_of_prefix hcallers h'.prefix_begun with hless | hmore
  · have hserved := h.prefix_served h' hless
    refine ⟨?_, ?_⟩
    · intro i result result' hresult hresult'
      exact h.result_agrees_of_prefix h' hserved hresult hresult'
    · intro hlength
      have hsame : e.served = e'.served := hserved.eq_of_length hlength
      simp [h.server_eq, h'.server_eq, requests, hsame]
  · have hserved := h'.prefix_served h hmore
    refine ⟨?_, ?_⟩
    · intro i result result' hresult hresult'
      exact (h'.result_agrees_of_prefix h hserved hresult' hresult).symm
    · intro hlength
      have hsame : e'.served = e.served := hserved.eq_of_length hlength.symm
      simp [h.server_eq, h'.server_eq, requests, hsame]

/-! ## Updates -/

/-- A call was to give a field of the target this value. It was applied and got this response. -/
def Applied (calls : List (Client.Call ι ρ)) (e : Exchange ι ρ (Client.Result ι ρ)) (i : Nat)
    (target : Target) (field : String) (value response : Json) : Prop :=
  ∃ x kind message, calls[i]? = some (.update x kind target field (.single value)) ∧
    e.result? i = some (.outcome (.applied response message))

/-- An update that is applied has put its own value into the record that was stored when its turn
came, and returns what this record has become. -/
theorem Sound.own_change (h : Sound s₀ calls e) {i : Nat} {target : Target} {field : String}
    {value response : Json} (happlied : Applied calls e i target field value response) :
    ∃ before after id current updated,
      e.served = before ++
        (i, Client.accepted (Payload.single target.id field value).toObject updated) :: after ∧
      Identifier.ofJson? target.id = some id ∧
      (s₀.serveAll (before.map fun entry => entry.2.question)).get? id = some current ∧
      Entity.applyField field value current = .ok updated ∧
      Entity.encode updated = .ok response := by
  rcases happlied with ⟨x, kind, message, hcall, hresult⟩
  rcases (h.returns hcall hresult).2 with ⟨o, ho, hreturns⟩
  cases ho
  cases hpayload : (Change.single value).payload (some field) (some target) with
  | error reason =>
    -- without a payload nothing is applied
    simp [hpayload, Outcome.response?] at hreturns
  | ok payload =>
    rcases Change.payload_single_eq_ok_iff.1 hpayload with ⟨_, hfield, hsingle⟩
    subst hsingle
    have hconveys : Client.Conveys (Payload.single target.id field value).toObject (e.answers i)
        (some response) := by
      simpa [hpayload, Outcome.response?] using hreturns
    rcases hconveys.2 response rfl with ⟨updated, hanswers, hencode⟩
    rcases split_of_answers hanswers with ⟨before, after, hsplit⟩
    have hanswer := (h.answer_eq hsplit).symm
    rcases Server.of_patch_eq_ok hanswer with ⟨id, current, hid, hcurrent, happly, _⟩
    rw [Payload.members_erase_single _ _ hfield, Server.applyFields_singleton] at happly
    have htarget : Identifier.ofJson? target.id = some id := by
      simpa [Server.addressee?, Payload.get?_toObject_single] using hid
    exact ⟨before, after, id, current, updated, hsplit, htarget, hcurrent, happly, hencode⟩

/-! ## Schedules -/

/-- Whatever the capacity and the schedule: every request is served at most once, in the order in
which the calls began to send. The server is what the served requests make of an empty one in this
order, and what a call returns is the answer to its own request there. So the calls agree with those
of any other exchange in which they begin in this order. An update that is applied carries its own
value. -/
theorem served_in_sequence (mint : Nat → ι) (capacity : Mailbox.Capacity)
    (calls : List (Client.Call ι ρ)) (schedule : List Move) {e : Exchange ι ρ (Client.Result ι ρ)}
    (h : (ofCalls capacity (.start mint) calls).run schedule = some e) :
    let s₀ : Server ι ρ := .start mint
    (e.served.map Prod.fst).Nodup ∧ e.served.map Prod.fst <+: e.begun ∧
    e.server = s₀.serveAll e.requests ∧
    (∀ i r result, calls[i]? = some (.request r) → e.result? i = some result →
      ∃ before answer after, e.served = before ++ (i, ⟨r, answer⟩) :: after ∧
        answer = ((s₀.serveAll (before.map fun entry => entry.2.question)).serve r).1 ∧
        result = .reply ⟨r, answer⟩) ∧
    (∀ capacity' schedule' e', (ofCalls capacity' s₀ calls).run schedule' = some e' →
      e.begun <+: e'.begun →
        (∀ i result result', e.result? i = some result → e'.result? i = some result' →
          result = result') ∧
        (e.served.length = e'.served.length → e.server = e'.server)) ∧
    (∀ i target field value response, Applied calls e i target field value response →
      ∃ before after id current updated,
        e.served = before ++
          (i, Client.accepted (Payload.single target.id field value).toObject updated) :: after ∧
        Identifier.ofJson? target.id = some id ∧
        (s₀.serveAll (before.map fun entry => entry.2.question)).get? id = some current ∧
        Entity.applyField field value current = .ok updated ∧
        Entity.encode updated = .ok response) ∧
    ∀ (k : Kind) (mint : Nat → UInt64) (calls : List (Client.Call UInt64 k.Record)) schedule e,
      (ofCalls capacity (.start mint) calls).run schedule = some e →
        ∀ i target field value response, Applied calls e i target field value response →
          ∃ (o : Json.Object) (content : Content), response = o.toJson ∧
            Content.ofJson? value = some content ∧ o.get? field = some content.toJson := by
  intro s₀
  have hsound : Sound s₀ calls e := invariant_run capacity h
  refine ⟨hsound.nodup_served, hsound.prefix_begun, hsound.server_eq, ?_, ?_, ?_, ?_⟩
  · intro i r result hcall hresult
    exact hsound.reply_eq hcall hresult
  · intro capacity' schedule' e' h'
    exact hsound.agrees (invariant_run capacity' h')
  · intro i target field value response
    exact hsound.own_change
  · intro k mint calls schedule e h i target field value response happlied
    have hsound : Sound (.start mint) calls e := invariant_run capacity h
    rcases hsound.own_change happlied with ⟨_, _, _, current, updated, _, _, _, happly, hencode⟩
    exact Kind.get?_of_applyField happly hencode

/-- An account is created, and another call describes it. -/
def creationAndUpdate : List (Client.Call UInt64 Account) :=
  [.request (.create (.new "Acme")),
    .update ⟨⟨[(.account, ⟨(), []⟩)], by simp⟩, {}⟩ .account ⟨.ofInt 1⟩ "description"
      (.single (.string "A customer"))]

/-- The update has to wait until the creation has left the queue, and is applied. -/
theorem served_in_sequence_waiting :
    ∃ schedule e, (ofCalls .one .counting creationAndUpdate).run schedule = some e ∧
      ∃ (o : Json.Object) (content : Content),
        Applied creationAndUpdate e 1 ⟨.ofInt 1⟩ "description" (.string "A customer") o.toJson ∧
        o.get? "description" = some content.toJson := by
  have hrun : ∃ e, (ofCalls .one .counting creationAndUpdate).run
      [.act 0, .act 1, .act 1, .act 1, .act 1, .act 1, .enter, .serve, .enter, .serve, .take 1,
        .take 0, .act 1, .act 1, .act 1, .act 1] = some e ∧
      ∃ response, Applied creationAndUpdate e 1 ⟨.ofInt 1⟩ "description" (.string "A customer")
        response :=
    ⟨_, rfl, _, _, _, _, rfl, rfl⟩
  rcases hrun with ⟨e, he, response, happlied⟩
  have hsequence := served_in_sequence _ .one creationAndUpdate _ he
  rcases hsequence.2.2.2.2.2.2 .account _ creationAndUpdate _ e he 1 _ _ _ _ happlied with
    ⟨o, content, rfl, _, hfield⟩
  exact ⟨_, e, he, o, content, happlied, hfield⟩

end Exchange
end FieldPatch
