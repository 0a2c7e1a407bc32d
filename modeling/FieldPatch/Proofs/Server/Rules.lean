import FieldPatch.Proofs.Record.Rules
import FieldPatch.Proofs.Server.LastWrite

/-!
# Rules over the life of a record

Records are created without regard to the rules of their kind, and patched under them.

* `Server.Untouched`: nobody has written a field of a record since its creation;
* `Server.accepts_of_write?`: what an accepted patch wrote was acceptable;
* `Server.obeys_or_untouched`: a field of a stored record obeys its rule, or nobody has written it;
* `Server.shown?`: the record that an answer shows. It was stored at some time of the run
  (`Server.exists_stored_of_shown?`);
* `Server.rules_kept`: where all records are created lawful, those that are stored or shown are
  lawful.
-/

namespace FieldPatch
namespace Server

open Kind

/-! ## Answers in a run -/

section Answers

variable {ι ρ : Type} [DecidableEq ι] [Identifier ι] [Entity ι ρ]

theorem map_question_transcript (s : Server ι ρ) (requests : List (Request ι ρ)) :
    (s.transcript requests).map Answered.question = requests := by
  induction requests generalizing s with
  | nil => rfl
  | cons request rest ih => simp [transcript, ih]

/-- What stands in a transcript was answered after the requests before it. -/
theorem exists_split_of_mem_transcript {s : Server ι ρ} {requests : List (Request ι ρ)}
    {served : Answered (Request ι ρ)} (h : served ∈ s.transcript requests) :
    ∃ before after, requests = before ++ served.question :: after ∧
      served.answer = ((s.serveAll before).serve served.question).1 := by
  rcases List.append_of_mem h with ⟨front, back, hsplit⟩
  refine ⟨front.map Answered.question, back.map Answered.question, ?_, answer_of_transcript hsplit⟩
  simpa [map_question_transcript] using congrArg (List.map Answered.question) hsplit

omit [Entity ι ρ] in
theorem write?_eq_some_iff {id : ι} {field : String} {served : Answered (Request ι ρ)}
    {value : Json} :
    write? id field served = some value ↔
      ∃ fields updated, served = ⟨.patch fields, .ok updated⟩ ∧ addressee? fields = some id ∧
        fields.get? field = some value := by
  constructor
  · intro h
    unfold write? at h
    split at h
    · rename_i fields updated
      split at h
      · rename_i hid
        exact ⟨fields, updated, rfl, hid, h⟩
      · cases h
    · cases h
  · rintro ⟨fields, updated, rfl, hid, hvalue⟩
    simpa [write?, hid] using hvalue

/-- The record that an answer shows. -/
def shown? : Answered (Request ι ρ) → Option ρ
  | ⟨.get _, .ok found⟩ => found
  | ⟨.patch _, .ok updated⟩ => some updated
  | _ => none

/-- What an answer shows was stored when it was given. -/
theorem exists_stored_of_shown? {s : Server ι ρ} {requests : List (Request ι ρ)}
    {served : Answered (Request ι ρ)} {r : ρ} (h : served ∈ s.transcript requests)
    (hshown : shown? served = some r) :
    ∃ upto, upto <+: requests ∧ ∃ id, (s.serveAll upto).get? id = some r := by
  rcases exists_split_of_mem_transcript h with ⟨before, after, hsplit, hanswer⟩
  unfold shown? at hshown
  split at hshown
  · rename_i id found
    -- a look-up shows what was stored before it
    have hfound : (s.serveAll before).get? id = found := (Except.ok.inj hanswer).symm
    exact ⟨before, ⟨_, hsplit.symm⟩, id, hfound.trans hshown⟩
  · rename_i fields updated
    cases hshown
    have hpatch : ((s.serveAll before).patch fields).1 = .ok r := hanswer.symm
    rcases of_patch_eq_ok hpatch with ⟨id, _, _, _, _, hnext⟩
    refine ⟨before ++ [.patch fields], ⟨after, by simp [hsplit]⟩, id, ?_⟩
    have hstate : s.serveAll (before ++ [.patch fields]) =
        { s.serveAll before with store := (s.serveAll before).store.put id r } :=
      (s.serveAll_snoc before (.patch fields)).trans hnext
    rw [hstate]
    exact (s.serveAll before).store.get?_put_self id r
  · cases hshown

end Answers

/-! ## Fields with a rule -/

variable {k : Kind}

/-- The record was created with what the field holds, and no accepted patch of it has named the
field. -/
def Untouched (t : List (Answered (Request UInt64 k.Record))) (id : UInt64) (field : String)
    (r : k.Record) : Prop :=
  ∃ created, t.filterMap (creation? id) = [created] ∧ t.filterMap (write? id field) = [] ∧
    content? r field = content? created field

theorem acceptsAll_of_patch_eq_ok {s : Server UInt64 k.Record} {fields : Json.Object}
    {updated : k.Record} (h : (s.patch fields).1 = .ok updated) : k.AcceptsAll fields := by
  rcases s.patch_kind_cases fields with
    ⟨_, hserve⟩ | ⟨_, _, ⟨_, hserve⟩ | ⟨_, _, ⟨_, _, hserve⟩ | ⟨hall, _⟩⟩⟩
  · simp [hserve] at h
  · simp [hserve] at h
  · simp [hserve] at h
  · exact hall

theorem accepts_of_write? {s : Server UInt64 k.Record} {requests : List (Request UInt64 k.Record)}
    {id : UInt64} {field : String} {value : Json} (hfield : field ≠ idKey)
    (h : value ∈ (s.transcript requests).filterMap (write? id field)) :
    k.Accepts (field, value) ∧
      ∃ fields, Request.patch fields ∈ requests ∧ fields.get? field = some value := by
  rcases List.mem_filterMap.1 h with ⟨served, hmem, hwrite⟩
  rcases write?_eq_some_iff.1 hwrite with ⟨fields, updated, rfl, _, hvalue⟩
  rcases exists_split_of_mem_transcript hmem with ⟨before, after, hsplit, hanswer⟩
  have hpatch : ((s.serveAll before).patch fields).1 = .ok updated := hanswer.symm
  have haccepts := acceptsAll_of_patch_eq_ok hpatch field value hfield hvalue
  exact ⟨haccepts, fields, by simp [hsplit], hvalue⟩

/-- No patch carries a number that is too large for a double. -/
def FiniteNumbers (requests : List (Request UInt64 k.Record)) : Prop :=
  ∀ fields, Request.patch fields ∈ requests →
    ∀ field n, fields.get? field = some (.number n) → n.toFloat.isFinite

theorem obeys_or_untouched {requests : List (Request UInt64 k.Record)}
    (hcount : requests.countP Request.isCreate < UInt64.size) (hfinite : FiniteNumbers requests)
    {id : UInt64} {r : k.Record} (hget : (counting.serveAll requests).get? id = some r)
    {field : String} {rule : Rule} (hrule : (field, rule) ∈ k.rules) :
    Obeys r field rule ∨ Untouched (counting.transcript requests) id field r := by
  have hmem : field ∈ k.fieldNames := mem_fieldNames_of_mem_rules hrule
  have hne : field ≠ idKey := ne_idKey_of_mem hmem
  rcases ((recorded_serveAll requests hcount).stored id r hget).holds with
    ⟨created, hcreated, hfields⟩
  have hlast := hfields field (patchable_iff.2 hmem)
  cases hlatest : latest? (counting.transcript requests) id field with
  | none =>
    refine .inr ⟨created, hcreated, List.getLast?_eq_none_iff.1 hlatest, ?_⟩
    simpa [hlatest] using hlast
  | some value =>
    -- the value written last was accepted, and so the rule has admitted it
    rw [hlatest] at hlast
    rcases hlast with ⟨content, hcontent, hholds⟩
    rcases accepts_of_write? hne (List.mem_of_getLast? hlatest) with
      ⟨haccepts, fields, hpatch, hvalue⟩
    refine .inl ⟨content, hholds, holds_of_accepts hrule r haccepts hcontent ?_⟩
    intro n hn
    exact hfinite fields hpatch field n (hn ▸ hvalue)

/-- A record that was created lawful is stored lawful. -/
theorem lawful_of_created {requests : List (Request UInt64 k.Record)}
    (hcount : requests.countP Request.isCreate < UInt64.size) (hfinite : FiniteNumbers requests)
    (hlawful : ∀ record, Request.create record ∈ requests → k.Lawful record) {id : UInt64}
    {r : k.Record} (hget : (counting.serveAll requests).get? id = some r) : Lawful r := by
  intro field rule hrule
  rcases obeys_or_untouched hcount hfinite hget hrule with hobeys | ⟨created, hcreated, _, hsame⟩
  · exact hobeys
  · have hcreation : created ∈ (counting.transcript requests).filterMap (creation? id) := by
      simp [hcreated]
    rcases List.mem_filterMap.1 hcreation with ⟨served, hmem, hserved⟩
    have hrequest : Request.create created ∈ requests := by
      rw [← map_question_transcript counting requests]
      unfold creation? at hserved
      split at hserved
      · split at hserved
        · cases hserved
          exact List.mem_map_of_mem hmem
        · cases hserved
      · cases hserved
    rcases hlawful created hrequest field rule hrule with ⟨content, hcontent, hholds⟩
    exact ⟨content, hsame.trans hcontent, hholds⟩

/-- In every field with a rule, a stored record obeys the rule, or it holds what it was created with
and no accepted patch has named the field. Where all records are created lawful, those that are
stored and those that are shown in answers are lawful. -/
theorem rules_kept (k : Kind) (requests : List (Request UInt64 k.Record))
    (hcount : requests.countP Request.isCreate < UInt64.size) (hfinite : FiniteNumbers requests) :
    let s : Server UInt64 k.Record := counting.serveAll requests
    let t := counting.transcript requests
    (∀ id r, s.get? id = some r → ∀ field rule, (field, rule) ∈ k.rules →
      Obeys r field rule ∨ Untouched t id field r) ∧
    ((∀ record, Request.create record ∈ requests → k.Lawful record) →
      (∀ id r, s.get? id = some r → Lawful r) ∧ ∀ r ∈ t.filterMap shown?, Lawful r) := by
  intro s t
  refine ⟨fun id r hget field rule => obeys_or_untouched hcount hfinite hget, ?_⟩
  intro hlawful
  refine ⟨fun id r => lawful_of_created hcount hfinite hlawful, ?_⟩
  intro r hmem
  rcases List.mem_filterMap.1 hmem with ⟨served, hserved, hshown⟩
  rcases exists_stored_of_shown? hserved hshown with ⟨upto, hfront, id, hget⟩
  -- the requests up to the answer are a run of their own
  refine lawful_of_created (Nat.lt_of_le_of_lt hfront.sublist.countP_le hcount) ?_ ?_ hget
  · intro fields hfields
    exact hfinite fields (hfront.subset hfields)
  · intro record hrecord
    exact hlawful record (hfront.subset hrecord)

/-- Hours are changed once, and a change to negative hours is refused. A second time log is created
with negative hours, which stay as they are. -/
theorem rules_kept_hours :
    let change (hours : Float) : Request UInt64 TimeLog :=
      .patch (Payload.single (.ofInt 1) "hours_logged" (.number (.float hours))).toObject
    let requests : List (Request UInt64 TimeLog) :=
      [.create (.new "Call" 0.5), change 1.25, change (-2)]
    let requests' := requests ++ [.create (.new "Travel" (-1))]
    requests'.countP Request.isCreate < UInt64.size ∧ FiniteNumbers (k := .timeLog) requests' ∧
      (∀ record, Request.create record ∈ requests → Lawful (k := .timeLog) record) ∧
      (∃ r : TimeLog, (counting.serveAll requests).get? 1 = some r ∧ r.hoursLogged = 1.25 ∧
        Lawful (k := .timeLog) r) ∧
      ∃ r : TimeLog, (counting.serveAll requests').get? 2 = some r ∧
        Untouched (k := .timeLog) (counting.transcript requests') 2 "hours_logged" r := by
  intro change requests requests'
  have hcount : requests'.countP Request.isCreate < UInt64.size := by decide
  have hchange (hours : Float) (hhours : hours.isFinite) (field : String) (n : Json.Number)
      (hget : (Payload.single (.ofInt 1) "hours_logged" (.number (.float hours))).toObject.get?
        field = some (.number n)) : n.toFloat.isFinite := by
    rw [Payload.get?_toObject] at hget
    split at hget
    · cases hget
      decide
    · split at hget
      · cases hget
        exact hhours
      · cases hget
  have hfinite : FiniteNumbers (k := .timeLog) requests' := by
    intro fields hmem
    simp only [requests', requests, change, List.cons_append, List.nil_append, List.mem_cons,
      reduceCtorEq, Request.patch.injEq, List.not_mem_nil, false_or, or_false] at hmem
    rcases hmem with rfl | rfl
    · exact hchange 1.25 (by decide)
    · exact hchange (-2) (by decide)
  have hlawful : ∀ record, Request.create record ∈ requests → Lawful (k := .timeLog) record := by
    intro record hmem field rule hrule
    simp only [requests, change, List.mem_cons, Request.create.injEq, reduceCtorEq,
      List.not_mem_nil, or_false] at hmem
    subst hmem
    obtain ⟨rfl, rfl⟩ : field = "hours_logged" ∧ rule = .notNegative := by
      simpa [rules] using hrule
    exact ⟨.hours 0.5, rfl, by decide, by decide⟩
  have hfinite' : FiniteNumbers (k := .timeLog) requests := by
    intro fields hmem
    exact hfinite fields (List.mem_append_left _ hmem)
  refine ⟨hcount, hfinite, hlawful, ⟨⟨1, "Call", 1.25, false⟩, by decide +kernel, rfl, ?_⟩,
    ⟨2, "Travel", -1, false⟩, by decide +kernel, ?_⟩
  · exact ((rules_kept .timeLog requests (by decide) hfinite').2 hlawful).1 1 _ (by decide +kernel)
  · have hrule := (rules_kept .timeLog requests' hcount hfinite).1 2 ⟨2, "Travel", -1, false⟩
      (by decide +kernel) "hours_logged" .notNegative (by simp [rules])
    refine hrule.resolve_left ?_
    -- the hours of the second time log are against the rule
    rintro ⟨content, hcontent, hholds⟩
    cases hcontent
    exact hholds.2 (by decide)

end Server
end FieldPatch
