import FieldPatch.Proofs.Server.Patch
import FieldPatch.Proofs.Text.ByteOrder

/-!
# All or nothing

What a patch is answered, told by its members and the record that it addresses, and what becomes of
the store.

* `Kind.FirstRefusal`: the error of the first member that a record refuses, in the byte order of the
  keys. There is one as soon as any member is refused (`Kind.exists_firstRefusal`), and one
  only (`Kind.FirstRefusal.refuses`, `Kind.Refuses.unique`);
* `Server.patch_all_or_nothing`: the four answers to a patch. Each of the first three leaves the
  server as it was, and the fourth replaces one record.
-/

namespace FieldPatch

/-! ## Refused members -/

namespace Kind

variable {k : Kind} {fields : Json.Object} {r : k.Record} {e e' : FieldError}

/-- The record refuses a member with this error, and accepts each one whose key comes before. -/
def FirstRefusal (fields : Json.Object) (r : k.Record) (e : FieldError) : Prop :=
  ∃ field value, field ≠ idKey ∧ fields.get? field = some value ∧
    Entity.applyField field value r = .error e ∧
    ∀ field' value', field' ≠ idKey → Text.utf8 field' < Text.utf8 field →
      fields.get? field' = some value' → ∃ r', Entity.applyField field' value' r = .ok r'

/-- What one record refuses is refused by all, with the same error. -/
theorem refused_of_applyField {field : String} {value : Json}
    (h : Entity.applyField field value r = .error e) :
    e.field = field ∧ ∀ r' : k.Record, Entity.applyField field value r' = .error e := by
  rcases applyField_cases k field value with ⟨e', hfield, herror⟩ | ⟨_, _, hok⟩
  · have hsame : e' = e := by simpa [herror r] using h
    subst hsame
    exact ⟨hfield, herror⟩
  · rcases hok r with ⟨r', hr', _⟩
    simp [hr'] at h

theorem FirstRefusal.refuses (h : FirstRefusal fields r e) : k.Refuses fields e := by
  rcases h with ⟨field, value, hne, hvalue, herror, hbefore⟩
  rcases refused_of_applyField herror with ⟨rfl, hall⟩
  refine ⟨value, hne, hvalue, hall, ?_⟩
  intro field' value' hne' hlt hvalue'
  rcases hbefore field' value' hne' (Text.utf8_lt_utf8_iff.2 hlt) hvalue' with ⟨r', hr'⟩
  exact accepts_of_applyField hr'

theorem Refuses.firstRefusal (h : k.Refuses fields e) (r : k.Record) : FirstRefusal fields r e := by
  rcases h with ⟨value, hne, hvalue, hall, hbefore⟩
  refine ⟨e.field, value, hne, hvalue, hall r, ?_⟩
  intro field' value' hne' hlt hvalue'
  exact hbefore field' value' hne' (Text.utf8_lt_utf8_iff.1 hlt) hvalue' r

/-- A member that is refused does not come before the first one. -/
theorem Refuses.not_lt (r : k.Record) (h : k.Refuses fields e) (h' : k.Refuses fields e') :
    ¬ e.field < e'.field := by
  intro hlt
  rcases h with ⟨value, hne, hvalue, hall, _⟩
  rcases h' with ⟨_, _, _, _, hbefore⟩
  rcases hbefore e.field value hne hlt hvalue r with ⟨r', hr'⟩
  simp [hall r] at hr'

theorem Refuses.unique (r : k.Record) (h : k.Refuses fields e) (h' : k.Refuses fields e') :
    e = e' := by
  have hfield : e.field = e'.field :=
    Json.key_eq_of_not_lt (h.not_lt r h') (h'.not_lt r h)
  rcases h with ⟨value, _, hvalue, hall, _⟩
  rcases h' with ⟨value', _, hvalue', hall', _⟩
  -- both are what the record says to one member
  have hmember : value = value' := by
    have hboth : fields.get? e.field = some value' := hfield ▸ hvalue'
    exact Option.some.inj (hvalue.symm.trans hboth)
  have herror : Entity.applyField e.field value r = .error e' := by
    simpa [hfield, hmember] using hall' r
  exact Except.error.inj ((hall r).symm.trans herror)

theorem exists_firstRefusal {field : String} {value : Json} (hne : field ≠ idKey)
    (hvalue : fields.get? field = some value)
    (herror : Entity.applyField field value r = .error e) :
    ∃ e', FirstRefusal fields r e' := by
  rcases k.patchFields_cases fields with ⟨e', hrefuses, _⟩ | ⟨hall, _⟩
  · exact ⟨e', hrefuses.firstRefusal r⟩
  · rcases hall field value hne hvalue r with ⟨r', hr'⟩
    simp [herror] at hr'

end Kind

/-! ## Answers -/

namespace Server

open Kind

variable {k : Kind}

theorem addressee?_eq_none {fields : Json.Object}
    (h : ∀ n : Nat, n < UInt64.size → fields.get? idKey ≠ some (.ofInt n)) :
    addressee? (ι := UInt64) fields = none := by
  apply Option.eq_none_iff_forall_ne_some.2
  intro id hid
  exact h id.toNat id.toNat_lt (addressee?_eq_some_iff.1 hid)

/-- A patch without an identifier that is a word is answered so, and one of a record that is not
stored by the identifier. A stored record refuses a patch with the error of the first member that it
refuses, by the bytes of the keys. In all of these cases the server stays as it was. Otherwise the
record takes all members and keeps its identifier, and it alone is replaced. -/
theorem patch_all_or_nothing (k : Kind) (s : Server UInt64 k.Record) (hs : s.Consistent)
    (fields : Json.Object) :
    ((∀ n : Nat, n < UInt64.size → fields.get? idKey ≠ some (.ofInt n)) →
      s.patch fields = (.error .missingId, s)) ∧
    ∀ id : UInt64, fields.get? idKey = some (.ofInt id.toNat) →
      (s.get? id = none → s.patch fields = (.error (.notFound (toString id.toNat)), s)) ∧
      ∀ current, s.get? id = some current →
        ((∃ field value e, field ≠ idKey ∧ fields.get? field = some value ∧
            Entity.applyField field value current = .error e) →
          ∃ e, FirstRefusal fields current e) ∧
        (∀ e, FirstRefusal fields current e → s.patch fields = (.error (.field e), s)) ∧
        ((∀ field value, field ≠ idKey → fields.get? field = some value →
            ∃ r, Entity.applyField field value current = .ok r) →
          ∃ updated, Patched fields current updated ∧ Entity.id updated = id ∧
            (s.patch fields).1 = .ok updated ∧ Replaces id updated s (s.patch fields).2) := by
  refine ⟨fun hunusable => s.patch_of_not_addressee (addressee?_eq_none hunusable), ?_⟩
  intro id hid
  have haddressee := addressee?_eq_some_iff.2 hid
  refine ⟨fun habsent => patch_of_absent haddressee habsent, ?_⟩
  intro current hcurrent
  have hcases := patch_stored_cases haddressee hcurrent
  refine ⟨?_, ?_, ?_⟩
  · rintro ⟨field, value, e, hne, hvalue, herror⟩
    exact exists_firstRefusal hne hvalue herror
  · intro e hfirst
    rcases hcases with ⟨e', hrefuses, hserve⟩ | ⟨hall, _⟩
    · have herror : e = e' := hfirst.refuses.unique current hrefuses
      subst herror
      exact hserve
    · exact absurd hall (not_acceptsAll_of_refuses current hfirst.refuses)
  · intro haccepted
    rcases hcases with ⟨e, hrefuses, _⟩ | ⟨_, updated, hpatched, hserve⟩
    · -- the first member that is refused was to be accepted
      rcases hrefuses with ⟨value, hne, hvalue, hall, _⟩
      rcases haccepted e.field value hne hvalue with ⟨r, hr⟩
      simp [hall current] at hr
    · have hidentifier : Entity.id updated = id := by
        calc
          Entity.id updated = Entity.id current := hpatched.id_eq
          _ = id := hs id current hcurrent
      refine ⟨updated, hpatched, hidentifier, by simp [hserve], ?_⟩
      simpa [hserve] using replaces_put updated hcurrent

/-- A case is patched with a subject and with two fields that are refused, of which the priority
comes first; another patch of it names the subject only. -/
theorem patch_all_or_nothing_priority :
    let s : Server UInt64 Case := counting.serveAll [.create (.new "Broken")]
    let refused : Json.Object := .ofMembers [("status", .string "lost"),
      ("subject", .string "Mended"), ("priority", .null), ("id", .ofInt 1)]
    let accepted : Json.Object := .ofMembers [("subject", .string "Mended"), ("id", .ofInt 1)]
    Consistent (k := .case) s ∧
      s.patch refused = (.error (.field (.invalidValue "priority" "expected a string")), s) ∧
      ∃ updated : Case, updated.subject = "Mended" ∧ (s.patch accepted).1 = .ok updated ∧
        Replaces (k := .case) 1 updated s (s.patch accepted).2 := by
  intro s refused accepted
  have hs : Consistent (k := .case) s :=
    (consistent_counting (k := .case)).serve (.create (Case.new "Broken"))
  have hstored : s.get? 1 = some { Case.new "Broken" with id := 1 } := rfl
  have hrefused := (patch_all_or_nothing .case s hs refused).2 1 rfl
  have haccepted := (patch_all_or_nothing .case s hs accepted).2 1 rfl
  have hfirst : FirstRefusal (k := .case) refused { Case.new "Broken" with id := 1 }
      (.invalidValue "priority" "expected a string") := by
    refine ⟨"priority", .null, by decide, rfl, rfl, ?_⟩
    intro field value hne hlt hvalue
    have hbefore : field < "priority" := Text.utf8_lt_utf8_iff.1 hlt
    -- no key comes before it but that of the identifier
    have hkey : field ∈ refused.keys :=
      List.mem_map.2 ⟨_, refused.mem_members_iff.2 hvalue, rfl⟩
    have hkeys : refused.keys = ["id", "priority", "status", "subject"] := by decide +kernel
    simp only [hkeys, List.mem_cons, List.not_mem_nil, or_false] at hkey
    rcases hkey with rfl | rfl | rfl | rfl
    · exact absurd rfl hne
    · exact absurd hbefore (by decide)
    · exact absurd hbefore (by decide)
    · exact absurd hbefore (by decide)
  have hall : ∀ field value, field ≠ idKey → accepted.get? field = some value →
      ∃ r : Case, Entity.applyField field value { Case.new "Broken" with id := 1 } = .ok r := by
    intro field value hne hvalue
    have hmembers : accepted.members = [("id", .ofInt 1), ("subject", .string "Mended")] := rfl
    have hmem := accepted.mem_members_iff.2 hvalue
    simp only [hmembers, List.mem_cons, Prod.mk.injEq, List.not_mem_nil, or_false] at hmem
    rcases hmem with ⟨rfl, _⟩ | ⟨rfl, rfl⟩
    · exact absurd rfl hne
    · exact ⟨_, rfl⟩
  refine ⟨hs, (hrefused.2 _ hstored).2.1 _ hfirst, ?_⟩
  rcases (haccepted.2 _ hstored).2.2 hall with ⟨updated, _, _, hanswer, hreplaces⟩
  refine ⟨updated, ?_, hanswer, hreplaces⟩
  cases hanswer
  rfl

end Server
end FieldPatch
