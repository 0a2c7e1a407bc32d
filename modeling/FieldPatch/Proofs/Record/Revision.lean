import FieldPatch.Proofs.Record.Changes

/-!
# Revisions of records

What a patch makes of a record, whether it is accepted or not: a refused patch makes nothing of it.

* `Kind.ext_content?`: identifier and contents determine a record;
* `Kind.revised`: the record after a patch;
* `Kind.id_revised`, `Kind.content?_revised`: a revision keeps the identifier and every field that
  the patch does not name;
* `Kind.revised_comm`: patches that name different fields may be exchanged;
* `Kind.revised_revised`: a second revision with the same patch changes nothing.
-/

namespace FieldPatch

/-- No field is named by both patches; the identifier is none. -/
def Json.Object.FieldsApart (fields fields' : Json.Object) : Prop :=
  ∀ field, field ≠ idKey → fields.get? field = none ∨ fields'.get? field = none

namespace Kind

variable {k : Kind}

theorem nodup_fieldNames (k : Kind) : k.fieldNames.Nodup := by
  cases k <;> decide

theorem ext_contents {r r' : k.Record} (hid : Entity.id r = Entity.id r')
    (h : contents r = contents r') : r = r' := by
  cases k with
  | contact =>
    cases r
    cases r'
    simp_all [contents, Contact.contents, Entity.id]
  | account =>
    cases r
    cases r'
    simp_all [contents, Account.contents, Entity.id]
  | case =>
    cases r
    cases r'
    simp_all [contents, Case.contents, Entity.id]
  | timeLog =>
    cases r
    cases r'
    simp_all [contents, TimeLog.contents, Entity.id]

/-- Records that agree in their identifier and in every field are equal. -/
theorem ext_content? {r r' : k.Record} (hid : Entity.id r = Entity.id r')
    (h : ∀ field, content? r field = content? r' field) : r = r' := by
  apply ext_contents hid
  apply Keyed.ext_lookup _ _ h
  · simp [map_fst_contents]
  · simpa [map_fst_contents] using k.nodup_fieldNames

/-! ## Revisions -/

def revised (fields : Json.Object) (r : k.Record) : k.Record :=
  match Server.applyFields (fields.erase idKey).members r with
  | .ok r' => r'
  | .error _ => r

theorem revised_of_ok {fields : Json.Object} {r r' : k.Record}
    (h : Server.applyFields (fields.erase idKey).members r = .ok r') : revised fields r = r' := by
  simp [revised, h]

/-- A patch puts its changes into every record of the kind, or it leaves every record as it is. -/
theorem revised_cases (k : Kind) (fields : Json.Object) :
    (∀ r : k.Record, revised fields r = r) ∨ ∀ r : k.Record, Patched fields r (revised fields r) := by
  rcases k.patchFields_cases fields with ⟨e, _, herror⟩ | ⟨_, hok⟩
  · refine .inl ?_
    intro r
    simp [revised, herror r]
  · refine .inr ?_
    intro r
    rcases hok r with ⟨r', happly, hpatched⟩
    simpa [revised_of_ok happly] using hpatched

theorem id_revised (fields : Json.Object) (r : k.Record) :
    Entity.id (revised fields r) = Entity.id r := by
  rcases k.revised_cases fields with hsame | hpatched
  · simp [hsame r]
  · exact (hpatched r).id_eq

theorem content?_idKey (r : k.Record) : content? r idKey = none := by
  apply Option.not_isSome_iff_eq_none.1
  simpa [isSome_content?_iff] using k.idKey_not_mem_fieldNames

/-- What a patched record holds in any field. -/
theorem Patched.content?_eq_elim {fields : Json.Object} {r r' : k.Record}
    (h : Patched fields r r') (field : String) :
    content? r' field =
      if field = idKey then none
      else (fields.get? field).elim (content? r field) Content.ofJson? := by
  by_cases hfield : field = idKey
  · simp [hfield, content?_idKey]
  · simpa [hfield] using h.content?_eq field hfield

theorem content?_revised {fields : Json.Object} {field : String} (h : fields.get? field = none)
    (r : k.Record) : content? (revised fields r) field = content? r field := by
  rcases k.revised_cases fields with hsame | hpatched
  · simp [hsame r]
  · by_cases hfield : field = idKey
    · simp [hfield, content?_idKey]
    · simpa [h] using (hpatched r).content?_eq field hfield

/-! ## Two revisions -/

theorem Patched.comm {P Q : Json.Object} (h : P.FieldsApart Q) {r rP rQ rPQ rQP : k.Record}
    (hP : Patched P r rP) (hPQ : Patched Q rP rPQ) (hQ : Patched Q r rQ)
    (hQP : Patched P rQ rQP) : rPQ = rQP := by
  apply ext_content?
  · simp [hPQ.id_eq, hP.id_eq, hQP.id_eq, hQ.id_eq]
  · intro field
    simp only [hPQ.content?_eq_elim, hP.content?_eq_elim, hQP.content?_eq_elim,
      hQ.content?_eq_elim]
    by_cases hfield : field = idKey
    · simp [hfield]
    · rcases h field hfield with hnone | hnone
      · simp [hfield, hnone]
      · simp [hfield, hnone]

theorem revised_comm {P Q : Json.Object} (h : P.FieldsApart Q) (r : k.Record) :
    revised Q (revised P r) = revised P (revised Q r) := by
  -- where one of the patches is refused, only the other one counts
  rcases k.revised_cases P with hsame | hP
  · simp [hsame]
  · rcases k.revised_cases Q with hsame | hQ
    · simp [hsame]
    · exact (hP r).comm h (hQ _) (hQ r) (hP _)

theorem revised_revised (fields : Json.Object) (r : k.Record) :
    revised fields (revised fields r) = revised fields r := by
  rcases k.revised_cases fields with hsame | hpatched
  · simp [hsame]
  · have honce := hpatched r
    have htwice := hpatched (revised fields r)
    apply ext_content? htwice.id_eq
    intro field
    simp only [htwice.content?_eq_elim, honce.content?_eq_elim]
    by_cases hfield : field = idKey
    · simp [hfield]
    · cases fields.get? field with
      | none => simp [hfield]
      | some value => simp [hfield]

end Kind
end FieldPatch
