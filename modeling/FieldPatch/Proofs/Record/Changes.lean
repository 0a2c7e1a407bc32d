import FieldPatch.Json.Object.Lemmas
import FieldPatch.Proofs.Record.Content
import FieldPatch.Server.Basic

/-!
# Changes of records

What follows from the cases of a single change, for all kinds alike.

* `Kind.fieldNames`, `Kind.patchable_iff`: the fields of a kind are those that can be patched;
* `Kind.get?_toObject`: the JSON of a record holds its identifier and its contents;
* `Kind.Accepts`: a change is accepted, by one record and so by all of the kind;
* `Kind.applyFields_cases`: many changes. Either all are accepted, and each field holds what was
  put there; or the first one that is refused decides, whatever the record holds;
* `Kind.patchFields_cases`: the same for the members of a patch, by their names.
-/

namespace FieldPatch
namespace Keyed

variable {κ β γ : Type} [DecidableEq κ]

theorem lookup_map_snd (f : β → γ) (entries : List (κ × β)) (key : κ) :
    (entries.map fun e => (e.1, f e.2)).lookup key = (entries.lookup key).map f := by
  induction entries with
  | nil => rfl
  | cons e rest ih =>
    rcases e with ⟨k, v⟩
    simp only [List.map_cons, lookup_cons_ite, ih]
    split
    · rfl
    · rfl

end Keyed

theorem Json.Object.mem_members_erase_iff (o : Object) {erased key : String} {value : Json} :
    (key, value) ∈ (o.erase erased).members ↔ key ≠ erased ∧ o.get? key = some value := by
  rw [mem_members_iff, get?_erase]
  by_cases hkey : key = erased <;> simp [hkey]

namespace Payload

/-- The members of a single-field payload are the identifier and the field, and no others. -/
theorem get?_toObject (id : Json) (field : String) (value : Json) (key : String) :
    (single id field value).toObject.get? key =
      if key = idKey then some id else if key = field then some value else none := by
  simp only [toObject, Json.Object.get?_insert]
  by_cases hkey : key = idKey
  · simp [hkey]
  · by_cases hfield : field = idKey
    · simp [hfield, hkey]
    · simp [hfield, hkey, Json.Object.get?_insert]

theorem get?_toObject_single (id : Json) (field : String) (value : Json) :
    (single id field value).toObject.get? idKey = some id :=
  Json.Object.get?_insert_self _ idKey id

/-- The only change of a single-field payload. -/
theorem members_erase_single {field : String} (id value : Json) (h : field ≠ idKey) :
    ((single id field value).toObject.erase idKey).members = [(field, value)] := by
  have herase : (single id field value).toObject.erase idKey =
      Json.Object.empty.insert field value := by
    apply Json.Object.ext_get?
    intro key
    rw [Json.Object.get?_erase]
    by_cases hkey : key = idKey
    · have hne : idKey ≠ field := fun he => h he.symm
      simp [hkey, Json.Object.get?_insert, hne]
    · simp [toObject, h, hkey, Json.Object.get?_insert]
  rw [herase]
  rfl

end Payload

namespace Kind

variable {k : Kind}

/-! ## Fields -/

def fieldNames : Kind → List String
  | .contact =>
    ["first_name", "last_name", "description", "email_addresses", "email_address_status"]
  | .account => ["name", "description", "website", "status"]
  | .case => ["subject", "description", "status", "priority", "type", "is_archived"]
  | .timeLog => ["content", "hours_logged", "billable"]

theorem map_fst_contents (r : k.Record) : (contents r).map Prod.fst = k.fieldNames := by
  cases k <;> rfl

theorem isSome_content?_iff (r : k.Record) (field : String) :
    (content? r field).isSome ↔ field ∈ k.fieldNames := by
  rw [content?, Keyed.isSome_lookup_iff, map_fst_contents]

theorem nodup_keys_members (r : k.Record) : ((members r).map Prod.fst).Nodup := by
  have hkeys : (members r).map Prod.fst = idKey :: k.fieldNames := by
    simp [members_eq, ← map_fst_contents r]
  have hnodup : (idKey :: k.fieldNames).Nodup := by
    cases k <;> decide
  rwa [hkeys]

theorem idKey_not_mem_fieldNames (k : Kind) : idKey ∉ k.fieldNames := by
  cases k <;> decide

/-- The identifier is written apart from the fields. -/
theorem ne_idKey_of_mem {field : String} (h : field ∈ k.fieldNames) : field ≠ idKey :=
  fun he => k.idKey_not_mem_fieldNames (he ▸ h)

/-- The JSON of a record, key by key. -/
theorem get?_toObject (r : k.Record) (key : String) :
    (toObject r).get? key =
      if key = idKey then some (Identifier.toJson (Entity.id r))
      else (content? r key).map Content.toJson := by
  calc
    (toObject r).get? key = (members r).reverse.lookup key := Json.Object.get?_ofMembers _ _
    _ = (members r).lookup key := Keyed.lookup_reverse (nodup_keys_members r) key
    _ = if key = idKey then some (Identifier.toJson (Entity.id r))
        else (content? r key).map Content.toJson := by
      rw [members_eq, Keyed.lookup_cons_ite, Keyed.lookup_map_snd]
      rfl

/-! ## One change -/

/-- The change of a field is accepted by every record of the kind. -/
def Accepts (k : Kind) (change : String × Json) : Prop :=
  ∀ r : k.Record, ∃ r', Entity.applyField change.1 change.2 r = .ok r'

theorem applyField_ok {field : String} {value : Json} {r r' : k.Record}
    (h : Entity.applyField field value r = .ok r') :
    ∃ content, Content.ofJson? value = some content ∧ Entity.id r' = Entity.id r ∧
      ∀ name, content? r' name = if name = field then some content else content? r name := by
  rcases applyField_cases k field value with ⟨e, _, herror⟩ | ⟨content, hvalue, hok⟩
  · simp [herror r] at h
  · rcases hok r with ⟨r'', hr'', hid, hcontent⟩
    have hsame : r'' = r' := by simpa [hr''] using h
    subst hsame
    exact ⟨content, hvalue, hid, hcontent⟩

/-- The JSON of a record that a change was put into shows its content. -/
theorem get?_of_applyField {field : String} {value response : Json} {r r' : k.Record}
    (h : Entity.applyField field value r = .ok r') (hencode : Entity.encode r' = .ok response) :
    ∃ (o : Json.Object) (content : Content), response = o.toJson ∧
      Content.ofJson? value = some content ∧ o.get? field = some content.toJson := by
  rcases applyField_ok h with ⟨content, hvalue, _, hcontent⟩
  have hfield : content? r' field = some content := by simpa using hcontent field
  have hmem : field ∈ k.fieldNames := (isSome_content?_iff r' field).1 (by simp [hfield])
  have hne : field ≠ idKey := ne_idKey_of_mem hmem
  have hresponse : (toObject r').toJson = response := by simpa [encode_record] using hencode
  have hget : (toObject r').get? field = some content.toJson := by
    simp [get?_toObject, hne, hfield]
  exact ⟨toObject r', content, hresponse.symm, hvalue, hget⟩

/-- What one record accepts is accepted by all. -/
theorem accepts_of_applyField {field : String} {value : Json} {r r' : k.Record}
    (h : Entity.applyField field value r = .ok r') : k.Accepts (field, value) := by
  rcases applyField_cases k field value with ⟨e, _, herror⟩ | ⟨content, _, hok⟩
  · simp [herror r] at h
  · intro r₁
    rcases hok r₁ with ⟨r₂, hr₂, _⟩
    exact ⟨r₂, hr₂⟩

theorem mem_fieldNames_of_accepts {field : String} {value : Json} (r : k.Record)
    (h : k.Accepts (field, value)) : field ∈ k.fieldNames := by
  rcases h r with ⟨r', hr'⟩
  rcases applyField_ok hr' with ⟨content, _, _, hcontent⟩
  have hfield : content? r' field = some content := by
    simpa using hcontent field
  exact (isSome_content?_iff r' field).1 (by simp [hfield])

/-- The fields that can be patched are all of the fields of a kind. -/
theorem patchable_iff {field : String} : k.Patchable field ↔ field ∈ k.fieldNames := by
  constructor
  · intro h
    rcases h with ⟨value, r, r', happly⟩
    exact mem_fieldNames_of_accepts r (accepts_of_applyField happly)
  · intro h
    -- for each field there is a value that some record accepts
    cases k with
    | contact =>
      have c : Contact := .new "" ""
      simp only [fieldNames, List.mem_cons, List.not_mem_nil, or_false] at h
      rcases h with rfl | rfl | rfl | rfl | rfl
      · exact ⟨.string "", c, _, rfl⟩
      · exact ⟨.string "", c, _, rfl⟩
      · exact ⟨.string "", c, _, rfl⟩
      · exact ⟨.array [], c, _, rfl⟩
      · exact ⟨.string "other", c, _, rfl⟩
    | account =>
      have a : Account := .new ""
      simp only [fieldNames, List.mem_cons, List.not_mem_nil, or_false] at h
      rcases h with rfl | rfl | rfl | rfl
      · exact ⟨.string "Acme", a, _, rfl⟩
      · exact ⟨.string "", a, _, rfl⟩
      · exact ⟨.string "", a, _, rfl⟩
      · exact ⟨.string "active", a, _, rfl⟩
    | case =>
      have c : Case := .new ""
      simp only [fieldNames, List.mem_cons, List.not_mem_nil, or_false] at h
      rcases h with rfl | rfl | rfl | rfl | rfl | rfl
      · exact ⟨.string "", c, _, rfl⟩
      · exact ⟨.string "", c, _, rfl⟩
      · exact ⟨.string "closed", c, _, rfl⟩
      · exact ⟨.string "high", c, _, rfl⟩
      · exact ⟨.string "incident", c, _, rfl⟩
      · exact ⟨.bool true, c, _, rfl⟩
    | timeLog =>
      have t : TimeLog := .new "" 0
      simp only [fieldNames, List.mem_cons, List.not_mem_nil, or_false] at h
      rcases h with rfl | rfl | rfl
      · exact ⟨.string "", t, _, rfl⟩
      · exact ⟨.ofInt 1, t, _, rfl⟩
      · exact ⟨.bool true, t, _, rfl⟩

/-! ## Many changes -/

theorem applyFields_cons_of_ok {field : String} {value : Json} {r r' : k.Record}
    (h : Entity.applyField field value r = .ok r') (rest : List (String × Json)) :
    Server.applyFields ((field, value) :: rest) r = Server.applyFields rest r' := by
  calc
    Server.applyFields ((field, value) :: rest) r =
        Entity.applyField field value r >>= Server.applyFields rest := List.foldlM_cons
    _ = Server.applyFields rest r' := by
      rw [h]
      rfl

theorem applyFields_cons_of_error {field : String} {value : Json} {r : k.Record} {e : FieldError}
    (h : Entity.applyField field value r = .error e) (rest : List (String × Json)) :
    Server.applyFields ((field, value) :: rest) r = .error e := by
  calc
    Server.applyFields ((field, value) :: rest) r =
        Entity.applyField field value r >>= Server.applyFields rest := List.foldlM_cons
    _ = .error e := by
      rw [h]
      rfl

/-- Changes of distinct fields: the first one that is refused decides, or all are accepted. -/
theorem applyFields_cases (k : Kind) (changes : List (String × Json))
    (hkeys : (changes.map Prod.fst).Nodup) :
    (∃ before field value after, ∃ e : FieldError,
      changes = before ++ (field, value) :: after ∧ (∀ change ∈ before, k.Accepts change) ∧
      e.field = field ∧ (∀ r : k.Record, Entity.applyField field value r = .error e) ∧
      ∀ r : k.Record, Server.applyFields changes r = .error e) ∨
    ((∀ change ∈ changes, k.Accepts change) ∧
      ∀ r : k.Record, ∃ r', Server.applyFields changes r = .ok r' ∧
        Entity.id r' = Entity.id r ∧
        ∀ name,
          content? r' name = (changes.lookup name).elim (content? r name) Content.ofJson?) := by
  induction changes with
  | nil =>
    refine .inr ⟨by simp, ?_⟩
    intro r
    exact ⟨r, rfl, rfl, fun _ => rfl⟩
  | cons change rest ih =>
    rcases change with ⟨field, value⟩
    have hrest := List.nodup_cons.1 hkeys
    rcases applyField_cases k field value with ⟨e, hfield, herror⟩ | ⟨content, hvalue, hok⟩
    · -- the first change is refused, so that the rest is never tried
      refine .inl ⟨[], field, value, rest, e, rfl, by simp, hfield, herror, ?_⟩
      intro r
      exact applyFields_cons_of_error (herror r) rest
    · have haccepts : k.Accepts (field, value) := by
        intro r
        rcases hok r with ⟨r', hr', _⟩
        exact ⟨r', hr'⟩
      rcases ih hrest.2 with ⟨before, field', value', after, e, hsplit, hbefore, hfield, hchange,
        herror⟩ | ⟨hall, hrun⟩
      · refine .inl ⟨(field, value) :: before, field', value', after, e, by simp [hsplit], ?_,
          hfield, hchange, ?_⟩
        · intro change hmem
          rcases List.mem_cons.1 hmem with rfl | hmem
          · exact haccepts
          · exact hbefore change hmem
        · -- the refused change is reached whatever the changes before it have done
          intro r
          rcases hok r with ⟨r₁, hr₁, _⟩
          exact (applyFields_cons_of_ok hr₁ rest).trans (herror r₁)
      · refine .inr ⟨?_, ?_⟩
        · intro change hmem
          rcases List.mem_cons.1 hmem with rfl | hmem
          · exact haccepts
          · exact hall change hmem
        · intro r
          rcases hok r with ⟨r₁, hr₁, hid₁, hcontent₁⟩
          rcases hrun r₁ with ⟨r₂, hr₂, hid₂, hcontent₂⟩
          refine ⟨r₂, ?_, hid₂.trans hid₁, ?_⟩
          · exact (applyFields_cons_of_ok hr₁ rest).trans hr₂
          · intro name
            rw [hcontent₂ name, hcontent₁ name, Keyed.lookup_cons_ite]
            by_cases hname : name = field
            · -- the rest names the field of the first change no more
              have hnone : rest.lookup field = none :=
                Option.not_isSome_iff_eq_none.1 fun h => hrest.1 (Keyed.isSome_lookup_iff.1 h)
              simp [hname, hnone, hvalue]
            · simp [hname]

/-! ## The members of a patch -/

/-- Every change among the members is accepted; the identifier is none. -/
def AcceptsAll (k : Kind) (fields : Json.Object) : Prop :=
  ∀ field value, field ≠ idKey → fields.get? field = some value → k.Accepts (field, value)

/-- The error of the first change that is refused, in the order of the fields' names. -/
def Refuses (k : Kind) (fields : Json.Object) (e : FieldError) : Prop :=
  ∃ value, e.field ≠ idKey ∧ fields.get? e.field = some value ∧
    (∀ r : k.Record, Entity.applyField e.field value r = .error e) ∧
    ∀ field value', field ≠ idKey → field < e.field → fields.get? field = some value' →
      k.Accepts (field, value')

/-- The second record is the first one with the changes put into it. -/
structure Patched (fields : Json.Object) (r r' : k.Record) : Prop where
  id_eq : Entity.id r' = Entity.id r
  content?_eq : ∀ field, field ≠ idKey →
    content? r' field = (fields.get? field).elim (content? r field) Content.ofJson?

theorem not_acceptsAll_of_refuses {fields : Json.Object} {e : FieldError} (r : k.Record)
    (h : k.Refuses fields e) : ¬ k.AcceptsAll fields := by
  rcases h with ⟨value, hfield, hvalue, herror, _⟩
  intro hall
  rcases hall e.field value hfield hvalue r with ⟨r', hr'⟩
  simp [herror r] at hr'

theorem patchFields_cases (k : Kind) (fields : Json.Object) :
    (∃ e, k.Refuses fields e ∧
      ∀ r : k.Record, Server.applyFields (fields.erase idKey).members r = .error e) ∨
    (k.AcceptsAll fields ∧
      ∀ r : k.Record, ∃ r', Server.applyFields (fields.erase idKey).members r = .ok r' ∧
        Patched fields r r') := by
  have hordered := (fields.erase idKey).ordered
  have hkeys := Json.nodup_keys_of_ordered hordered
  rcases applyFields_cases k (fields.erase idKey).members hkeys with
    ⟨before, field, value, after, e, hsplit, hbefore, hfield, hchange, herror⟩ | ⟨hall, hrun⟩
  · subst hfield
    have hmem : (e.field, value) ∈ (fields.erase idKey).members := by
      simp [hsplit]
    rcases fields.mem_members_erase_iff.1 hmem with ⟨hne, hvalue⟩
    refine .inl ⟨e, ⟨value, hne, hvalue, hchange, ?_⟩, herror⟩
    intro field' value' hne' hlt hvalue'
    have hmem' : (field', value') ∈ (fields.erase idKey).members :=
      fields.mem_members_erase_iff.2 ⟨hne', hvalue'⟩
    rw [hsplit] at hmem' hordered
    -- a member with a smaller name stands before the first refused one
    rcases List.mem_append.1 hmem' with hfront | hback
    · exact hbefore _ hfront
    · rcases List.mem_cons.1 hback with he | hback
      · cases he
        exact absurd hlt (String.lt_irrefl _)
      · have hafter := (List.pairwise_cons.1 (List.pairwise_append.1 hordered).2.1).1 _ hback
        exact absurd (String.lt_trans hlt hafter) (String.lt_irrefl _)
  · refine .inr ⟨?_, ?_⟩
    · intro field value hfield hvalue
      exact hall _ (fields.mem_members_erase_iff.2 ⟨hfield, hvalue⟩)
    · intro r
      rcases hrun r with ⟨r', hr', hid, hcontent⟩
      refine ⟨r', hr', hid, ?_⟩
      intro field hfield
      have hlookup : (fields.erase idKey).members.lookup field = fields.get? field := by
        have hget := fields.get?_erase idKey field
        rwa [if_neg hfield] at hget
      rw [hcontent field, hlookup]

/-- A record that took all changes of a patch is the record with these changes put into it. -/
theorem patched_of_applyFields {fields : Json.Object} {r r' : k.Record}
    (h : Server.applyFields (fields.erase idKey).members r = .ok r') : Patched fields r r' := by
  rcases k.patchFields_cases fields with ⟨e, _, herror⟩ | ⟨_, hok⟩
  · simp [herror r] at h
  · rcases hok r with ⟨r'', hr'', hpatched⟩
    have hsame : r'' = r' := by simpa [h, eq_comm] using hr''
    subst hsame
    exact hpatched

end Kind
end FieldPatch
