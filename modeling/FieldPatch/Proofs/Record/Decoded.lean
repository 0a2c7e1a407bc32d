import FieldPatch.Proofs.Decode.Layout
import FieldPatch.Proofs.Record.Changes

/-!
# Decoded records

What is read from the JSON of a record, a choice or a kind.

* `Contact.encodes`, `Account.encodes`, `Case.encodes`, `TimeLog.encodes`, `Choice.encodes`: each
  type is read by its layout as it is written;
* `TimeLog.decode_of_not_finite`: hours that are not finite are never read;
* `Kind.readsBack`, `Choice.readsBack`, `Kind.ofJson_toJson`: a record whose hours are finite, a
  choice and a kind are read as what they were.
-/

namespace FieldPatch

/-! ## Types with a layout -/

open Decode.Layout

theorem Choice.encodes (c : Choice) : layout.Encodes c.members c := by
  have h := ((encodes_text "value" c.value).map mk).seq (encodes_text "label" c.label)
  exact h

theorem Contact.encodes (c : Contact) : layout.Encodes c.members c := by
  have h := (((((encodes_word "id" c.id).map mk).seq
    (encodes_text "first_name" c.firstName)).seq
    (encodes_text "last_name" c.lastName)).seq
    (encodes_text "description" c.description)).seq
    (encodes_texts "email_addresses" c.emailAddresses)
  exact h.seq (encodes_text "email_address_status" c.emailAddressStatus)

theorem Account.encodes (a : Account) : layout.Encodes a.members a := by
  have h := ((((encodes_word "id" a.id).map mk).seq
    (encodes_text "name" a.name)).seq
    (encodes_text "description" a.description)).seq
    (encodes_text "website" a.website)
  exact h.seq (encodes_text "status" a.status)

theorem Case.encodes (c : Case) : layout.Encodes c.members c := by
  have h := ((((((encodes_word "id" c.id).map mk).seq
    (encodes_text "subject" c.subject)).seq
    (encodes_text "description" c.description)).seq
    (encodes_text "status" c.status)).seq
    (encodes_text "priority" c.priority)).seq
    (encodes_text "type" c.type)
  exact h.seq (encodes_truth "is_archived" c.isArchived)

theorem TimeLog.encodes {t : TimeLog} (hfinite : t.hoursLogged.isFinite) :
    layout.Encodes t.members t := by
  have h := (((encodes_word "id" t.id).map mk).seq
    (encodes_text "content" t.content)).seq
    (encodes_double "hours_logged" hfinite)
  exact h.seq (encodes_truth "billable" t.billable)

/-- Whatever the hours are, the other fields are written as the layout takes them. -/
theorem TimeLog.exists_takes_of_ne (t : TimeLog) {column : Decode.Column}
    (hcolumn : column ∈ layout.columns) (hne : column.name ≠ "hours_logged") :
    ∃ m ∈ t.members, column.Takes m := by
  -- with hours that are finite all of the time log is taken
  have hzero : (0 : Float).isFinite := by decide +kernel
  have hencodes := TimeLog.encodes (t := { t with hoursLogged := 0 }) hzero
  rcases exists_takes hencodes.takes hcolumn with ⟨m, hm, htakes⟩
  refine ⟨m, ?_, htakes⟩
  simp only [members, List.mem_cons, List.not_mem_nil, or_false] at hm ⊢
  rcases hm with hid | hcontent | hhours | hbillable
  · exact .inl hid
  · exact .inr (.inl hcontent)
  · subst hhours
    exact absurd htakes.1 hne
  · exact .inr (.inr (.inr hbillable))

/-- Time logs whose hours are not finite are written with null in the place of the hours, and null is
never read as hours. -/
theorem TimeLog.decode_of_not_finite {t : TimeLog} (h : ¬ t.hoursLogged.isFinite) :
    t.toObject.get? "hours_logged" = some .null ∧
      ∀ o : Json.Object, o.Extends t.toObject →
        decode o.toJson = .error (.wrongShape .null "f64") := by
  have hdistinct : (t.members.map Prod.fst).Nodup := Kind.nodup_keys_members (k := .timeLog) t
  have hnull : ("hours_logged", .null) ∈ t.members := by
    simp [members, Json.ofFloat, h]
  have hwritten (o : Json.Object) (ho : o.Extends t.toObject) := ho.get?_eq hdistinct
  refine ⟨hwritten t.toObject (.refl _) _ hnull, ?_⟩
  intro o ho
  have hcolumn : layout.columns.find? (·.name == "hours_logged") =
      some ⟨"hours_logged", fun json => (Decode.double json).map fun _ => (), false⟩ := rfl
  refine decode_object_error hcolumn (hwritten o ho _ hnull) rfl ?_ _
  intro other hother hne value hvalue
  rcases t.exists_takes_of_ne hother hne with ⟨m, hm, hname, hcheck⟩
  have hsame : m.2 = value := Option.some.inj ((hwritten o ho m hm).symm.trans (hname ▸ hvalue))
  exact hsame ▸ hcheck

theorem Choice.readsBack (c : Choice) : Decode.ReadsBack decode c.members c := by
  have hdistinct : (c.members.map Prod.fst).Nodup := by
    simp [members]
  exact c.encodes.readsBack hdistinct _

/-! ## Kinds -/

namespace Kind

/-- The hours of a time log are finite. Other records have no hours. -/
def HoursFinite : {k : Kind} → k.Record → Prop
  | .timeLog, t => (TimeLog.hoursLogged t).isFinite
  | .contact, _ => True
  | .account, _ => True
  | .case, _ => True

theorem readsBack {k : Kind} {r : k.Record} (h : HoursFinite r) :
    Decode.ReadsBack k.decode (members r) r := by
  have hdistinct := nodup_keys_members r
  cases k with
  | contact => exact (Contact.encodes r).readsBack hdistinct _
  | account => exact (Account.encodes r).readsBack hdistinct _
  | case => exact (Case.encodes r).readsBack hdistinct _
  | timeLog => exact (TimeLog.encodes h).readsBack hdistinct _

/-- Only hours keep a record from being read back. -/
theorem decode_of_not_hoursFinite {k : Kind} {r : k.Record} (h : ¬ HoursFinite r) :
    k.decode (toObject r).toJson = .error (.wrongShape .null "f64") := by
  cases k with
  | contact => exact absurd trivial h
  | account => exact absurd trivial h
  | case => exact absurd trivial h
  | timeLog => exact (TimeLog.decode_of_not_finite h).2 _ (.refl _)

theorem ofJson_toJson (k : Kind) : ofJson k.toJson = .ok k := by
  simp only [toJson, ofJson, ofVariant, ofName_name]

end Kind
end FieldPatch
