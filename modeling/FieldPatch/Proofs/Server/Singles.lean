import FieldPatch.Proofs.Record.Order
import FieldPatch.Proofs.Server.Effect

/-!
# Patches field by field

A patch of many fields does what patches of its fields do one after the other.

* `Server.single`: the patch of one field, and `Server.exists_patch_single_iff`: it is accepted if
  the record accepts the change;
* `Server.serveAll_singles`: the patches of single fields, one after the other;
* `Server.fields_in_any_order`: neither the order of changes nor their grouping matters.
-/

namespace FieldPatch
namespace Server

open Kind
open scoped List

variable {k : Kind} {s : Server UInt64 k.Record} {id : UInt64} {current updated : k.Record}

/-! ## Single fields -/

/-- The patch of one field of a record. -/
def single (id : UInt64) (change : String × Json) : Json.Object :=
  (Payload.single (.ofInt id.toNat) change.1 change.2).toObject

theorem addressee?_patch_single (id : UInt64) (change : String × Json) :
    addressee? (single id change) = some id :=
  addressee?_single.2 rfl

theorem applyFields_members_single {change : String × Json} (id : UInt64) (hne : change.1 ≠ idKey)
    (r : k.Record) :
    applyFields ((single id change).erase idKey).members r =
      Entity.applyField change.1 change.2 r := by
  have hmembers : ((single id change).erase idKey).members = [change] :=
    Payload.members_erase_single _ _ hne
  simpa [hmembers] using applyFields_singleton change.1 change.2 r

/-- The patch of one field is accepted if the record accepts the change. -/
theorem exists_patch_single_iff {change : String × Json} (hne : change.1 ≠ idKey)
    (hcurrent : s.get? id = some current) :
    (∃ r, (s.patch (single id change)).1 = .ok r) ↔
      ∃ r, Entity.applyField change.1 change.2 current = .ok r := by
  simpa [applyFields_members_single id hne] using
    exists_patch_eq_ok_iff (addressee?_patch_single id change) hcurrent

/-- Patches of single fields, one after the other, put into the record what their changes put into
it together. -/
theorem serveAll_singles {changes : List (String × Json)}
    (hne : ∀ change ∈ changes, change.1 ≠ idKey) (hcurrent : s.get? id = some current)
    (happly : applyFields changes current = .ok updated) :
    s.serveAll (changes.map fun change => .patch (single id change)) =
      { s with store := s.store.put id updated } := by
  induction changes generalizing s current with
  | nil =>
    have hsame : current = updated := Except.ok.inj happly
    subst hsame
    have hstore : s.store.put id current = s.store := Store.put_of_get? hcurrent
    simp [serveAll, hstore]
  | cons change rest ih =>
    rcases change with ⟨field, value⟩
    have hfirst : field ≠ idKey := hne (field, value) (by simp)
    cases hchange : Entity.applyField field value current with
    | error e => simp [applyFields_cons_of_error hchange] at happly
    | ok r =>
      -- the first patch stores the record from which the others go on
      have hpatch := patch_of_applyFields (addressee?_patch_single id (field, value)) hcurrent
        ((applyFields_members_single id hfirst current).trans hchange)
      have hput : Server.get? { s with store := s.store.put id r } id = some r :=
        s.store.get?_put_self id r
      have hrest : applyFields rest r = .ok updated := by
        simpa [applyFields_cons_of_ok hchange] using happly
      have hne' : ∀ change ∈ rest, change.1 ≠ idKey := by
        intro change hmem
        exact hne change (List.mem_cons_of_mem _ hmem)
      calc
        s.serveAll (((field, value) :: rest).map fun change => .patch (single id change)) =
            (s.patch (single id (field, value))).2.serveAll
              (rest.map fun change => .patch (single id change)) := rfl
        _ = Server.serveAll { s with store := s.store.put id r }
              (rest.map fun change => .patch (single id change)) := by rw [hpatch]
        _ = { s with store := (s.store.put id r).put id updated } := ih hne' hput hrest
        _ = { s with store := s.store.put id updated } := by rw [Store.put_put]

/-! ## Whole patches -/

/-- Changes of distinct fields are all accepted if each one is accepted alone, and then they lead to
the same record in every order. A patch of a stored record is accepted if the patch of each of its
fields is, and then these patches, in any order, leave the server that the whole patch leaves. -/
theorem fields_in_any_order (k : Kind) :
    (∀ (r : k.Record) (changes : List (String × Json)), (changes.map Prod.fst).Nodup →
      ((∃ r', applyFields changes r = .ok r') ↔
        ∀ change ∈ changes, ∃ r', Entity.applyField change.1 change.2 r = .ok r') ∧
      ∀ changes', changes' ~ changes → ∀ r',
        applyFields changes' r = .ok r' ↔ applyFields changes r = .ok r') ∧
    ∀ (s : Server UInt64 k.Record) (id : UInt64) (current : k.Record) (o : Json.Object),
      s.get? id = some current → o.get? idKey = some (.ofInt id.toNat) →
      let whole := (Payload.full o).toObject
      let others := (o.erase idKey).members
      ((∃ r, (s.patch whole).1 = .ok r) ↔
        ∀ change ∈ others, ∃ r, (s.patch (single id change)).1 = .ok r) ∧
      ((∃ r, (s.patch whole).1 = .ok r) → ∀ changes, changes ~ others →
        s.serveAll (changes.map fun change => .patch (single id change)) = (s.patch whole).2) := by
  refine ⟨?_, ?_⟩
  · intro r changes hkeys
    refine ⟨exists_applyFields_iff hkeys r, ?_⟩
    intro changes' hperm r'
    have hkeys' : (changes'.map Prod.fst).Nodup := (hperm.map Prod.fst).nodup_iff.2 hkeys
    exact ⟨applyFields_perm hperm hkeys', applyFields_perm hperm.symm hkeys⟩
  · intro s id current o hcurrent hid whole others
    have haddressee : addressee? whole = some id := addressee?_eq_some_iff.2 hid
    have hkeys : (others.map Prod.fst).Nodup := Json.nodup_keys_of_ordered (o.erase idKey).ordered
    have hne : ∀ change ∈ others, change.1 ≠ idKey := by
      intro change hmem
      exact (o.mem_members_erase_iff.1 hmem).1
    have haccepted := exists_patch_eq_ok_iff haddressee hcurrent
    refine ⟨?_, ?_⟩
    · -- both sides are what the stored record says of the changes
      calc
        (∃ r, (s.patch whole).1 = .ok r) ↔ ∃ r, applyFields others current = .ok r := haccepted
        _ ↔ ∀ change ∈ others, ∃ r, Entity.applyField change.1 change.2 current = .ok r :=
          exists_applyFields_iff hkeys current
        _ ↔ ∀ change ∈ others, ∃ r, (s.patch (single id change)).1 = .ok r :=
          forall₂_congr fun change hmem => (exists_patch_single_iff (hne change hmem) hcurrent).symm
    · intro hok changes hperm
      -- in the new order too the changes lead to the record that the whole patch stores
      rcases haccepted.1 hok with ⟨updated, hupdated⟩
      have hkeys' : (changes.map Prod.fst).Nodup := (hperm.map Prod.fst).nodup_iff.2 hkeys
      have hchanges : applyFields changes current = .ok updated :=
        applyFields_perm hperm.symm hkeys hupdated
      have hne' : ∀ change ∈ changes, change.1 ≠ idKey := by
        intro change hmem
        exact hne change (hperm.mem_iff.1 hmem)
      calc
        s.serveAll (changes.map fun change => .patch (single id change)) =
            { s with store := s.store.put id updated } := serveAll_singles hne' hcurrent hchanges
        _ = (s.patch whole).2 := by
          rw [patch_of_applyFields haddressee hcurrent hupdated]

/-- The two fields of a time log are changed in either order, and with one patch. -/
theorem fields_in_any_order_hours :
    let s : Server UInt64 TimeLog := counting.serveAll [.create (.new "Call" 0.5)]
    let o : Json.Object := .ofMembers [("id", .ofInt 1), ("hours_logged", .number (.float 2)),
      ("billable", .bool true)]
    let hours : String × Json := ("hours_logged", .number (.float 2))
    let billable : String × Json := ("billable", .bool true)
    (∃ r : TimeLog, applyFields [hours, billable] (TimeLog.new "Call" 0.5) = .ok r ∧
      applyFields [billable, hours] (TimeLog.new "Call" 0.5) = .ok r) ∧
    s.serveAll [.patch (single 1 hours), .patch (single 1 billable)] = (s.patch o).2 := by
  intro s o hours billable
  have hswap : [hours, billable] ~ [billable, hours] := .swap billable hours []
  have hkeys : ([billable, hours].map Prod.fst).Nodup := by decide
  have hrecord : applyFields [billable, hours] (TimeLog.new "Call" 0.5) =
      .ok { TimeLog.new "Call" 2 with billable := true } := by decide +kernel
  have hboth := (fields_in_any_order .timeLog).1 (TimeLog.new "Call" 0.5) [billable, hours] hkeys
  have hstored : s.get? 1 = some { TimeLog.new "Call" 0.5 with id := 1 } := rfl
  have hwhole := (fields_in_any_order .timeLog).2 s 1 _ o hstored rfl
  have hok : ∃ r : TimeLog, (s.patch o).1 = .ok r := ⟨⟨1, "Call", 2, true⟩, by decide +kernel⟩
  refine ⟨⟨_, (hboth.2 _ hswap _).2 hrecord, hrecord⟩, ?_⟩
  exact hwhole.2 hok [hours, billable] hswap

end Server
end FieldPatch
