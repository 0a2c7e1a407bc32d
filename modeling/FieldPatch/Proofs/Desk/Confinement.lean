import FieldPatch.Proofs.Desk.Patch
import FieldPatch.Proofs.Server.Effect

/-!
# Updates stay where they are meant

An update of a single field reaches one record of one kind, and one field of it.

* `Desk.asks_updateField`: an update leads to one request to a server, or to none;
* `Desk.Confined`: what an update may change of a desk;
* `Desk.confined_patch`: a patch that names one field is confined to it;
* `Desk.update_confined`: both for the updates of a desk at work.
-/

namespace FieldPatch
namespace Desk

open Kind Server

/-! ## Requests of a call -/

theorem asks_relay_patch (kind : Kind) (payload : Payload) :
    (relay (.patch kind payload)).Asks [⟨kind, .patch payload.toObject⟩] := by
  intro answer
  cases answer with
  | error e => rfl
  | ok record =>
    simp only [Dialogue.done_bind, Kind.encode_record]
    rfl

theorem asks_tryPatch (config : Config) (kind : Kind) (payload : Payload) :
    (((executor config).tryPatch kind payload).through relay).Asks
      [⟨kind, .patch payload.toObject⟩] := by
  have hendpoint : (executor config).registry.endpoint kind = .ok kind := endpoint_registry kind
  unfold Executor.tryPatch
  simp only [hendpoint]
  refine (asks_relay_patch kind payload).bind_silent ?_
  intro result
  cases result with
  | ok response => rfl
  | error e => rfl

theorem asks_patch (config : Config) (kind : Kind) (payload : Payload) :
    (((executor config).patch kind payload).through relay).Asks
      [⟨kind, .patch payload.toObject⟩] := by
  rw [Executor.patch, Dialogue.bind_eq, Dialogue.through_bind]
  refine (asks_tryPatch config kind payload).bind_silent ?_
  intro result
  cases result with
  | ok response => rfl
  | error reason => rfl

theorem asks_announce (config : Config) (built : Except PatchError Payload) :
    ((config.announce built).through relay).Asks [] := by
  unfold Config.announce
  split
  · split
    · rfl
    · rfl
  · rfl

/-- An update sends the payload that it builds, once, to the server of its kind. -/
theorem asks_updateField (config : Config) (kind : Kind) (target : Target) (field : String)
    (change : Change) :
    (((executor config).updateField kind target field change).through relay).Asks
      (match change.payload (some field) (some target) with
        | .ok payload => [⟨kind, .patch payload.toObject⟩]
        | .error _ => []) := by
  rw [Executor.updateField_eq, Dialogue.through_bind]
  refine Dialogue.Asks.bind (asks_announce config _) ?_
  intro _
  cases change.payload (some field) (some target) with
  | ok payload => exact asks_patch config kind payload
  | error reason => rfl

/-! ## What a patch may change -/

/-- The second desk is the first one but for one field of the record that the target addresses. -/
structure Confined (kind : Kind) (target : Target) (field : String) (d d' : Desk) : Prop where
  /-- Records of other kinds, and those with another identifier, are as they were. -/
  other : ∀ kind' id (r : kind'.Record), (d.server kind').get? id = some r →
    kind' ≠ kind ∨ Identifier.toJson (Entity.id r) ≠ target.id →
    (d'.server kind').get? id = some r
  addressed : ∀ id (r : kind.Record), (d.server kind).get? id = some r →
    ∃ r', (d'.server kind).get? id = some r' ∧ Entity.id r' = Entity.id r ∧
      ∀ name, name ≠ field → content? r' name = content? r name
  /-- No record comes or goes, and no identifier is used up. -/
  keys_eq : ∀ kind', (d'.server kind').store.keys = (d.server kind').store.keys
  created_eq : ∀ kind', (d'.server kind').created = (d.server kind').created
  table_eq : ∀ kind', (d'.server kind').table = (d.server kind').table
  /-- A target that is no word addresses nothing. -/
  unusable : (∀ id : UInt64, target.id ≠ .ofInt id.toNat) →
    ∀ kind', d'.server kind' = d.server kind'

theorem confined_self (kind : Kind) (target : Target) (field : String) (d : Desk) :
    Confined kind target field d d := by
  refine ⟨?_, ?_, ?_, ?_, ?_, ?_⟩
  · intro kind' id r hget _
    exact hget
  · intro id r hget
    exact ⟨r, hget, rfl, fun _ _ => rfl⟩
  · intro _
    rfl
  · intro _
    rfl
  · intro _
    rfl
  · intro _ _
    rfl

variable {kind : Kind} {target : Target} {field : String} {value : Json} {d d' : Desk}

/-- A patch without an addressee changes no server. -/
theorem patch_single_of_unusable (s : Server UInt64 kind.Record)
    (hunusable : ∀ id : UInt64, target.id ≠ .ofInt id.toNat) :
    (s.patch (Payload.single target.id field value).toObject).2 = s := by
  have hnone : addressee? (ι := UInt64) (Payload.single target.id field value).toObject = none := by
    apply Option.eq_none_iff_forall_ne_some.2
    intro id hid
    exact hunusable id (addressee?_single.1 hid)
  simp [patch_of_not_addressee, hnone]

/-- What no patch changes of a server is the same for all servers after a patch of one of them. -/
theorem kept_of_patch {α : Type} (f : (kind : Kind) → Server UInt64 kind.Record → α)
    (hpatch : ∀ (s : Server UInt64 kind.Record) fields, f kind (s.patch fields).2 = f kind s)
    {fields : Json.Object} (hself : d'.server kind = ((d.server kind).patch fields).2)
    (hother : ∀ kind', kind' ≠ kind → d'.server kind' = d.server kind') (kind' : Kind) :
    f kind' (d'.server kind') = f kind' (d.server kind') := by
  by_cases hkind : kind' = kind
  · subst hkind
    rw [hself, hpatch]
  · rw [hother kind' hkind]

/-- A patch of a single field is confined to it. -/
theorem confined_patch (hconsistent : ∀ kind, (d.server kind).Consistent)
    (hself : d'.server kind =
      ((d.server kind).patch (Payload.single target.id field value).toObject).2)
    (hother : ∀ kind', kind' ≠ kind → d'.server kind' = d.server kind') :
    Confined kind target field d d' := by
  refine ⟨?_, ?_, ?_, ?_, ?_, ?_⟩
  · intro kind' id r hget hdiffers
    by_cases hkind : kind' = kind
    · subst hkind
      -- the record bears the identifier under which it is stored, and that is not the target's
      have hid : Entity.id r = id := hconsistent kind' id r hget
      have hne : target.id ≠ .ofInt id.toNat := by
        intro htarget
        have hsame : Identifier.toJson (Entity.id r) = target.id := by
          simp [hid, htarget, Identifier.toJson]
        rcases hdiffers with hkind | hrecord
        · exact hkind rfl
        · exact hrecord hsame
      simpa [hself, get?_patch, addressee?_single, hne] using hget
    · simpa [hother kind' hkind] using hget
  · intro id r hget
    by_cases htarget : target.id = .ofInt id.toNat
    · refine ⟨revised (Payload.single target.id field value).toObject r, ?_, id_revised _ r, ?_⟩
      · simp [hself, get?_patch, addressee?_single, htarget, hget]
      · intro name hname
        by_cases hkey : name = idKey
        · simp [hkey, content?_idKey]
        · apply content?_revised
          simp [Payload.get?_toObject, hkey, hname]
    · refine ⟨r, ?_, rfl, fun _ _ => rfl⟩
      simpa [hself, get?_patch, addressee?_single, htarget] using hget
  · exact kept_of_patch (fun _ s => s.store.keys) (by simp) hself hother
  · exact kept_of_patch (fun _ s => s.created) (by simp) hself hother
  · exact kept_of_patch (fun _ s => s.table) (by simp) hself hother
  · intro hunusable kind'
    by_cases hkind : kind' = kind
    · subst hkind
      exact hself.trans (patch_single_of_unusable _ hunusable)
    · exact hother kind' hkind

/-! ## Updates -/

/-- An update of a single field sends nothing for a field without a name or for the identifier, and
otherwise one request whose members are the identifier of its target and the field. In a desk at
work, nothing changes but this field of this record. -/
theorem update_confined (config : Config) {trace : List Event} {d₀ : Desk}
    (hstart : start config = .ok (trace, d₀)) (commands : List Command) (kind : Kind)
    (target : Target) (field : String) (value : Json) :
    let d := d₀.performAll config commands
    let update := (executor config).updateField kind target field (.single value)
    (field = "" ∨ field = idKey → (update.through relay).Asks []) ∧
    (field ≠ "" → field ≠ idKey →
      ∃ fields, (update.through relay).Asks [⟨kind, .patch fields⟩] ∧
        ∀ key, fields.get? key =
          if key = idKey then some target.id else if key = field then some value else none) ∧
    Confined kind target field d (d.call update).state := by
  intro d update
  have hasks := asks_updateField config kind target field (.single value)
  refine ⟨?_, ?_, ?_⟩
  · intro hfield
    rcases hfield with rfl | rfl
    · exact hasks
    · exact hasks
  · intro hempty hid
    have hbuilt : (Change.single value).payload (some field) (some target) =
        .ok (.single target.id field value) :=
      Change.payload_single_eq_ok_iff.2 ⟨hempty, hid, rfl⟩
    refine ⟨(Payload.single target.id field value).toObject, ?_, ?_⟩
    · simpa only [hbuilt] using hasks
    · exact Payload.get?_toObject target.id field value
  · cases hbuilt : (Change.single value).payload (some field) (some target) with
    | error reason =>
      -- the call fails before any server is asked
      have hfailed := call_updateField_of_error config d kind hbuilt
      have hstate : (d.call update).state = d := hfailed.2
      simpa [hstate] using confined_self kind target field d
    | ok payload =>
      rcases Change.payload_single_eq_ok_iff.1 hbuilt with ⟨_, _, rfl⟩
      have hconducts := conducts_updateField config d kind _ hbuilt
      exact confined_patch (consistent_performAll hstart commands) hconducts.server_self
        hconducts.server_other

/-- Of two accounts the first one is renamed: one request is sent, and the second account stays as it
is. Nothing is sent for a field without a name. A target that is a number with a fraction addresses
neither account. -/
theorem update_confined_globex :
    ∃ trace d₀, start {} = .ok (trace, d₀) ∧
      let d := d₀.performAll {} [.request ⟨.account, .create (.new "Acme")⟩,
        .request ⟨.account, .create (.new "Globex")⟩]
      let update (target : Target) (field : String) :=
        (executor {}).updateField .account target field (.single (.string "Initech"))
      ((update (.ofNat 1) "").through relay).Asks [] ∧
      (∃ fields, ((update (.ofNat 1) "name").through relay).Asks [⟨.account, .patch fields⟩] ∧
        fields.get? "name" = some (.string "Initech")) ∧
      ((d.call (update (.ofNat 1) "name")).state.server .account).get? 1 =
        some ⟨1, "Initech", "", "", "prospect"⟩ ∧
      ((d.call (update (.ofNat 1) "name")).state.server .account).get? 2 =
        some ⟨2, "Globex", "", "", "prospect"⟩ ∧
      (d.call (update ⟨.number (.float 1)⟩ "name")).state.server .account = d.server .account := by
  refine ⟨_, _, rfl, ?_⟩
  intro d update
  have hconfined (target : Target) (field : String) := update_confined {} rfl
    [.request ⟨.account, .create (.new "Acme")⟩, .request ⟨.account, .create (.new "Globex")⟩]
    .account target field (.string "Initech")
  refine ⟨(hconfined _ "").1 (.inl rfl), ?_, rfl, ?_, ?_⟩
  · rcases (hconfined (.ofNat 1) "name").2.1 (by decide) (by decide) with ⟨fields, hasks, hmembers⟩
    exact ⟨fields, hasks, hmembers "name"⟩
  · refine (hconfined (.ofNat 1) "name").2.2.other .account 2 _ rfl (.inr ?_)
    intro hsame
    cases hsame
  · refine (hconfined ⟨.number (.float 1)⟩ "name").2.2.unusable ?_ .account
    intro id
    simp [Json.ofInt]

end Desk
end FieldPatch
