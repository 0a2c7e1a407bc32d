import FieldPatch.Proofs.Record.Written
import FieldPatch.Proofs.Server.Identifiers
import FieldPatch.Server.Journal

/-!
# Records sent back

A record that is sent to its server as it has been written takes the place of the stored one.

* `Server.send`: a patch that goes through the client of a server;
* `Server.exists_patch_toObject_iff`, `Server.patch_toObject`: the JSON of a record as a patch. It
  is accepted if the record is lawful, and then the record is stored;
* `Server.send_response`: the response to a patch that was accepted is the JSON of the record that
  is stored, and changes nothing when it is sent back;
* `Server.own_json_restores`: all of this for every state of a server.
-/

namespace FieldPatch
namespace Server

open Kind

variable {k : Kind} {s : Server UInt64 k.Record}

def send (s : Server UInt64 k.Record) (payload : Payload) :
    Dialogue.Run (Server UInt64 k.Record) (Except RemoteError Json) :=
  (Client.patch payload).run service s

theorem send_eq (s : Server UInt64 k.Record) (payload : Payload) :
    ((s.send payload).result, (s.send payload).state) =
      (((s.patch payload.toObject).1.map fun r => (toObject r).toJson).mapError .ofServer,
        (s.patch payload.toObject).2) :=
  Client.eval_patch service payload s

/-- An accepted patch is answered with the JSON of the record that it has stored. -/
theorem result_send_eq_ok_iff {payload : Payload} {response : Json} :
    (s.send payload).result = .ok response ↔
      ∃ r, (s.patch payload.toObject).1 = .ok r ∧ (toObject r).toJson = response := by
  rw [(Prod.mk.inj (s.send_eq payload)).1]
  cases (s.patch payload.toObject).1 with
  | error e => simp [Except.map, Except.mapError]
  | ok r => simp [Except.map, Except.mapError]

theorem state_send (s : Server UInt64 k.Record) (payload : Payload) :
    (s.send payload).state = (s.patch payload.toObject).2 :=
  (Prod.mk.inj (s.send_eq payload)).2

/-! ## Records as patches -/

theorem addressee?_toObject (r : k.Record) : addressee? (toObject r) = some (Entity.id r) :=
  addressee?_eq_some_iff.2 (get?_toObject_idKey r)

/-- The JSON of a record is accepted in the place of a stored one if the record is lawful. -/
theorem exists_patch_toObject_iff {r : k.Record} (hstored : Entity.id r ∈ s.store.keys) :
    (∃ updated, (s.patch (toObject r)).1 = .ok updated) ↔ Lawful r := by
  rcases Option.isSome_iff_exists.1 ((s.store.mem_keys_iff _).1 hstored) with ⟨current, hcurrent⟩
  rcases patch_stored_cases (addressee?_toObject r) hcurrent with
    ⟨e, hrefuses, hserve⟩ | ⟨haccepts, updated, _, hserve⟩
  · have hnot : ¬ Lawful r := fun hlawful =>
      not_acceptsAll_of_refuses current hrefuses (acceptsAll_toObject_iff.2 hlawful)
    simp [hserve, hnot]
  · simp [hserve, acceptsAll_toObject_iff.1 haccepts]

/-- The JSON of a lawful record puts this record in the place of the stored one. -/
theorem patch_toObject {r : k.Record} (hconsistent : s.Consistent)
    (hstored : Entity.id r ∈ s.store.keys) (hlawful : Lawful r) :
    s.patch (toObject r) = (.ok r, { s with store := s.store.put (Entity.id r) r }) := by
  rcases (exists_patch_toObject_iff hstored).2 hlawful with ⟨updated, hok⟩
  rcases patch_ok hok with ⟨id, current, hid, hcurrent, hpatched, hnext⟩
  have hsame : id = Entity.id r := Option.some.inj (hid.symm.trans (addressee?_toObject r))
  subst hsame
  -- the stored record bears the identifier of the new one, which therefore replaces all of it
  have hupdated : updated = r := hpatched.eq_of_toObject (hconsistent _ current hcurrent)
  subst hupdated
  exact Prod.ext hok hnext

/-- To send back the JSON of a stored record changes nothing. -/
theorem patch_toObject_of_get? {r : k.Record} (hconsistent : s.Consistent)
    (hget : s.get? (Entity.id r) = some r) (hlawful : Lawful r) :
    s.patch (toObject r) = (.ok r, s) := by
  have hput : s.store.put (Entity.id r) r = s.store := Store.put_of_get? hget
  simpa [hput] using patch_toObject hconsistent (mem_keys_of_get? hget) hlawful

/-! ## Responses sent back -/

theorem object?_toJson (o : Json.Object) : o.toJson.object? = some o :=
  congrArg some o.ofMembers_members

/-- What a client got for an accepted patch is accepted in its turn if the record is lawful. It gets
the same response again, and the server stays as it is. -/
theorem send_response {payload : Payload} {response : Json} (hconsistent : s.Consistent)
    (hok : (s.send payload).result = .ok response) :
    ∃ r, (s.patch payload.toObject).1 = .ok r ∧ response = (toObject r).toJson ∧
      (Lawful r → ∃ o, response.object? = some o ∧
        let run := (s.send payload).state.send (.full o)
        run.result = .ok response ∧ run.state = (s.send payload).state) := by
  rcases result_send_eq_ok_iff.1 hok with ⟨r, hpatch, rfl⟩
  refine ⟨r, hpatch, rfl, ?_⟩
  intro hlawful
  rcases patch_ok hpatch with ⟨id, current, _, hcurrent, hpatched, hnext⟩
  have hid : Entity.id r = id := by
    calc
      Entity.id r = Entity.id current := hpatched.id_eq
      _ = id := hconsistent id current hcurrent
  subst hid
  -- the record is stored now, so that its own JSON finds nothing to change
  have hagain : (s.send payload).state.patch (toObject r) = (.ok r, (s.send payload).state) := by
    rw [state_send, hnext]
    exact patch_toObject_of_get? (hconsistent.put rfl) (s.store.get?_put_self _ r) hlawful
  refine ⟨toObject r, object?_toJson _, result_send_eq_ok_iff.2 ⟨r, ?_, rfl⟩, ?_⟩
  · exact congrArg Prod.fst hagain
  · exact (state_send _ _).trans (congrArg Prod.snd hagain)

/-- A patch with the JSON of a record is accepted if and only if the record is lawful. Then the
record takes the place of the stored one, whatever that has been, and the response is the JSON that
was sent. The response to any accepted patch can be sent back so, if it shows a lawful record, and
changes nothing. This is said of servers that store each record under its own identifier, and all
servers that have served requests since their start do. -/
theorem own_json_restores (k : Kind) :
    (∀ (s : Server UInt64 k.Record) (id : UInt64) (r : k.Record), id ∈ s.store.keys →
      Entity.id r = id →
      let run := s.send (.full (toObject r))
      ((∃ response, run.result = .ok response) ↔ Lawful r) ∧
      (s.Consistent → Lawful r → run.result = .ok (toObject r).toJson ∧
        (s.patch (toObject r)).1 = .ok r ∧ Replaces id r s run.state)) ∧
    (∀ (s : Server UInt64 k.Record) (payload : Payload) (response : Json), s.Consistent →
      (s.send payload).result = .ok response →
      ∃ r, (s.patch payload.toObject).1 = .ok r ∧ response = (toObject r).toJson ∧
        (Lawful r → ∃ o, response.object? = some o ∧
          let run := (s.send payload).state.send (.full o)
          run.result = .ok response ∧ run.state = (s.send payload).state)) ∧
    ∀ requests, Consistent (k := k) (counting.serveAll requests) := by
  refine ⟨?_, fun s payload response => send_response, consistent_serveAll⟩
  intro s id r hstored hid run
  subst hid
  have hresult (response : Json) : run.result = .ok response ↔
      ∃ r', (s.patch (toObject r)).1 = .ok r' ∧ (toObject r').toJson = response :=
    result_send_eq_ok_iff
  refine ⟨?_, ?_⟩
  · -- whether the patch is accepted does not depend on what is stored
    calc
      (∃ response, run.result = .ok response) ↔
          ∃ r', (s.patch (toObject r)).1 = .ok r' := by simp [hresult]
      _ ↔ Lawful r := exists_patch_toObject_iff hstored
  · intro hconsistent hlawful
    have hserve := patch_toObject hconsistent hstored hlawful
    have hpatch : (s.patch (toObject r)).1 = .ok r := congrArg Prod.fst hserve
    refine ⟨(hresult _).2 ⟨r, hpatch, rfl⟩, hpatch, ?_⟩
    rcases Option.isSome_iff_exists.1 ((s.store.mem_keys_iff _).1 hstored) with ⟨current, hcurrent⟩
    have hstate : run.state = (s.patch (toObject r)).2 := s.state_send (.full (toObject r))
    simpa [hstate, hserve] using replaces_put r hcurrent

/-- A time log is overwritten by another one with the same identifier, whose JSON is then sent back
once more. -/
theorem own_json_restores_hours :
    let s : Server UInt64 TimeLog := counting.serveAll [.create (.new "Call" 0.5)]
    let r : TimeLog := ⟨1, "Travel", 2, true⟩
    let run := Server.send (k := .timeLog) s (.full (toObject (k := .timeLog) r))
    Consistent (k := .timeLog) s ∧ 1 ∈ s.store.keys ∧ Lawful (k := .timeLog) r ∧
      Replaces (k := .timeLog) 1 r s run.state ∧
      ∃ o, (toObject (k := .timeLog) r).toJson.object? = some o ∧
        (Server.send (k := .timeLog) run.state (.full o)).state = run.state := by
  intro s r run
  rcases own_json_restores .timeLog with ⟨hrestores, hagain, hconsistent⟩
  have hstored : 1 ∈ s.store.keys := by decide
  have hlawful : Lawful (k := .timeLog) r := by
    intro field rule hrule
    obtain ⟨rfl, rfl⟩ : field = "hours_logged" ∧ rule = .notNegative := by
      simpa [rules] using hrule
    exact ⟨.hours 2, rfl, by decide, by decide⟩
  rcases (hrestores s 1 r hstored rfl).2 (hconsistent _) hlawful with ⟨hresult, hpatch, hreplaces⟩
  rcases hagain s _ _ (hconsistent _) hresult with ⟨r', hpatch', _, hback⟩
  have hsame : r' = r := Except.ok.inj (hpatch'.symm.trans hpatch)
  subst hsame
  rcases hback hlawful with ⟨o, ho, _, hstate⟩
  exact ⟨hconsistent _, hstored, hlawful, hreplaces, o, ho, hstate⟩

end Server
end FieldPatch
