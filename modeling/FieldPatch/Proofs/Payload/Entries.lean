import FieldPatch.Proofs.Server.Patch
import FieldPatch.Server.Journal

/-!
# The two ways to write a payload

A payload is written entry by entry, or handed over as an object. Both say the same.

* `Payload.nodup_keys_entries`, `Payload.mem_entries_iff`: no key is written twice, and the entries
  are the members of the object;
* `Payload.ofMembers_entries`: what is read back from the entries is the object;
* `Payload.eval_patch_full`: what a client sends of a payload is its object;
* `Payload.encodings_agree`: all that is written of a payload, and what a client gets for it.
-/

namespace FieldPatch
namespace Payload

/-! ## Entries and members -/

theorem keys_entries_single (id : Json) (field : String) (value : Json) :
    (single id field value).entries.map Prod.fst =
      if field = idKey then [idKey] else [idKey, field] := by
  by_cases hfield : field = idKey
  · simp [entries, hfield]
  · simp [entries, hfield]

theorem nodup_keys_entries (p : Payload) : (p.entries.map Prod.fst).Nodup := by
  cases p with
  | full o => exact Json.nodup_keys_of_ordered o.ordered
  | single id field value =>
    by_cases hfield : field = idKey
    · simp [keys_entries_single, hfield]
    · simpa [keys_entries_single, hfield] using Ne.symm hfield

/-- An entry is written if and only if the object holds it. -/
theorem mem_entries_iff (p : Payload) {key : String} {value : Json} :
    (key, value) ∈ p.entries ↔ p.toObject.get? key = some value := by
  cases p with
  | full o => exact o.mem_members_iff
  | single id field v =>
    by_cases hfield : field = idKey
    · -- the field has the key of the identifier, and gives way to it
      by_cases hkey : key = idKey
      · simp [entries, get?_toObject, hfield, hkey, eq_comm]
      · simp [entries, get?_toObject, hfield, hkey]
    · by_cases hkey : key = idKey
      · simp [entries, get?_toObject, hfield, hkey, eq_comm]
      · simp [entries, get?_toObject, hfield, hkey, eq_comm]

theorem ofMembers_entries (p : Payload) : Json.Object.ofMembers p.entries = p.toObject := by
  apply Json.Object.ext_get?
  intro key
  apply Option.ext
  intro value
  calc
    (Json.Object.ofMembers p.entries).get? key = some value ↔
        p.entries.lookup key = some value := by
      simp [Json.Object.get?_ofMembers, Keyed.lookup_reverse p.nodup_keys_entries]
    _ ↔ (key, value) ∈ p.entries := Keyed.lookup_iff_mem p.nodup_keys_entries
    _ ↔ p.toObject.get? key = some value := p.mem_entries_iff

theorem entryCount_eq_length (p : Payload) : p.entryCount = p.entries.length := by
  cases p with
  | full o => simp [entryCount, entries]
  | single id field value =>
    by_cases hfield : field = idKey
    · simp [entryCount, entries, hfield]
    · simp [entryCount, entries, hfield]

theorem get?_toObject_idKey (p : Payload) : p.toObject.get? idKey = p.id? := by
  cases p with
  | full o => rfl
  | single id field value => exact get?_toObject_single id field value

/-! ## Payloads and clients -/

/-- A client sends the object of a payload, however the payload was made. -/
theorem eval_patch_full {ι ρ σ : Type} [Entity ι ρ] {p : Payload} {o : Json.Object}
    (h : o = p.toObject) (serve : Dialogue.Service (Request ι ρ) σ) (s : σ) :
    (Client.patch (.full o)).eval serve s = (Client.patch p).eval serve s := by
  have hobject : (full o).toObject = p.toObject := h
  rw [Client.eval_patch_encode, Client.eval_patch_encode, hobject]

/-- The entries of a payload have distinct keys, and there are as many of them as announced.
Collected, they are the object of the payload, whose identifier is the payload's. A payload in full
is the object that was supplied. One for a single field writes its identifier first, and the field
behind it unless that has the same key. A client that sends the object, or the collected entries,
gets the answer that it gets for the payload, and the server changes its store alike. -/
theorem encodings_agree (p : Payload) :
    (p.entries.map Prod.fst).Nodup ∧
    Json.Object.ofMembers p.entries = p.toObject ∧
    p.entryCount = p.entries.length ∧
    p.toObject.get? idKey = p.id? ∧
    (match p with
      | .full o => p.toObject = o
      | .single id field value =>
        p.entries.map Prod.fst = (if field = idKey then [idKey] else [idKey, field]) ∧
        p.entries.head? = some (idKey, id) ∧
        ∀ key, p.toObject.get? key =
          if key = idKey then some id else if key = field then some value else none) ∧
    ∀ {ι ρ : Type} [DecidableEq ι] [Identifier ι] [Entity ι ρ] (s : Server ι ρ),
      let sent (payload : Payload) := (Client.patch payload).eval Server.service s
      sent (.full p.toObject) = sent p ∧
      sent (.full (.ofMembers p.entries)) = sent p ∧
      (sent p).2 = (s.patch p.toObject).2 := by
  refine ⟨p.nodup_keys_entries, p.ofMembers_entries, p.entryCount_eq_length,
    p.get?_toObject_idKey, ?_, ?_⟩
  · cases p with
    | full o => rfl
    | single id field value =>
      refine ⟨keys_entries_single id field value, ?_, get?_toObject id field value⟩
      by_cases hfield : field = idKey
      · simp [entries, hfield]
      · simp [entries, hfield]
  · intro ι ρ _ _ _ s sent
    have hsent : sent p =
        (((s.patch p.toObject).1.mapError .ofServer >>= fun r =>
          (Entity.encode r).mapError .malformed), (s.patch p.toObject).2) :=
      Client.eval_patch_encode Server.service p s
    refine ⟨eval_patch_full rfl _ s, eval_patch_full p.ofMembers_entries _ s, ?_⟩
    exact congrArg Prod.snd hsent

end Payload
end FieldPatch
