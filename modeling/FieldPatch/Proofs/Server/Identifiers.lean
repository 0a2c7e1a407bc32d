import FieldPatch.Proofs.Server.Patch

/-!
# Identifiers in sequence

A counting server hands out the numbers from one on, and keeps each record under the number that its
creation was answered.

* `Server.issued?`: what a creation was answered, and `Server.issued_transcript`: the creations get
  the words from one on;
* `Server.mint_not_mem_keys`: the next identifier is not in use;
* `Server.consistent_serveAll`: a record bears the identifier under which it is stored;
* `Server.get?_serve_of_isCreate`: a creation leaves the stored records as they are;
* `Server.identifiers_in_sequence`: all of this for every state of a run.
-/

namespace FieldPatch
namespace Server

/-- What a creation was answered. -/
def issued? {ι ρ : Type} : Answered (Request ι ρ) → Option (Except ServerError ι)
  | ⟨.create _, answer⟩ => some answer
  | _ => none

/-- Below the size of a word, the words from one on are the numbers from one on. -/
theorem map_toNat_words {count : Nat} (h : count < UInt64.size) :
    (words count).map UInt64.toNat = List.range' 1 count := by
  rw [words, List.map_map, List.range'_eq_map_range]
  apply List.map_congr_left
  intro n hn
  have hlt : n < count := List.mem_range.1 hn
  calc
    (UInt64.ofNat (n + 1)).toNat = n + 1 := UInt64.toNat_ofNat_of_lt' (by omega)
    _ = 1 + n := Nat.add_comm n 1

/-! ## Creations -/

section Creations

variable {ρ : Type} [Entity UInt64 ρ]

theorem issued_transcript (requests : List (Request UInt64 ρ)) :
    (counting.transcript requests).filterMap issued? =
      (words (requests.countP Request.isCreate)).map .ok := by
  induction requests using List.reverseRecOn with
  | nil => rfl
  | append_singleton before request ih =>
    rw [transcript_snoc, List.filterMap_append, ih, List.countP_append, List.countP_singleton]
    cases request with
    | create record =>
      -- the creation is answered with the word that follows those before it
      have hmint : (counting.serveAll before).mint (counting.serveAll before).created =
          UInt64.ofNat (before.countP Request.isCreate + 1) := by
        simp [mint_serveAll, created_serveAll]
      simp [Request.isCreate, issued?, serve, create, hmint, words_succ]
    | _ => simp [Request.isCreate, issued?]

/-- As long as the count has not started over, the next identifier is not in use. -/
theorem mint_not_mem_keys (requests : List (Request UInt64 ρ))
    (hcount : requests.countP Request.isCreate + 1 < UInt64.size) :
    (counting.serveAll requests).mint (counting.serveAll requests).created ∉
      (counting.serveAll requests).store.keys := by
  have hnew := ofNat_not_mem_words hcount
  simpa [keys_serveAll requests (by omega), mint_serveAll, created_serveAll] using hnew

/-- A creation under a new identifier leaves the records as they are. -/
theorem get?_serve_of_isCreate {s : Server UInt64 ρ} {request : Request UInt64 ρ}
    (hcreate : request.isCreate) (hnew : s.mint s.created ∉ s.store.keys) {id : UInt64} {r : ρ}
    (hget : s.get? id = some r) : (s.serve request).2.get? id = some r := by
  cases request with
  | create record =>
    have hne : s.mint s.created ≠ id := fun he => hnew (he ▸ mem_keys_of_get? hget)
    calc
      (s.serve (.create record)).2.get? id = s.get? id :=
        s.get?_serve_of_not_writes (.create record) hne
      _ = some r := hget
  | _ => cases hcreate

end Creations

/-! ## Runs -/

theorem consistent_serveAll {k : Kind} (requests : List (Request UInt64 k.Record)) :
    Consistent (k := k) (counting.serveAll requests) := by
  induction requests using List.reverseRecOn with
  | nil => exact consistent_counting
  | append_singleton before request ih =>
    rw [serveAll_snoc]
    exact ih.serve request

/-- Whatever identifiers the created records and the patches carry, a server has in use the numbers
from one to the count of its creations, which have been answered with these numbers in order, and
each record bears the identifier under which it is stored. Along the way only creations add an
identifier, nothing removes one, and no creation touches a record that has been stored. -/
theorem identifiers_in_sequence (k : Kind) (requests : List (Request UInt64 k.Record))
    (hcount : requests.countP Request.isCreate < UInt64.size) :
    let s : Server UInt64 k.Record := counting.serveAll requests
    let n := requests.countP Request.isCreate
    s.store.keys.map UInt64.toNat = List.range' 1 n ∧
    ((counting.transcript requests).filterMap issued?).map (Except.map UInt64.toNat) =
      (List.range' 1 n).map .ok ∧
    (∀ id r, s.get? id = some r → Entity.id r = id) ∧
    ∀ before request after, requests = before ++ request :: after →
      let s₁ : Server UInt64 k.Record := counting.serveAll before
      let s₂ := (s₁.serve request).2
      (s₂.store.keys.map UInt64.toNat = s₁.store.keys.map UInt64.toNat ++
        if request.isCreate then [before.countP Request.isCreate + 1] else []) ∧
      (request.isCreate → ∀ id r, s₁.get? id = some r → s₂.get? id = some r) := by
  intro s n
  have hkeys (requests : List (Request UInt64 k.Record))
      (hcount : requests.countP Request.isCreate < UInt64.size) :
      ((counting.serveAll requests).store.keys).map UInt64.toNat =
        List.range' 1 (requests.countP Request.isCreate) := by
    rw [keys_serveAll requests hcount, map_toNat_words hcount]
  refine ⟨hkeys requests hcount, ?_, consistent_serveAll requests, ?_⟩
  · rw [issued_transcript, ← map_toNat_words hcount, List.map_map, List.map_map]
    rfl
  · intro before request after hsplit s₁ s₂
    have hserve : s₂ = counting.serveAll (before ++ [request]) :=
      (serveAll_snoc counting before request).symm
    -- the creations up to this request are some of those of the whole run
    have hfront : before ++ [request] <+: requests := ⟨after, by simp [hsplit]⟩
    have hupto : (before ++ [request]).countP Request.isCreate < UInt64.size :=
      Nat.lt_of_le_of_lt hfront.sublist.countP_le hcount
    have hbefore : before.countP Request.isCreate < UInt64.size :=
      Nat.lt_of_le_of_lt (List.sublist_append_left _ _).countP_le hupto
    refine ⟨?_, ?_⟩
    · rw [hserve, hkeys _ hupto, hkeys before hbefore, List.countP_append, List.countP_singleton]
      cases request.isCreate with
      | false => simp
      | true => simp [List.range'_concat, Nat.add_comm 1]
    · intro hcreate id r hget
      have hnext : before.countP Request.isCreate + 1 < UInt64.size := by
        simpa [List.countP_append, hcreate] using hupto
      exact get?_serve_of_isCreate hcreate (mint_not_mem_keys before hnext) hget

/-- Two accounts are created that claim identifiers of their own, and a patch of the second one is
accepted in between. -/
theorem identifiers_in_sequence_claimed :
    let requests : List (Request UInt64 Account) :=
      [.create { Account.new "Acme" with id := 2 },
        .patch (Payload.single (.ofInt 1) "name" (.string "Globex")).toObject,
        .create { Account.new "Initech" with id := 1 }]
    requests.countP Request.isCreate < UInt64.size ∧
      ((counting.serveAll requests).store.keys).map UInt64.toNat = [1, 2] ∧
      ((counting.serveAll (requests.take 2)).get? 1 = some ⟨1, "Globex", "", "", "prospect"⟩ ∧
        (counting.serveAll requests).get? 1 = some ⟨1, "Globex", "", "", "prospect"⟩) := by
  intro requests
  have hcount : requests.countP Request.isCreate < UInt64.size := by decide
  have hsequence := identifiers_in_sequence .account requests hcount
  refine ⟨hcount, hsequence.1, rfl, ?_⟩
  exact (hsequence.2.2.2 (requests.take 2) _ [] rfl).2 rfl 1 _ rfl

end Server
end FieldPatch
