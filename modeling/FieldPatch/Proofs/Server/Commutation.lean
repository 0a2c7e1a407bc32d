import FieldPatch.Proofs.Server.Effect

/-!
# Patches in either order

* `Server.Compatible`: patches of different records, or of different fields of one record;
* `Server.patch_comm`: such patches may be exchanged. The server that they leave is the same one;
* `Server.verdict_patch_after`: whether a patch is accepted does not depend on patches before it;
* `Server.patch_patch`: a patch that is served a second time gets the same answer and changes
  nothing;
* `Server.compatible_patches_commute`: all of this together.
-/

namespace FieldPatch
namespace Server

open Kind

/-- Where both patches address one record, no field is named by both. -/
def Compatible (P Q : Json.Object) : Prop :=
  ∀ id : UInt64, addressee? P = some id → addressee? Q = some id → P.FieldsApart Q

/-- No record is addressed by both patches. -/
def Elsewhere (P Q : Json.Object) : Prop :=
  ∀ id : UInt64, addressee? P = some id → addressee? Q ≠ some id

variable {k : Kind} {P Q : Json.Object}

theorem Elsewhere.symm (h : Elsewhere P Q) : Elsewhere Q P := by
  intro id hQ hP
  exact h id hP hQ

theorem patch_comm (s : Server UInt64 k.Record) (h : Compatible P Q) :
    ((s.patch P).2.patch Q).2 = ((s.patch Q).2.patch P).2 := by
  apply ext_get?
  · simp
  · simp
  · simp
  · simp
  · intro id
    simp only [get?_patch]
    by_cases hP : addressee? P = some id
    · by_cases hQ : addressee? Q = some id
      · -- both patches are meant for this record
        have hapart := h id hP hQ
        simp [hP, hQ, Function.comp_def, revised_comm hapart]
      · simp [hP, hQ]
    · simp [hP]

theorem verdict_patch_after (s : Server UInt64 k.Record) (P Q : Json.Object) :
    verdict ((s.patch Q).2.patch P).1 = verdict (s.patch P).1 :=
  verdict_patch_congr (s.isSome_get?_patch Q) P

theorem answer_patch_after (s : Server UInt64 k.Record) (h : Elsewhere P Q) :
    ((s.patch Q).2.patch P).1 = (s.patch P).1 := by
  apply patch_congr
  intro id hP
  simp [get?_patch, h id hP]

theorem state_patch_patch (s : Server UInt64 k.Record) (P : Json.Object) :
    ((s.patch P).2.patch P).2 = (s.patch P).2 := by
  apply ext_get?
  · simp
  · simp
  · simp
  · simp
  · intro id
    simp only [get?_patch]
    by_cases hP : addressee? P = some id
    · simp [hP, Function.comp_def, revised_revised]
    · simp [hP]

/-- A record that took a patch answers it with itself. -/
theorem patch_patch (s : Server UInt64 k.Record) (P : Json.Object) :
    (s.patch P).2.patch P = s.patch P := by
  apply Prod.ext
  · rcases s.patch_refused_or_accepted P with
      ⟨e, hserve⟩ | ⟨id, current, updated, hid, hcurrent, happly, hserve⟩
    · simp [hserve]
    · have hstored : (s.patch P).2.get? id = some updated := by
        simp [hserve, Server.get?]
      have hupdated : revised P updated = updated := by
        simpa [revised_of_ok happly] using revised_revised P current
      rcases k.patchFields_cases P with ⟨e, _, herror⟩ | ⟨_, hok⟩
      · -- the patch has been accepted once
        simp [herror current] at happly
      · rcases hok updated with ⟨again, hagain, _⟩
        have hsame : again = updated := by simpa [revised_of_ok hagain] using hupdated
        simp [patch_of_addressee _ hid, hstored, hcurrent, happly, hagain, hsame]
  · exact s.state_patch_patch P

/-- Patches that do not conflict may be served in either order: the server that they leave is the
same, and each of them is accepted in both orders, or refused with one and the same error. If they
are meant for different records, each gets the same answer. A patch that is served twice in a row
has the effect and the answer of the first time. -/
theorem compatible_patches_commute (k : Kind) (s : Server UInt64 k.Record) (P Q : Json.Object) :
    (Compatible P Q →
      s.serveAll [.patch P, .patch Q] = s.serveAll [.patch Q, .patch P] ∧
      verdict ((s.patch Q).2.patch P).1 = verdict (s.patch P).1 ∧
      verdict ((s.patch P).2.patch Q).1 = verdict (s.patch Q).1) ∧
    (Elsewhere P Q →
      ((s.patch Q).2.patch P).1 = (s.patch P).1 ∧ ((s.patch P).2.patch Q).1 = (s.patch Q).1) ∧
    ((s.patch P).2.patch P).1 = (s.patch P).1 ∧
      s.serveAll [.patch P, .patch P] = s.serveAll [.patch P] := by
  refine ⟨?_, ?_, ?_, ?_⟩
  · intro h
    exact ⟨s.patch_comm h, s.verdict_patch_after P Q, s.verdict_patch_after Q P⟩
  · intro h
    exact ⟨s.answer_patch_after h, s.answer_patch_after h.symm⟩
  · exact congrArg Prod.fst (s.patch_patch P)
  · exact congrArg Prod.snd (s.patch_patch P)

/-- An account gets a name and a status in two patches, and a third patch is for an account that does
not exist. -/
theorem compatible_patches_commute_renamed :
    let s : Server UInt64 Account := counting.serveAll [.create (.new "Acme")]
    let rename := (Payload.single (.ofInt 1) "name" (.string "Globex")).toObject
    let activate := (Payload.single (.ofInt 1) "status" (.string "active")).toObject
    let missing := (Payload.single (.ofInt 2) "name" (.string "Globex")).toObject
    Compatible rename activate ∧
      s.serveAll [.patch rename, .patch activate] = s.serveAll [.patch activate, .patch rename] ∧
      Elsewhere rename missing ∧ ((s.patch missing).2.patch rename).1 = (s.patch rename).1 := by
  intro s rename activate missing
  have hcompatible : Compatible rename activate := by
    intro id _ _ field hfield
    simp only [rename, activate, Payload.get?_toObject, hfield, if_false]
    by_cases hname : field = "name"
    · simp [hname]
    · simp [hname]
  have helsewhere : Elsewhere rename missing := by
    intro id hrename hmissing
    have hsame : some (1 : UInt64) = some 2 := hrename.trans hmissing.symm
    exact absurd hsame (by decide)
  exact ⟨hcompatible, ((compatible_patches_commute .account s rename activate).1 hcompatible).1,
    helsewhere, ((compatible_patches_commute .account s rename missing).2.1 helsewhere).1⟩

end Server
end FieldPatch
