import FieldPatch.Text.Search
import Mathlib.Data.List.Infix

/-!
# Filling the slots of a text

A slot is a text that stands in other texts where a value belongs. Here its first character does not
come again in it, so that no two slots overlap and it is clear where each of them is.

* `Text.Cut`: a text is cut into the pieces between its slots. Every text has one such cut
  (`Text.exists_cut`) and no other (`Text.Cut.unique`);
* `Text.Cut.fill_eq`: to fill a text is to join its pieces by the value in place of the slot;
* `Text.Cut.not_infix_fill`: where no slot begins in the value or runs into it, no slot is left,
  whatever stands around the values.
-/

namespace FieldPatch
namespace Text

variable {slot value : List Char}

/-! ## Pieces between slots -/

/-- The first character of a text stands nowhere else in it. -/
def LeadsOnce (slot : List Char) : Prop :=
  ∃ c cs, slot = c :: cs ∧ c ∉ cs

theorem LeadsOnce.ne_nil (hslot : LeadsOnce slot) : slot ≠ [] := by
  rcases hslot with ⟨c, cs, rfl, _⟩
  exact List.cons_ne_nil c cs

/-- A slot does not begin shortly before another one. -/
theorem LeadsOnce.prefix_of_prefix_append (hslot : LeadsOnce slot) {text rest : List Char}
    (hne : text ≠ []) (h : slot <+: text ++ (slot ++ rest)) : slot <+: text := by
  have htext : text <+: text ++ (slot ++ rest) := List.prefix_append text _
  rcases List.prefix_or_prefix_of_prefix h htext with hshort | ⟨beyond, hbeyond⟩
  · exact hshort
  · -- what is left of the slot behind the text begins as the other slot does, and so it is empty
    have hrest : beyond <+: slot ++ rest := by
      simpa only [← hbeyond, List.append_assoc, List.prefix_append_right_inj] using h
    rcases hslot with ⟨c, cs, rfl, hc⟩
    cases beyond with
    | nil => simp [← hbeyond]
    | cons d beyond =>
      rcases List.exists_cons_of_ne_nil hne with ⟨e, text, rfl⟩
      have hd : d = c := (List.cons_prefix_cons.1 hrest).1
      have hcs : cs = text ++ d :: beyond := (List.cons.inj hbeyond).2.symm
      exact absurd (by simp [hcs, hd]) hc

/-- The pieces of a text, none of which has a slot in it, with a slot between each two. -/
inductive Cut (slot : List Char) : List (List Char) → List Char → Prop where
  | last {piece : List Char} : ¬ slot <:+: piece → Cut slot [piece] piece
  | slot {piece text : List Char} {pieces : List (List Char)} :
      ¬ slot <:+: piece → Cut slot pieces text →
        Cut slot (piece :: pieces) (piece ++ (slot ++ text))

variable {text : List Char} {pieces : List (List Char)}

theorem Cut.ne_nil (h : Cut slot pieces text) : pieces ≠ [] := by
  cases h <;> simp

theorem cut_iff :
    Cut slot pieces text ↔
      pieces ≠ [] ∧ (∀ piece ∈ pieces, ¬ slot <:+: piece) ∧ text = slot.intercalate pieces := by
  constructor
  · intro h
    induction h with
    | last hpiece => simpa using hpiece
    | slot hpiece hrest ih =>
      rcases ih with ⟨hne, hclean, rfl⟩
      refine ⟨List.cons_ne_nil _ _, List.forall_mem_cons.2 ⟨hpiece, hclean⟩, ?_⟩
      simp [List.intercalate_cons_of_ne_nil hne]
  · rintro ⟨hne, hclean, rfl⟩
    induction pieces with
    | nil => exact absurd rfl hne
    | cons piece pieces ih =>
      rcases List.forall_mem_cons.1 hclean with ⟨hpiece, hpieces⟩
      by_cases hnil : pieces = []
      · simpa [hnil] using Cut.last hpiece
      · simpa [List.intercalate_cons_of_ne_nil hnil] using Cut.slot hpiece (ih hnil hpieces)

theorem Cut.append {pieces' : List (List Char)} {text' : List Char} (h : Cut slot pieces text)
    (h' : Cut slot pieces' text') : Cut slot (pieces ++ pieces') (text ++ (slot ++ text')) := by
  induction h with
  | last hpiece => exact .slot hpiece h'
  | slot hpiece _ ih => simpa using Cut.slot hpiece ih

theorem exists_cut (hne : slot ≠ []) (text : List Char) : ∃ pieces, Cut slot pieces text := by
  by_cases h : slot <:+: text
  · -- any slot will do, for what stands on either side of it is shorter than the text
    rcases h with ⟨before, after, hsplit⟩
    have hlength : before.length + slot.length + after.length = text.length := by
      simp [← hsplit, Nat.add_assoc]
    have hpos : 0 < slot.length := List.length_pos_of_ne_nil hne
    rcases exists_cut hne before with ⟨pieces, hbefore⟩
    rcases exists_cut hne after with ⟨pieces', hafter⟩
    exact ⟨pieces ++ pieces', by simpa [← hsplit] using hbefore.append hafter⟩
  · exact ⟨[text], .last h⟩
termination_by text.length

/-- Without a slot of its own, nothing fits in front of a slot at the beginning of a text. -/
theorem LeadsOnce.eq_nil_of_append (hslot : LeadsOnce slot) {front rest rest' : List Char}
    (hclean : ¬ slot <:+: front) (h : front ++ (slot ++ rest') = slot ++ rest) : front = [] := by
  by_contra hne
  have hslots : slot <+: front ++ (slot ++ rest') := h ▸ List.prefix_append slot rest
  exact hclean (hslot.prefix_of_prefix_append hne hslots).isInfix

/-- The piece in front of the first slot of a text is given by the text. -/
theorem LeadsOnce.eq_of_append_slot (hslot : LeadsOnce slot) {piece piece' rest rest' : List Char}
    (hpiece : ¬ slot <:+: piece) (hpiece' : ¬ slot <:+: piece')
    (h : piece ++ (slot ++ rest) = piece' ++ (slot ++ rest')) : piece = piece' := by
  have hclean {part before : List Char} (hnone : ¬ slot <:+: before ++ part) :
      ¬ slot <:+: part :=
    fun hpart => hnone (hpart.trans (List.suffix_append before part).isInfix)
  rcases List.append_eq_append_iff.1 h with ⟨between, rfl, hrest⟩ | ⟨between, rfl, hrest⟩
  · simp [hslot.eq_nil_of_append (hclean hpiece') hrest.symm]
  · simp [hslot.eq_nil_of_append (hclean hpiece) hrest.symm]

theorem Cut.unique (hslot : LeadsOnce slot) {pieces' : List (List Char)}
    (h : Cut slot pieces text) (h' : Cut slot pieces' text) : pieces = pieces' := by
  have hcontains (piece rest : List Char) : slot <:+: piece ++ (slot ++ rest) := by
    simp [← List.append_assoc, List.infix_append]
  -- where a piece has no slot, either both cuts end with it or both go on with the slot behind it
  induction h generalizing pieces' with
  | last hpiece =>
    cases h' with
    | last _ => rfl
    | slot _ _ => exact absurd (hcontains _ _) hpiece
  | slot hpiece _ ih =>
    generalize hjoined : _ ++ (slot ++ _) = joined at h'
    cases h' with
    | last hpiece' => exact absurd (hjoined ▸ hcontains _ _) hpiece'
    | slot hpiece' hrest' =>
      obtain rfl := hslot.eq_of_append_slot hpiece hpiece' hjoined
      obtain rfl := List.append_cancel_left (List.append_cancel_left hjoined)
      simp [ih hrest']

/-! ## Filling -/

theorem fill_skip (skipped rest : List Char) :
    fill slot value skipped.length (skipped ++ rest) = fill slot value 0 rest := by
  induction skipped with
  | nil => rfl
  | cons c skipped ih => simpa [fill] using ih

theorem fill_slot (hne : slot ≠ []) (rest : List Char) :
    fill slot value 0 (slot ++ rest) = value ++ fill slot value 0 rest := by
  rcases List.exists_cons_of_ne_nil hne with ⟨c, cs, rfl⟩
  have hbegins : (c :: cs).isPrefixOf (c :: (cs ++ rest)) = true := by
    simp [List.isPrefixOf_iff_prefix]
  -- the first character brings the value, and the counter passes over the others
  simp [fill, hbegins, fill_skip]

/-- Nothing is changed up to the place where a slot begins. -/
theorem fill_append {piece rest : List Char}
    (h : ∀ tail, tail ≠ [] → tail <:+ piece → ¬ slot <+: tail ++ rest) :
    fill slot value 0 (piece ++ rest) = piece ++ fill slot value 0 rest := by
  induction piece with
  | nil => rfl
  | cons c piece ih =>
    have hhere : slot.isPrefixOf (c :: (piece ++ rest)) = false := by
      simpa [Bool.eq_false_iff, List.isPrefixOf_iff_prefix] using
        h (c :: piece) (List.cons_ne_nil c piece) List.suffix_rfl
    have hlater := ih fun tail hne htail => h tail hne (htail.trans (List.suffix_cons c piece))
    simp [fill, hhere, hlater]

theorem fill_piece {piece : List Char} (hpiece : ¬ slot <:+: piece) :
    fill slot value 0 piece = piece := by
  have hnone (tail : List Char) (_ : tail ≠ []) (htail : tail <:+ piece) :
      ¬ slot <+: tail ++ [] := by
    simpa using fun h : slot <+: tail => hpiece (h.isInfix.trans htail.isInfix)
  have hfill : fill slot value 0 (piece ++ []) = piece ++ fill slot value 0 [] := fill_append hnone
  simpa [fill] using hfill

theorem LeadsOnce.fill_piece_slot (hslot : LeadsOnce slot) {piece : List Char}
    (hpiece : ¬ slot <:+: piece) (rest : List Char) :
    fill slot value 0 (piece ++ (slot ++ rest)) = piece ++ (value ++ fill slot value 0 rest) := by
  have hnone (tail : List Char) (hne : tail ≠ []) (htail : tail <:+ piece) :
      ¬ slot <+: tail ++ (slot ++ rest) := fun h =>
    hpiece ((hslot.prefix_of_prefix_append hne h).isInfix.trans htail.isInfix)
  simp [fill_append hnone, fill_slot hslot.ne_nil]

theorem Cut.fill_eq (hslot : LeadsOnce slot) (h : Cut slot pieces text) (value : List Char) :
    fill slot value 0 text = value.intercalate pieces := by
  induction h with
  | last hpiece => simpa using fill_piece hpiece
  | slot hpiece hrest ih =>
    simp [hslot.fill_piece_slot hpiece, ih, List.intercalate_cons_of_ne_nil hrest.ne_nil]

/-! ## No slot is left -/

/-- The value starts with a character that the slot does not have, so that no slot goes on into it,
and it does not have the first character of the slot, so that no slot begins in it. -/
structure Sealed (slot value : List Char) : Prop where
  front : ∃ v vs, value = v :: vs ∧ v ∉ slot
  inside : ∀ c, slot.head? = some c → c ∉ value

theorem Sealed.infix_of_infix_append (hsealed : Sealed slot value) (hne : slot ≠ [])
    {rest : List Char} (h : slot <:+: value ++ rest) : slot <:+: rest := by
  -- no part of the value is the beginning of a slot
  have hinside : ∀ part, part <:+: value → ∀ more, slot = part ++ more → part = [] := by
    intro part hpart more hsplit
    cases part with
    | nil => rfl
    | cons c part =>
      have hhead : slot.head? = some c := by simp [hsplit]
      exact absurd (hpart.subset List.mem_cons_self) (hsealed.inside c hhead)
  rcases List.infix_append_iff.1 h with hvalue | hrest | ⟨part, more, hsplit, hpart, hmore⟩
  · exact absurd (hinside slot hvalue [] (by simp)) hne
  · exact hrest
  · have hnil : part = [] := hinside part hpart.isInfix more hsplit
    simpa [hsplit, hnil] using hmore.isInfix

theorem Sealed.not_infix_append (hsealed : Sealed slot value) (hne : slot ≠ [])
    {piece rest : List Char} (hpiece : ¬ slot <:+: piece) (hrest : ¬ slot <:+: rest) :
    ¬ slot <:+: piece ++ (value ++ rest) := by
  rw [List.infix_append_iff]
  rintro (h | h | ⟨part, more, hsplit, hpart, hmore⟩)
  · exact hpiece h
  · exact hrest (hsealed.infix_of_infix_append hne h)
  · -- the rest of a slot that begins in the piece has the first character of the value in it
    rcases hsealed.front with ⟨v, vs, rfl, hv⟩
    cases more with
    | nil => exact hpiece (by simpa [hsplit] using hpart.isInfix)
    | cons d more =>
      have hd : d = v := (List.cons_prefix_cons.1 hmore).1
      exact hv (by simp [hsplit, hd])

theorem Cut.not_infix_fill (hslot : LeadsOnce slot) (hsealed : Sealed slot value)
    (h : Cut slot pieces text) : ¬ slot <:+: fill slot value 0 text := by
  induction h with
  | last hpiece => simpa [fill_piece hpiece] using hpiece
  | slot hpiece _ ih =>
    simpa [hslot.fill_piece_slot hpiece] using
      hsealed.not_infix_append hslot.ne_nil hpiece ih

end Text
end FieldPatch
