import FieldPatch.Config
import FieldPatch.Proofs.Text.Slots

/-!
# Success messages

The success message of a kind is the success template with the label of the kind in place of every
placeholder.

* `Config.Parts`: a template in parts, with a placeholder between each two;
* `Config.sealed_label`: no label makes up a placeholder together with the text around it;
* `Config.message_filled_in`: what the message of a template is, and that no placeholder is left.
-/

namespace FieldPatch
namespace Config

open Text

/-- The parts of a template between its placeholders. No placeholder is left in a part. -/
def Parts (template : String) (parts : List String) : Prop :=
  parts ≠ [] ∧ (∀ part ∈ parts, ¬ placeholder.toList <:+: part.toList) ∧
    template = placeholder.intercalate parts

instance (template : String) (parts : List String) : Decidable (Parts template parts) :=
  inferInstanceAs (Decidable (_ ∧ _))

theorem parts_iff_cut {template : String} {parts : List String} :
    Parts template parts ↔
      Cut placeholder.toList (parts.map String.toList) template.toList := by
  simp [Parts, cut_iff, ← String.toList_inj]

theorem leadsOnce_placeholder : LeadsOnce placeholder.toList :=
  ⟨'\x7b', "model\x7d".toList, by decide, by decide⟩

/-- A label has no brace in it, and begins with a letter that the placeholder does not have. -/
theorem sealed_label (kind : Kind) : Sealed placeholder.toList kind.label.toList where
  front := by
    cases kind with
    | contact => exact ⟨'c', "ontact".toList, by decide, by decide⟩
    | account => exact ⟨'a', "ccount".toList, by decide, by decide⟩
    | case => exact ⟨'c', "ase".toList, by decide, by decide⟩
    | timeLog => exact ⟨'t', "imelog".toList, by decide, by decide⟩
  inside := by
    have hbrace : '\x7b' ∉ kind.label.toList := by
      cases kind <;> decide
    simpa [placeholder] using hbrace

theorem exists_parts (template : String) : ∃ parts, Parts template parts := by
  rcases exists_cut leadsOnce_placeholder.ne_nil template.toList with ⟨pieces, hcut⟩
  exact ⟨pieces.map String.ofList, parts_iff_cut.2 (by simpa [Function.comp_def] using hcut)⟩

theorem Parts.unique {template : String} {parts parts' : List String} (h : Parts template parts)
    (h' : Parts template parts') : parts = parts' := by
  have hsame := (parts_iff_cut.1 h).unique leadsOnce_placeholder (parts_iff_cut.1 h')
  exact List.map_injective_iff.2 (fun _ _ => String.toList_injective) hsame

theorem toList_successMessage (config : Config) (kind : Kind) :
    (config.successMessage kind).toList =
      fill placeholder.toList kind.label.toList 0 config.successTemplate.toList := by
  simp [successMessage, fillSlots]

theorem Parts.successMessage_eq {config : Config} {parts : List String}
    (h : Parts config.successTemplate parts) (kind : Kind) :
    config.successMessage kind = kind.label.intercalate parts := by
  have hfilled := (parts_iff_cut.1 h).fill_eq leadsOnce_placeholder kind.label.toList
  simp [← String.toList_inj, toList_successMessage, hfilled]

/-- Every template has its parts, and only these. A success message has the label of the kind
between each two of them, and there is no placeholder in it. -/
theorem message_filled_in (config : Config) (kind : Kind) :
    (∃! parts, Parts config.successTemplate parts) ∧
      (∀ parts, Parts config.successTemplate parts →
        config.successMessage kind = kind.label.intercalate parts) ∧
      ¬ placeholder.toList <:+: (config.successMessage kind).toList := by
  rcases exists_parts config.successTemplate with ⟨parts, hparts⟩
  refine ⟨⟨parts, hparts, fun parts' hparts' => hparts'.unique hparts⟩,
    fun parts' hparts' => hparts'.successMessage_eq kind, ?_⟩
  have hnone := (parts_iff_cut.1 hparts).not_infix_fill leadsOnce_placeholder (sealed_label kind)
  simpa [toList_successMessage] using hnone

/-- Braces and letters around a placeholder make no other one, neither before it is filled in nor
afterwards. -/
theorem message_filled_in_nested :
    let nested : Config := { successTemplate := "\x7bmo\x7bmodel\x7ddel\x7d" }
    let doubled : Config := { successTemplate := "\x7b\x7bmodel\x7d\x7d\x7bmodel\x7d" }
    nested.successMessage .contact = "\x7bmocontactdel\x7d" ∧
      ¬ placeholder.toList <:+: (nested.successMessage .contact).toList ∧
      doubled.successMessage .case = "\x7bcase\x7dcase" ∧
      ¬ placeholder.toList <:+: (doubled.successMessage .case).toList := by
  intro nested doubled
  have hnested : Parts nested.successTemplate ["\x7bmo", "del\x7d"] := by decide
  have hdoubled : Parts doubled.successTemplate ["\x7b", "\x7d", ""] := by decide
  rcases message_filled_in nested .contact with ⟨_, hcontact, hnone⟩
  rcases message_filled_in doubled .case with ⟨_, hcase, hnone'⟩
  exact ⟨(hcontact _ hnested).trans (by decide), hnone,
    (hcase _ hdoubled).trans (by decide), hnone'⟩

end Config
end FieldPatch
