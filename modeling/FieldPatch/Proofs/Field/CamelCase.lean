import FieldPatch.Proofs.Field.Grammar

/-!
# Accessor names in camel case

The accessor of a field drops the underscores of the field and marks the beginnings of words by
capitals instead. A digit has no capital, so an underscore in front of one is lost; all others can
be told from the name of the accessor.

* `Field.camelCase`: what stands behind the prefix of an accessor name, and `Field.camelRest`, the
  same from the middle of a word on;
* `Field.joinDigits`: a text without the underscores in front of digits, which changes nothing in
  camel case (`Field.camelCase_joinDigits`);
* `Field.snakeCase`: the underscores read back from the capitals
  (`Field.snakeCase_camelCase`);
* `FieldName.shared_accessor_iff`: two fields share an accessor name if and only if they differ in
  underscores in front of digits only.
-/

namespace FieldPatch
namespace Field

/-! ## Camel case -/

/-- The words of a text with capitals, one behind the other. -/
def camelCase (cs : List Char) : List Char :=
  (words cs).flatMap capitalize

/-- Camel case for a text whose first word has begun before. -/
def camelRest (cs : List Char) : List Char :=
  (words cs).headD [] ++ (words cs).tail.flatMap capitalize

theorem accessorName_eq (field : String) :
    accessorName field = accessorPrefix ++ String.ofList (camelCase field.toList) :=
  rfl

theorem accessorName_eq_iff {field field' : String} :
    accessorName field = accessorName field' ↔
      camelCase field.toList = camelCase field'.toList := by
  simp [accessorName_eq, ← String.toList_inj]

@[simp] theorem camelCase_underscore (cs : List Char) : camelCase ('_' :: cs) = camelCase cs := by
  simp [camelCase, words_underscore, capitalize]

@[simp] theorem camelRest_underscore (cs : List Char) : camelRest ('_' :: cs) = camelCase cs := by
  simp [camelCase, camelRest, words_underscore]

theorem camelCase_cons {c : Char} (h : c ≠ '_') (cs : List Char) :
    camelCase (c :: cs) = Text.uppercase c ++ camelRest cs := by
  rcases words_cons h cs with ⟨word, rest, hwords, hcons⟩
  simp [camelCase, camelRest, hwords, hcons, capitalize]

theorem camelRest_cons {c : Char} (h : c ≠ '_') (cs : List Char) :
    camelRest (c :: cs) = c :: camelRest cs := by
  rcases words_cons h cs with ⟨word, rest, hwords, hcons⟩
  simp [camelRest, hwords, hcons]

/-! ## Underscores in front of digits -/

/-- The text without the underscores that are directly followed by a digit. -/
def joinDigits : List Char → List Char
  | [] => []
  | c :: cs =>
    if c = '_' ∧ cs.head?.any Char.isDigit then joinDigits cs else c :: joinDigits cs

theorem joinDigits_cons {c : Char} (h : c ≠ '_') (cs : List Char) :
    joinDigits (c :: cs) = c :: joinDigits cs := by
  simp [joinDigits, h]

theorem joinDigits_underscore_cons (c : Char) (cs : List Char) :
    joinDigits ('_' :: c :: cs) =
      if c.isDigit then joinDigits (c :: cs) else '_' :: joinDigits (c :: cs) := by
  rw [joinDigits]
  simp

theorem ne_underscore_of_isDigit {c : Char} (h : c.isDigit = true) : c ≠ '_' := by
  rintro rfl
  cases h

theorem uppercase_of_isDigit {c : Char} (h : c.isDigit = true) : Text.uppercase c = [c] := by
  have hword : IsWordChar c := .inr (isDigit_iff.1 h)
  have hupper : ∀ d, IsWordChar d → d.isDigit = true → d.toUpper = d :=
    forall_isWordChar (by decide +kernel)
  simp [Text.uppercase_of_ascii hword.toNat_lt, hupper c hword h]

/-- Camel case does not show underscores in front of digits. -/
theorem camelCase_joinDigits (cs : List Char) :
    camelCase (joinDigits cs) = camelCase cs ∧ camelRest (joinDigits cs) = camelRest cs := by
  induction cs with
  | nil => exact ⟨rfl, rfl⟩
  | cons c cs ih =>
    by_cases hc : c = '_'
    · subst hc
      cases cs with
      | nil => exact ⟨rfl, rfl⟩
      | cons d ds =>
        by_cases hdigit : d.isDigit = true
        · have hd := ne_underscore_of_isDigit hdigit
          have hjoin : joinDigits ('_' :: d :: ds) = joinDigits (d :: ds) := by
            simp [joinDigits_underscore_cons, hdigit]
          -- a digit looks the same at the beginning of a word and within one
          have hsame : camelRest (d :: ds) = camelCase (d :: ds) := by
            simp [camelRest_cons hd, camelCase_cons hd, uppercase_of_isDigit hdigit]
          exact ⟨by simp [hjoin, ih.1], by simp [hjoin, ih.2, hsame]⟩
        · have hkeep : joinDigits ('_' :: d :: ds) = '_' :: joinDigits (d :: ds) := by
            simp [joinDigits_underscore_cons, hdigit]
          exact ⟨by simp [hkeep, ih.1], by simp [hkeep, ih.1]⟩
    · simp [joinDigits_cons hc, camelCase_cons hc, camelRest_cons hc, ih.2]

/-! ## Reading back -/

/-- An underscore for each capital, which becomes a small letter again. -/
def snakeCase (cs : List Char) : List Char :=
  cs.flatMap fun c => if c.isUpper then ['_', c.toLower] else [c]

theorem snakeCase_append (cs ds : List Char) :
    snakeCase (cs ++ ds) = snakeCase cs ++ snakeCase ds :=
  List.flatMap_append

theorem snakeCase_cons {c : Char} (h : IsWordChar c) (cs : List Char) :
    snakeCase (c :: cs) = c :: snakeCase cs := by
  have hsmall : ∀ d, IsWordChar d → d.isUpper = false :=
    forall_isWordChar (by decide +kernel)
  simp [snakeCase, hsmall c h]

/-- The first character of a word, with the underscore in front of it unless it is a digit. -/
theorem snakeCase_uppercase {c : Char} (h : IsWordChar c) :
    snakeCase (Text.uppercase c) = if c.isDigit then [c] else ['_', c] := by
  have hupper : ∀ d, IsWordChar d →
      snakeCase [d.toUpper] = if d.isDigit then [d] else ['_', d] :=
    forall_isWordChar (by decide +kernel)
  rw [Text.uppercase_of_ascii h.toNat_lt, hupper c h]

/-- What is read back is the text as it stands behind an underscore. Both statements go by the same
induction, for an underscore begins a word, and any other character continues one. -/
theorem snakeCase_camelCase {cs : List Char} (hfit : ∀ c ∈ cs, Fit c) :
    ([] ∉ words cs → snakeCase (camelCase cs) = joinDigits ('_' :: cs)) ∧
      ([] ∉ (words cs).tail → snakeCase (camelRest cs) = joinDigits cs) := by
  induction cs with
  | nil => exact ⟨fun hnil => absurd List.mem_cons_self hnil, fun _ => rfl⟩
  | cons c cs ih =>
    rcases List.forall_mem_cons.1 hfit with ⟨hc, hcs⟩
    rcases hc with hword | rfl
    · have hne := hword.ne_underscore
      rcases words_cons hne cs with ⟨word, rest, hwords, hcons⟩
      have hrest : [] ∉ rest → snakeCase (camelRest cs) = joinDigits cs := by
        simpa [hwords] using (ih hcs).2
      refine ⟨fun hnil => ?_, fun hnil => ?_⟩
      · have hread := hrest (by simpa [hcons] using hnil)
        calc
          snakeCase (camelCase (c :: cs)) =
              snakeCase (Text.uppercase c) ++ snakeCase (camelRest cs) := by
            simp [camelCase_cons hne, snakeCase_append]
          _ = joinDigits ('_' :: c :: cs) := by
            simp only [snakeCase_uppercase hword, hread, joinDigits_underscore_cons,
              joinDigits_cons hne]
            split <;> rfl
      · have hread := hrest (by simpa [hcons] using hnil)
        simp [camelRest_cons hne, snakeCase_cons hword, hread, joinDigits_cons hne]
    · -- behind the underscore a word begins
      refine ⟨fun hnil => ?_, fun hnil => ?_⟩
      · simp [words_underscore] at hnil
      · simpa using (ih hcs).1 (by simpa [words_underscore] using hnil)

/-! ## Shared names -/

/-- A text that does not start with an underscore is found behind the one that is put there. -/
theorem dropWhile_joinDigits {c : Char} (h : c ≠ '_') (cs : List Char) :
    (joinDigits ('_' :: c :: cs)).dropWhile (· == '_') = joinDigits (c :: cs) := by
  rw [joinDigits_underscore_cons, joinDigits_cons h]
  split <;> simp [h]

theorem Grammatical.exists_cons {cs : List Char} (h : Grammatical cs) :
    ∃ c rest, cs = c :: rest ∧ c ≠ '_' := by
  have hnil := (grammatical_iff.1 h).2
  cases cs with
  | nil => exact absurd List.mem_cons_self hnil
  | cons c rest =>
    refine ⟨c, rest, rfl, ?_⟩
    rintro rfl
    simp [words_underscore] at hnil

/-- The underscores that camel case does not show are the only ones that cannot be read back. -/
theorem Grammatical.joinDigits_eq {cs : List Char} (h : Grammatical cs) :
    joinDigits cs = (snakeCase (camelCase cs)).dropWhile (· == '_') := by
  rcases grammatical_iff.1 h with ⟨hfit, hnil⟩
  rcases h.exists_cons with ⟨c, rest, rfl, hc⟩
  rw [(snakeCase_camelCase hfit).1 hnil, dropWhile_joinDigits hc]

theorem camelCase_eq_iff {cs ds : List Char} (hcs : Grammatical cs) (hds : Grammatical ds) :
    camelCase cs = camelCase ds ↔ joinDigits cs = joinDigits ds := by
  constructor
  · intro h
    rw [hcs.joinDigits_eq, hds.joinDigits_eq, h]
  · intro h
    calc
      camelCase cs = camelCase (joinDigits cs) := (camelCase_joinDigits cs).1.symm
      _ = camelCase (joinDigits ds) := congrArg camelCase h
      _ = camelCase ds := (camelCase_joinDigits ds).1

/-- Every word but the first begins with a small letter. -/
def LettersLead (cs : List Char) : Prop :=
  ∀ word ∈ (words cs).tail, ∃ c rest, word = c :: rest ∧ 'a' ≤ c ∧ c ≤ 'z'

theorem isDigit_of_letter {c : Char} (h : 'a' ≤ c) : c.isDigit = false := by
  rw [Bool.eq_false_iff, ne_eq, isDigit_iff]
  rintro ⟨_, h9⟩
  exact absurd (Char.le_trans h h9) (by decide)

theorem LettersLead.joinDigits_eq {cs : List Char} (h : LettersLead cs) : joinDigits cs = cs := by
  induction cs with
  | nil => rfl
  | cons c cs ih =>
    by_cases hc : c = '_'
    · subst hc
      have hwords : ∀ word ∈ words cs, ∃ c rest, word = c :: rest ∧ 'a' ≤ c ∧ c ≤ 'z' := by
        simpa [LettersLead, words_underscore] using h
      have hrest : joinDigits cs = cs :=
        ih fun word hword => hwords word (List.mem_of_mem_tail hword)
      cases cs with
      | nil => rfl
      | cons d ds =>
        -- what follows the underscore is the letter of a word, or else another underscore
        have hdigit : d.isDigit = false := by
          by_cases hd : d = '_'
          · simp [hd]
          · rcases words_cons hd ds with ⟨word, rest, _, hcons⟩
            rcases hwords (d :: word) (by simp [hcons]) with ⟨c, cs', heq, hletter, _⟩
            obtain rfl : d = c := (List.cons.inj heq).1
            exact isDigit_of_letter hletter
        simp [joinDigits_underscore_cons, hdigit, hrest]
    · rcases words_cons hc cs with ⟨word, rest, hwords, hcons⟩
      have hrest : joinDigits cs = cs := ih (by simpa [LettersLead, hwords, hcons] using h)
      simp [joinDigits_cons hc, hrest]

end Field

namespace FieldName

open FieldPatch.Field

/-- Two fields have the same accessor if and only if they are the same but for underscores in front
of digits. Fields whose words all begin with letters, the first word apart, share no accessor. -/
theorem shared_accessor_iff {text text' : String} {field field' : FieldName}
    (h : parse text = .ok field) (h' : parse text' = .ok field') :
    (field.accessor = field'.accessor ↔
      joinDigits text.toList = joinDigits text'.toList) ∧
    (LettersLead text.toList → LettersLead text'.toList → field ≠ field' →
      field.accessor ≠ field'.accessor) := by
  obtain rfl := parse_eq_ok_iff.1 h
  obtain rfl := parse_eq_ok_iff.1 h'
  have hgrammar : Grammatical field.text.toList := exists_parse_eq_ok_iff.1 ⟨field, h⟩
  have hgrammar' : Grammatical field'.text.toList := exists_parse_eq_ok_iff.1 ⟨field', h'⟩
  have hshared : field.accessor = field'.accessor ↔
      joinDigits field.text.toList = joinDigits field'.text.toList := by
    calc
      field.accessor = field'.accessor ↔
          camelCase field.text.toList = camelCase field'.text.toList := accessorName_eq_iff
      _ ↔ joinDigits field.text.toList = joinDigits field'.text.toList :=
        camelCase_eq_iff hgrammar hgrammar'
  refine ⟨hshared, fun hletters hletters' hne haccessor => hne ?_⟩
  have htext : field.text.toList = field'.text.toList := by
    simpa only [hletters.joinDigits_eq, hletters'.joinDigits_eq] using hshared.1 haccessor
  exact ext_text (String.toList_inj.1 htext)

/-- An underscore before a digit makes no difference, and one before a letter does. -/
theorem shared_accessor_iff_hours :
    ∃ field digit letter : FieldName, parse "hours_logged2" = .ok field ∧
      parse "hours_logged_2" = .ok digit ∧ parse "hourslogged2" = .ok letter ∧
      field.accessor = digit.accessor ∧ field.accessor ≠ letter.accessor := by
  have hfield : parse "hours_logged2" = .ok ⟨"hours_logged2", by decide⟩ := parse_eq_ok_iff.2 rfl
  have hdigit : parse "hours_logged_2" = .ok ⟨"hours_logged_2", by decide⟩ :=
    parse_eq_ok_iff.2 rfl
  have hletter : parse "hourslogged2" = .ok ⟨"hourslogged2", by decide⟩ := parse_eq_ok_iff.2 rfl
  refine ⟨_, _, _, hfield, hdigit, hletter, ?_, ?_⟩
  · exact (shared_accessor_iff hfield hdigit).1.2 (by decide)
  · refine (shared_accessor_iff hfield hletter).2 ?_ ?_ (by decide)
    · have hwords : (words "hours_logged2".toList).tail = ["logged2".toList] := by decide
      intro word hword
      obtain rfl : word = "logged2".toList := List.mem_singleton.1 (hwords ▸ hword)
      exact ⟨'l', "ogged2".toList, by decide, by decide, by decide⟩
    · have hwords : (words "hourslogged2".toList).tail = [] := by decide
      intro word hword
      exact absurd (hwords ▸ hword) List.not_mem_nil

end FieldName
end FieldPatch
