import FieldPatch.Field.Name

/-!
# The grammar of field names

A field name is made of words of lower-case letters and digits, joined by single underscores. To
tell whether a text is one, its characters are read and it is cut at its underscores.

* `Field.words_eq_splitOn`: the words are the parts between the underscores, so that joined by
  underscores they are the text again;
* `Field.nil_mem_words_iff`: a text has an empty word if it is empty, starts or ends with an
  underscore, or has two of them side by side;
* `Field.Grammatical`: the grammar, and `FieldName.fault?_eq_none_iff`: it describes the texts
  without fault;
* `FieldName.parse_by_grammar`: what becomes of every text, whether it is a field name or not.
-/

namespace FieldPatch

/-! ## Words -/

namespace Field

theorem words_underscore (cs : List Char) : words ('_' :: cs) = [] :: words cs := by
  simp [words]

theorem words_cons {c : Char} (h : c ≠ '_') (cs : List Char) :
    ∃ word rest, words cs = word :: rest ∧ words (c :: cs) = (c :: word) :: rest := by
  rcases List.exists_cons_of_ne_nil (words_ne_nil cs) with ⟨word, rest, hwords⟩
  exact ⟨word, rest, hwords, by simp [words, h, hwords]⟩

theorem words_eq_splitOn (cs : List Char) : words cs = cs.splitOn '_' := by
  induction cs with
  | nil => simp [words]
  | cons c cs ih =>
    rw [List.splitOn, List.splitOnP_cons_eq_if_modifyHead, ← List.splitOn, ← ih]
    by_cases hc : c = '_'
    · simp [hc, words_underscore]
    · -- any other character joins the first word of what follows it
      rcases words_cons hc cs with ⟨word, rest, hwords, hcons⟩
      simp [hc, hwords, hcons]

/-- Nothing but the underscores is lost between the words. -/
theorem intercalate_words (cs : List Char) : ['_'].intercalate (words cs) = cs := by
  rw [words_eq_splitOn, List.intercalate_splitOn]

theorem words_intercalate {ws : List (List Char)} (h : ∀ w ∈ ws, '_' ∉ w) (hne : ws ≠ []) :
    words (['_'].intercalate ws) = ws := by
  rw [words_eq_splitOn, List.splitOn_intercalate '_' h hne]

/-- The characters of the words are those of the text that are no underscores. -/
theorem mem_flatten_words_iff {cs : List Char} {c : Char} :
    c ∈ (words cs).flatten ↔ c ∈ cs ∧ c ≠ '_' := by
  induction cs with
  | nil => simp [words]
  | cons d cs ih =>
    by_cases hd : d = '_'
    · subst hd
      rw [words_underscore, List.flatten_cons, List.nil_append, ih]
      constructor
      · rintro ⟨hmem, hne⟩
        exact ⟨List.mem_cons_of_mem _ hmem, hne⟩
      · rintro ⟨hmem, hne⟩
        exact ⟨(List.mem_cons.1 hmem).resolve_left hne, hne⟩
    · rcases words_cons hd cs with ⟨word, rest, hwords, hcons⟩
      have hflatten : (words (d :: cs)).flatten = d :: (words cs).flatten := by
        simp [hwords, hcons]
      rw [hflatten, List.mem_cons, ih, List.mem_cons]
      constructor
      · rintro (rfl | ⟨hmem, hne⟩)
        · exact ⟨.inl rfl, hd⟩
        · exact ⟨.inr hmem, hne⟩
      · rintro ⟨rfl | hmem, hne⟩
        · exact .inl rfl
        · exact .inr ⟨hmem, hne⟩

/-! ## Empty words -/

/-- The first word is empty if the text is empty or starts with an underscore. -/
theorem nil_mem_words_iff_tail {cs : List Char} :
    [] ∈ words cs ↔ (cs = [] ∨ cs.head? = some '_') ∨ [] ∈ (words cs).tail := by
  cases cs with
  | nil => simp [words]
  | cons c cs =>
    by_cases hc : c = '_'
    · simp [hc, words_underscore]
    · rcases words_cons hc cs with ⟨word, rest, _, hcons⟩
      simp [hc, hcons]

theorem nil_mem_tail_words_iff {cs : List Char} :
    [] ∈ (words cs).tail ↔ cs.getLast? = some '_' ∨ ['_', '_'] <:+: cs := by
  induction cs with
  | nil => simp [words]
  | cons c cs ih =>
    by_cases hc : c = '_'
    · -- behind an underscore a word begins, which may itself be empty
      subst hc
      rw [words_underscore, List.tail_cons, nil_mem_words_iff_tail, ih, List.infix_cons_iff]
      cases cs with
      | nil => simp
      | cons d ds => simp [eq_comm, or_assoc, or_comm]
    · rcases words_cons hc cs with ⟨word, rest, hwords, hcons⟩
      have htail : (words (c :: cs)).tail = (words cs).tail := by simp [hwords, hcons]
      rw [htail, ih, List.infix_cons_iff]
      cases cs with
      | nil => simp [hc]
      | cons d ds => simp [Ne.symm hc]

theorem nil_mem_words_iff {cs : List Char} :
    [] ∈ words cs ↔
      cs = [] ∨ cs.head? = some '_' ∨ cs.getLast? = some '_' ∨ ['_', '_'] <:+: cs := by
  rw [nil_mem_words_iff_tail, nil_mem_tail_words_iff, or_assoc]

/-! ## The grammar -/

/-- A lower-case ASCII letter or an ASCII digit. -/
def IsWordChar (c : Char) : Prop :=
  ('a' ≤ c ∧ c ≤ 'z') ∨ ('0' ≤ c ∧ c ≤ '9')

instance (c : Char) : Decidable (IsWordChar c) :=
  inferInstanceAs (Decidable (_ ∨ _))

theorem IsWordChar.toNat_lt {c : Char} (h : IsWordChar c) : c.toNat < 0x80 := by
  have hcode (d : Char) : c ≤ d → c.toNat ≤ d.toNat := id
  rcases h with ⟨_, hz⟩ | ⟨_, h9⟩
  · exact Nat.lt_of_le_of_lt (hcode 'z' hz) (by decide)
  · exact Nat.lt_of_le_of_lt (hcode '9' h9) (by decide)

/-- All characters of words are ASCII, so that a property can be tested on one after another. -/
theorem forall_isWordChar {p : Char → Prop}
    (h : ∀ n < 0x80, IsWordChar (Char.ofNat n) → p (Char.ofNat n)) (c : Char)
    (hc : IsWordChar c) : p c := by
  simpa [hc] using h c.toNat hc.toNat_lt

theorem IsWordChar.ne_underscore {c : Char} (h : IsWordChar c) : c ≠ '_' := by
  rintro rfl
  exact absurd h (by decide)

/-- One or more words, none of them empty, joined by single underscores. -/
def Grammatical (cs : List Char) : Prop :=
  ∃ ws : List (List Char), ws ≠ [] ∧ (∀ word ∈ ws, word ≠ [] ∧ ∀ c ∈ word, IsWordChar c) ∧
    cs = ['_'].intercalate ws

/-- The text may hold such a character somewhere. -/
def Fit (c : Char) : Prop :=
  IsWordChar c ∨ c = '_'

instance (c : Char) : Decidable (Fit c) :=
  inferInstanceAs (Decidable (_ ∨ _))

/-- The first character of a text that is not fit. -/
def FirstUnfit (cs : List Char) (char : Char) : Prop :=
  ∃ before after, cs = before ++ char :: after ∧ ¬ Fit char ∧ ∀ c ∈ before, Fit c

theorem isLower_iff {c : Char} : c.isLower = true ↔ 'a' ≤ c ∧ c ≤ 'z' :=
  Bool.and_eq_true_iff.trans (and_congr decide_eq_true_iff decide_eq_true_iff)

theorem isDigit_iff {c : Char} : c.isDigit = true ↔ '0' ≤ c ∧ c ≤ '9' :=
  Bool.and_eq_true_iff.trans (and_congr decide_eq_true_iff decide_eq_true_iff)

theorem isFit_iff {c : Char} : FieldName.isFit c = true ↔ Fit c := by
  simp [FieldName.isFit, Fit, IsWordChar, isLower_iff, isDigit_iff]

theorem find?_unfit_eq_some_iff {cs : List Char} {char : Char} :
    cs.find? (!FieldName.isFit ·) = some char ↔ FirstUnfit cs char := by
  simp only [List.find?_eq_some_iff_append, Bool.not_eq_true', Bool.not_not,
    Bool.eq_false_iff, ne_eq, isFit_iff, FirstUnfit]
  constructor
  · rintro ⟨hunfit, before, after, hsplit, hbefore⟩
    exact ⟨before, after, hsplit, hunfit, hbefore⟩
  · rintro ⟨before, after, hsplit, hunfit, hbefore⟩
    exact ⟨hunfit, before, after, hsplit, hbefore⟩

theorem find?_unfit_eq_none_iff {cs : List Char} :
    cs.find? (!FieldName.isFit ·) = none ↔ ∀ c ∈ cs, Fit c := by
  simp [isFit_iff]

theorem FirstUnfit.unique {cs : List Char} {char char' : Char} (h : FirstUnfit cs char)
    (h' : FirstUnfit cs char') : char = char' := by
  have hfind := find?_unfit_eq_some_iff.2 h
  exact Option.some.inj (hfind.symm.trans (find?_unfit_eq_some_iff.2 h'))

theorem FirstUnfit.exists_mem {cs : List Char} {char : Char} (h : FirstUnfit cs char) :
    ∃ c ∈ cs, ¬ Fit c := by
  rcases h with ⟨before, after, rfl, hunfit, _⟩
  exact ⟨char, by simp, hunfit⟩

theorem exists_firstUnfit {cs : List Char} {c : Char} (hc : c ∈ cs) (hunfit : ¬ Fit c) :
    ∃ char, FirstUnfit cs char := by
  cases hfind : cs.find? (!FieldName.isFit ·) with
  | some char => exact ⟨char, find?_unfit_eq_some_iff.1 hfind⟩
  | none => exact absurd (find?_unfit_eq_none_iff.1 hfind c hc) hunfit

/-- A text obeys the grammar if its characters are fit and none of its words is empty. -/
theorem grammatical_iff {cs : List Char} :
    Grammatical cs ↔ (∀ c ∈ cs, Fit c) ∧ [] ∉ words cs := by
  constructor
  · rintro ⟨ws, hne, hall, rfl⟩
    -- the words that were joined are the ones that the text is cut into
    have hsplit : words (['_'].intercalate ws) = ws := by
      refine words_intercalate (fun word hword hmem => ?_) hne
      exact ((hall word hword).2 '_' hmem).ne_underscore rfl
    rw [hsplit]
    refine ⟨fun c hc => ?_, fun hnil => (hall [] hnil).1 rfl⟩
    by_cases hunderscore : c = '_'
    · exact .inr hunderscore
    · have hmem : c ∈ ws.flatten := hsplit ▸ mem_flatten_words_iff.2 ⟨hc, hunderscore⟩
      rcases List.mem_flatten.1 hmem with ⟨word, hword, hcword⟩
      exact .inl ((hall word hword).2 c hcword)
  · rintro ⟨hfit, hnil⟩
    refine ⟨words cs, words_ne_nil cs, fun word hword => ⟨?_, fun c hc => ?_⟩,
      (intercalate_words cs).symm⟩
    · rintro rfl
      exact hnil hword
    · rcases mem_flatten_words_iff.1 (List.mem_flatten.2 ⟨word, hword, hc⟩) with ⟨hmem, hne⟩
      exact (hfit c hmem).resolve_right hne

end Field

/-! ## Faults -/

namespace FieldName

open FieldPatch.Field

/-- What is found in a text, in the order in which it is looked for. -/
theorem fault?_cases (text : String) :
    (text = "" ∧ fault? text = some .empty) ∨
    (text ≠ "" ∧ ∃ char, FirstUnfit text.toList char ∧
      fault? text = some (.unfitChar text char)) ∨
    (text ≠ "" ∧ (∀ c ∈ text.toList, Fit c) ∧ [] ∈ words text.toList ∧
      fault? text = some (.emptyWord text)) ∨
    ((∀ c ∈ text.toList, Fit c) ∧ [] ∉ words text.toList ∧ fault? text = none) := by
  by_cases hempty : text = ""
  · exact .inl ⟨hempty, if_pos hempty⟩
  · cases hfind : text.toList.find? (!isFit ·) with
    | some char =>
      refine .inr (.inl ⟨hempty, char, find?_unfit_eq_some_iff.1 hfind, ?_⟩)
      simp [fault?, hempty, hfind]
    | none =>
      have hfit := find?_unfit_eq_none_iff.1 hfind
      by_cases hnil : [] ∈ words text.toList
      · refine .inr (.inr (.inl ⟨hempty, hfit, hnil, ?_⟩))
        simpa [fault?, hempty, hfind] using hnil
      · refine .inr (.inr (.inr ⟨hfit, hnil, ?_⟩))
        simpa [fault?, hempty, hfind] using hnil

theorem fault?_eq_none_iff {text : String} :
    fault? text = none ↔ Grammatical text.toList := by
  rw [grammatical_iff]
  rcases fault?_cases text with ⟨rfl, h⟩ | ⟨_, char, hfirst, h⟩ | ⟨_, _, hnil, h⟩ | ⟨hfit, hnil, h⟩
  · simp [h, words]
  · rcases hfirst.exists_mem with ⟨c, hc, hunfit⟩
    simpa [h] using fun hfit => absurd (hfit c hc) hunfit
  · simp [h, hnil]
  · simpa [h, hnil] using hfit

theorem fault?_eq_empty_iff {text : String} : fault? text = some .empty ↔ text = "" := by
  rcases fault?_cases text with ⟨rfl, h⟩ | ⟨hne, _, _, h⟩ | ⟨hne, _, _, h⟩ | ⟨_, hnil, h⟩
  · simp [h]
  · simp [h, hne]
  · simp [h, hne]
  · -- the empty text has an empty word
    have hne : text ≠ "" := by
      rintro rfl
      simp [words] at hnil
    simp [h, hne]

theorem fault?_eq_unfitChar_iff {text named : String} {char : Char} :
    fault? text = some (.unfitChar named char) ↔ named = text ∧ FirstUnfit text.toList char := by
  rcases fault?_cases text with ⟨rfl, h⟩ | ⟨_, char', hfirst, h⟩ | ⟨_, hfit, _, h⟩ | ⟨hfit, _, h⟩
  · simp [h, FirstUnfit]
  · rw [h]
    constructor
    · intro heq
      cases heq
      exact ⟨rfl, hfirst⟩
    · rintro ⟨rfl, hfirst'⟩
      rw [hfirst.unique hfirst']
  all_goals
    -- nothing is left that would be unfit
    refine ⟨fun heq => by simp [h] at heq, fun hboth => ?_⟩
    rcases hboth.2.exists_mem with ⟨c, hc, hunfit⟩
    exact absurd (hfit c hc) hunfit

theorem fault?_eq_emptyWord_iff {text named : String} :
    fault? text = some (.emptyWord named) ↔
      named = text ∧ text ≠ "" ∧ (∀ c ∈ text.toList, Fit c) ∧ [] ∈ words text.toList := by
  rcases fault?_cases text with
    ⟨rfl, h⟩ | ⟨_, char, hfirst, h⟩ | ⟨hne, hfit, hnil, h⟩ | ⟨_, hnil, h⟩
  · simp [h]
  · refine ⟨fun heq => by simp [h] at heq, fun hall => ?_⟩
    rcases hfirst.exists_mem with ⟨c, hc, hunfit⟩
    exact absurd (hall.2.2.1 c hc) hunfit
  · rw [h]
    constructor
    · intro heq
      cases heq
      exact ⟨rfl, hne, hfit, hnil⟩
    · rintro ⟨rfl, _⟩
      rfl
  · simp [h, hnil]

theorem ext_text {field field' : FieldName} (h : field.text = field'.text) : field = field' := by
  cases field
  cases field'
  cases h
  rfl

theorem parse_eq_error_iff {text : String} {fault : Fault} :
    parse text = .error fault ↔ fault? text = some fault := by
  unfold parse
  split
  · rename_i fault' hfault
    simp [hfault]
  · rename_i hnone
    simp [hnone]

theorem parse_eq_ok_iff {text : String} {field : FieldName} :
    parse text = .ok field ↔ field.text = text := by
  unfold parse
  split
  · rename_i fault hfault
    constructor
    · intro h
      cases h
    · -- the text of a field name has no fault
      rintro rfl
      simp [field.faultless] at hfault
  · constructor
    · intro h
      cases h
      rfl
    · rintro rfl
      rfl

/-- The texts that are field names are those without fault. -/
theorem exists_parse_eq_ok_iff {text : String} :
    (∃ field, parse text = .ok field) ↔ Grammatical text.toList := by
  rw [← fault?_eq_none_iff]
  constructor
  · rintro ⟨field, hfield⟩
    rw [← parse_eq_ok_iff.1 hfield]
    exact field.faultless
  · intro hnone
    exact ⟨⟨text, hnone⟩, parse_eq_ok_iff.2 rfl⟩

/-- A text is a field name if and only if it obeys the grammar, and the field name then has this
text and its accessor. Of the faults of any other text the empty text comes first, then the first
character that is not fit, and then an empty word. -/
theorem parse_by_grammar (text : String) :
    ((∃ field, parse text = .ok field) ↔ Grammatical text.toList) ∧
    (∀ field, parse text = .ok field →
      field.text = text ∧ field.accessor = accessorName text) ∧
    (parse text = .error .empty ↔ text = "") ∧
    ((∃ named char, parse text = .error (.unfitChar named char)) ↔
      ∃ c ∈ text.toList, ¬ Fit c) ∧
    (∀ named char, parse text = .error (.unfitChar named char) ↔
      named = text ∧ FirstUnfit text.toList char) ∧
    ∀ named, parse text = .error (.emptyWord named) ↔
      named = text ∧ text ≠ "" ∧ (∀ c ∈ text.toList, Fit c) ∧
        (text.toList.head? = some '_' ∨ text.toList.getLast? = some '_' ∨
          ['_', '_'] <:+: text.toList) := by
  refine ⟨exists_parse_eq_ok_iff, ?_, ?_, ?_, ?_, ?_⟩
  · intro field hfield
    have htext : field.text = text := parse_eq_ok_iff.1 hfield
    exact ⟨htext, congrArg accessorName htext⟩
  · rw [parse_eq_error_iff, fault?_eq_empty_iff]
  · simp only [parse_eq_error_iff, fault?_eq_unfitChar_iff]
    constructor
    · rintro ⟨_, char, _, hfirst⟩
      exact hfirst.exists_mem
    · rintro ⟨c, hc, hunfit⟩
      rcases exists_firstUnfit hc hunfit with ⟨char, hfirst⟩
      exact ⟨text, char, rfl, hfirst⟩
  · intro named char
    rw [parse_eq_error_iff, fault?_eq_unfitChar_iff]
  · intro named
    rw [parse_eq_error_iff, fault?_eq_emptyWord_iff, nil_mem_words_iff]
    have hnil : text.toList = [] ↔ text = "" := by simp
    constructor
    · rintro ⟨hnamed, hne, hfit, hempty | hunderscores⟩
      · exact absurd (hnil.1 hempty) hne
      · exact ⟨hnamed, hne, hfit, hunderscores⟩
    · rintro ⟨hnamed, hne, hfit, hunderscores⟩
      exact ⟨hnamed, hne, hfit, .inr hunderscores⟩

/-- A name of three words, a text with an unfit character beside an empty word, and one with an
empty word only. -/
theorem parse_by_grammar_hours :
    (∃ field, parse "hours_logged_2" = .ok field ∧ field.text = "hours_logged_2" ∧
      field.accessor = "getHoursLogged2") ∧
    parse "_hoursLogged" = .error (.unfitChar "_hoursLogged" 'L') ∧
    parse "hours__logged" = .error (.emptyWord "hours__logged") := by
  refine ⟨?_, ?_, ?_⟩
  · rcases parse_by_grammar "hours_logged_2" with ⟨hgrammar, hparsed, _⟩
    have hwords : Grammatical "hours_logged_2".toList :=
      ⟨["hours".toList, "logged".toList, ['2']], by decide, by simp [IsWordChar], by decide⟩
    rcases hgrammar.2 hwords with ⟨field, hfield⟩
    rcases hparsed field hfield with ⟨htext, haccessor⟩
    have hname : accessorName "hours_logged_2" = "getHoursLogged2" := by decide
    exact ⟨field, hfield, htext, haccessor.trans hname⟩
  · have hunfit : FirstUnfit "_hoursLogged".toList 'L' :=
      ⟨"_hours".toList, "ogged".toList, by decide, by decide, by simp [Fit, IsWordChar]⟩
    exact ((parse_by_grammar "_hoursLogged").2.2.2.2.1 _ _).2 ⟨rfl, hunfit⟩
  · have hfit : ∀ c ∈ "hours__logged".toList, Fit c := by simp [Fit, IsWordChar]
    refine ((parse_by_grammar "hours__logged").2.2.2.2.2 _).2 ⟨rfl, by decide, hfit, ?_⟩
    exact .inr (.inr ⟨"hours".toList, "logged".toList, by decide⟩)

end FieldName
end FieldPatch
