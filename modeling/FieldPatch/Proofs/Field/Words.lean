import FieldPatch.Proofs.Field.CamelCase
import FieldPatch.Proofs.Registry.Resolution

/-!
# Accessor names word by word

The accessor of a field is made word by word: what stands behind the prefix for two texts that are
joined by an underscore is what stands there for the one and then what stands there for the other.

* `Field.camelCase_append`: camel case of texts that are joined by an underscore;
* `Field.IsWords`: a text as words with underscores between them, and `Field.accessorName_of_words`,
  the accessor name made from them;
* `Field.accessorName_underscores`: underscores around a text or in a row do not show;
* `Field.accessor_by_words`: all of this for any texts, and what follows for fields that a registry
  has no accessor for.
-/

namespace FieldPatch

/-! ## Words in camel case -/

namespace Field

theorem words_append (cs ds : List Char) : words (cs ++ '_' :: ds) = words cs ++ words ds := by
  simp only [words_eq_splitOn, List.splitOn]
  exact List.splitOnP_append_cons cs ds (beq_self_eq_true '_')

@[simp] theorem camelCase_nil : camelCase [] = [] :=
  rfl

theorem camelCase_append (cs ds : List Char) :
    camelCase (cs ++ '_' :: ds) = camelCase cs ++ camelCase ds := by
  simp [camelCase, words_append]

/-- The words may be empty, and there may be none of them. -/
theorem camelCase_intercalate {ws : List (List Char)} (h : ∀ w ∈ ws, '_' ∉ w) :
    camelCase (['_'].intercalate ws) = ws.flatMap capitalize := by
  by_cases hne : ws = []
  · simp [hne]
  · simp [camelCase, words_intercalate h hne]

theorem camelCase_of_not_mem {cs : List Char} (h : '_' ∉ cs) : camelCase cs = capitalize cs := by
  have hclean : ∀ w ∈ [cs], '_' ∉ w := by
    simpa using h
  simpa using camelCase_intercalate hclean

theorem camelCase_replicate_append (n : Nat) (cs : List Char) :
    camelCase (List.replicate n '_' ++ cs) = camelCase cs := by
  induction n with
  | zero => rfl
  | succ n ih => simpa [List.replicate_succ] using ih

theorem camelCase_append_replicate (cs : List Char) (n : Nat) :
    camelCase (cs ++ List.replicate n '_') = camelCase cs := by
  cases n with
  | zero => simp
  | succ n =>
    have hnone : camelCase (List.replicate n '_') = [] := by
      simpa using camelCase_replicate_append n []
    simp [List.replicate_succ, camelCase_append, hnone]

/-! ## Accessor names -/

/-- What stands behind the prefix in an accessor name. -/
def accessorRest (field : String) : String :=
  String.ofList (camelCase field.toList)

theorem accessorName_append (a b : String) :
    accessorName (a ++ "_" ++ b) = accessorName a ++ accessorRest b := by
  simp [← String.toList_inj, accessorName_eq, accessorRest, camelCase_append]

theorem accessorName_prefix (a b : String) :
    (accessorName a).toList <+: (accessorName (a ++ "_" ++ b)).toList := by
  simp [accessorName_append]

theorem accessorName_of_not_mem {word : String} {c : Char} {cs : List Char}
    (hword : word.toList = c :: cs) (h : '_' ∉ word.toList) :
    accessorName word = accessorPrefix ++ String.ofList (Text.uppercase c ++ cs) := by
  have hcamel : camelCase (c :: cs) = Text.uppercase c ++ cs :=
    camelCase_of_not_mem (hword ▸ h)
  simp [accessorName_eq, hword, hcamel]

/-- Any number of underscores. -/
def underscores (n : Nat) : String :=
  String.ofList (List.replicate n '_')

theorem accessorName_underscores (a b : String) (n : Nat) :
    accessorName (underscores n ++ a) = accessorName a ∧
      accessorName (a ++ underscores n) = accessorName a ∧
      accessorName (a ++ underscores (n + 1) ++ b) = accessorName (a ++ "_" ++ b) := by
  refine ⟨?_, ?_, ?_⟩
  · simp [accessorName_eq, underscores, camelCase_replicate_append]
  · simp [accessorName_eq, underscores, camelCase_append_replicate]
  · -- all but the first of the underscores stand in front of the second text
    simp [accessorName_eq, underscores, List.replicate_succ, camelCase_append,
      camelCase_replicate_append]

/-- The text is made of the words, which have no underscores and are joined by single ones. -/
def IsWords (text : String) (ws : List String) : Prop :=
  (∀ w ∈ ws, '_' ∉ w.toList) ∧ text = "_".intercalate ws

theorem exists_isWords (text : String) : ∃ ws, IsWords text ws := by
  have hclean : ∀ w ∈ words text.toList, '_' ∉ w := by
    intro w hw hmem
    exact (mem_flatten_words_iff.1 (List.mem_flatten.2 ⟨w, hw, hmem⟩)).2 rfl
  refine ⟨(words text.toList).map String.ofList, by simpa using hclean, ?_⟩
  simp [← String.toList_inj, Function.comp_def, intercalate_words]

theorem accessorName_of_words {text : String} {ws : List String} (h : IsWords text ws) :
    accessorName text =
      accessorPrefix ++ String.join (ws.map fun w => String.ofList (capitalize w.toList)) := by
  rcases h with ⟨hclean, rfl⟩
  have hcamel : camelCase (['_'].intercalate (ws.map String.toList)) =
      (ws.map String.toList).flatMap capitalize :=
    camelCase_intercalate (by simpa using hclean)
  simp [← String.toList_inj, accessorName_eq, hcamel, List.flatMap_map]

/-- The accessor name of no text is the prefix, and that of a single word has the word behind the
prefix, with its first character in upper case. An underscore between two texts puts what stands
behind the prefix for the second one behind the name for the first one, so that underscores at
either end or in a row make no difference, and the words of a text follow the prefix with nothing in
between. The accessor of a field is the beginning of the accessors of all fields that go on with
more words, and these miss wherever it misses. -/
theorem accessor_by_words {ε α : Type} :
    accessorName "" = "get" ∧
    (∀ (word : String) c cs, word.toList = c :: cs → '_' ∉ word.toList →
      accessorName word = "get" ++ String.ofList (Text.uppercase c ++ cs)) ∧
    (∀ a b, ∃ rest, accessorName b = "get" ++ rest ∧
      accessorName (a ++ "_" ++ b) = accessorName a ++ rest) ∧
    (∀ a b n, accessorName (underscores n ++ a) = accessorName a ∧
      accessorName (a ++ underscores n) = accessorName a ∧
      accessorName (a ++ underscores (n + 1) ++ b) = accessorName (a ++ "_" ++ b)) ∧
    (∀ text, (∃ ws, IsWords text ws) ∧ ∀ ws, IsWords text ws →
      accessorName text =
        "get" ++ String.join (ws.map fun w => String.ofList (capitalize w.toList))) ∧
    ∀ text more field longer, FieldName.parse text = .ok field →
      FieldName.parse (text ++ "_" ++ more) = .ok longer →
        field.accessor.toList <+: longer.accessor.toList ∧
        (∀ e : Registry.Entry ε α,
          e.resolve field.accessor = none → e.resolve longer.accessor = none) ∧
        ∀ (r : Registry ε α) kind,
          r.resolve kind text = .error (.lookupMiss kind field.accessor) →
            r.resolve kind (text ++ "_" ++ more) = .error (.lookupMiss kind longer.accessor) := by
  refine ⟨rfl, fun word c cs => accessorName_of_not_mem,
    fun a b => ⟨accessorRest b, rfl, accessorName_append a b⟩, accessorName_underscores,
    fun text => ⟨exists_isWords text, fun ws => accessorName_of_words⟩, ?_⟩
  intro text more field longer hfield hlonger
  have hstart : field.accessor.toList <+: longer.accessor.toList := by
    obtain rfl := FieldName.parse_eq_ok_iff.1 hfield
    simpa [FieldName.accessor, FieldName.parse_eq_ok_iff.1 hlonger] using
      accessorName_prefix field.text more
  have hentry (e : Registry.Entry ε α) :
      e.resolve field.accessor = none → e.resolve longer.accessor = none :=
    Registry.Entry.resolve_eq_none_of_infix hstart.isInfix
  refine ⟨hstart, hentry, fun r kind hmiss => ?_⟩
  by_cases hregistered : ∃ e, (kind, e) ∈ r.entries
  · rcases hregistered with ⟨e, he⟩
    have hnone := (Registry.resolve_eq_miss_iff he hfield).1 hmiss
    exact (Registry.resolve_eq_miss_iff he hlonger).2 (hentry e hnone)
  · -- a kind without entry is unregistered instead
    simp [Registry.resolve_of_unregistered (not_exists.1 hregistered)] at hmiss

/-- A first character with two capitals, an empty word in the middle, and a field that misses
together with a longer one. -/
theorem accessor_by_words_email :
    let e : Registry.Entry Unit Nat := ⟨(), [("getPhone", 0), ("getHomeemail", 1)]⟩
    let r : Registry Unit Nat := ⟨[(.contact, e)], by decide⟩
    accessorName "ßeta" = "getSSeta" ∧ accessorName "email__address" = "getEmailAddress" ∧
      r.resolve .contact "email" = .error (.lookupMiss .contact "getEmail") ∧
      r.resolve .contact "email_address" =
        .error (.lookupMiss .contact "getEmailAddress") := by
  intro e r
  rcases @accessor_by_words Unit Nat with ⟨_, hword, _, _, hwords, hlonger⟩
  have hsharp := hword "ßeta" 'ß' "eta".toList (by decide) (by decide)
  have hjoined : IsWords "email__address" ["email", "", "address"] := ⟨by decide, by decide⟩
  have hfield : FieldName.parse "email" = .ok ⟨"email", by decide⟩ :=
    FieldName.parse_eq_ok_iff.2 rfl
  have hmore : FieldName.parse "email_address" = .ok ⟨"email_address", by decide⟩ :=
    FieldName.parse_eq_ok_iff.2 rfl
  have hmiss : r.resolve .contact "email" = .error (.lookupMiss .contact "getEmail") := rfl
  rcases hlonger "email" "address" _ _ hfield hmore with ⟨_, _, hmisses⟩
  exact ⟨hsharp.trans (by decide), ((hwords _).2 _ hjoined).trans (by decide), hmiss,
    hmisses r .contact hmiss⟩

end Field
end FieldPatch
