import CirHighlight.Proofs.Settings.Separator
import CirHighlight.Proofs.Settings.WordLists
import Mathlib.Data.List.Basic

/-!
Word lists from environment variables. A text that reads as a truth value or a number is a single
value whatever its key, and a single value is no list. A comma keeps a text from being read like
that, so two words or more always arrive; one word alone arrives only if it does not look like
such a value.
-/

namespace CirHighlight.Settings

theorem Value.toTextsFrom_strings (index : Nat) (origin : Option String) (words : List String) :
    toTextsFrom index (words.map fun word => .scalar origin (.string word)) = .ok words := by
  induction words generalizing index with
  | nil => rfl
  | cons word rest ih =>
    rw [List.map_cons, toTextsFrom, ih (index + 1)]
    rfl

namespace Environment

/-- A text that is read as a truth value or a number. -/
def IsSingle (text : String) : Prop :=
  Text.lowercase text = "true" ∨ Text.lowercase text = "false" ∨
    (Number.integer? text).isSome ∨ (Number.real? text).isSome

theorem value_of_isSingle {text : String} (hsingle : IsSingle text) (key : String) :
    ∃ scalar, value key text = .scalar (some origin) scalar := by
  simp only [value]
  split
  · exact ⟨_, rfl⟩
  · split
    · exact ⟨_, rfl⟩
    · split
      · exact ⟨_, rfl⟩
      · split
        · exact ⟨_, rfl⟩
        · simp_all [IsSingle]

theorem value_of_not_isSingle {text : String} (hsingle : ¬IsSingle text) {key : String}
    (hkey : key ∈ listKeys) :
    value key text =
      .array (some origin)
        ((Text.splitWhere (· = ',') text.toList).map fun word =>
          .scalar (some origin) (.string (String.ofList word))) := by
  simp only [IsSingle, not_or, Option.not_isSome_iff_eq_none] at hsingle
  obtain ⟨htrue, hfalse, hinteger, hreal⟩ := hsingle
  simp only [value, if_neg htrue, if_neg hfalse, hinteger, hreal, if_pos hkey]

theorem value_ne_table {key text : String} (hkey : key ∈ listKeys) (source : Option String)
    (inner : List (String × Value)) : value key text ≠ .table source inner := by
  by_cases hsingle : IsSingle text
  · obtain ⟨scalar, hscalar⟩ := value_of_isSingle hsingle key
    rw [hscalar]
    exact Value.noConfusion
  · rw [value_of_not_isSingle hsingle hkey]
    exact Value.noConfusion

theorem not_isSingle_of_comma {text : String} (hmem : ',' ∈ text.toList) : ¬IsSingle text := by
  have hlower := Text.comma_mem_lowercase hmem
  rintro (htrue | hfalse | hinteger | hreal)
  · exact absurd (htrue ▸ hlower) (by decide)
  · exact absurd (hfalse ▸ hlower) (by decide)
  · rw [Number.integer?_eq_none_of_comma hmem] at hinteger
    cases hinteger
  · rw [Number.real?_eq_none_of_comma hmem] at hreal
    cases hreal

theorem isSingle_intercalate_iff {words : List String} (hne : words ≠ []) :
    IsSingle (",".intercalate words) ↔ ∃ word, words = [word] ∧ IsSingle word := by
  match words with
  | [word] => simp
  | first :: second :: rest =>
    have hcomma : ',' ∈ (",".intercalate (first :: second :: rest)).toList := by
      simp [String.intercalate_cons_cons]
    constructor
    · exact fun hsingle => absurd hsingle (not_isSingle_of_comma hcomma)
    · rintro ⟨word, heq, -⟩
      cases heq

theorem toTexts_value_intercalate {words : List String} (hne : words ≠ [])
    (hwords : ∀ word ∈ words, ',' ∉ word.toList) {key : String} (hkey : key ∈ listKeys)
    (hsingle : ¬IsSingle (",".intercalate words)) :
    (value key (",".intercalate words)).toTexts = .ok words := by
  have hsplit : Text.splitWhere (· = ',') (",".intercalate words).toList =
      words.map String.toList := Text.splitWhere_intercalate hne hwords
  rw [value_of_not_isSingle hsingle hkey, hsplit, List.map_map]
  simp only [Function.comp_def, String.ofList_toList]
  exact Value.toTextsFrom_strings 0 (some origin) words

theorem toTexts_value_of_isSingle {text : String} (hsingle : IsSingle text) (key : String) :
    (value key text).toTexts = .error (.mismatch (value key text).describe "a sequence") := by
  obtain ⟨scalar, hscalar⟩ := value_of_isSingle hsingle key
  rw [hscalar]
  rfl

theorem key?_eq_none {name : String} (hname : ¬marker <+: (Text.lowercase name).toList) :
    key? name = none := by
  simp only [key?, List.isPrefixOf_iff_prefix, if_neg hname]

theorem fields_filter (environment : List (String × String)) :
    fields (environment.filter fun entry => (key? entry.1).isSome) = fields environment := by
  rw [fields, List.foldl_filter, fields]
  apply List.foldl_ext
  intro found entry _
  cases hkey : key? entry.1 <;> simp [hkey]

theorem fields_of_only {before after : List (String × String)}
    (hothers : ∀ entry ∈ before ++ after, key? entry.1 = none) {name key : String}
    (hname : key? name = some key) (text : String) :
    fields (before ++ (name, text) :: after) = [(key, value key text)] := by
  have hnone : ∀ entries ⊆ before ++ after,
      entries.filter (fun entry => (key? entry.1).isSome) = [] := by
    intro entries hsub
    rw [List.filter_eq_nil_iff]
    intro entry hentry
    rw [hothers entry (hsub hentry)]
    exact Bool.false_ne_true
  rw [← fields_filter, List.filter_append, hnone before (List.subset_append_left _ _),
    List.filter_cons_of_pos (by simp [hname]), hnone after (List.subset_append_right _ _)]
  simp only [fields, List.nil_append, List.foldl_cons, List.foldl_nil, hname, List.filter_nil]

end Environment

theorem load_environment {world : World} {list : WordList} {value : Value}
    (hfields : Environment.fields world.environment = [(list.key, value)])
    (hvalue : ∀ origin inner, value ≠ .table origin inner) :
    load world [.environment] = decode (.table none (list.fields value)) := by
  simp only [load, Loader.load, Loader.merge, Loader.add, Loader.sourceFields, List.foldlM_cons,
    List.foldlM_nil, List.nil_append, bind, Except.bind, pure, Except.pure,
    WordList.put_builtinFields, hfields, list.put_key hvalue, Value.fields,
    list.put_fields (Value.settled_of_ne_table hvalue)]

section OneVariable

variable (list : WordList) (files : Files) {before after : List (String × String)}
  (hothers : ∀ entry ∈ before ++ after, ¬Environment.marker <+: (Text.lowercase entry.1).toList)

include hothers

theorem load_variable (text : String) :
    load ⟨files, before ++ (list.variableName, text) :: after⟩ [.environment] =
      decode (.table none (list.fields (Environment.value list.key text))) := by
  apply load_environment _ (Environment.value_ne_table list.key_mem_listKeys)
  apply Environment.fields_of_only _ list.key?_variableName
  intro entry hentry
  exact Environment.key?_eq_none (hothers entry hentry)

theorem load_single {text : String} (hsingle : Environment.IsSingle text) :
    load ⟨files, before ++ (list.variableName, text) :: after⟩ [.environment] =
      .error (.mismatch (Environment.value list.key text).describe "a sequence") := by
  rw [load_variable list files hothers]
  exact list.decode_fields_mismatch (Environment.toTexts_value_of_isSingle hsingle list.key)

end OneVariable

/-- Words joined with commas in the variable of a list, where no other variable counts, become
that list, and the other settings are the built-in ones; except that one word alone which reads as
a truth value or a number is refused. -/
theorem load_joined_words (list : WordList) (files : Files) (before after : List (String × String))
    (hothers : ∀ entry ∈ before ++ after, ¬Environment.marker <+: (Text.lowercase entry.1).toList)
    (words : List String) (hne : words ≠ []) (hwords : ∀ word ∈ words, ',' ∉ word.toList) :
    ((∀ word, words = [word] → ¬Environment.IsSingle word) →
      load ⟨files, before ++ (list.variableName, ",".intercalate words) :: after⟩ [.environment] =
        .ok (list.settings words)) ∧
    ∀ word, words = [word] → Environment.IsSingle word →
      load ⟨files, before ++ (list.variableName, ",".intercalate words) :: after⟩ [.environment] =
        .error (.mismatch (Environment.value list.key word).describe "a sequence") := by
  constructor
  · intro hmany
    rw [load_variable list files hothers]
    apply list.decode_fields_ok
    apply Environment.toTexts_value_intercalate hne hwords list.key_mem_listKeys
    rw [Environment.isSingle_intercalate_iff hne]
    rintro ⟨word, heq, hsingle⟩
    exact hmany word heq hsingle
  · rintro word rfl hsingle
    rw [String.intercalate_singleton]
    exact load_single list files hothers hsingle

/-- Two words that would each be read as a single value arrive as a list. -/
theorem load_joined_words_true_five :
    load ⟨fun _ => .missing, [("HOME", "/root"), ("CIR_LEXICON__EXTRA_MACROS", "true,5")]⟩
        [.environment] =
      .ok ⟨[], ["true", "5"], [], true, "omit", "info"⟩ :=
  (load_joined_words .macros (fun _ => .missing) [("HOME", "/root")] [] (by decide +kernel)
    ["true", "5"] (by decide) (by decide)).1 (by simp)

/-- The word `true` alone, which has no comma, is refused. -/
theorem load_refuses_word_true :
    "true" ≠ "" ∧ ',' ∉ "true".toList ∧
    load ⟨fun _ => .missing, [("CIR_LEXICON__EXTRA_KEYWORDS", ",".intercalate ["true"])]⟩
        [.environment] =
      .error (.mismatch "boolean `true`" "a sequence") := by
  have htrue : Text.lowercase "true" = "true" := by decide +kernel
  have hvalue : Environment.value WordList.keywords.key "true" =
      .scalar (some Environment.origin) (.bool true) := by
    simp only [Environment.value, htrue, if_true]
  have hothers : ∀ entry ∈ ([] : List (String × String)) ++ [],
      ¬Environment.marker <+: (Text.lowercase entry.1).toList := by simp
  have hload := load_single .keywords (fun _ => .missing) hothers (.inl htrue)
  rw [hvalue] at hload
  rw [String.intercalate_singleton]
  exact ⟨by decide, by decide, hload⟩

end CirHighlight.Settings
