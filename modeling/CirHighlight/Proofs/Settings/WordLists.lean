import CirHighlight.Proofs.Settings.Settled

namespace CirHighlight.Settings

inductive WordList where
  | keywords
  | macros
  | typenames
deriving DecidableEq

namespace WordList

def name : WordList → String
  | .keywords => "extra_keywords"
  | .macros => "extra_macros"
  | .typenames => "extra_typenames"

def key (list : WordList) : String :=
  "lexicon." ++ list.name

def variableName : WordList → String
  | .keywords => "CIR_LEXICON__EXTRA_KEYWORDS"
  | .macros => "CIR_LEXICON__EXTRA_MACROS"
  | .typenames => "CIR_LEXICON__EXTRA_TYPENAMES"

/-- One thing for a list, and another for the two others. -/
def select {α : Type} (list : WordList) (mine others : α) (other : WordList) : α :=
  if other = list then mine else others

/-- The built-in settings with the given words in one list. -/
def settings (list : WordList) (words : List String) : Settings where
  extraKeywords := list.select words [] .keywords
  extraMacros := list.select words [] .macros
  extraTypenames := list.select words [] .typenames
  comments := true
  unclassified := "omit"
  level := "info"

/-- The fields of the part with word lists, where one list has the given value. -/
def lists (list : WordList) (value : Value) : List (String × Value) :=
  [WordList.keywords, .macros, .typenames].map fun other =>
    (other.name, list.select value (.array none []) other)

/-- The built-in fields with the given value in place of one list. -/
def fields (list : WordList) (value : Value) : List (String × Value) :=
  ("lexicon", .table none (list.lists value)) :: builtinFields.tail

theorem map_fst_lists (list : WordList) (value : Value) :
    (list.lists value).map Prod.fst = ["extra_keywords", "extra_macros", "extra_typenames"] :=
  rfl

theorem map_fst_fields (list : WordList) (value : Value) :
    (list.fields value).map Prod.fst = ["lexicon", "highlight", "logging"] :=
  rfl

theorem fields_empty (list : WordList) : list.fields (.array none []) = builtinFields := by
  cases list <;> rfl

def names : List String :=
  ["lexicon", "extra_keywords", "extra_macros", "extra_typenames", "highlight", "comments",
    "unclassified", "logging", "level"]

theorem lowercase_names : ∀ name ∈ names, Text.lowercase name = name := by
  decide +kernel

theorem read?_names : ∀ name ∈ names, Path.read? name = some ⟨name, []⟩ := by
  decide +kernel

theorem name_mem_names (list : WordList) : list.name ∈ names := by
  cases list <;> decide

theorem read?_key (list : WordList) :
    Path.read? list.key = some ⟨"lexicon", [.field list.name]⟩ := by
  cases list <;> decide +kernel

theorem key?_variableName (list : WordList) :
    Environment.key? list.variableName = some list.key := by
  cases list <;> decide +kernel

theorem key_mem_listKeys (list : WordList) : list.key ∈ Environment.listKeys := by
  cases list <;> decide

theorem settled_of_names {fields : List (String × Value)}
    (hnames : ∀ name ∈ fields.map Prod.fst, name ∈ names) (hnodup : (fields.map Prod.fst).Nodup)
    (hvalues : ∀ field ∈ fields, field.2.Settled) : Value.Settled (.table none fields) := by
  apply Value.Settled.table fields _ hnodup hvalues
  intro field hfield
  exact lowercase_names field.1 (hnames field.1 (List.mem_map_of_mem hfield))

theorem settled_lists (list : WordList) {value : Value} (hvalue : value.Settled) :
    Value.Settled (.table none (list.lists value)) := by
  apply settled_of_names
  · rw [map_fst_lists]
    decide
  · rw [map_fst_lists]
    decide
  · intro field hfield
    obtain ⟨other, -, rfl⟩ := List.mem_map.1 hfield
    dsimp only [select]
    split
    · exact hvalue
    · exact .array none []

theorem settled_builtinFields_tail : ∀ field ∈ builtinFields.tail, field.2.Settled := by
  intro field hfield
  obtain rfl | rfl : field = _ ∨ field = _ := by simpa [builtinFields] using hfield
  · apply settled_of_names
    · decide
    · decide
    · intro inner hinner
      obtain rfl | rfl : inner = _ ∨ inner = _ := by simpa using hinner
      · exact .scalar none (.bool true)
      · exact .scalar none (.string "omit")
  · apply settled_of_names
    · decide
    · decide
    · intro inner hinner
      obtain rfl : inner = _ := by simpa using hinner
      exact .scalar none (.string "info")

theorem settled_fields (list : WordList) {value : Value} (hvalue : value.Settled) :
    Value.Settled (.table none (list.fields value)) := by
  apply settled_of_names
  · rw [map_fst_fields]
    decide
  · rw [map_fst_fields]
    decide
  · intro field hfield
    rcases List.mem_cons.1 hfield with rfl | hbuiltin
    · exact list.settled_lists hvalue
    · exact settled_builtinFields_tail field hbuiltin

theorem put_fields (list : WordList) {value : Value} (hvalue : value.Settled) :
    Loader.put .emptyTable (list.fields value) = .ok (.table none (list.fields value)) := by
  apply Loader.put_settled (list.settled_fields hvalue)
  have hnames : ∀ name ∈ (list.fields value).map Prod.fst, name ∈ names := by
    rw [map_fst_fields]
    decide
  intro field hfield
  exact read?_names field.1 (hnames field.1 (List.mem_map_of_mem hfield))

theorem put_builtinFields :
    Loader.put .emptyTable builtinFields = .ok (.table none builtinFields) := by
  have hput := put_fields .keywords (.array none [])
  rwa [fields_empty] at hput

theorem put_key (list : WordList) {value : Value}
    (hvalue : ∀ origin inner, value ≠ .table origin inner) :
    Loader.put (.table none builtinFields) [(list.key, value)] =
      .ok (.table none (list.fields value)) := by
  have hlist : Value.setField list.name value (.table none (list.lists (.array none []))) =
      .table none (list.lists value) := by
    rw [Value.setField_of_ne_table hvalue (lowercase_names list.name list.name_mem_names)]
    cases list <;> rfl
  have hset : (Value.table none builtinFields).setKey list.key value =
      .ok (.table none (list.fields value)) := by
    rw [Value.setKey, read?_key, ← list.fields_empty]
    simp only [Value.setAt, Value.splitLast, Value.modify]
    rw [lowercase_names "lexicon" (by decide)]
    change Except.ok ((Value.table none (list.fields (.array none []))).withField "lexicon"
      (Value.setField list.name value (.table none (list.lists (.array none []))))) = _
    rw [hlist]
    rfl
  simp only [Loader.put, Value.setKeys, List.foldlM_cons, hset]
  rfl

theorem decode_fields (list : WordList) (value : Value) :
    decode (.table none (list.fields value)) =
      ((decodeLexicon (.table none (list.lists value))).mapError (.below (.field "lexicon"))).map
        fun (extraKeywords, extraMacros, extraTypenames) =>
          ⟨extraKeywords, extraMacros, extraTypenames, true, "omit", "info"⟩ := by
  have hlexicon : decodePart (.table none (list.fields value)) "lexicon" decodeLexicon =
      ((decodeLexicon (.table none (list.lists value))).mapError (.below (.field "lexicon"))).map
        some := rfl
  have hhighlight : decodePart (.table none (list.fields value)) "highlight" decodeHighlight =
      .ok (some (true, "omit")) := rfl
  have hlogging : decodePart (.table none (list.fields value)) "logging" decodeLogging =
      .ok (some "info") := rfl
  rw [decode, hlexicon, hhighlight, hlogging]
  cases decodeLexicon (.table none (list.lists value)) <;> rfl

/-- What reading one of the lists gives if a list has the given value. -/
def readList (list : WordList) (value : Value) (other : WordList) : Except Error (List String) :=
  (list.select value (.array none []) other).toTexts.mapError (.below (.field other.name))

theorem read?_lists (list : WordList) (value : Value) (other : WordList) :
    lexiconPart.read? (.named (.table none (list.lists value))) other.name Value.toTexts =
      (list.readList value other).map some := by
  cases other <;> rfl

theorem decodeLexicon_lists (list : WordList) (value : Value) :
    decodeLexicon (.table none (list.lists value)) = (do
      return (← list.readList value .keywords, ← list.readList value .macros,
        ← list.readList value .typenames)) := by
  have hkeywords := list.read?_lists value .keywords
  have hmacros := list.read?_lists value .macros
  have htypenames := list.read?_lists value .typenames
  simp only [name] at hkeywords hmacros htypenames
  simp only [decodeLexicon, Part.values, bind, Except.bind, hkeywords, hmacros, htypenames]
  cases list.readList value .keywords with
  | error => rfl
  | ok =>
    cases list.readList value .macros with
    | error => rfl
    | ok => cases list.readList value .typenames <;> rfl

theorem readList_eq_select (list other : WordList) {value : Value}
    {result : Except Error (List String)}
    (hvalue : ∀ step, value.toTexts.mapError (.below step) = result) :
    list.readList value other = list.select result (.ok []) other := by
  unfold readList select
  split
  · exact hvalue _
  · rfl

theorem decode_fields_ok (list : WordList) {value : Value} {words : List String}
    (hvalue : value.toTexts = .ok words) :
    decode (.table none (list.fields value)) = .ok (list.settings words) := by
  have hread (other : WordList) :
      list.readList value other = list.select (.ok words) (.ok []) other := by
    apply readList_eq_select
    intro step
    rw [hvalue]
    rfl
  rw [decode_fields, decodeLexicon_lists, hread, hread, hread]
  cases list <;> rfl

theorem decode_fields_mismatch (list : WordList) {value : Value} {found expected : String}
    (hvalue : value.toTexts = .error (.mismatch found expected)) :
    decode (.table none (list.fields value)) = .error (.mismatch found expected) := by
  have hread (other : WordList) :
      list.readList value other =
        list.select (.error (.mismatch found expected)) (.ok []) other := by
    apply readList_eq_select
    intro step
    rw [hvalue]
    rfl
  rw [decode_fields, decodeLexicon_lists, hread, hread, hread]
  cases list <;> rfl

end WordList

end CirHighlight.Settings
