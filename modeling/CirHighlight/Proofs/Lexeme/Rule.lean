import CirHighlight.Lexeme.Scan

namespace CirHighlight

namespace Lexeme

/-- A piece that gives tokens, none of them empty. -/
def GivesTokens : Lexeme → Prop
  | .gap _ => False
  | .single text _ => text ≠ []
  | .operation name => name ≠ []

theorem GivesTokens.chars_ne_nil {piece : Lexeme} (h : piece.GivesTokens) : piece.chars ≠ [] := by
  cases piece with
  | gap => cases h
  | single => exact h
  | operation => exact List.cons_ne_nil _ _

end Lexeme

namespace Rule

/-- A rule that reads tokens off the start of a text. -/
def ReadsStart (rule : Rule) : Prop :=
  ∀ lexicon text piece, rule lexicon text = some piece →
    piece.GivesTokens ∧ piece.chars <+: text

theorem word_isPrefix (text : List Char) : word text <+: text :=
  List.takeWhile_prefix _

theorem strip?_eq_some {start text rest : List Char} (h : strip? start text = some rest) :
    text = start ++ rest := by
  unfold strip? at h
  split at h
  · next hprefix =>
    obtain ⟨tail, rfl⟩ := List.isPrefixOf_iff_prefix.1 hprefix
    rw [List.drop_left] at h
    rw [Option.some.inj h]
  · cases h

theorem qualified?_eq_some {qualifier text found : List Char}
    (h : qualified? qualifier text = some found) : found ≠ [] ∧ found <+: text := by
  unfold qualified? at h
  split at h
  · cases h
  · next rest hstrip =>
    split at h
    · cases h
    · next hword =>
      rw [← Option.some.inj h, strip?_eq_some hstrip]
      have hne : word rest ≠ [] := mt List.isEmpty_iff.2 hword
      exact ⟨List.append_ne_nil_of_right_ne_nil _ hne,
        (List.prefix_append_right_inj _).2 (word_isPrefix rest)⟩

theorem qualifiedWord_isPrefix (qualifiers : List (List Char)) (text : List Char) :
    qualifiedWord qualifiers text <+: text := by
  unfold qualifiedWord
  cases h : qualifiers.findSome? (qualified? · text) with
  | none => exact word_isPrefix text
  | some found =>
    obtain ⟨qualifier, -, hfound⟩ := List.exists_of_findSome?_eq_some h
    exact (qualified?_eq_some hfound).2

theorem word_eq_nil_of_qualifiedWord {qualifiers : List (List Char)} {text : List Char}
    (h : qualifiedWord qualifiers text = []) : word text = [] := by
  unfold qualifiedWord at h
  cases hfind : qualifiers.findSome? (qualified? · text) with
  | none =>
    rw [hfind] at h
    exact h
  | some found =>
    obtain ⟨qualifier, -, hfound⟩ := List.exists_of_findSome?_eq_some hfind
    rw [hfind] at h
    exact ((qualified?_eq_some hfound).1 h).elim

theorem word_eq_nil_iff {text : List Char} :
    word text = [] ↔ ∀ c, text.head? = some c → isWordChar c = false := by
  cases text with
  | nil => simp [word]
  | cons c rest => simp [word, List.takeWhile_cons]

theorem marked_eq_some {mark : Char} {body : List Char} {category : Category} {piece : Lexeme}
    (h : marked mark body category = some piece) :
    piece = .single (mark :: body) (some category) := by
  unfold marked at h
  split at h
  · cases h
  · exact (Option.some.inj h).symm

theorem readsStart_of_marked {mark : Char} {qualifiers : List (List Char)} {rest : List Char}
    {category : Category} {piece : Lexeme}
    (h : marked mark (qualifiedWord qualifiers rest) category = some piece) :
    piece.GivesTokens ∧ piece.chars <+: mark :: rest := by
  rw [marked_eq_some h]
  exact ⟨List.cons_ne_nil _ _,
    List.cons_prefix_cons.2 ⟨rfl, qualifiedWord_isPrefix qualifiers rest⟩⟩

theorem readsStart_type : ReadsStart type := by
  intro lexicon text piece h
  unfold type at h
  split at h
  · exact readsStart_of_marked h
  · cases h

theorem readsStart_string : ReadsStart string := by
  intro lexicon text piece h
  unfold string at h
  split at h
  · rw [← Option.some.inj h]
    exact ⟨List.cons_ne_nil _ _, List.cons_prefix_cons.2 ⟨rfl, List.take_prefix _ _⟩⟩
  · cases h

theorem readsStart_number : ReadsStart number := by
  intro lexicon text piece h
  simp only [number] at h
  split at h
  · cases h
  · next hdigits =>
    rw [← Option.some.inj h]
    exact ⟨mt List.isEmpty_iff.2 hdigits, List.takeWhile_prefix _⟩

theorem readsStart_operation : ReadsStart operation := by
  intro lexicon text piece h
  simp only [operation] at h
  split at h
  · cases h
  · next rest hstrip =>
    split at h
    · cases h
    · next hword =>
      rw [← Option.some.inj h, strip?_eq_some hstrip]
      exact ⟨mt List.isEmpty_iff.2 hword,
        (List.prefix_append_right_inj cirQualifier).2 (word_isPrefix rest)⟩

theorem readsStart_sigil : ReadsStart sigil := by
  intro lexicon text piece h
  cases text with
  | nil => cases h
  | cons c rest =>
    simp only [sigil] at h
    split at h
    · cases h
    · exact readsStart_of_marked h

theorem readsStart_bareWord : ReadsStart bareWord := by
  intro lexicon text piece h
  simp only [bareWord] at h
  split at h
  · cases h
  · next hword =>
    rw [← Option.some.inj h]
    exact ⟨mt List.isEmpty_iff.2 hword, word_isPrefix text⟩

theorem readsStart_of_mem_all {rule : Rule} (h : rule ∈ all) : ReadsStart rule := by
  simp only [all, List.mem_cons, List.not_mem_nil, or_false] at h
  rcases h with rfl | rfl | rfl | rfl | rfl | rfl
  · exact readsStart_type
  · exact readsStart_string
  · exact readsStart_number
  · exact readsStart_operation
  · exact readsStart_sigil
  · exact readsStart_bareWord

/-- The characters that mark a name when a word follows. -/
def marks : List Char := ['!', '@', '%', '#']

/-- A character that belongs to no token, with what follows it: it is neither a word's nor a
quote, and no word follows it if it is a mark. -/
def Skipped (c : Char) (rest : List Char) : Prop :=
  isWordChar c = false ∧ c ≠ '"' ∧
    (c ∈ marks → ∀ d, rest.head? = some d → isWordChar d = false)

theorem word_eq_nil_of_marked {mark : Char} {qualifiers : List (List Char)} {rest : List Char}
    {category : Category} (h : marked mark (qualifiedWord qualifiers rest) category = none) :
    word rest = [] := by
  unfold marked at h
  split at h
  · next hempty => exact word_eq_nil_of_qualifiedWord (List.isEmpty_iff.1 hempty)
  · cases h

theorem skipped_of_all {lexicon : Lexicon} {c : Char} {rest : List Char}
    (h : ∀ rule ∈ all, rule lexicon (c :: rest) = none) : Skipped c rest := by
  refine ⟨?_, ?_, ?_⟩
  · have hword := h bareWord (by simp [all])
    simp only [bareWord] at hword
    split at hword
    · next hempty => exact word_eq_nil_iff.1 (List.isEmpty_iff.1 hempty) c rfl
    · cases hword
  · rintro rfl
    cases h string (by simp [all])
  · intro hmark
    have htype := h type (by simp [all])
    have hsigil := h sigil (by simp [all])
    simp only [marks, List.mem_cons, List.not_mem_nil, or_false] at hmark
    apply word_eq_nil_iff.1
    rcases hmark with rfl | rfl | rfl | rfl
    · exact word_eq_nil_of_marked htype
    · exact word_eq_nil_of_marked hsigil
    · exact word_eq_nil_of_marked hsigil
    · exact word_eq_nil_of_marked hsigil

section FirstCharacter

variable {lexicon : Lexicon} {c : Char} {rest : List Char}

theorem type_eq_none (hc : c ≠ '!') : type lexicon (c :: rest) = none := by
  unfold type
  split
  · next heq => exact (hc (List.cons.inj heq).1).elim
  · rfl

theorem string_eq_none (hc : c ≠ '"') : string lexicon (c :: rest) = none := by
  unfold string
  split
  · next heq => exact (hc (List.cons.inj heq).1).elim
  · rfl

theorem number_eq_none (hc : c.isDigit = false) : number lexicon (c :: rest) = none := by
  have hdigits : (c :: rest).takeWhile Char.isDigit = [] := by
    apply List.takeWhile_cons_of_neg
    rw [hc]
    exact Bool.false_ne_true
  simp only [number, hdigits]
  rfl

theorem operation_eq_none (hc : c ≠ 'c') : operation lexicon (c :: rest) = none := by
  have hstart : cirQualifier.isPrefixOf (c :: rest) = false := by
    rw [Bool.eq_false_iff]
    intro hprefix
    exact hc (List.cons_prefix_cons.1 (List.isPrefixOf_iff_prefix.1 hprefix)).1.symm
  rw [operation, strip?, hstart]
  rfl

theorem sigil_eq_none (hc : sigilCategory? c = none) : sigil lexicon (c :: rest) = none := by
  simp only [sigil, hc]

theorem bareWord_eq_none (hc : isWordChar c = false) : bareWord lexicon (c :: rest) = none := by
  have hword : word (c :: rest) = [] := by
    apply word_eq_nil_iff.2
    intro d hd
    rwa [← Option.some.inj hd]
  rw [bareWord, hword]
  rfl

end FirstCharacter

end Rule

end CirHighlight
