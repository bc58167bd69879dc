import CirHighlight.Proofs.Lexeme.Scan

namespace CirHighlight

namespace Rule

/-- A character that can only be in literals and between tokens. -/
def Stops (d : Char) : Prop :=
  d = '/' ∨ d = '"'

/-- A rule reads the same if a text that starts with no quote ends before a character. -/
def StopsBefore (d : Char) (rule : Rule) : Prop :=
  ∀ lexicon c rest tail, c ≠ '"' →
    rule lexicon (c :: (rest ++ d :: tail)) = rule lexicon (c :: rest)

variable {d : Char}

theorem takeWhile_append_cons {test : Char → Bool} (h : test d = false) (text tail : List Char) :
    (text ++ d :: tail).takeWhile test = text.takeWhile test := by
  induction text with
  | nil => exact List.takeWhile_cons_of_neg (by rw [h]; decide)
  | cons c text ih => rw [List.cons_append, List.takeWhile_cons, List.takeWhile_cons, ih]

theorem Stops.isWordChar_eq_false (h : Stops d) : isWordChar d = false := by
  rcases h with rfl | rfl <;> decide

theorem Stops.isDigit_eq_false (h : Stops d) : d.isDigit = false := by
  rcases h with rfl | rfl <;> decide

theorem Stops.not_mem_qualifier (h : Stops d) {qualifier : List Char}
    (hqualifier : qualifier ∈ [cirQualifier, llvmQualifier]) : d ∉ qualifier := by
  simp only [List.mem_cons, List.not_mem_nil, or_false] at hqualifier
  rcases h with rfl | rfl <;> rcases hqualifier with rfl | rfl <;> decide

theorem Stops.word_append (h : Stops d) (text tail : List Char) :
    word (text ++ d :: tail) = word text :=
  takeWhile_append_cons h.isWordChar_eq_false text tail

theorem isPrefix_append_cons_iff {start text tail : List Char} (h : d ∉ start) :
    start <+: text ++ d :: tail ↔ start <+: text := by
  constructor
  · intro hstart
    rcases Nat.le_total start.length text.length with hle | hle
    · exact List.prefix_of_prefix_length_le hstart (List.prefix_append _ _) hle
    · have htext := List.prefix_of_prefix_length_le (List.prefix_append text (d :: tail)) hstart hle
      obtain ⟨more, rfl⟩ := htext
      cases more with
      | nil => simp
      | cons e more =>
        have hsame := List.cons_prefix_cons.1 ((List.prefix_append_right_inj text).1 hstart)
        refine absurd ?_ h
        rw [← hsame.1]
        exact List.mem_append_right _ List.mem_cons_self
  · intro hstart
    exact hstart.trans (List.prefix_append _ _)

theorem strip?_append_cons {start text tail : List Char} (h : d ∉ start) :
    strip? start (text ++ d :: tail) = (strip? start text).map (· ++ d :: tail) := by
  unfold strip?
  by_cases hstart : start <+: text
  · rw [if_pos (List.isPrefixOf_iff_prefix.2 ((isPrefix_append_cons_iff h).2 hstart)),
      if_pos (List.isPrefixOf_iff_prefix.2 hstart), Option.map_some,
      List.drop_append_of_le_length hstart.length_le]
  · rw [if_neg (mt List.isPrefixOf_iff_prefix.1 (mt (isPrefix_append_cons_iff h).1 hstart)),
      if_neg (mt List.isPrefixOf_iff_prefix.1 hstart), Option.map_none]

theorem Stops.qualified?_append (h : Stops d) {qualifier : List Char}
    (hqualifier : qualifier ∈ [cirQualifier, llvmQualifier]) (text tail : List Char) :
    qualified? qualifier (text ++ d :: tail) = qualified? qualifier text := by
  unfold qualified?
  rw [strip?_append_cons (h.not_mem_qualifier hqualifier)]
  cases strip? qualifier text with
  | none => rfl
  | some rest => simp only [Option.map_some, h.word_append]

theorem Stops.qualifiedWord_append (h : Stops d) {qualifiers : List (List Char)}
    (hqualifiers : qualifiers ⊆ [cirQualifier, llvmQualifier]) (text tail : List Char) :
    qualifiedWord qualifiers (text ++ d :: tail) = qualifiedWord qualifiers text := by
  have hfind : qualifiers.findSome? (qualified? · (text ++ d :: tail)) =
      qualifiers.findSome? (qualified? · text) := by
    induction qualifiers with
    | nil => rfl
    | cons qualifier rest ih =>
      obtain ⟨hfirst, hrest⟩ := List.cons_subset.1 hqualifiers
      rw [List.findSome?_cons, List.findSome?_cons, h.qualified?_append hfirst, ih hrest]
  rw [qualifiedWord, qualifiedWord, hfind, h.word_append]

theorem Stops.stopsBefore (h : Stops d) {rule : Rule} (hrule : rule ∈ all) :
    StopsBefore d rule := by
  intro lexicon c rest tail hc
  simp only [all, List.mem_cons, List.not_mem_nil, or_false] at hrule
  rcases hrule with rfl | rfl | rfl | rfl | rfl | rfl
  · by_cases hmark : c = '!'
    · subst hmark
      rw [type, type, h.qualifiedWord_append (List.Subset.refl _)]
    · rw [type_eq_none hmark, type_eq_none hmark]
  · rw [string_eq_none hc, string_eq_none hc]
  · simp only [number, ← List.cons_append, takeWhile_append_cons h.isDigit_eq_false]
  · simp only [operation, ← List.cons_append,
      strip?_append_cons (h.not_mem_qualifier List.mem_cons_self)]
    cases strip? cirQualifier (c :: rest) with
    | none => rfl
    | some rest => simp only [Option.map_some, h.word_append]
  · have hsubset : [cirQualifier] ⊆ [cirQualifier, llvmQualifier] := List.subset_append_left _ _
    simp only [sigil, h.qualifiedWord_append hsubset]
  · simp only [bareWord, ← List.cons_append, h.word_append]

end Rule

namespace Lexeme

variable (lexicon : Lexicon) {c d : Char} {rest : List Char}

theorem chars_first_isPrefix (c : Char) (rest : List Char) :
    (first Rule.all lexicon c rest).chars <+: c :: rest := by
  rcases first_cases lexicon c rest with ⟨hgap, -⟩ | ⟨-, hstart⟩
  · rw [hgap]
    exact List.prefix_append [c] rest
  · exact hstart

theorem exists_chars_first (c : Char) (rest : List Char) :
    ∃ more after, (first Rule.all lexicon c rest).chars = c :: more ∧ rest = more ++ after := by
  have hne : (first Rule.all lexicon c rest).chars ≠ [] := by
    rcases first_cases lexicon c rest with ⟨hgap, -⟩ | ⟨hgives, -⟩
    · rw [hgap]
      exact List.cons_ne_nil _ _
    · exact hgives.chars_ne_nil
  obtain ⟨after, hafter⟩ := chars_first_isPrefix lexicon c rest
  obtain ⟨e, more, hchars⟩ := List.exists_cons_of_ne_nil hne
  rw [hchars] at hafter
  obtain ⟨rfl, rfl⟩ := List.cons.inj hafter
  exact ⟨more, after, hchars, rfl⟩

theorem first_append_cons (hc : c ≠ '"') (hd : Rule.Stops d) (rest tail : List Char) :
    first Rule.all lexicon c (rest ++ d :: tail) = first Rule.all lexicon c rest := by
  have hfind (rules : List Rule) (hrules : rules ⊆ Rule.all) :
      rules.findSome? (· lexicon (c :: (rest ++ d :: tail))) =
        rules.findSome? (· lexicon (c :: rest)) := by
    induction rules with
    | nil => rfl
    | cons rule others ih =>
      obtain ⟨hrule, hothers⟩ := List.cons_subset.1 hrules
      rw [List.findSome?_cons, List.findSome?_cons, hd.stopsBefore hrule lexicon c rest tail hc,
        ih hothers]
  rw [first, first, hfind Rule.all (List.Subset.refl _)]

theorem not_mem_of_chars_first (hc : c ≠ '"') (hd : Rule.Stops d) {more : List Char}
    (hchars : (first Rule.all lexicon c rest).chars = c :: more) : d ∉ more := by
  intro hmem
  obtain ⟨before, after, rfl⟩ := List.append_of_mem hmem
  obtain ⟨tail, htail⟩ := chars_first_isPrefix lexicon c rest
  rw [hchars, List.cons_append, List.append_assoc, List.cons_append] at htail
  obtain ⟨-, rfl⟩ := List.cons.inj htail
  -- The piece would be the same if the text ended before that character.
  have hle := (chars_first_isPrefix lexicon c before).length_le
  rw [← first_append_cons lexicon hc hd before (after ++ tail), hchars] at hle
  simp only [List.length_cons, List.length_append] at hle
  omega

theorem first_slash (rest : List Char) : first Rule.all lexicon '/' rest = .gap '/' := rfl

theorem first_quote (rest : List Char) :
    first Rule.all lexicon '"' rest =
      .single ('"' :: rest.take (Literal.closingChars 0 rest)) (some .string) := rfl

theorem scan_eq_cons {c : Char} {rest after : List Char}
    (h : (first Rule.all lexicon c rest).chars ++ after = c :: rest) :
    scan lexicon (c :: rest) = first Rule.all lexicon c rest :: scan lexicon after := by
  obtain ⟨more, tail, hchars, rfl⟩ := exists_chars_first lexicon c rest
  rw [hchars, List.cons_append] at h
  have hafter := List.append_cancel_left (List.cons.inj h).2
  rw [scan, scanWith, hchars, List.length_cons, Nat.add_sub_cancel, List.drop_left, hafter]
  rfl

end Lexeme

end CirHighlight
