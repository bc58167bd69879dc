import Mathlib.Computability.Language
import CirHighlight.Proofs.Lexeme.Rule

namespace CirHighlight

namespace Grammar

open scoped Computability

/-- The texts of one character that satisfies a condition. -/
def letter (p : Char → Prop) : Language Char :=
  {text | ∃ c, p c ∧ text = [c]}

/-- The texts of one or more characters that satisfy a condition. -/
def letters (p : Char → Prop) : Language Char :=
  letter p * (letter p)∗

def oneOf (texts : List (List Char)) : Language Char :=
  {text | text ∈ texts}

def Digit (c : Char) : Prop :=
  '0' ≤ c ∧ c ≤ '9'

def WordChar (c : Char) : Prop :=
  ('A' ≤ c ∧ c ≤ 'Z') ∨ ('a' ≤ c ∧ c ≤ 'z') ∨ Digit c ∨ c = '_'

def Sigil (c : Char) : Prop :=
  c = '@' ∨ c = '%' ∨ c = '#'

def word : Language Char :=
  letters WordChar

/-- What stands between the quotes of a literal is made of: characters other than quotes and
backslashes, and pairs of a backslash and any character. -/
def quoted : Language Char :=
  letter (fun c => c ≠ '"' ∧ c ≠ '\\') + {['\\']} * letter (fun _ => True)

/-- What follows the opening quote of a literal that is closed. -/
def closed : Language Char :=
  quoted∗ * {['"']}

inductive Kind where
  | type
  | string
  | number
  | operation
  | sigil
  | word
deriving DecidableEq

/-- The kinds in the order in which they are tried. -/
def Kind.order : List Kind :=
  [.type, .string, .number, .operation, .sigil, .word]

def Kind.language : Kind → Language Char
  | .type =>
    {['!']} * ((1 + oneOf [['c', 'i', 'r', '.'], ['l', 'l', 'v', 'm', '.']]) * Grammar.word)
  | .string => {['"']} * closed
  | .number => letters Digit
  | .operation => {['c', 'i', 'r', '.']} * Grammar.word
  | .sigil => letter Sigil * ((1 + oneOf [['c', 'i', 'r', '.']]) * Grammar.word)
  | .word => Grammar.word

/-- The longest text of a language at the start of what is left of a line. -/
structure Longest (language : Language Char) (rest text : List Char) : Prop where
  mem : text ∈ language
  isPrefix : text <+: rest
  length_le {other : List Char} (hmem : other ∈ language) (hother : other <+: rest) :
    other.length ≤ text.length

/-- What is taken as a token of a kind at the start of what is left of a line: the longest text of
the kind, or all that is left if it is a literal that is not closed. -/
inductive Takes : Kind → List Char → List Char → Prop
  | longest {kind : Kind} {rest text : List Char} (h : Longest kind.language rest text) :
    Takes kind rest text
  | unclosed {rest : List Char} (h : ∀ text ∈ Kind.string.language, ¬ text <+: '"' :: rest) :
    Takes .string ('"' :: rest) ('"' :: rest)

theorem Longest.unique {language : Language Char} {rest first second : List Char}
    (hfirst : Longest language rest first) (hsecond : Longest language rest second) :
    first = second := by
  have hle := hsecond.length_le hfirst.mem hfirst.isPrefix
  have hge := hfirst.length_le hsecond.mem hsecond.isPrefix
  have hstart := List.prefix_of_prefix_length_le hfirst.isPrefix hsecond.isPrefix hle
  exact hstart.eq_of_length_le hge

theorem Takes.unique {kind : Kind} {rest first second : List Char}
    (hfirst : Takes kind rest first) (hsecond : Takes kind rest second) : first = second := by
  cases hfirst with
  | longest hfirst =>
    cases hsecond with
    | longest hsecond => exact hfirst.unique hsecond
    | unclosed hnone => exact (hnone first hfirst.mem hfirst.isPrefix).elim
  | unclosed hnone =>
    cases hsecond with
    | longest hsecond => exact (hnone second hsecond.mem hsecond.isPrefix).elim
    | unclosed => rfl

section Membership

theorem mem_letters {p : Char → Prop} {text : List Char} :
    text ∈ letters p ↔ text ≠ [] ∧ ∀ c ∈ text, p c := by
  constructor
  · intro h
    obtain ⟨first, ⟨c, hc, rfl⟩, rest, hrest, rfl⟩ := Language.mem_mul.1 h
    obtain ⟨parts, rfl, hparts⟩ := Language.mem_kstar.1 hrest
    refine ⟨List.cons_ne_nil _ _, ?_⟩
    intro d hd
    rcases List.mem_cons.1 hd with rfl | hd
    · exact hc
    · obtain ⟨part, hmem, hpart⟩ := List.mem_flatten.1 hd
      obtain ⟨e, he, rfl⟩ := hparts part hmem
      rwa [List.mem_singleton.1 hpart]
  · rintro ⟨hne, hall⟩
    cases text with
    | nil => exact (hne rfl).elim
    | cons c text =>
      refine Language.mem_mul.2 ⟨[c], ⟨c, hall c List.mem_cons_self, rfl⟩, text, ?_, rfl⟩
      refine Language.mem_kstar.2 ⟨text.map ([·]), (List.flatMap_singleton' text).symm, ?_⟩
      intro part hpart
      obtain ⟨d, hd, rfl⟩ := List.mem_map.1 hpart
      exact ⟨d, hall d (List.mem_cons_of_mem _ hd), rfl⟩

theorem mem_singleton_mul {start text : List Char} {language : Language Char} :
    text ∈ ({start} : Language Char) * language ↔ ∃ rest ∈ language, text = start ++ rest := by
  constructor
  · intro h
    obtain ⟨first, hfirst, rest, hrest, rfl⟩ := Language.mem_mul.1 h
    obtain rfl : first = start := hfirst
    exact ⟨rest, hrest, rfl⟩
  · rintro ⟨rest, hrest, rfl⟩
    exact Language.append_mem_mul rfl hrest

theorem mem_letter_mul {p : Char → Prop} {text : List Char} {language : Language Char} :
    text ∈ letter p * language ↔ ∃ c rest, p c ∧ rest ∈ language ∧ text = c :: rest := by
  constructor
  · intro h
    obtain ⟨first, ⟨c, hc, rfl⟩, rest, hrest, rfl⟩ := Language.mem_mul.1 h
    exact ⟨c, rest, hc, hrest, rfl⟩
  · rintro ⟨c, rest, hc, hrest, rfl⟩
    exact Language.append_mem_mul (a := [c]) ⟨c, hc, rfl⟩ hrest

theorem mem_optional_oneOf_mul {texts : List (List Char)} {text : List Char}
    {language : Language Char} :
    text ∈ (1 + oneOf texts) * language ↔
      text ∈ language ∨ ∃ start ∈ texts, ∃ rest ∈ language, text = start ++ rest := by
  constructor
  · intro h
    obtain ⟨start, hstart | hstart, rest, hrest, rfl⟩ := Language.mem_mul.1 h
    · obtain rfl : start = [] := hstart
      exact .inl hrest
    · exact .inr ⟨start, hstart, rest, hrest, rfl⟩
  · rintro (h | ⟨start, hstart, rest, hrest, rfl⟩)
    · exact Language.append_mem_mul (a := []) (.inl rfl) h
    · exact Language.append_mem_mul (.inr hstart) hrest

theorem mem_quoted_mul {text : List Char} {language : Language Char} :
    text ∈ quoted * language ↔
      (∃ c rest, (c ≠ '"' ∧ c ≠ '\\') ∧ rest ∈ language ∧ text = c :: rest) ∨
      ∃ c rest, rest ∈ language ∧ text = '\\' :: c :: rest := by
  rw [quoted, add_mul, Language.mem_add, mem_letter_mul, mul_assoc, mem_singleton_mul]
  refine or_congr_right ?_
  constructor
  · rintro ⟨pair, hpair, rfl⟩
    obtain ⟨c, rest, -, hrest, rfl⟩ := mem_letter_mul.1 hpair
    exact ⟨c, rest, hrest, rfl⟩
  · rintro ⟨c, rest, hrest, rfl⟩
    exact ⟨c :: rest, mem_letter_mul.2 ⟨c, rest, trivial, hrest, rfl⟩, rfl⟩

theorem mem_closed {text : List Char} :
    text ∈ closed ↔ text = ['"'] ∨
      (∃ c rest, (c ≠ '"' ∧ c ≠ '\\') ∧ rest ∈ closed ∧ text = c :: rest) ∨
      ∃ c rest, rest ∈ closed ∧ text = '\\' :: c :: rest := by
  have hunfold : closed = {['"']} + quoted * closed :=
    calc
      closed = (1 + quoted * quoted∗) * {['"']} := by
        rw [Language.one_add_self_mul_kstar_eq_kstar, closed]
      _ = {['"']} + quoted * closed := by rw [add_mul, one_mul, mul_assoc, closed]
  rw [hunfold, Language.mem_add, ← hunfold, mem_quoted_mul]
  rfl

end Membership

/-- What is found of a language at the start of what is left of a line: its longest text there, or
nothing if it has none. -/
def Best (language : Language Char) (rest : List Char) : Option (List Char) → Prop
  | some text => Longest language rest text
  | none => ∀ text ∈ language, ¬ text <+: rest

def nonempty? (text : List Char) : Option (List Char) :=
  if text.isEmpty then none else some text

theorem Best.append {inner outer : Language Char} {start rest : List Char}
    {found : Option (List Char)} (h : Best inner rest found)
    (hiff : ∀ text, start ++ text ∈ outer ↔ text ∈ inner)
    (hstart : ∀ text ∈ outer, text <+: start ++ rest → start <+: text) :
    Best outer (start ++ rest) (found.map (start ++ ·)) := by
  have hinner {text : List Char} (hmem : text ∈ outer) (hpre : text <+: start ++ rest) :
      ∃ other ∈ inner, other <+: rest ∧ text = start ++ other := by
    obtain ⟨other, rfl⟩ := hstart text hmem hpre
    exact ⟨other, (hiff other).1 hmem, (List.prefix_append_right_inj start).1 hpre, rfl⟩
  cases found with
  | none =>
    intro text hmem hpre
    obtain ⟨other, hother, hrest, -⟩ := hinner hmem hpre
    exact h other hother hrest
  | some text =>
    refine ⟨(hiff text).2 h.mem, (List.prefix_append_right_inj start).2 h.isPrefix, ?_⟩
    intro longer hmem hpre
    obtain ⟨other, hother, hrest, rfl⟩ := hinner hmem hpre
    have hle := h.length_le hother hrest
    rw [List.length_append, List.length_append]
    omega

theorem digit_iff (c : Char) : c.isDigit = true ↔ Digit c :=
  Bool.and_eq_true_iff.trans (and_congr decide_eq_true_iff decide_eq_true_iff)

theorem wordChar_iff (c : Char) : Rule.isWordChar c = true ↔ WordChar c := by
  have hupper : c.isUpper = true ↔ 'A' ≤ c ∧ c ≤ 'Z' := decide_eq_true_iff
  have hlower : c.isLower = true ↔ 'a' ≤ c ∧ c ≤ 'z' :=
    Bool.and_eq_true_iff.trans (and_congr decide_eq_true_iff decide_eq_true_iff)
  have halpha : c.isAlpha = true ↔ c.isUpper = true ∨ c.isLower = true := Bool.or_eq_true_iff
  have halphanum : c.isAlphanum = true ↔ c.isAlpha = true ∨ c.isDigit = true :=
    Bool.or_eq_true_iff
  rw [Rule.isWordChar, Bool.or_eq_true_iff, decide_eq_true_iff, halphanum, halpha, hupper, hlower,
    digit_iff, or_assoc, or_assoc, WordChar]

theorem best_letters {p : Char → Prop} {test : Char → Bool} (htest : ∀ c, test c = true ↔ p c)
    (rest : List Char) : Best (letters p) rest (nonempty? (rest.takeWhile test)) := by
  have hle {text : List Char} (hmem : text ∈ letters p) (hpre : text <+: rest) :
      text <+: rest.takeWhile test := by
    obtain ⟨tail, rfl⟩ := hpre
    rw [List.takeWhile_append_of_pos fun c hc => (htest c).2 ((mem_letters.1 hmem).2 c hc)]
    exact List.prefix_append _ _
  unfold nonempty?
  split
  · next hnil =>
    intro text hmem hpre
    have hstart := hle hmem hpre
    rw [List.isEmpty_iff.1 hnil, List.prefix_nil] at hstart
    exact (mem_letters.1 hmem).1 hstart
  · next hne =>
    refine ⟨mem_letters.2 ⟨mt List.isEmpty_iff.2 hne, ?_⟩, List.takeWhile_prefix _, ?_⟩
    · intro c hc
      exact (htest c).1 (List.all_eq_true.1 List.all_takeWhile c hc)
    · intro other hmem hpre
      exact (hle hmem hpre).length_le

theorem best_word (rest : List Char) : Best word rest (nonempty? (Rule.word rest)) :=
  best_letters wordChar_iff rest

def Qualifier (qualifier : List Char) : Prop :=
  ∃ name, qualifier = name ++ ['.'] ∧ ∀ c ∈ name, Rule.isWordChar c = true

theorem Qualifier.word_append {qualifier : List Char} (h : Qualifier qualifier)
    (rest : List Char) : qualifier = Rule.word (qualifier ++ rest) ++ ['.'] := by
  obtain ⟨name, rfl, hname⟩ := h
  rw [List.append_assoc, Rule.word, List.takeWhile_append_of_pos hname, List.singleton_append,
    List.takeWhile_cons_of_neg (by decide), List.append_nil]

theorem Qualifier.unique {first second left right : List Char} (hfirst : Qualifier first)
    (hsecond : Qualifier second) (h : first ++ left = second ++ right) :
    first = second ∧ left = right := by
  have hsame : first = second := by
    rw [hfirst.word_append left, hsecond.word_append right, h]
  subst hsame
  exact ⟨rfl, List.append_cancel_left h⟩

theorem qualified?_append (qualifier : List Char) {rest : List Char} (h : Rule.word rest ≠ []) :
    Rule.qualified? qualifier (qualifier ++ rest) = some (qualifier ++ Rule.word rest) := by
  have hstart : qualifier.isPrefixOf (qualifier ++ rest) = true :=
    List.isPrefixOf_iff_prefix.2 (List.prefix_append _ _)
  rw [Rule.qualified?, Rule.strip?, if_pos hstart, List.drop_left]
  exact if_neg (mt List.isEmpty_iff.1 h)

theorem exists_of_qualified? {qualifier text found : List Char}
    (h : Rule.qualified? qualifier text = some found) :
    ∃ rest, text = qualifier ++ rest ∧ Rule.word rest ≠ [] ∧
      found = qualifier ++ Rule.word rest := by
  unfold Rule.qualified? at h
  split at h
  · cases h
  · next rest hstrip =>
    split at h
    · cases h
    · next hword =>
      exact ⟨rest, Rule.strip?_eq_some hstrip, mt List.isEmpty_iff.2 hword,
        (Option.some.inj h).symm⟩

theorem map_nonempty? {α : Type} (f : List Char → α) (text : List Char) :
    (nonempty? text).map f = if text.isEmpty then none else some (f text) := by
  unfold nonempty?
  split
  · rfl
  · rfl

theorem nonempty?_of_ne_nil {text : List Char} (h : text ≠ []) : nonempty? text = some text :=
  if_neg (mt List.isEmpty_iff.1 h)

theorem isPrefix_word {text rest : List Char} (hmem : text ∈ word) (hpre : text <+: rest) :
    Rule.word rest ≠ [] ∧ text.length ≤ (Rule.word rest).length := by
  have hbest := best_word rest
  by_cases hnil : Rule.word rest = []
  · rw [hnil] at hbest
    exact (hbest text hmem hpre).elim
  · rw [nonempty?_of_ne_nil hnil] at hbest
    exact ⟨hnil, hbest.length_le hmem hpre⟩

theorem best_qualifiedWord {qualifiers : List (List Char)}
    (hq : ∀ qualifier ∈ qualifiers, Qualifier qualifier) (text : List Char) :
    Best ((1 + oneOf qualifiers) * word) text
      (nonempty? (Rule.qualifiedWord qualifiers text)) := by
  have hfound {qualifier name : List Char} (hname : name ∈ word)
      (hpre : qualifier ++ name <+: text) :
      ∃ rest, text = qualifier ++ rest ∧ name.length ≤ (Rule.word rest).length ∧
        Rule.qualified? qualifier text = some (qualifier ++ Rule.word rest) := by
    obtain ⟨tail, rfl⟩ := hpre
    obtain ⟨hne, hle⟩ := isPrefix_word hname (List.prefix_append name tail)
    rw [List.append_assoc]
    exact ⟨name ++ tail, rfl, hle, qualified?_append qualifier hne⟩
  unfold Rule.qualifiedWord
  cases hfind : qualifiers.findSome? (Rule.qualified? · text) with
  | none =>
    have hplain {other : List Char} (hmem : other ∈ (1 + oneOf qualifiers) * word)
        (hpre : other <+: text) : other ∈ word := by
      rcases mem_optional_oneOf_mul.1 hmem with hmem | ⟨qualifier, hqualifier, name, hname, rfl⟩
      · exact hmem
      · obtain ⟨rest, -, -, hsome⟩ := hfound hname hpre
        rw [List.findSome?_eq_none_iff.1 hfind qualifier hqualifier] at hsome
        cases hsome
    have hbest := best_word text
    rw [Option.getD_none]
    cases hword : nonempty? (Rule.word text) with
    | none =>
      rw [hword] at hbest
      intro other hmem hpre
      exact hbest other (hplain hmem hpre) hpre
    | some name =>
      rw [hword] at hbest
      refine ⟨mem_optional_oneOf_mul.2 (.inl hbest.mem), hbest.isPrefix, ?_⟩
      intro other hmem hpre
      exact hbest.length_le (hplain hmem hpre) hpre
  | some found =>
    obtain ⟨qualifier, hmem, hsome⟩ := List.exists_of_findSome?_eq_some hfind
    obtain ⟨rest, htext, hne, rfl⟩ := exists_of_qualified? hsome
    have hname := best_word rest
    rw [nonempty?_of_ne_nil hne] at hname
    rw [Option.getD_some, nonempty?_of_ne_nil (List.append_ne_nil_of_right_ne_nil _ hne)]
    refine ⟨mem_optional_oneOf_mul.2 (.inr ⟨qualifier, hmem, _, hname.mem, rfl⟩), ?_, ?_⟩
    · rw [htext]
      exact (List.prefix_append_right_inj qualifier).2 hname.isPrefix
    · intro other hother hpre
      rw [List.length_append]
      rcases mem_optional_oneOf_mul.1 hother with hother | ⟨second, hsecond, name, hname, rfl⟩
      · have hle := (isPrefix_word hother hpre).2
        have hword := congrArg List.length ((hq qualifier hmem).word_append rest)
        rw [← htext, List.length_append] at hword
        omega
      · obtain ⟨other, hother, hle, -⟩ := hfound hname hpre
        obtain ⟨rfl, rfl⟩ :=
          (hq qualifier hmem).unique (hq second hsecond) (htext.symm.trans hother)
        rw [List.length_append]
        omega

end Grammar

end CirHighlight
