import Mathlib.Data.List.Basic
import CirHighlight.Proofs.Highlighter.LineEdit
import CirHighlight.Proofs.Lexeme.BareWord
import CirHighlight.Proofs.Lexeme.Longest
import CirHighlight.Proofs.TokenStream.Inverse

namespace CirHighlight

namespace Lexicon

inductive Part where
  | keywords
  | macros
  | typenames
deriving DecidableEq

def part (lexicon : Lexicon) : Part → List String
  | .keywords => lexicon.keywords
  | .macros => lexicon.macros
  | .typenames => lexicon.typenames

/-- A call that adds words to one of the lists of a lexicon. -/
structure Addition where
  part : Part
  words : List String

def add (lexicon : Lexicon) (addition : Addition) : Lexicon :=
  match addition.part with
  | .keywords => lexicon.withKeywords addition.words
  | .macros => lexicon.withMacros addition.words
  | .typenames => lexicon.withTypenames addition.words

/-- The lexicon after several calls, one after the other. -/
def extend (lexicon : Lexicon) (additions : List Addition) : Lexicon :=
  additions.foldl add lexicon

/-- The words that the calls name for one of the lists. -/
def addedTo (part : Part) (additions : List Addition) : List String :=
  additions.flatMap fun addition => if addition.part = part then addition.words else []

/-- Calls that name the same words for each list, order and repetition aside. -/
def SameWords (additions others : List Addition) : Prop :=
  ∀ part word, word ∈ addedTo part additions ↔ word ∈ addedTo part others

theorem classify_congr {left right : Lexicon} {word : String}
    (h : ∀ part, word ∈ left.part part ↔ word ∈ right.part part) :
    left.classify word = right.classify word := by
  have hkeywords : word ∈ left.keywords ↔ word ∈ right.keywords := h .keywords
  have hmacros : word ∈ left.macros ↔ word ∈ right.macros := h .macros
  have htypenames : word ∈ left.typenames ↔ word ∈ right.typenames := h .typenames
  simp only [classify, hkeywords, hmacros, htypenames]

theorem classify_ne_comment (lexicon : Lexicon) (word : String) :
    lexicon.classify word ≠ some .comment := by
  unfold classify
  split
  · decide
  · split
    · decide
    · split <;> decide

theorem part_add (lexicon : Lexicon) (addition : Addition) (part : Part) :
    (lexicon.add addition).part part =
      lexicon.part part ++ if addition.part = part then addition.words else [] := by
  obtain ⟨own, words⟩ := addition
  cases own <;> cases part <;>
    simp [add, Lexicon.part, withKeywords, withMacros, withTypenames]

theorem part_extend (lexicon : Lexicon) (additions : List Addition) (part : Part) :
    (lexicon.extend additions).part part = lexicon.part part ++ addedTo part additions := by
  induction additions generalizing lexicon with
  | nil => exact (List.append_nil _).symm
  | cons addition additions ih =>
    have hlater : lexicon.extend (addition :: additions) =
        (lexicon.add addition).extend additions := rfl
    rw [hlater, ih, part_add, List.append_assoc, addedTo, addedTo, List.flatMap_cons]

theorem SameWords.classify_extend {additions others : List Addition}
    (h : SameWords additions others) (lexicon : Lexicon) (word : String) :
    (lexicon.extend additions).classify word = (lexicon.extend others).classify word := by
  apply classify_congr
  intro part
  rw [part_extend, part_extend, List.mem_append, List.mem_append, h part word]

theorem classify_extend_of_not_mem {additions : List Addition} {word : String}
    (h : ∀ addition ∈ additions, word ∉ addition.words) (lexicon : Lexicon) :
    (lexicon.extend additions).classify word = lexicon.classify word := by
  apply classify_congr
  intro part
  rw [part_extend, List.mem_append, or_iff_left]
  intro hmem
  obtain ⟨addition, haddition, hword⟩ := List.mem_flatMap.1 hmem
  split at hword
  · exact h addition haddition hword
  · cases hword

end Lexicon

namespace Lexer

section BareWords

/-- A token of a document is read by the rule for bare words on its line. -/
def IsBareWord (text : String) (lexicon : Lexicon) (token : Token) : Prop :=
  ∃ line, Text.IsLine text.toList token.line.toNat line ∧
    Lexeme.IsBareWord lexicon token.line (Comment.code line) token

variable (first second : Lexicon) (comments : Bool)

theorem forall₂_lexLine (number : UInt32) (line : List Char) :
    List.Forall₂
      (Token.Reclassified (Lexeme.IsBareWord · number (Comment.code line) ·) first second)
      (lexLine ⟨first, comments⟩ number line) (lexLine ⟨second, comments⟩ number line) := by
  rw [lexLine_eq_append, lexLine_eq_append]
  exact List.rel_append (Lexeme.forall₂_scanLine first second number _)
    (List.forall₂_same.2 fun token _ => .refl token)

theorem forall₂_lexLines {number : UInt32} {lines : List (List Char)}
    (hfits : number.toNat + lines.length ≤ 2 ^ 32) :
    List.Forall₂
      (Token.Reclassified (fun lexicon token => ∃ n line, lines[n]? = some line ∧
        token.line.toNat = number.toNat + n ∧
        Lexeme.IsBareWord lexicon token.line (Comment.code line) token) first second)
      (lexLines ⟨first, comments⟩ number lines) (lexLines ⟨second, comments⟩ number lines) := by
  induction lines generalizing number with
  | nil => exact .nil
  | cons line rest ih =>
    refine List.rel_append ?_ ?_
    · refine (forall₂_lexLine first second comments number line).imp fun left right h => h.mono ?_
      intro lexicon token hword
      obtain rfl := hword.eq.1
      exact ⟨0, line, rfl, rfl, hword⟩
    · by_cases hne : rest = []
      · rw [hne]
        exact .nil
      · have hnext := toNat_add_one hne hfits
        rw [List.length_cons] at hfits
        refine (ih (by omega)).imp fun left right h => h.mono ?_
        rintro lexicon token ⟨n, found, hfound, hline, hword⟩
        exact ⟨n + 1, found, hfound, by omega, hword⟩

variable {text : String} (hsize : Text.byteSize text.toList < 2 ^ 32)
include hsize

theorem forall₂_lex :
    List.Forall₂ (Token.Reclassified (IsBareWord text) first second)
      (lex ⟨first, comments⟩ text) (lex ⟨second, comments⟩ text) := by
  refine (forall₂_lexLines first second comments (length_lines_fits hsize)).imp
    fun left right h => h.mono ?_
  rintro lexicon token ⟨n, line, hline, hnumber, hword⟩
  rw [UInt32.toNat_zero, Nat.zero_add] at hnumber
  rw [← hnumber] at hline
  exact ⟨line, Text.getElem?_lines_eq_some_iff.1 hline, hword⟩

theorem lex_congr {first second : Lexicon}
    (h : ∀ word, Lexicon.isName word = true → first.classify word = second.classify word) :
    lex ⟨first, comments⟩ text = lex ⟨second, comments⟩ text := by
  rw [← List.forall₂_eq_eq_eq]
  refine (forall₂_lex first second comments hsize).imp fun left right hclassified => ?_
  apply hclassified.eq
  rintro ⟨line, -, hword⟩
  exact h left.text hword.eq.2.2

end BareWords

end Lexer

namespace Lexeme

theorem sigilCategory?_ne_comment (c : Char) : Rule.sigilCategory? c ≠ some .comment := by
  unfold Rule.sigilCategory?
  split <;> decide

theorem category_ne_comment_of_rule {rule : Rule} (hrule : rule ∈ Rule.all) {lexicon : Lexicon}
    {rest : List Char} {piece : Lexeme} (h : rule lexicon rest = some piece)
    {line column : UInt32} {token : Token} (hmem : token ∈ piece.tokens line column) :
    token.category ≠ some .comment := by
  rw [← Grammar.Kind.map_rule_order] at hrule
  obtain ⟨kind, -, rfl⟩ := List.mem_map.1 hrule
  obtain ⟨text, -, rfl⟩ := Grammar.rule_eq_some_iff.1 h
  cases kind with
  | type | string | number =>
    rw [List.mem_singleton.1 hmem]
    exact nofun
  | operation =>
    rcases List.mem_pair.1 hmem with rfl | rfl
    · exact nofun
    · exact nofun
  | sigil =>
    rw [List.mem_singleton.1 hmem]
    cases text with
    | nil => exact nofun
    | cons c text => exact sigilCategory?_ne_comment c
  | word =>
    rw [List.mem_singleton.1 hmem]
    exact lexicon.classify_ne_comment _

theorem category_ne_comment_of_first {lexicon : Lexicon} {c : Char} {rest : List Char}
    {line column : UInt32} {token : Token}
    (h : token ∈ (first Rule.all lexicon c rest).tokens line column) :
    token.category ≠ some .comment := by
  unfold first at h
  cases hfind : Rule.all.findSome? (· lexicon (c :: rest)) with
  | none =>
    rw [hfind] at h
    cases h
  | some piece =>
    rw [hfind, Option.getD_some] at h
    obtain ⟨rule, hrule, hreads⟩ := List.exists_of_findSome?_eq_some hfind
    exact category_ne_comment_of_rule hrule hreads h

theorem category_ne_comment_of_mem_place {lexicon : Lexicon} {line column : UInt32}
    {text : List Char} {token : Token} (h : token ∈ place line column (scan lexicon text)) :
    token.category ≠ some .comment := by
  unfold scan at h
  fun_induction scanWith Rule.all lexicon text generalizing column with
  | case1 => cases h
  | case2 c rest piece =>
    rename_i ih
    rcases List.mem_append.1 h with hmem | hmem
    · exact category_ne_comment_of_first hmem
    · exact ih hmem

end Lexeme

namespace Lexer

theorem lexLine_without_comments (lexicon : Lexicon) (number : UInt32) (line : List Char) :
    lexLine ⟨lexicon, false⟩ number line =
      (lexLine ⟨lexicon, true⟩ number line).filter (·.category ≠ some .comment) := by
  have hcode : (Lexeme.scanLine lexicon number (Comment.code line)).filter
      (·.category ≠ some .comment) = Lexeme.scanLine lexicon number (Comment.code line) := by
    refine List.filter_eq_self.2 fun token hmem => ?_
    exact decide_eq_true (Lexeme.category_ne_comment_of_mem_place hmem)
  have hcomment : (commentTokens true number line).filter (·.category ≠ some .comment) = [] := by
    refine List.filter_eq_nil_iff.2 fun token hmem => ?_
    obtain ⟨comment, -, rfl⟩ := List.mem_map.1 hmem
    exact fun hne => of_decide_eq_true hne rfl
  rw [lexLine_eq_append, lexLine_eq_append, List.filter_append, hcode, hcomment]
  rfl

theorem lexLines_without_comments (lexicon : Lexicon) (number : UInt32)
    (lines : List (List Char)) :
    lexLines ⟨lexicon, false⟩ number lines =
      (lexLines ⟨lexicon, true⟩ number lines).filter (·.category ≠ some .comment) := by
  induction lines generalizing number with
  | nil => rfl
  | cons line rest ih =>
    rw [lexLines, lexLines, List.filter_append, lexLine_without_comments, ih]

end Lexer

namespace Token

theorem forall₂_describes_fallback (category : Category) {tokens : List Token}
    (hfits : ∀ token ∈ tokens,
      token.column.toNat + Text.unitCount token.text.toList < 2 ^ 32) :
    List.Forall₂ (fun token entry => entry.Describes token (token.category.getD category)) tokens
      (tokens.filterMap (Token.entry? (.fallback category))) := by
  induction tokens with
  | nil => exact .nil
  | cons token rest ih =>
    obtain ⟨hfirst, hrest⟩ := List.forall_mem_cons.1 hfits
    have hentry : token.entry? (.fallback category) =
        some { line := token.line, column := token.column, length := token.length,
               category := (token.category.getD category).index,
               modifiers := token.modifiers.bits } := by
      unfold entry? Policy.resolve
      cases token.category <;> rfl
    rw [List.filterMap_cons_some hentry]
    exact .cons ⟨rfl, rfl, (toNat_length_of_lt hfirst).symm, rfl, rfl⟩ (ih hrest)

theorem entries_omit_eq (category : Category) (tokens : List Token) :
    tokens.filterMap (Token.entry? .omit) =
      ((tokens.zip (tokens.filterMap (Token.entry? (.fallback category)))).filter
        (·.1.category.isSome)).map (·.2) := by
  induction tokens with
  | nil => rfl
  | cons token rest ih =>
    cases hcategory : token.category with
    | none => simp [Token.entry?, Policy.resolve, hcategory, ih]
    | some own => simp [Token.entry?, Policy.resolve, hcategory, ih]

end Token

namespace Highlighter

theorem exists_decode_eq_entries (highlighter : Highlighter) {text : String}
    (hsize : Text.byteSize text.toList < 2 ^ 32) :
    ∃ stream, highlighter.highlight text = .ok stream ∧
      stream.decode = highlighter.entries text :=
  ⟨_, highlighter.highlight_eq_ok hsize,
    TokenStream.decode_ofEntries (highlighter.ordered_entries hsize)⟩

/-- Two lexicons give the same tokens but for the categories of bare words that they classify
differently. Calls add their words to the lists they name, so words that are no names change
nothing, and neither do the order of added words, their repetition and the order of the calls.
Without comments all other tokens remain. Where tokens without a category are left out, their
entries are missing and no others. -/
theorem configuration_changes_what_it_names {text : String}
    (hsize : Text.byteSize text.toList < 2 ^ 32) :
    (∀ (first second : Lexicon) (comments : Bool),
      List.Forall₂ (Token.Reclassified (Lexer.IsBareWord text) first second)
        (Lexer.lex ⟨first, comments⟩ text) (Lexer.lex ⟨second, comments⟩ text)) ∧
    (∀ (lexicon : Lexicon) (additions : List Lexicon.Addition) (part : Lexicon.Part),
      (lexicon.extend additions).part part =
        lexicon.part part ++ Lexicon.addedTo part additions) ∧
    (∀ (lexicon : Lexicon) (comments : Bool) (additions : List Lexicon.Addition),
      (∀ addition ∈ additions, ∀ word ∈ addition.words, Lexicon.isName word = false) →
      Lexer.lex ⟨lexicon.extend additions, comments⟩ text = Lexer.lex ⟨lexicon, comments⟩ text) ∧
    (∀ (lexicon : Lexicon) (comments : Bool) (additions others : List Lexicon.Addition),
      Lexicon.SameWords additions others →
      Lexer.lex ⟨lexicon.extend additions, comments⟩ text =
        Lexer.lex ⟨lexicon.extend others, comments⟩ text) ∧
    (∀ lexicon : Lexicon, Lexer.lex ⟨lexicon, false⟩ text =
      (Lexer.lex ⟨lexicon, true⟩ text).filter (·.category ≠ some .comment)) ∧
    ∀ (lexer : Lexer) (category : Category), ∃ omitted filled,
      highlight ⟨lexer, .omit⟩ text = .ok omitted ∧
      highlight ⟨lexer, .fallback category⟩ text = .ok filled ∧
      List.Forall₂ (fun token entry => entry.Describes token (token.category.getD category))
        (lexer.lex text) filled.decode ∧
      omitted.decode =
        (((lexer.lex text).zip filled.decode).filter (·.1.category.isSome)).map (·.2) := by
  refine ⟨?_, Lexicon.part_extend, ?_, ?_, ?_, ?_⟩
  · intro first second comments
    exact Lexer.forall₂_lex first second comments hsize
  · intro lexicon comments additions hnames
    apply Lexer.lex_congr comments hsize
    intro word hname
    apply Lexicon.classify_extend_of_not_mem
    intro addition haddition hmem
    rw [hnames addition haddition word hmem] at hname
    cases hname
  · intro lexicon comments additions others hsame
    apply Lexer.lex_congr comments hsize
    intro word _
    exact hsame.classify_extend lexicon word
  · intro lexicon
    exact Lexer.lexLines_without_comments lexicon 0 (Text.lines text.toList)
  · intro lexer category
    obtain ⟨omitted, homitted, homittedDecode⟩ := exists_decode_eq_entries ⟨lexer, .omit⟩ hsize
    obtain ⟨filled, hfilled, hfilledDecode⟩ :=
      exists_decode_eq_entries ⟨lexer, .fallback category⟩ hsize
    refine ⟨omitted, filled, homitted, hfilled, ?_, ?_⟩
    · rw [hfilledDecode]
      exact Token.forall₂_describes_fallback category fun token hmem =>
        Lexer.endColumn_lt_of_mem_lex hsize hmem
    · rw [homittedDecode, hfilledDecode]
      exact Token.entries_omit_eq category (lexer.lex text)

/-- Words that are no names, words that are added twice and in another order, and a word without a
category between others. -/
theorem configuration_changes_what_it_names_unknown_word :
    let text := "loc 1x cir.x // x"
    let foreign : List Lexicon.Addition := [⟨.keywords, ["", "1x"]⟩, ⟨.macros, ["é"]⟩]
    let additions : List Lexicon.Addition := [⟨.keywords, ["x"]⟩, ⟨.macros, ["loc", "x"]⟩]
    let others : List Lexicon.Addition := [⟨.macros, ["x", "loc", "x"]⟩, ⟨.keywords, ["x", "x"]⟩]
    Text.byteSize text.toList < 2 ^ 32 ∧
      (∀ addition ∈ foreign, ∀ word ∈ addition.words, Lexicon.isName word = false) ∧
      Lexer.lex ⟨Lexicon.builtin.extend foreign, true⟩ text = Lexer.lex ⟨.builtin, true⟩ text ∧
      (Lexicon.builtin.extend additions).macros = Lexicon.builtin.macros ++ ["loc", "x"] ∧
      Lexicon.SameWords additions others ∧
      Lexer.lex ⟨Lexicon.builtin.extend additions, true⟩ text =
        Lexer.lex ⟨Lexicon.builtin.extend others, true⟩ text ∧
      ∃ omitted filled, highlight ⟨{}, .omit⟩ text = .ok omitted ∧
        highlight ⟨{}, .fallback .operator⟩ text = .ok filled ∧
        omitted.decode =
          [⟨0, 0, 3, 0, 0⟩, ⟨0, 4, 1, 3, 0⟩, ⟨0, 7, 3, 8, 0⟩, ⟨0, 11, 1, 1, 0⟩,
            ⟨0, 13, 4, 4, 0⟩] := by
  intro text foreign additions others
  have hsize : Text.byteSize text.toList < 2 ^ 32 := by decide
  have hnames : ∀ addition ∈ foreign, ∀ word ∈ addition.words, Lexicon.isName word = false := by
    decide
  have hsame : Lexicon.SameWords additions others := by
    intro part word
    cases part with
    | keywords => simp [Lexicon.addedTo, additions, others]
    | macros => simp [Lexicon.addedTo, additions, others, or_left_comm]
    | typenames => simp [Lexicon.addedTo, additions, others]
  obtain ⟨-, hlists, hforeign, hadded, -, hpolicy⟩ := configuration_changes_what_it_names hsize
  refine ⟨hsize, hnames, hforeign _ _ _ hnames, hlists _ _ .macros, hsame,
    hadded _ _ _ _ hsame, ?_⟩
  obtain ⟨omitted, filled, homitted, hfilled, -, hdecode⟩ := hpolicy {} .operator
  refine ⟨omitted, filled, homitted, hfilled, ?_⟩
  have hstream : highlight ⟨{}, .fallback .operator⟩ text =
      .ok [⟨0, 0, 3, 0, 0⟩, ⟨0, 4, 1, 3, 0⟩, ⟨0, 1, 1, 7, 0⟩, ⟨0, 2, 3, 8, 0⟩, ⟨0, 4, 1, 1, 0⟩,
        ⟨0, 2, 4, 4, 0⟩] := by decide +kernel
  cases hstream.symm.trans hfilled
  rw [hdecode]
  decide +kernel

end Highlighter

end CirHighlight
