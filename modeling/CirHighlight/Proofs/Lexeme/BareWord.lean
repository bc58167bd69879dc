import Mathlib.Data.List.Forall2
import CirHighlight.Lexeme.Scan
import CirHighlight.Proofs.Text.Width

namespace CirHighlight

/-- A word that the rule for bare words can read: letters, digits and underscores, of which the
first is no digit. -/
def Lexicon.isName (word : String) : Bool :=
  match word.toList with
  | [] => false
  | c :: rest => (c.isAlpha || c = '_') && rest.all Rule.isWordChar

namespace Rule

/-- The rules that are tried before the rule for bare words. -/
def shaped : List Rule :=
  [type, string, number, operation, sigil]

theorem all_eq_append : all = shaped ++ [bareWord] := rfl

theorem shaped_congr {rule : Rule} (h : rule ∈ shaped) (first second : Lexicon)
    (text : List Char) : rule first text = rule second text := by
  simp only [shaped, List.mem_cons, List.not_mem_nil, or_false] at h
  rcases h with rfl | rfl | rfl | rfl | rfl
  · unfold type
    split <;> rfl
  · unfold string
    split <;> rfl
  · rfl
  · rfl
  · cases text <;> rfl

theorem findSome?_shaped_congr (first second : Lexicon) (text : List Char) :
    shaped.findSome? (· first text) = shaped.findSome? (· second text) := by
  rw [← List.head?_filterMap, ← List.head?_filterMap]
  exact congrArg List.head? (List.filterMap_congr fun rule hrule => shaped_congr hrule _ _ text)

theorem bareWord_eq_some {lexicon : Lexicon} {text : List Char} {piece : Lexeme}
    (h : bareWord lexicon text = some piece) :
    word text ≠ [] ∧ piece = .single (word text) (lexicon.classify (String.ofList (word text))) := by
  simp only [bareWord] at h
  split at h
  · cases h
  · next hword => exact ⟨mt List.isEmpty_iff.2 hword, (Option.some.inj h).symm⟩

theorem isName_word {lexicon : Lexicon} {text : List Char} (hnumber : number lexicon text = none)
    (hword : word text ≠ []) : Lexicon.isName (String.ofList (word text)) = true := by
  have hall : (word text).all isWordChar = true := List.all_takeWhile
  cases text with
  | nil => exact (hword rfl).elim
  | cons c rest =>
    have hdigit : c.isDigit = false := by
      by_contra hdigit
      simp [number, List.takeWhile_cons, hdigit] at hnumber
    have hfirst : word (c :: rest) = c :: word rest := by
      by_cases hc : isWordChar c = true
      · exact List.takeWhile_cons_of_pos hc
      · exact (hword (List.takeWhile_cons_of_neg hc)).elim
    rw [hfirst, List.all_cons, Bool.and_eq_true] at hall
    have hletter : (c.isAlpha || c = '_') = true := by
      have hc := hall.1
      rw [isWordChar, Char.isAlphanum, hdigit, Bool.or_false] at hc
      exact hc
    rw [hfirst, Lexicon.isName, String.toList_ofList]
    exact Bool.and_eq_true_iff.2 ⟨hletter, hall.2⟩

end Rule

namespace Lexeme

/-- The scanner of a text comes to a place of it, with what it has read and what is left. -/
inductive Comes (lexicon : Lexicon) (text : List Char) : List Char → List Char → Prop
  | start : Comes lexicon text [] text
  | step {before rest : List Char} {c : Char} (h : Comes lexicon text before (c :: rest)) :
    Comes lexicon text (before ++ (first Rule.all lexicon c rest).chars)
      (rest.drop ((first Rule.all lexicon c rest).chars.length - 1))

/-- A token of a line is read by the rule for bare words: the scanner comes to a place where the
rules before it read nothing and it reads the token. -/
def IsBareWord (lexicon : Lexicon) (line : UInt32) (text : List Char) (token : Token) : Prop :=
  ∃ before rest piece, Comes lexicon text before rest ∧
    (∀ rule ∈ Rule.shaped, rule lexicon rest = none) ∧
    Rule.bareWord lexicon rest = some piece ∧ token ∈ piece.tokens line (Text.width before)

theorem IsBareWord.eq {lexicon : Lexicon} {line : UInt32} {text : List Char} {token : Token}
    (h : IsBareWord lexicon line text token) :
    token.line = line ∧ token.category = lexicon.classify token.text ∧
      Lexicon.isName token.text = true := by
  obtain ⟨before, rest, piece, -, hnone, hword, hmem⟩ := h
  obtain ⟨hne, rfl⟩ := Rule.bareWord_eq_some hword
  have hnumber := hnone Rule.number (by simp [Rule.shaped])
  rw [List.mem_singleton.1 hmem]
  exact ⟨rfl, rfl, Rule.isName_word hnumber hne⟩

theorem first_eq_or_bareWord (c : Char) (rest : List Char) :
    (∃ piece, ∀ lexicon, first Rule.all lexicon c rest = piece) ∨
      ∃ text, ∀ lexicon, (∀ rule ∈ Rule.shaped, rule lexicon (c :: rest) = none) ∧
        Rule.bareWord lexicon (c :: rest) =
          some (.single text (lexicon.classify (String.ofList text))) ∧
        first Rule.all lexicon c rest = .single text (lexicon.classify (String.ofList text)) := by
  have hfirst (lexicon : Lexicon) : first Rule.all lexicon c rest =
      ((Rule.shaped.findSome? (· .builtin (c :: rest))).or
        (Rule.bareWord lexicon (c :: rest))).getD (.gap c) := by
    rw [first, Rule.all_eq_append, List.findSome?_append, List.findSome?_singleton,
      Rule.findSome?_shaped_congr lexicon .builtin]
  cases hshaped : Rule.shaped.findSome? (· .builtin (c :: rest)) with
  | some piece =>
    refine .inl ⟨piece, fun lexicon => ?_⟩
    rw [hfirst, hshaped, Option.some_or, Option.getD_some]
  | none =>
    simp only [hshaped, Option.none_or] at hfirst
    by_cases hword : (Rule.word (c :: rest)).isEmpty
    · refine .inl ⟨.gap c, fun lexicon => ?_⟩
      rw [hfirst, Rule.bareWord, if_pos hword, Option.getD_none]
    · refine .inr ⟨Rule.word (c :: rest), fun lexicon => ⟨?_, if_neg hword, ?_⟩⟩
      · rw [Rule.findSome?_shaped_congr .builtin lexicon] at hshaped
        exact List.findSome?_eq_none_iff.1 hshaped
      · rw [hfirst, Rule.bareWord, if_neg hword, Option.getD_some]

theorem chars_first_congr (left right : Lexicon) (c : Char) (rest : List Char) :
    (first Rule.all left c rest).chars = (first Rule.all right c rest).chars := by
  rcases first_eq_or_bareWord c rest with ⟨piece, hpiece⟩ | ⟨text, htext⟩
  · rw [hpiece, hpiece]
  · rw [(htext left).2.2, (htext right).2.2]
    rfl

theorem Comes.congr {left : Lexicon} {text before rest : List Char}
    (h : Comes left text before rest) (right : Lexicon) : Comes right text before rest := by
  induction h with
  | start => exact .start
  | step h ih =>
    rw [chars_first_congr left right]
    exact .step ih

end Lexeme

/-- Two tokens that are the same but for their categories, where these differ only if both tokens
are bare words that the lexicons classify differently. -/
structure Token.Reclassified (BareWord : Lexicon → Token → Prop) (first second : Lexicon)
    (left right : Token) : Prop where
  line_eq : left.line = right.line
  column_eq : left.column = right.column
  text_eq : left.text = right.text
  modifiers_eq : left.modifiers = right.modifiers
  bareWord (h : left.category ≠ right.category) :
    BareWord first left ∧ BareWord second right ∧
      first.classify left.text ≠ second.classify left.text

namespace Token.Reclassified

variable {BareWord Other : Lexicon → Token → Prop} {first second : Lexicon} {left right : Token}

theorem refl (token : Token) : Reclassified BareWord first second token token :=
  ⟨rfl, rfl, rfl, rfl, fun h => (h rfl).elim⟩

theorem mono (h : Reclassified BareWord first second left right)
    (himp : ∀ lexicon token, BareWord lexicon token → Other lexicon token) :
    Reclassified Other first second left right where
  line_eq := h.line_eq
  column_eq := h.column_eq
  text_eq := h.text_eq
  modifiers_eq := h.modifiers_eq
  bareWord hne := by
    obtain ⟨hleft, hright, hclassify⟩ := h.bareWord hne
    exact ⟨himp first left hleft, himp second right hright, hclassify⟩

theorem eq (h : Reclassified BareWord first second left right)
    (hsame : BareWord first left → first.classify left.text = second.classify left.text) :
    left = right := by
  have hcategory : left.category = right.category := by
    by_contra hne
    obtain ⟨hleft, -, hclassify⟩ := h.bareWord hne
    exact hclassify (hsame hleft)
  obtain ⟨hline, hcolumn, htext, hmodifiers, -⟩ := h
  cases left
  cases right
  cases hline
  cases hcolumn
  cases htext
  cases hmodifiers
  cases hcategory
  rfl

end Token.Reclassified

namespace Lexeme

/-- At any place that the scanner comes to, two lexicons give the same tokens but for the category
of a bare word. -/
theorem forall₂_tokens_first (left right : Lexicon) (line : UInt32) {text before rest : List Char}
    {c : Char} (h : Comes left text before (c :: rest)) :
    List.Forall₂ (Token.Reclassified (IsBareWord · line text ·) left right)
      ((first Rule.all left c rest).tokens line (Text.width before))
      ((first Rule.all right c rest).tokens line (Text.width before)) := by
  rcases first_eq_or_bareWord c rest with ⟨piece, hpiece⟩ | ⟨word, hword⟩
  · rw [hpiece, hpiece]
    exact List.forall₂_same.2 fun token _ => .refl token
  · obtain ⟨hleft, hreadsLeft, hfirstLeft⟩ := hword left
    obtain ⟨hright, hreadsRight, hfirstRight⟩ := hword right
    rw [hfirstLeft, hfirstRight]
    refine .cons ⟨rfl, rfl, rfl, rfl, ?_⟩ .nil
    intro hne
    exact ⟨⟨before, c :: rest, _, h, hleft, hreadsLeft, List.mem_singleton_self _⟩,
      ⟨before, c :: rest, _, h.congr right, hright, hreadsRight, List.mem_singleton_self _⟩, hne⟩

theorem forall₂_place_scan (left right : Lexicon) (line : UInt32) {text before rest : List Char}
    (h : Comes left text before rest) :
    List.Forall₂ (Token.Reclassified (IsBareWord · line text ·) left right)
      (place line (Text.width before) (scan left rest))
      (place line (Text.width before) (scan right rest)) := by
  unfold scan
  fun_induction scanWith Rule.all left rest generalizing before with
  | case1 =>
    rw [scanWith]
    exact .nil
  | case2 c rest piece =>
    rename_i ih
    have hnext := ih h.step
    rw [Text.width_append] at hnext
    rw [scanWith, place, place, ← chars_first_congr left right]
    exact List.rel_append (forall₂_tokens_first left right line h) hnext

theorem forall₂_scanLine (left right : Lexicon) (line : UInt32) (text : List Char) :
    List.Forall₂ (Token.Reclassified (IsBareWord · line text ·) left right)
      (scanLine left line text) (scanLine right line text) :=
  forall₂_place_scan left right line .start

end Lexeme

end CirHighlight
