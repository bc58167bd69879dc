import Mathlib.Data.List.Basic
import CirHighlight.Proofs.Lexeme.Rule

namespace CirHighlight

namespace Rule

/-- The rules of a list that read something at the start of a text. -/
def reading (rules : List Rule) (lexicon : Lexicon) (text : List Char) : List Rule :=
  rules.filter fun rule => (rule lexicon text).isSome

/-- The rules that can read a text with a given first character. -/
def candidates (c : Char) : List Rule :=
  if c = '!' then [type]
  else if c = '"' then [string]
  else if isWordChar c = false then [sigil]
  else if c.isDigit then [number, bareWord]
  else [operation, bareWord]

theorem sigilCategory?_of_isWordChar {c : Char} (hc : isWordChar c = true) :
    sigilCategory? c = none := by
  unfold sigilCategory?
  split
  · exact absurd hc (by decide)
  · exact absurd hc (by decide)
  · exact absurd hc (by decide)
  · rfl

theorem isDigit_of_not_isWordChar {c : Char} (hc : isWordChar c = false) :
    c.isDigit = false := by
  rw [isWordChar, Char.isAlphanum, Bool.or_eq_false_iff, Bool.or_eq_false_iff] at hc
  exact hc.1.2

theorem reading_all_cons (lexicon : Lexicon) (c : Char) (rest : List Char) :
    reading all lexicon (c :: rest) = reading (candidates c) lexicon (c :: rest) := by
  by_cases hmark : c = '!'
  · subst hmark
    rfl
  by_cases hquote : c = '"'
  · subst hquote
    rfl
  have htype : type lexicon (c :: rest) = none := type_eq_none hmark
  have hstring : string lexicon (c :: rest) = none := string_eq_none hquote
  rw [candidates, if_neg hmark, if_neg hquote]
  cases hword : isWordChar c with
  | false =>
    have hletter : c ≠ 'c' := by
      rintro rfl
      cases hword
    simp [reading, all, List.filter_cons, htype, hstring, operation_eq_none hletter,
      number_eq_none (isDigit_of_not_isWordChar hword), bareWord_eq_none hword]
  | true =>
    have hsigil : sigil lexicon (c :: rest) = none :=
      sigil_eq_none (sigilCategory?_of_isWordChar hword)
    cases hdigit : c.isDigit with
    | true =>
      have hletter : c ≠ 'c' := by
        rintro rfl
        cases hdigit
      simp [reading, all, List.filter_cons, htype, hstring, hsigil, operation_eq_none hletter]
    | false =>
      simp [reading, all, List.filter_cons, htype, hstring, hsigil, number_eq_none hdigit]

/-- Where two rules read something, the second is the rule for bare words and the first the rule for
numbers or that for operations. -/
theorem reading_all_cases (lexicon : Lexicon) (text : List Char) :
    (∃ rule, (reading all lexicon text).Sublist [rule]) ∨
      reading all lexicon text = [number, bareWord] ∨
      reading all lexicon text = [operation, bareWord] := by
  have hpair {found : List Rule} {rule : Rule} (h : found.Sublist [rule, bareWord]) :
      (∃ other, found.Sublist [other]) ∨ found = [rule, bareWord] := by
    cases h with
    | cons _ h => exact .inl ⟨bareWord, h⟩
    | cons_cons _ h =>
      rcases List.sublist_singleton.1 h with rfl | rfl
      · exact .inl ⟨rule, List.Sublist.refl _⟩
      · exact .inr rfl
  cases text with
  | nil => exact .inl ⟨bareWord, List.nil_sublist _⟩
  | cons c rest =>
    have hsub : (reading all lexicon (c :: rest)).Sublist (candidates c) := by
      rw [reading_all_cons]
      exact List.filter_sublist
    unfold candidates at hsub
    split at hsub
    · exact .inl ⟨type, hsub⟩
    · split at hsub
      · exact .inl ⟨string, hsub⟩
      · split at hsub
        · exact .inl ⟨sigil, hsub⟩
        · split at hsub
          · exact (hpair hsub).imp_right .inl
          · exact (hpair hsub).imp_right .inr

theorem findSome?_reading (rules : List Rule) (lexicon : Lexicon) (text : List Char) :
    (reading rules lexicon text).findSome? (· lexicon text) =
      rules.findSome? (· lexicon text) := by
  induction rules with
  | nil => rfl
  | cons rule rules ih =>
    rw [List.findSome?_cons, ← ih]
    cases h : rule lexicon text with
    | none => rw [reading, List.filter_cons_of_neg (by simp [h]), ← reading]
    | some piece =>
      rw [reading, List.filter_cons_of_pos (by simp [h]), List.findSome?_cons, h]

/-- A list of the same rules has the same rules that read a text, in the same order, if it has those
two that compete in that order. -/
theorem reading_eq_of_sublist {rules pair : List Rule} {lexicon : Lexicon} {text : List Char}
    (hperm : rules.Perm all) (hpair : pair.Sublist rules)
    (h : reading all lexicon text = pair) : reading rules lexicon text = pair := by
  have hreading : (reading rules lexicon text).Perm pair := by
    rw [← h]
    exact hperm.filter _
  have hself : pair.filter (fun rule => (rule lexicon text).isSome) = pair := by
    rw [← h, reading, List.filter_filter]
    simp only [Bool.and_self]
  have hsub : pair.Sublist (reading rules lexicon text) := by
    rw [← hself]
    exact hpair.filter _
  exact (hsub.eq_of_length_le (Nat.le_of_eq hreading.length_eq)).symm

theorem reading_eq_of_perm {rules : List Rule} (hperm : rules.Perm all)
    (hnumber : [number, bareWord].Sublist rules) (hoperation : [operation, bareWord].Sublist rules)
    (lexicon : Lexicon) (text : List Char) :
    reading rules lexicon text = reading all lexicon text := by
  rcases reading_all_cases lexicon text with ⟨rule, hone⟩ | heq | heq
  · have hreading : (reading rules lexicon text).Perm (reading all lexicon text) := hperm.filter _
    rcases List.sublist_singleton.1 hone with hnil | hone
    · rw [hnil] at hreading ⊢
      exact hreading.eq_nil
    · rw [hone] at hreading ⊢
      exact List.perm_singleton.1 hreading
  · rw [heq]
    exact reading_eq_of_sublist hperm hnumber heq
  · rw [heq]
    exact reading_eq_of_sublist hperm hoperation heq

end Rule

namespace Lexeme

theorem scanWith_congr {rules others : List Rule} {lexicon : Lexicon}
    (h : ∀ text, rules.findSome? (· lexicon text) = others.findSome? (· lexicon text))
    (text : List Char) : scanWith rules lexicon text = scanWith others lexicon text := by
  fun_induction scanWith rules lexicon text with
  | case1 => rw [scanWith]
  | case2 c rest piece ih =>
    have hpiece : piece = first others lexicon c rest := by
      simp only [piece, first, h]
    rw [scanWith, ← hpiece, ih]

end Lexeme

namespace Rule

/-- At most two rules read something at a place. If two do, one is the rule for bare words and the
other that for numbers or that for operations. So a line is read in the same way with the rules in
any order in which these two come before the rule for bare words. -/
theorem only_words_compete (lexicon : Lexicon) :
    (∀ rest, (reading all lexicon rest).length ≤ 2 ∧
      (reading all lexicon rest).Pairwise fun first second =>
        (first = number ∨ first = operation) ∧ second = bareWord) ∧
    ∀ rules : List Rule, rules.Perm all → [number, bareWord].Sublist rules →
      [operation, bareWord].Sublist rules → ∀ line text,
        Lexeme.place line 0 (Lexeme.scanWith rules lexicon text) =
          Lexeme.scanLine lexicon line text := by
  constructor
  · intro rest
    rcases reading_all_cases lexicon rest with ⟨rule, hone⟩ | heq | heq
    · exact ⟨Nat.le_succ_of_le hone.length_le, (List.pairwise_singleton _ rule).sublist hone⟩
    · rw [heq]
      exact ⟨Nat.le_refl 2, List.pairwise_pair.2 ⟨.inl rfl, rfl⟩⟩
    · rw [heq]
      exact ⟨Nat.le_refl 2, List.pairwise_pair.2 ⟨.inr rfl, rfl⟩⟩
  · intro rules hperm hnumber hoperation line text
    rw [Lexeme.scanLine, Lexeme.scan, Lexeme.scanWith_congr]
    intro rest
    rw [← findSome?_reading, reading_eq_of_perm hperm hnumber hoperation, findSome?_reading]

/-- Bare words in the middle of the order, on a line where both other rules compete with theirs; and
bare words tried first, which read the line differently. -/
theorem only_words_compete_rotated :
    let rules := [number, operation, sigil, bareWord] ++ [type, string]
    rules.Perm all ∧ [number, bareWord].Sublist rules ∧ [operation, bareWord].Sublist rules ∧
      Lexeme.place 3 0 (Lexeme.scanWith rules .builtin "4z = cir.f \"x\" : !cir.bool".toList) =
        Lexeme.scanLine .builtin 3 "4z = cir.f \"x\" : !cir.bool".toList ∧
      reading all .builtin "4z".toList = [number, bareWord] ∧
      reading all .builtin "cir.f".toList = [operation, bareWord] ∧
      Lexeme.place 3 0 (Lexeme.scanWith [bareWord, type, string, number, operation, sigil] .builtin
        "4z".toList) ≠ Lexeme.scanLine .builtin 3 "4z".toList := by
  intro rules
  have hperm : rules.Perm all := List.perm_append_comm
  have hnumber : [number, bareWord].Sublist rules :=
    .cons_cons _ (.cons _ (.cons _ (List.singleton_sublist.2 List.mem_cons_self)))
  have hoperation : [operation, bareWord].Sublist rules :=
    .cons _ (.cons_cons _ (.cons _ (List.singleton_sublist.2 List.mem_cons_self)))
  exact ⟨hperm, hnumber, hoperation,
    (only_words_compete .builtin).2 rules hperm hnumber hoperation 3 _, rfl, rfl,
    by decide +kernel⟩

end Rule

end CirHighlight
