import Mathlib.Data.List.Basic
import Mathlib.Data.List.TakeDrop
import CirHighlight.Text.Ascii
import CirHighlight.Text.Reader

namespace CirHighlight

namespace Reader

variable {α β : Type} {p : Reader α} {text middle rest : List Char}

theorem bind_of_eq {a : α} (h : p text = some (a, rest)) (f : α → Reader β) :
    (p >>= f) text = f a rest := by
  simp [Bind.bind, StateT.bind, h]

theorem bind_of_eq_none (h : p text = none) (f : α → Reader β) : (p >>= f) text = none := by
  simp [Bind.bind, StateT.bind, h]

theorem map_of_eq {a : α} (h : p text = some (a, rest)) (f : α → β) :
    (f <$> p) text = some (f a, rest) := by
  simp [Functor.map, StateT.map, h]

theorem map_of_eq_none (h : p text = none) (f : α → β) : (f <$> p) text = none := by
  simp [Functor.map, StateT.map, h]

theorem orElse_of_eq {a : α} (h : p text = some (a, rest)) (q : Reader α) :
    (p <|> q) text = some (a, rest) := by
  change (p text <|> q text) = _
  rw [h]
  rfl

theorem orElse_of_eq_none (h : p text = none) (q : Reader α) : (p <|> q) text = q text := by
  change (p text <|> q text) = _
  rw [h]
  rfl

theorem satisfy_of_head? {test : Char → Bool}
    (h : ∀ c, rest.head? = some c → test c = false) : satisfy test rest = none := by
  cases rest with
  | nil => rfl
  | cons c rest => simp [satisfy, h c rfl]

theorem char_cons (c : Char) (rest : List Char) : char c (c :: rest) = some ((), rest) := by
  have hsatisfy : satisfy (· = c) (c :: rest) = some (c, rest) := if_pos (decide_eq_true rfl)
  rw [char, bind_of_eq hsatisfy]
  rfl

theorem char_of_head?_ne {c : Char} (h : text.head? ≠ some c) : char c text = none := by
  apply bind_of_eq_none
  apply satisfy_of_head?
  intro d hd
  apply decide_eq_false
  rintro rfl
  exact h hd

theorem maybe_of_eq {a : α} (h : p text = some (a, rest)) :
    maybe p text = some (some a, rest) := by
  simp only [maybe, h]

theorem maybe_of_eq_none (h : p text = none) : maybe p text = some (none, text) := by
  simp only [maybe, h]

theorem takeWhile1_append {test : Char → Bool} {taken : List Char} (hne : taken ≠ [])
    (htaken : ∀ c ∈ taken, test c = true) (hrest : ∀ c, rest.head? = some c → test c = false) :
    takeWhile1 test (taken ++ rest) = some (taken, rest) := by
  have hstop : rest.takeWhile test = [] ∧ rest.dropWhile test = rest := by
    cases rest with
    | nil => exact ⟨rfl, rfl⟩
    | cons c rest =>
      have hc := hrest c rfl
      simp [hc]
  have hspan : (taken ++ rest).span test = (taken, rest) := by
    rw [List.span_eq_takeWhile_dropWhile, List.takeWhile_append_of_pos htaken,
      List.dropWhile_append_of_pos htaken, hstop.1, hstop.2, List.append_nil]
  have htake : takeWhile test (taken ++ rest) = some (taken, rest) := congrArg some hspan
  rw [takeWhile1, bind_of_eq htake, if_neg (mt List.isEmpty_iff.1 hne)]
  rfl

/-- A reader that is repeated takes one value after the other off a text, and then no more. -/
inductive Repeats (p : Reader α) : List Char → List α → List Char → Prop where
  | stop {rest : List Char} (h : p rest = none) : Repeats p rest [] rest
  | step {text middle rest : List Char} {a : α} {items : List α}
    (h : p text = some (a, middle)) (hlt : middle.length < text.length)
    (hmore : Repeats p middle items rest) : Repeats p text (a :: items) rest

theorem Repeats.length_le {items : List α} (h : Repeats p text items rest) :
    items.length ≤ text.length := by
  induction h with
  | stop => exact Nat.zero_le _
  | step _ hlt _ ih =>
    rw [List.length_cons]
    omega

theorem Repeats.manyFrom_eq {items : List α} (h : Repeats p text items rest) {bound : Nat}
    (hbound : items.length ≤ bound) (taken : List α) :
    manyFrom p bound taken text = (taken.reverse ++ items, rest) := by
  induction h generalizing bound taken with
  | stop h =>
    cases bound with
    | zero => rw [manyFrom, List.append_nil]
    | succ bound => rw [manyFrom, h, List.append_nil]
  | step h _ _ ih =>
    cases bound with
    | zero => cases hbound
    | succ bound =>
      rw [manyFrom, h]
      dsimp only
      rw [ih (Nat.le_of_succ_le_succ hbound), List.reverse_cons, List.append_assoc,
        List.singleton_append]

theorem Repeats.many_eq {items : List α} (h : Repeats p text items rest) :
    many p text = some (items, rest) := by
  rw [many, h.manyFrom_eq h.length_le]
  rfl

end Reader

namespace Text

theorem decimalValue_toDigits (n : Nat) : decimalValue (Nat.toDigits 10 n) = n := by
  have hfold : decimalValue (Nat.toDigits 10 n) = Nat.ofDigitChars 10 (Nat.toDigits 10 n) 0 := by
    unfold decimalValue Nat.ofDigitChars
    simp only [Nat.mul_comm]
  rw [hfold, Nat.ofDigitChars_ten_toDigits]

theorem head?_toDigits_ne {n : Nat} (hn : n ≠ 0) : (Nat.toDigits 10 n).head? ≠ some '0' := by
  induction n using Nat.strongRecOn with
  | ind n ih =>
    rcases Nat.lt_or_ge n 10 with hlt | hge
    · have hdigit : ∀ m < 10, m ≠ 0 → [m.digitChar].head? ≠ some '0' := by decide
      rw [Nat.toDigits_of_lt_base hlt]
      exact hdigit n hlt hn
    · rw [Nat.toDigits_of_base_le (by decide) hge,
        List.head?_append_of_ne_nil _ Nat.toDigits_ne_nil]
      exact ih (n / 10) (by omega) (by omega)

theorem hexValue?_lowerHexDigit : ∀ n < 16, hexValue? (lowerHexDigit n) = some n := by
  decide

end Text

end CirHighlight
