import Mathlib.Data.List.DropRight
import CirHighlight.Lexeme.Literal

namespace CirHighlight.Literal

section Symbols

variable {α : Type} [DecidableEq α] {quote escape : α}

/-- How many symbols after the opening quote are taken by a reader of pairs. It takes an escape
with the symbol after it, stops behind a quote that it does not take in this way, and takes any
other symbol alone. -/
def pairsLength (quote escape : α) : List α → Nat
  | [] => 0
  | x :: rest =>
    if x = escape then
      match rest with
      | [] => 1
      | _ :: after => pairsLength quote escape after + 2
    else if x = quote then 1
    else pairsLength quote escape rest + 1

def escapesAtEnd (escape : α) (text : List α) : Nat :=
  (text.rtakeWhile (· = escape)).length

/-- A place of a text, read after other text, that holds a quote with an even number of escapes
directly before it. -/
def Closes (quote escape : α) (before text : List α) (i : Nat) : Prop :=
  text[i]? = some quote ∧ escapesAtEnd escape (before ++ text.take i) % 2 = 0

theorem closing_congr {run other : Nat} (h : run % 2 = other % 2) (text : List α) :
    closing quote escape run text = closing quote escape other text := by
  induction text generalizing run other with
  | nil => rfl
  | cons x rest ih =>
    have hnext : (run + 1) % 2 = (other + 1) % 2 := by omega
    simp only [closing, h, ih hnext]

theorem closing_one_cons (x : α) (rest : List α) :
    closing quote escape 1 (x :: rest) = closing quote escape 0 rest + 1 := by
  by_cases hx : x = escape
  · rw [closing, if_pos hx, closing_congr (show (1 + 1) % 2 = 0 % 2 from rfl)]
  · rw [closing, if_neg hx, if_neg fun hodd => absurd hodd.2 (by decide)]

theorem closing_eq_pairsLength (text : List α) :
    closing quote escape 0 text = pairsLength quote escape text := by
  fun_induction pairsLength quote escape text with
  | case1 => rfl
  | case2 => rw [closing, if_pos rfl, closing]
  | case3 x after ih => rw [closing, if_pos rfl, closing_one_cons, ih]
  | case4 rest hescape => rw [closing, if_neg hescape, if_pos ⟨rfl, rfl⟩]
  | case5 x rest hescape hquote ih =>
    rw [closing, if_neg hescape, if_neg fun hclose => hquote hclose.1, ih]

theorem escapesAtEnd_concat (escape x : α) (text : List α) :
    escapesAtEnd escape (text ++ [x]) =
      if x = escape then escapesAtEnd escape text + 1 else 0 := by
  unfold escapesAtEnd
  rw [List.rtakeWhile_concat]
  by_cases hx : x = escape
  · simp [hx]
  · simp [hx]

theorem closes_zero {before rest : List α} {x : α} :
    Closes quote escape before (x :: rest) 0 ↔
      x = quote ∧ escapesAtEnd escape before % 2 = 0 := by
  simp [Closes]

theorem closes_succ {before rest : List α} {x : α} {i : Nat} :
    Closes quote escape before (x :: rest) (i + 1) ↔ Closes quote escape (before ++ [x]) rest i := by
  simp [Closes]

/-- Counting escapes stops behind the first quote that an even number of them precedes, or at the
end of the text if there is none. -/
theorem closing_spec (hne : quote ≠ escape) (before text : List α) :
    (∃ i, closing quote escape (escapesAtEnd escape before) text = i + 1 ∧
      Closes quote escape before text i ∧ ∀ j < i, ¬ Closes quote escape before text j) ∨
    (closing quote escape (escapesAtEnd escape before) text = text.length ∧
      ∀ j, ¬ Closes quote escape before text j) := by
  induction text generalizing before with
  | nil => exact .inr ⟨rfl, fun j hclose => by simp [Closes] at hclose⟩
  | cons x rest ih =>
    by_cases hclose : Closes quote escape before (x :: rest) 0
    · obtain ⟨rfl, heven⟩ := closes_zero.1 hclose
      refine .inl ⟨0, ?_, hclose, fun j hj => absurd hj (Nat.not_lt_zero j)⟩
      rw [closing, if_neg hne, if_pos ⟨rfl, heven⟩]
    · have hstep : closing quote escape (escapesAtEnd escape before) (x :: rest) =
          closing quote escape (escapesAtEnd escape (before ++ [x])) rest + 1 := by
        rw [closing, if_neg (mt closes_zero.2 hclose), escapesAtEnd_concat]
        split <;> rfl
      rw [hstep]
      rcases ih (before ++ [x]) with ⟨i, hlength, hfound, hfirst⟩ | ⟨hlength, hnone⟩
      · refine .inl ⟨i + 1, by rw [hlength], closes_succ.2 hfound, ?_⟩
        intro j hj
        cases j with
        | zero => exact hclose
        | succ j => exact mt closes_succ.1 (hfirst j (Nat.lt_of_succ_lt_succ hj))
      · refine .inr ⟨by rw [hlength, List.length_cons], ?_⟩
        intro j
        cases j with
        | zero => exact hclose
        | succ j => exact mt closes_succ.1 (hnone j)

end Symbols

/-- An index of a line holds a quote that closes the literal opened at another index: it comes
later, and the escapes directly before it that come later too are even in number. -/
def ClosesAt (bytes : List UInt8) (start i : Nat) : Prop :=
  start < i ∧ bytes[i]? = some quoteByte ∧
    escapesAtEnd escapeByte ((bytes.take i).drop (start + 1)) % 2 = 0

/-- An index of a line is the end of the literal opened at another index: it is just after the
first quote that closes the literal, or after the last byte if no quote does. -/
structure IsEnd (bytes : List UInt8) (start stop : Nat) : Prop where
  start_lt : start < stop
  le_length : stop ≤ bytes.length
  closed_or_open :
    (ClosesAt bytes start (stop - 1) ∧ ∀ i < stop - 1, ¬ ClosesAt bytes start i) ∨
      (stop = bytes.length ∧ ∀ i, ¬ ClosesAt bytes start i)

theorem closesAt_iff {bytes : List UInt8} {start i : Nat} :
    ClosesAt bytes start i ↔
      ∃ j, i = start + 1 + j ∧ Closes quoteByte escapeByte [] (bytes.drop (start + 1)) j := by
  have hafter (j : Nat) : (bytes.take (start + 1 + j)).drop (start + 1) =
      (bytes.drop (start + 1)).take j := by
    rw [List.drop_take, Nat.add_sub_cancel_left]
  constructor
  · rintro ⟨hlt, hquote, heven⟩
    obtain ⟨j, rfl⟩ := Nat.exists_eq_add_of_le (Nat.succ_le_of_lt hlt)
    refine ⟨j, rfl, by rwa [List.getElem?_drop], ?_⟩
    rw [List.nil_append, ← hafter]
    exact heven
  · rintro ⟨j, rfl, hquote, heven⟩
    refine ⟨by omega, by rwa [List.getElem?_drop] at hquote, ?_⟩
    rw [List.nil_append, ← hafter] at heven
    exact heven

theorem IsEnd.unique {bytes : List UInt8} {start stop other : Nat} (h : IsEnd bytes start stop)
    (hother : IsEnd bytes start other) : stop = other := by
  have hlt := h.start_lt
  have hltOther := hother.start_lt
  rcases h.closed_or_open with ⟨hclose, hfirst⟩ | ⟨hlength, hnone⟩
  · rcases hother.closed_or_open with ⟨hcloseOther, hfirstOther⟩ | ⟨-, hnoneOther⟩
    · rcases Nat.lt_trichotomy (stop - 1) (other - 1) with hbefore | hsame | hafter
      · exact (hfirstOther _ hbefore hclose).elim
      · omega
      · exact (hfirst _ hafter hcloseOther).elim
    · exact (hnoneOther _ hclose).elim
  · rcases hother.closed_or_open with ⟨hcloseOther, -⟩ | ⟨hlengthOther, -⟩
    · exact (hnone _ hcloseOther).elim
    · exact hlength.trans hlengthOther.symm

theorem isEnd_closing {bytes : List UInt8} {start : Nat} (hstart : start < bytes.length) :
    IsEnd bytes start
      (start + 1 + closing quoteByte escapeByte 0 (bytes.drop (start + 1))) := by
  have hle := closing_le quoteByte escapeByte 0 (bytes.drop (start + 1))
  rw [List.length_drop] at hle
  refine ⟨by omega, by omega, ?_⟩
  have hne : quoteByte ≠ escapeByte := by decide
  rcases closing_spec hne [] (bytes.drop (start + 1)) with
    ⟨i, hlength, hclose, hfirst⟩ | ⟨hlength, hnone⟩
  · left
    rw [show escapesAtEnd escapeByte [] = 0 from rfl] at hlength
    rw [hlength, ← Nat.add_assoc, Nat.add_sub_cancel]
    refine ⟨closesAt_iff.2 ⟨i, rfl, hclose⟩, ?_⟩
    intro k hk hcloses
    obtain ⟨j, rfl, hearlier⟩ := closesAt_iff.1 hcloses
    exact hfirst j (by omega) hearlier
  · right
    rw [show escapesAtEnd escapeByte [] = 0 from rfl, List.length_drop] at hlength
    refine ⟨by omega, ?_⟩
    intro k hcloses
    obtain ⟨j, -, hclose⟩ := closesAt_iff.1 hcloses
    exact hnone j hclose

/-- The end of the literal that opens at any byte of a line, also inside a character, is where a
reader of pairs stops that starts just after that byte. It is the only index that is just after
the first quote with an even number of escapes before it, or after the last byte if there is no
such quote. -/
theorem ends_after_pairs (line : String) {start : Nat} (hstart : start < line.utf8ByteSize) :
    endByte? line start =
        some (start + 1 +
          pairsLength quoteByte escapeByte (line.toUTF8.data.toList.drop (start + 1))) ∧
      ∀ stop, endByte? line start = some stop ↔ IsEnd line.toUTF8.data.toList start stop := by
  have hlength : start < line.toUTF8.data.toList.length := hstart
  have hend : endByte? line start = some (start + 1 +
      closing quoteByte escapeByte 0 (line.toUTF8.data.toList.drop (start + 1))) := by
    simp only [endByte?, if_pos hlength]
  refine ⟨by rw [hend, closing_eq_pairsLength], ?_⟩
  intro stop
  rw [hend, Option.some.injEq]
  constructor
  · rintro rfl
    exact isEnd_closing hlength
  · intro hstop
    exact (isEnd_closing hlength).unique hstop

/-- A literal that is read from inside a character: an escaped quote, an escaped escape before the
quote that closes it, and one more quote. -/
theorem ends_after_pairs_inside_character :
    1 < "é\\\"\\\\\" \"".utf8ByteSize ∧
      IsEnd "é\\\"\\\\\" \"".toUTF8.data.toList 1 7 := by
  have hstart : 1 < "é\\\"\\\\\" \"".utf8ByteSize := by decide +kernel
  exact ⟨hstart, ((ends_after_pairs _ hstart).2 7).1 (by decide +kernel)⟩

end CirHighlight.Literal
