import CirHighlight.Proofs.Text.Width
import CirHighlight.Text.Lines

namespace CirHighlight.Text

/-- A text after which a line starts: it is empty or ends with a line feed. -/
def EndsLine (text : List Char) : Prop :=
  text = [] ∨ text.getLast? = some '\n'

/-- A text has a line with the given number. A line that a line feed ends is without one carriage
return directly before it; the last line need not be ended, and is not empty then. -/
inductive IsLine : List Char → Nat → List Char → Prop
  | ended {before raw : List Char} (after : List Char) (hbefore : EndsLine before)
      (hraw : '\n' ∉ raw) :
    IsLine (before ++ (raw ++ '\n' :: after)) (before.count '\n') (stripReturn raw)
  | last {before raw : List Char} (hbefore : EndsLine before) (hraw : '\n' ∉ raw)
      (hne : raw ≠ []) :
    IsLine (before ++ raw) (before.count '\n') raw

theorem EndsLine.append {left right : List Char} (hl : EndsLine left) (hr : EndsLine right) :
    EndsLine (left ++ right) := by
  rcases hr with rfl | hr
  · rw [List.append_nil]
    exact hl
  · right
    rw [List.getLast?_append, hr, Option.some_or]

theorem EndsLine.tail {c : Char} {text : List Char} (h : EndsLine (c :: text)) :
    (text = [] ∧ c = '\n') ∨ (text ≠ [] ∧ EndsLine text) := by
  rcases h with h | h
  · cases h
  · cases text with
    | nil =>
      simp only [List.getLast?_singleton, Option.some.injEq] at h
      exact .inl ⟨rfl, h⟩
    | cons d text =>
      rw [List.getLast?_cons_cons] at h
      exact .inr ⟨List.cons_ne_nil d text, .inr h⟩

theorem EndsLine.newline (raw : List Char) : EndsLine (raw ++ ['\n']) := by
  right
  simp

theorem not_mem_takeWhile (text : List Char) : '\n' ∉ text.takeWhile (· ≠ '\n') := by
  intro hmem
  simpa using List.all_eq_true.1 List.all_takeWhile _ hmem

theorem dropWhile_eq_nil_or_head? (text : List Char) :
    text.dropWhile (· ≠ '\n') = [] ∨ (text.dropWhile (· ≠ '\n')).head? = some '\n' := by
  have hhead := List.head?_dropWhile_not (· ≠ '\n') text
  cases hdrop : text.dropWhile (· ≠ '\n') with
  | nil => exact .inl rfl
  | cons c rest =>
    rw [hdrop] at hhead
    right
    simpa using hhead

theorem linesFrom_append {before : List Char} (h : EndsLine before) (hne : before ≠ [])
    (current rest : List Char) :
    linesFrom current (before ++ rest) = linesFrom current before ++ linesFrom [] rest ∧
      (linesFrom current before).length = before.count '\n' := by
  induction before generalizing current with
  | nil => exact (hne rfl).elim
  | cons c before ih =>
    rcases h.tail with ⟨rfl, rfl⟩ | ⟨hnil, ht⟩
    · simp [linesFrom]
    · by_cases hc : c = '\n'
      · obtain ⟨he, hlen⟩ := ih ht hnil []
        simp [linesFrom, hc, he, hlen]
      · obtain ⟨he, hlen⟩ := ih ht hnil (c :: current)
        simp [linesFrom, hc, he, hlen]

theorem lines_append {before : List Char} (h : EndsLine before) (rest : List Char) :
    lines (before ++ rest) = lines before ++ lines rest := by
  by_cases hne : before = []
  · subst hne
    rfl
  · exact (linesFrom_append h hne [] rest).1

theorem length_lines_of_endsLine {before : List Char} (h : EndsLine before) :
    (lines before).length = before.count '\n' := by
  by_cases hne : before = []
  · subst hne
    rfl
  · exact (linesFrom_append h hne [] []).2

theorem linesFrom_of_not_mem {raw : List Char} (h : '\n' ∉ raw) (current rest : List Char) :
    linesFrom current (raw ++ '\n' :: rest) =
      stripReturn (current.reverse ++ raw) :: linesFrom [] rest := by
  induction raw generalizing current with
  | nil => simp [linesFrom]
  | cons c raw ih =>
    have hc : c ≠ '\n' := fun he => h (he ▸ List.mem_cons_self)
    have hraw : '\n' ∉ raw := fun hmem => h (List.mem_cons_of_mem _ hmem)
    simp [linesFrom, hc, ih hraw]

theorem linesFrom_last {raw : List Char} (h : '\n' ∉ raw) (current : List Char)
    (hne : current.reverse ++ raw ≠ []) : linesFrom current raw = [current.reverse ++ raw] := by
  induction raw generalizing current with
  | nil =>
    have hcurrent : current ≠ [] := by simpa using hne
    simp [linesFrom, hcurrent]
  | cons c raw ih =>
    have hc : c ≠ '\n' := fun he => h (he ▸ List.mem_cons_self)
    have hraw : '\n' ∉ raw := fun hmem => h (List.mem_cons_of_mem _ hmem)
    simp [linesFrom, hc, ih hraw]

theorem IsLine.not_mem {text line : List Char} {n : Nat} (h : IsLine text n line) :
    '\n' ∉ line := by
  cases h with
  | ended after hbefore hraw =>
    unfold stripReturn
    split
    · exact fun hmem => hraw ((List.dropLast_sublist _).subset hmem)
    · exact hraw
  | last hbefore hraw hne => exact hraw

theorem IsLine.getElem? {text line : List Char} {n : Nat} (h : IsLine text n line) :
    (lines text)[n]? = some line := by
  cases h with
  | ended after hbefore hraw =>
    rw [lines_append hbefore, ← length_lines_of_endsLine hbefore, lines,
      List.getElem?_append_right (Nat.le_refl _), Nat.sub_self, lines, linesFrom_of_not_mem hraw]
    rfl
  | last hbefore hraw hne =>
    rw [lines_append hbefore, ← length_lines_of_endsLine hbefore, lines,
      List.getElem?_append_right (Nat.le_refl _), Nat.sub_self, lines, linesFrom_last hraw [] hne]
    rfl

theorem IsLine.prepend {before text line : List Char} {n : Nat} (h : IsLine text n line)
    (hbefore : EndsLine before) : IsLine (before ++ text) (before.count '\n' + n) line := by
  cases h with
  | ended after hinner hraw =>
    rw [← List.append_assoc, ← List.count_append]
    exact .ended after (hbefore.append hinner) hraw
  | last hinner hraw hne =>
    rw [← List.append_assoc, ← List.count_append]
    exact .last (hbefore.append hinner) hraw hne

theorem isLine_of_getElem?_linesFrom {current text line : List Char} {n : Nat}
    (hcurrent : '\n' ∉ current) (h : (linesFrom current text)[n]? = some line) :
    IsLine (current.reverse ++ text) n line := by
  induction text generalizing current n with
  | nil =>
    simp only [linesFrom] at h
    split at h
    · cases h
    · next hne =>
      have hne' : current.reverse ≠ [] := by simpa using hne
      obtain ⟨rfl, rfl⟩ : n = 0 ∧ current.reverse = line := by
        cases n with
        | zero => exact ⟨rfl, Option.some.inj h⟩
        | succ n => cases h
      rw [List.append_nil]
      exact IsLine.last (.inl rfl) (mt List.mem_reverse.1 hcurrent) hne'
  | cons c rest ih =>
    by_cases hc : c = '\n'
    · subst hc
      simp only [linesFrom] at h
      cases n with
      | zero =>
        obtain rfl : stripReturn current.reverse = line := Option.some.inj h
        exact IsLine.ended rest (.inl rfl) (mt List.mem_reverse.1 hcurrent)
      | succ n =>
        have hline := (ih List.not_mem_nil h).prepend (EndsLine.newline current.reverse)
        rw [List.append_assoc, List.count_append,
          List.count_eq_zero.2 (mt List.mem_reverse.1 hcurrent)] at hline
        rw [Nat.add_comm n 1]
        exact hline
    · simp only [linesFrom, if_neg hc] at h
      have hcons : '\n' ∉ c :: current := by
        intro hmem
        rcases List.mem_cons.1 hmem with he | hmem
        · exact hc he.symm
        · exact hcurrent hmem
      have hline := ih hcons h
      rw [List.reverse_cons, List.append_assoc] at hline
      exact hline

theorem getElem?_lines_eq_some_iff {text line : List Char} {n : Nat} :
    (lines text)[n]? = some line ↔ IsLine text n line :=
  ⟨isLine_of_getElem?_linesFrom List.not_mem_nil, IsLine.getElem?⟩

theorem byteSize_reverse (text : List Char) : byteSize text.reverse = byteSize text := by
  induction text with
  | nil => rfl
  | cons c text ih =>
    rw [List.reverse_cons, byteSize_append, ih, byteSize_cons, byteSize_cons, byteSize_nil]
    omega

theorem byteSize_stripReturn_le (line : List Char) :
    byteSize (stripReturn line) ≤ byteSize line := by
  unfold stripReturn
  split
  · next h =>
    obtain ⟨start, rfl⟩ := List.getLast?_eq_some_iff.1 h
    rw [List.dropLast_concat, byteSize_append]
    exact Nat.le_add_right _ _
  · exact Nat.le_refl _

theorem sum_byteSize_linesFrom_le (current text : List Char) :
    ((linesFrom current text).map byteSize).sum ≤ byteSize current + byteSize text := by
  induction text generalizing current with
  | nil =>
    simp only [linesFrom]
    split
    · exact Nat.zero_le _
    · simp [byteSize_reverse]
  | cons c rest ih =>
    simp only [linesFrom]
    split
    · have hline := byteSize_stripReturn_le current.reverse
      have hrest := ih []
      rw [byteSize_reverse] at hline
      rw [List.map_cons, List.sum_cons, byteSize_cons]
      rw [byteSize_nil] at hrest
      omega
    · have hrest := ih (c :: current)
      rw [byteSize_cons] at hrest ⊢
      omega

theorem sum_byteSize_lines_le (text : List Char) :
    ((lines text).map byteSize).sum ≤ byteSize text := by
  have h := sum_byteSize_linesFrom_le [] text
  rwa [byteSize_nil, Nat.zero_add] at h

theorem IsLine.byteSize_le {text line : List Char} {n : Nat} (h : IsLine text n line) :
    byteSize line ≤ byteSize text := by
  cases h with
  | @ended before raw after =>
    have := byteSize_stripReturn_le raw
    simp only [byteSize_append]
    omega
  | last =>
    rw [byteSize_append]
    exact Nat.le_add_left _ _

theorem IsLine.lt_byteSize {text line : List Char} {n : Nat} (h : IsLine text n line) :
    n < byteSize text := by
  refine Nat.lt_of_lt_of_le ?_ (length_le_byteSize text)
  cases h with
  | @ended before raw after =>
    have : before.count '\n' ≤ before.length := List.count_le_length
    simp only [List.length_append, List.length_cons]
    omega
  | @last before raw hbefore hraw hne =>
    have : before.count '\n' ≤ before.length := List.count_le_length
    have := List.length_pos_iff.2 hne
    rw [List.length_append]
    omega

theorem length_lines_le (text : List Char) : (lines text).length ≤ byteSize text := by
  cases hlength : (lines text).length with
  | zero => exact Nat.zero_le _
  | succ n =>
    have hn : n < (lines text).length := by omega
    have hlast := List.getElem?_eq_getElem hn
    exact (getElem?_lines_eq_some_iff.1 hlast).lt_byteSize

end CirHighlight.Text
