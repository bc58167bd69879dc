import CirHighlight.Proofs.Text.Lines
import CirHighlight.Text.Position

namespace CirHighlight.Position

def lastLine (text : List Char) : List Char :=
  (text.reverse.takeWhile (· ≠ '\n')).reverse

/-- The position just after a text: the line feeds in it, and the units after the last of them. -/
def atEnd (text : List Char) : Position where
  line := UInt32.ofNat (text.count '\n')
  character := UInt32.ofNat (Text.unitCount (lastLine text))

/-- A place that is directly after a carriage return and at the end of its line. -/
def AfterReturn (before after : List Char) : Prop :=
  before.getLast? = some '\r' ∧ (after = [] ∨ after.head? = some '\n')

instance (before after : List Char) : Decidable (AfterReturn before after) :=
  inferInstanceAs (Decidable (_ ∧ _))

theorem exists_lastLine (text : List Char) :
    ∃ whole, text = whole ++ lastLine text ∧ Text.EndsLine whole ∧ '\n' ∉ lastLine text ∧
      whole.count '\n' = text.count '\n' := by
  have hsplit : text = (text.reverse.dropWhile (· ≠ '\n')).reverse ++ lastLine text := by
    rw [lastLine, ← List.reverse_append, List.takeWhile_append_dropWhile, List.reverse_reverse]
  have hlast : '\n' ∉ lastLine text := by
    intro hmem
    exact Text.not_mem_takeWhile text.reverse (List.mem_reverse.1 hmem)
  refine ⟨(text.reverse.dropWhile (· ≠ '\n')).reverse, hsplit, ?_, hlast, ?_⟩
  · rw [Text.EndsLine, List.reverse_eq_nil_iff, List.getLast?_reverse]
    exact Text.dropWhile_eq_nil_or_head? text.reverse
  · have hcount := congrArg (List.count '\n') hsplit
    rw [List.count_append, List.count_eq_zero.2 hlast] at hcount
    exact hcount.symm

theorem lineStart?_append {whole : List Char} (h : Text.EndsLine whole) (rest : List Char) :
    lineStart? (whole.count '\n') (whole ++ rest) = some whole.length := by
  induction whole with
  | nil => simp [lineStart?]
  | cons c whole ih =>
    rcases h.tail with ⟨rfl, rfl⟩ | ⟨hne, ht⟩
    · simp [lineStart?]
    · have hstart := ih ht
      by_cases hc : c = '\n'
      · simp [lineStart?, hc, hstart]
      · obtain ⟨n, hn⟩ : ∃ n, whole.count '\n' = n + 1 := by
          have hmem : '\n' ∈ whole := by
            rcases ht with rfl | ht
            · exact (hne rfl).elim
            · exact List.mem_of_getLast? ht
          exact ⟨_, (Nat.sub_add_cancel (List.count_pos_iff.2 hmem)).symm⟩
        rw [List.count_cons_of_ne (by simpa using hc), hn, List.cons_append, lineStart?, if_neg hc,
          ← hn, hstart]
        rfl

theorem charactersTo_append {column counted : UInt32} {left : List Char}
    (h : counted.toNat + Text.unitCount left = column.toNat) (right : List Char) :
    charactersTo column counted (left ++ right) = left.length := by
  induction left generalizing counted with
  | nil =>
    have hle : column ≤ counted := by
      rw [UInt32.le_iff_toNat_le, ← h]
      exact Nat.le_refl _
    cases right with
    | nil => rfl
    | cons c right => simp [charactersTo, hle]
  | cons c left ih =>
    have hpos := Text.units_pos c
    have hbound := column.toNat_lt
    simp only [Text.unitCount_cons] at h
    have hsum : counted.toNat + (Text.units c).toNat < 2 ^ 32 := by omega
    have hnext := Text.toNat_add_units hsum
    have hlt : ¬ column ≤ counted := by
      rw [UInt32.le_iff_toNat_le]
      omega
    simp only [List.cons_append, charactersTo, if_neg hlt, List.length_cons]
    rw [ih (by omega)]

theorem charactersTo_of_le {column counted : UInt32} {line : List Char}
    (h : counted.toNat + Text.unitCount line ≤ column.toNat) :
    charactersTo column counted line = line.length := by
  induction line generalizing counted with
  | nil => rfl
  | cons c line ih =>
    have hpos := Text.units_pos c
    have hbound := column.toNat_lt
    simp only [Text.unitCount_cons] at h
    have hsum : counted.toNat + (Text.units c).toNat < 2 ^ 32 := by omega
    have hnext := Text.toNat_add_units hsum
    have hlt : ¬ column ≤ counted := by
      rw [UInt32.le_iff_toNat_le]
      omega
    simp only [charactersTo, if_neg hlt, List.length_cons]
    rw [ih (by omega)]

theorem getLast?_lastLine {text : List Char} {c : Char} (hc : c ≠ '\n') :
    (lastLine text).getLast? = some c ↔ text.getLast? = some c := by
  obtain ⟨whole, hsplit, hwhole, -, -⟩ := exists_lastLine text
  cases hlast : (lastLine text).getLast? with
  | some d =>
    rw [hsplit, List.getLast?_append, hlast]
    rfl
  | none =>
    rw [List.getLast?_eq_none_iff] at hlast
    rw [hlast, List.append_nil] at hsplit
    constructor
    · intro h
      cases h
    · intro h
      rcases hwhole with rfl | hwhole
      · rw [hsplit] at h
        cases h
      · rw [hsplit, hwhole] at h
        exact (hc (Option.some.inj h).symm).elim

theorem stripReturn_append {left right : List Char} (h : right ≠ []) :
    Text.stripReturn (left ++ right) = left ++ Text.stripReturn right := by
  obtain ⟨c, hc⟩ := Option.isSome_iff_exists.1 (List.getLast?_isSome.2 h)
  unfold Text.stripReturn
  rw [List.getLast?_append, hc, Option.some_or]
  split
  · rw [List.dropLast_append_of_ne_nil h]
  · rfl

theorem lineContent_lastLine (before after : List Char) :
    lineContent (lastLine before ++ after) =
      Text.stripReturn (lastLine before ++ after.takeWhile (· ≠ '\n')) := by
  obtain ⟨-, -, -, hlast, -⟩ := exists_lastLine before
  unfold lineContent
  rw [List.takeWhile_append_of_pos]
  intro c hmem
  simp only [ne_eq, decide_not, Bool.not_eq_true', decide_eq_false_iff_not]
  rintro rfl
  exact hlast hmem

theorem takeWhile_eq_nil_iff {after : List Char} :
    after.takeWhile (· ≠ '\n') = [] ↔ after = [] ∨ after.head? = some '\n' := by
  cases after with
  | nil => simp
  | cons c after => simp [List.takeWhile_cons]

/-- A place that is not directly after a return at the end of its line is preceded there by the
same text as before the return is taken away. -/
theorem exists_lineContent {before after : List Char} (h : ¬ AfterReturn before after) :
    ∃ more, lineContent (lastLine before ++ after) = lastLine before ++ more := by
  rw [lineContent_lastLine]
  by_cases hnil : after.takeWhile (· ≠ '\n') = []
  · refine ⟨[], ?_⟩
    have hreturn : (lastLine before).getLast? ≠ some '\r' := by
      intro hlast
      exact h ⟨(getLast?_lastLine (by decide)).1 hlast, takeWhile_eq_nil_iff.1 hnil⟩
    rw [hnil, List.append_nil, Text.stripReturn, if_neg hreturn]
  · exact ⟨_, stripReturn_append hnil⟩

theorem AfterReturn.lineContent_eq {before after : List Char} (h : AfterReturn before after) :
    lineContent (lastLine before ++ after) = (lastLine before).dropLast := by
  rw [lineContent_lastLine, takeWhile_eq_nil_iff.2 h.2, List.append_nil, Text.stripReturn,
    if_pos ((getLast?_lastLine (by decide)).2 h.1)]

theorem index_atEnd_eq {before after : List Char}
    (hsize : Text.byteSize (before ++ after) < 2 ^ 32) :
    ∃ whole column, before = whole ++ lastLine before ∧
      column.toNat = Text.unitCount (lastLine before) ∧
      (atEnd before).index (before ++ after) =
        whole.length + charactersTo column 0 (lineContent (lastLine before ++ after)) := by
  obtain ⟨whole, hsplit, hwhole, -, hcount⟩ := exists_lastLine before
  have hlength := Text.length_le_byteSize before
  have hunits := Text.unitCount_le_byteSize before
  rw [Text.byteSize_append] at hsize
  have hlines : (UInt32.ofNat (before.count '\n')).toNat = before.count '\n' := by
    have hle : before.count '\n' ≤ before.length := List.count_le_length
    exact UInt32.toNat_ofNat_of_lt' (by change _ < 2 ^ 32; omega)
  have hcolumn : (UInt32.ofNat (Text.unitCount (lastLine before))).toNat =
      Text.unitCount (lastLine before) := by
    have hsum := congrArg Text.unitCount hsplit
    rw [Text.unitCount_append] at hsum
    exact UInt32.toNat_ofNat_of_lt' (by change _ < 2 ^ 32; omega)
  refine ⟨whole, UInt32.ofNat (Text.unitCount (lastLine before)), hsplit, hcolumn, ?_⟩
  have htext : before ++ after = whole ++ (lastLine before ++ after) := by
    rw [← List.append_assoc, ← hsplit]
  have hstart : lineStart? (before.count '\n') (before ++ after) = some whole.length := by
    rw [htext, ← hcount]
    exact lineStart?_append hwhole _
  have hdrop : (before ++ after).drop whole.length = lastLine before ++ after := by
    rw [htext, List.drop_left]
  simp only [index, atEnd, hlines, hstart, hdrop]

theorem index_atEnd {before after : List Char}
    (hsize : Text.byteSize (before ++ after) < 2 ^ 32) (h : ¬ AfterReturn before after) :
    (atEnd before).index (before ++ after) = before.length := by
  obtain ⟨whole, column, hsplit, hcolumn, hindex⟩ := index_atEnd_eq hsize
  obtain ⟨more, hmore⟩ := exists_lineContent h
  have hlength := congrArg List.length hsplit
  rw [List.length_append] at hlength
  rw [hindex, hmore, charactersTo_append (by rw [hcolumn]; exact Nat.zero_add _), hlength]

/-- The position of a place directly after a return at the end of its line leads to the place
before that return. -/
theorem index_atEnd_afterReturn {before after : List Char}
    (hsize : Text.byteSize (before ++ after) < 2 ^ 32) (h : AfterReturn before after) :
    (atEnd before).index (before ++ after) = before.length - 1 := by
  obtain ⟨whole, column, hsplit, hcolumn, hindex⟩ := index_atEnd_eq hsize
  have hne : lastLine before ≠ [] := by
    intro hnil
    have hlast := (getLast?_lastLine (by decide)).2 h.1
    rw [hnil] at hlast
    cases hlast
  have hunits := congrArg Text.unitCount (List.dropLast_concat_getLast hne)
  rw [Text.unitCount_append] at hunits
  have hzero : (0 : UInt32).toNat = 0 := rfl
  have hlength := congrArg List.length hsplit
  have hpos := List.length_pos_iff.2 hne
  rw [List.length_append] at hlength
  rw [hindex, h.lineContent_eq, charactersTo_of_le (by omega), List.length_dropLast]
  omega

theorem offset_atEnd {text : String} {before after : List Char}
    (htext : text.toList = before ++ after) (hsize : Text.byteSize text.toList < 2 ^ 32)
    (h : ¬ AfterReturn before after) :
    (atEnd before).offset text = Text.byteSize before := by
  rw [htext] at hsize
  rw [offset, htext, index_atEnd hsize h, List.take_left]

/-- In bytes, the position of a place directly after a return at the end of its line leads to the
place before that return. -/
theorem offset_atEnd_afterReturn {text : String} {before after : List Char}
    (htext : text.toList = before ++ after) (hsize : Text.byteSize text.toList < 2 ^ 32)
    (h : AfterReturn before after) :
    (atEnd before).offset text = Text.byteSize before - 1 := by
  rw [htext] at hsize
  obtain ⟨front, rfl⟩ := List.getLast?_eq_some_iff.1 h.1
  rw [offset, htext, index_atEnd_afterReturn hsize h, List.length_append, List.length_singleton,
    Nat.add_sub_cancel, List.append_assoc, List.take_left, Text.byteSize_append]
  rfl

end CirHighlight.Position
