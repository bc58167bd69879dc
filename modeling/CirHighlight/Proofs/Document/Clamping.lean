import Mathlib.Order.Bounds.Basic
import Mathlib.Order.MinMax
import CirHighlight.Document
import CirHighlight.Proofs.Document.Coordinates

namespace CirHighlight

namespace Text

/-- The line with a number in a text: the whole lines before it and what stands on it, up to the
next line feed or the end of the text and without one carriage return at its end. -/
inductive LineAt : List Char → Nat → List Char → List Char → Prop
  | intro {whole raw rest : List Char} (hwhole : EndsLine whole) (hraw : '\n' ∉ raw)
      (hrest : rest = [] ∨ rest.head? = some '\n') :
    LineAt (whole ++ (raw ++ rest)) (whole.count '\n') whole (stripReturn raw)

/-- The places of a line at which a column is reached, as byte counts from its start. -/
def reaching (content : List Char) (column : Nat) : Set Nat :=
  { size | ∃ front, front <+: content ∧ column ≤ unitCount front ∧ byteSize front = size }

/-- The place of a column on a line: the first at which it is reached, or the end of the line if
it is not reached. -/
def IsPlaceOf (content : List Char) (column size : Nat) : Prop :=
  IsLeast (reaching content column) size ∨
    (reaching content column = ∅ ∧ size = byteSize content)

theorem monotone_byteSize_take (text : List Char) : Monotone fun n => byteSize (text.take n) := by
  intro m n h
  exact byteSize_le_of_isPrefix (List.take_prefix_take_left h)

theorem IsPlaceOf.le {content : List Char} {column other size otherSize : Nat}
    (hle : column ≤ other) (h : IsPlaceOf content column size)
    (hother : IsPlaceOf content other otherSize) : size ≤ otherSize := by
  have hsubset : reaching content other ⊆ reaching content column := by
    rintro found ⟨front, hfront, hreaches, rfl⟩
    exact ⟨front, hfront, Nat.le_trans hle hreaches, rfl⟩
  rcases h with hleast | ⟨hempty, rfl⟩
  · rcases hother with hleastOther | ⟨-, rfl⟩
    · exact hleast.2 (hsubset hleastOther.1)
    · obtain ⟨front, hfront, -, rfl⟩ := hleast.1
      exact byteSize_le_of_isPrefix hfront
  · rcases hother with hleastOther | ⟨-, rfl⟩
    · have hmem := hsubset hleastOther.1
      rw [hempty] at hmem
      exact hmem.elim
    · exact Nat.le_refl _

theorem IsPlaceOf.le_byteSize {content : List Char} {column size : Nat}
    (h : IsPlaceOf content column size) : size ≤ byteSize content := by
  rcases h with ⟨⟨front, hfront, -, rfl⟩, -⟩ | ⟨-, rfl⟩
  · exact byteSize_le_of_isPrefix hfront
  · exact Nat.le_refl _

theorem exists_whole {n : Nat} {text : List Char} (h : n ≤ text.count '\n') :
    ∃ whole rest, text = whole ++ rest ∧ EndsLine whole ∧ whole.count '\n' = n := by
  induction text generalizing n with
  | nil => exact ⟨[], [], rfl, .inl rfl, (Nat.le_zero.1 h).symm⟩
  | cons c text ih =>
    cases n with
    | zero => exact ⟨[], c :: text, rfl, .inl rfl, rfl⟩
    | succ n =>
      by_cases hc : c = '\n'
      · subst hc
        rw [List.count_cons_self] at h
        obtain ⟨whole, rest, rfl, hwhole, hcount⟩ := ih (Nat.le_of_succ_le_succ h)
        refine ⟨'\n' :: whole, rest, rfl, (EndsLine.newline []).append hwhole, ?_⟩
        rw [List.count_cons_self, hcount]
      · rw [List.count_cons_of_ne hc] at h
        obtain ⟨whole, rest, rfl, hwhole, hcount⟩ := ih h
        refine ⟨c :: whole, rest, rfl, ?_, by rw [List.count_cons_of_ne hc, hcount]⟩
        rcases hwhole with rfl | hlast
        · cases hcount
        · right
          rw [List.getLast?_cons, hlast]
          rfl

theorem exists_lineAt {n : Nat} {text : List Char} (h : n ≤ text.count '\n') :
    ∃ whole content, LineAt text n whole content := by
  obtain ⟨whole, rest, rfl, hwhole, rfl⟩ := exists_whole h
  have hsplit := List.takeWhile_append_dropWhile (p := (· ≠ '\n')) (l := rest)
  rw [← hsplit]
  exact ⟨whole, _, .intro hwhole (not_mem_takeWhile rest) (dropWhile_eq_nil_or_head? rest)⟩

theorem stripReturn_isPrefix (line : List Char) : stripReturn line <+: line := by
  unfold stripReturn
  split
  · exact List.dropLast_prefix line
  · exact List.prefix_refl line

theorem LineAt.exists_append {text whole content : List Char} {n : Nat}
    (h : LineAt text n whole content) : ∃ more, text = whole ++ (content ++ more) := by
  cases h with
  | @intro whole raw rest hwhole hraw hrest =>
    obtain ⟨ending, hending⟩ := stripReturn_isPrefix raw
    refine ⟨ending ++ rest, ?_⟩
    rw [← List.append_assoc (stripReturn raw), hending]

theorem LineAt.byteSize_le {text whole content : List Char} {n : Nat}
    (h : LineAt text n whole content) : byteSize whole + byteSize content ≤ byteSize text := by
  obtain ⟨more, rfl⟩ := h.exists_append
  rw [byteSize_append, byteSize_append, ← Nat.add_assoc]
  exact Nat.le_add_right _ _

theorem LineAt.le_of_lt {text whole content otherWhole otherContent : List Char} {m n : Nat}
    (h : LineAt text m whole content) (hother : LineAt text n otherWhole otherContent)
    (hlt : m < n) : byteSize whole + byteSize content ≤ byteSize otherWhole := by
  obtain ⟨otherRaw, otherRest, htext, hcount⟩ :
      ∃ raw rest, text = otherWhole ++ (raw ++ rest) ∧ otherWhole.count '\n' = n := by
    cases hother with
    | @intro whole raw rest => exact ⟨raw, rest, rfl, rfl⟩
  cases h with
  | @intro whole raw rest hwhole hraw hrest =>
    have hstart : whole ++ raw <+: otherWhole ++ (otherRaw ++ otherRest) := by
      rw [← htext, ← List.append_assoc]
      exact List.prefix_append _ _
    have hfeeds : (whole ++ raw).count '\n' = whole.count '\n' := by
      rw [List.count_append, List.count_eq_zero.2 hraw, Nat.add_zero]
    have hinside : whole ++ raw <+: otherWhole := by
      rcases Nat.le_total (whole ++ raw).length otherWhole.length with hle | hle
      · exact List.prefix_of_prefix_length_le hstart (List.prefix_append _ _) hle
      · have hback := List.prefix_of_prefix_length_le (List.prefix_append _ _) hstart hle
        have hfewer := hback.sublist.count_le '\n'
        omega
    have hcontent := byteSize_stripReturn_le raw
    have hsize := byteSize_le_of_isPrefix hinside
    rw [byteSize_append] at hsize
    omega

end Text

namespace Position

/-- A position on an earlier line, or on the same line and not at a later column. -/
def AtOrBefore (first second : Position) : Prop :=
  first.line < second.line ∨ (first.line = second.line ∧ first.character ≤ second.character)

theorem lineStart?_eq_none {n : Nat} {text : List Char} (h : text.count '\n' < n) :
    lineStart? n text = none := by
  fun_induction lineStart? n text with
  | case1 => cases h
  | case2 => rfl
  | case3 n c rest ih =>
    rw [ih, Option.map_none]
    split
    · next hc =>
      subst hc
      rw [List.count_cons_self] at h
      exact Nat.lt_of_succ_lt_succ h
    · next hc => rwa [List.count_cons_of_ne hc] at h

theorem charactersTo_le (column counted : UInt32) (line : List Char) :
    charactersTo column counted line ≤ line.length := by
  fun_induction charactersTo column counted line with
  | case1 => exact Nat.le_refl _
  | case2 => exact Nat.zero_le _
  | case3 counted c rest hlt ih => exact Nat.succ_le_succ ih

theorem lt_of_lt_charactersTo {column counted : UInt32} {line : List Char} {n : Nat}
    (hfits : counted.toNat + Text.unitCount line < 2 ^ 32)
    (h : n < charactersTo column counted line) :
    counted.toNat + Text.unitCount (line.take n) < column.toNat := by
  induction line generalizing counted n with
  | nil => cases h
  | cons c rest ih =>
    rw [charactersTo] at h
    split at h
    · cases h
    · next hbefore =>
      rw [UInt32.le_iff_toNat_le, Nat.not_le] at hbefore
      rw [Text.unitCount_cons] at hfits
      have hsum : counted.toNat + (Text.units c).toNat < 2 ^ 32 := by omega
      have hnext := Text.toNat_add_units hsum
      cases n with
      | zero => exact hbefore
      | succ n =>
        have hrest := ih (by omega) (Nat.lt_of_succ_lt_succ h)
        rw [List.take_succ_cons, Text.unitCount_cons]
        omega

theorem le_of_charactersTo_lt {column counted : UInt32} {line : List Char}
    (hfits : counted.toNat + Text.unitCount line < 2 ^ 32)
    (h : charactersTo column counted line < line.length) :
    column.toNat ≤
      counted.toNat + Text.unitCount (line.take (charactersTo column counted line)) := by
  induction line generalizing counted with
  | nil => cases h
  | cons c rest ih =>
    rw [charactersTo] at h ⊢
    split at h
    · next hreached =>
      rw [if_pos hreached]
      exact UInt32.le_iff_toNat_le.1 hreached
    · next hbefore =>
      rw [Text.unitCount_cons] at hfits
      have hsum : counted.toNat + (Text.units c).toNat < 2 ^ 32 := by omega
      have hnext := Text.toNat_add_units hsum
      have hrest := ih (by omega) (Nat.lt_of_succ_lt_succ h)
      rw [if_neg hbefore, List.take_succ_cons, Text.unitCount_cons]
      omega

theorem isPlaceOf_charactersTo {content : List Char} (column : UInt32)
    (hfits : Text.unitCount content < 2 ^ 32) :
    Text.IsPlaceOf content column.toNat
      (Text.byteSize (content.take (charactersTo column 0 content))) := by
  have hzero : (0 : UInt32).toNat + Text.unitCount content < 2 ^ 32 := by
    rwa [UInt32.toNat_zero, Nat.zero_add]
  have hle := charactersTo_le column 0 content
  have hbefore {front : List Char} (hfront : front <+: content)
      (hreaches : column.toNat ≤ Text.unitCount front) :
      charactersTo column 0 content ≤ front.length := by
    by_contra hlt
    have hshort := lt_of_lt_charactersTo hzero (Nat.not_le.1 hlt)
    rw [← List.prefix_iff_eq_take.1 hfront, UInt32.toNat_zero] at hshort
    omega
  by_cases hreached : column.toNat ≤
      Text.unitCount (content.take (charactersTo column 0 content))
  · refine .inl ⟨⟨_, List.take_prefix _ _, hreached, rfl⟩, ?_⟩
    rintro size ⟨front, hfront, hreaches, rfl⟩
    rw [List.prefix_iff_eq_take.1 hfront]
    exact Text.monotone_byteSize_take content (hbefore hfront hreaches)
  · have hlength : charactersTo column 0 content = content.length := by
      by_contra hne
      have hstop := le_of_charactersTo_lt hzero (Nat.lt_of_le_of_ne hle hne)
      rw [UInt32.toNat_zero, Nat.zero_add] at hstop
      exact hreached hstop
    rw [hlength, List.take_length] at hreached ⊢
    refine .inr ⟨Set.eq_empty_iff_forall_notMem.2 ?_, rfl⟩
    rintro size ⟨front, hfront, hreaches, rfl⟩
    have hall := hbefore hfront hreaches
    rw [hlength] at hall
    rw [hfront.eq_of_length_le hall] at hreaches
    exact hreached hreaches

theorem index_of_lineAt {position : Position} {text whole content : List Char}
    (h : Text.LineAt text position.line.toNat whole content) :
    position.index text = whole.length + charactersTo position.character 0 content := by
  generalize hnumber : position.line.toNat = n at h
  cases h with
  | @intro whole raw rest hwhole hraw hrest =>
    have hcontent : lineContent (raw ++ rest) = Text.stripReturn raw := by
      have hall : ∀ c ∈ raw, decide (c ≠ '\n') = true := by
        intro c hmem
        rw [decide_eq_true_iff]
        rintro rfl
        exact hraw hmem
      rw [lineContent, List.takeWhile_append_of_pos hall, takeWhile_eq_nil_iff.2 hrest,
        List.append_nil]
    simp only [index, hnumber, lineStart?_append hwhole, List.drop_left, hcontent]

theorem offset_of_count_lt {position : Position} {text : String}
    (h : text.toList.count '\n' < position.line.toNat) :
    position.offset text = Text.byteSize text.toList := by
  simp only [offset, index, lineStart?_eq_none h, List.take_length]

theorem exists_offset_of_lineAt {position : Position} {text : String} {whole content : List Char}
    (hsize : Text.byteSize text.toList < 2 ^ 32)
    (h : Text.LineAt text.toList position.line.toNat whole content) :
    ∃ size, Text.IsPlaceOf content position.character.toNat size ∧
      position.offset text = Text.byteSize whole + size := by
  have hunits := Text.unitCount_le_byteSize content
  have hle := h.byteSize_le
  refine ⟨_, isPlaceOf_charactersTo position.character (by omega), ?_⟩
  obtain ⟨more, htext⟩ := h.exists_append
  rw [offset, index_of_lineAt h, htext, List.take_length_add_append, Text.byteSize_append,
    List.take_append_of_le_length (charactersTo_le _ _ _)]

theorem offset_le_byteSize (position : Position) (text : String) :
    position.offset text ≤ Text.byteSize text.toList :=
  Text.byteSize_le_of_isPrefix (List.take_prefix _ _)

theorem AtOrBefore.offset_le {first second : Position} (h : first.AtOrBefore second)
    {text : String} (hsize : Text.byteSize text.toList < 2 ^ 32) :
    first.offset text ≤ second.offset text := by
  have hline : first.line.toNat ≤ second.line.toNat := by
    rcases h with hlt | ⟨heq, -⟩
    · exact Nat.le_of_lt (UInt32.lt_iff_toNat_lt.1 hlt)
    · rw [heq]
  by_cases hcount : text.toList.count '\n' < second.line.toNat
  · rw [offset_of_count_lt hcount]
    exact first.offset_le_byteSize text
  -- Both lines are in the text: the places are on one line, or a whole line lies between them.
  obtain ⟨whole, content, hfirst⟩ := Text.exists_lineAt (Nat.le_trans hline (Nat.not_lt.1 hcount))
  obtain ⟨size, hplace, hoffset⟩ := exists_offset_of_lineAt hsize hfirst
  rw [hoffset]
  rcases h with hlt | ⟨heq, hcharacter⟩
  · obtain ⟨otherWhole, otherContent, hsecond⟩ := Text.exists_lineAt (Nat.not_lt.1 hcount)
    obtain ⟨otherSize, -, hother⟩ := exists_offset_of_lineAt hsize hsecond
    have hbefore := hfirst.le_of_lt hsecond (UInt32.lt_iff_toNat_lt.1 hlt)
    have hinside := hplace.le_byteSize
    omega
  · rw [heq] at hfirst
    obtain ⟨otherSize, hotherPlace, hother⟩ := exists_offset_of_lineAt hsize hfirst
    rw [hother]
    exact Nat.add_le_add_left (hplace.le (UInt32.le_iff_toNat_le.1 hcharacter) hotherPlace) _

theorem exists_pos_offset (position : Position) (text : String) :
    ∃ place : text.Pos, place.offset.byteIdx = position.offset text := by
  have hsplit := (List.take_append_drop (position.index text.toList) text.toList).symm
  obtain ⟨place, hplace, -⟩ := Text.exists_pos hsplit
  exact ⟨place, hplace⟩

end Position

namespace Change

theorem exists_apply_range (start stop : Position) (new text : String) :
    ∃ first last : text.Pos, first.offset.byteIdx = start.offset text ∧
      last.offset.byteIdx = max (start.offset text) (stop.offset text) ∧ first ≤ last ∧
      Change.apply ⟨some (start, stop), new⟩ text =
        String.extract text.startPos first ++ new ++ String.extract last text.endPos := by
  have hsplit (n : Nat) : text.toList = text.toList.take n ++ text.toList.drop n :=
    (List.take_append_drop n text.toList).symm
  obtain ⟨first, hfirst, hbefore, -⟩ := Text.exists_pos (hsplit (start.index text.toList))
  obtain ⟨last, hlast, -, hafter⟩ := Text.exists_pos
    (hsplit (max (start.index text.toList) (stop.index text.toList)))
  have hmax : Text.byteSize
      (text.toList.take (max (start.index text.toList) (stop.index text.toList))) =
        max (start.offset text) (stop.offset text) :=
    (Text.monotone_byteSize_take text.toList).map_max
  refine ⟨first, last, hfirst, hlast.trans hmax, ?_, ?_⟩
  · rw [String.Pos.le_iff, String.Pos.Raw.le_iff, hfirst, hlast]
    exact Text.monotone_byteSize_take text.toList (Nat.le_max_left _ _)
  · rw [hbefore, hafter]
    simp only [apply, applyChars, String.ofList_append, String.ofList_toList]

end Change

namespace Position

/-- Every position leads to the end of the text if its line is beyond the last, and else to the
first place of its line at which its column is reached, or to the end of the line. Later positions
lead to later places, all of them between characters, and a change of any range replaces what
stands between the places of its ends, or nothing if they are reversed. -/
theorem offset_clamps {text : String} (hsize : Text.byteSize text.toList < 2 ^ 32) :
    (∀ position : Position,
      (text.toList.count '\n' < position.line.toNat →
        position.offset text = Text.byteSize text.toList) ∧
      (position.line.toNat ≤ text.toList.count '\n' →
        ∃ whole content size,
          Text.LineAt text.toList position.line.toNat whole content ∧
          Text.IsPlaceOf content position.character.toNat size ∧
          position.offset text = Text.byteSize whole + size) ∧
      position.offset text ≤ Text.byteSize text.toList ∧
      ∃ place : text.Pos, place.offset.byteIdx = position.offset text) ∧
    (∀ first second : Position, first.AtOrBefore second →
      first.offset text ≤ second.offset text) ∧
    ∀ (start stop : Position) (new : String), ∃ first last : text.Pos,
      first.offset.byteIdx = start.offset text ∧
      last.offset.byteIdx = max (start.offset text) (stop.offset text) ∧ first ≤ last ∧
      Change.apply ⟨some (start, stop), new⟩ text =
        String.extract text.startPos first ++ new ++ String.extract last text.endPos := by
  refine ⟨?_, ?_, ?_⟩
  · intro position
    refine ⟨offset_of_count_lt, ?_, position.offset_le_byteSize text,
      position.exists_pos_offset text⟩
    intro hcount
    obtain ⟨whole, content, hline⟩ := Text.exists_lineAt hcount
    obtain ⟨size, hplace, hoffset⟩ := exists_offset_of_lineAt hsize hline
    exact ⟨whole, content, size, hline, hplace, hoffset⟩
  · intro first second hle
    exact hle.offset_le hsize
  · intro start stop new
    exact Change.exists_apply_range start stop new text

/-- A position inside a character on a line that a return ends, one beyond the end of that line
and one beyond the last line, and a change of a range that ends before it starts. -/
theorem offset_clamps_inside_character :
    Text.byteSize "a😀\r\nb".toList < 2 ^ 32 ∧
      (∃ whole content size, Text.LineAt "a😀\r\nb".toList 0 whole content ∧
        Text.IsPlaceOf content 2 size ∧ 5 = Text.byteSize whole + size) ∧
      (⟨0, 9⟩ : Position).offset "a😀\r\nb" ≤ (⟨7, 0⟩ : Position).offset "a😀\r\nb" ∧
      ∃ first last : "a😀\r\nb".Pos, first.offset.byteIdx = 8 ∧ last.offset.byteIdx = max 8 5 ∧
        first ≤ last ∧
        "a😀\r\nbx" = String.extract "a😀\r\nb".startPos first ++ "x" ++
          String.extract last "a😀\r\nb".endPos := by
  have hsize : Text.byteSize "a😀\r\nb".toList < 2 ^ 32 := by decide
  have hinside : (⟨0, 2⟩ : Position).offset "a😀\r\nb" = 5 := by decide
  have hbeyond : (⟨7, 0⟩ : Position).offset "a😀\r\nb" = 8 := by decide
  have hchanged : Change.apply ⟨some (⟨7, 0⟩, ⟨0, 2⟩), "x"⟩ "a😀\r\nb" = "a😀\r\nbx" := by
    decide
  obtain ⟨hplaces, hordered, hchanges⟩ := offset_clamps hsize
  refine ⟨hsize, ?_, hordered _ _ (.inl (by decide)), ?_⟩
  · rw [← hinside]
    exact (hplaces ⟨0, 2⟩).2.1 (by decide)
  · rw [← hbeyond, ← hinside, ← hchanged]
    exact hchanges ⟨7, 0⟩ ⟨0, 2⟩ "x"

end Position

end CirHighlight
