import Mathlib.Data.List.Basic
import CirHighlight.Proofs.Lexer.Tiling
import CirHighlight.Proofs.Text.Bytes
import CirHighlight.Proofs.Text.Position

namespace CirHighlight

namespace Text

/-- A line stands in its text between whole lines and the end of the line, which takes the return
before a line feed along. -/
theorem IsLine.exists_append {text line : List Char} {n : Nat} (h : IsLine text n line) :
    ∃ whole rest, text = whole ++ (line ++ rest) ∧ EndsLine whole ∧ whole.count '\n' = n ∧
      '\n' ∉ line ∧ (rest.head? = some '\n' → line.getLast? ≠ some '\r') := by
  cases h with
  | @ended whole raw after hwhole hraw =>
    unfold stripReturn
    split
    · next hreturn =>
      obtain ⟨line, rfl⟩ := List.getLast?_eq_some_iff.1 hreturn
      refine ⟨whole, '\r' :: '\n' :: after, by simp, hwhole, rfl, ?_, by simp⟩
      rw [List.dropLast_concat]
      exact fun hmem => hraw (List.mem_append_left _ hmem)
    · next hreturn => exact ⟨whole, '\n' :: after, rfl, hwhole, rfl, hraw, fun _ => hreturn⟩
  | @last whole raw hwhole hraw hne =>
    exact ⟨whole, [], by rw [List.append_nil], hwhole, rfl, hraw, by simp⟩

end Text

namespace Position

theorem lastLine_append_of_not_mem (before : List Char) {after : List Char} (h : '\n' ∉ after) :
    lastLine (before ++ after) = lastLine before ++ after := by
  have hall : ∀ c ∈ after.reverse, decide (c ≠ '\n') = true := by
    intro c hmem
    rw [decide_eq_true_iff]
    rintro rfl
    exact h (List.mem_reverse.1 hmem)
  rw [lastLine, List.reverse_append, List.takeWhile_append_of_pos hall, List.reverse_append,
    List.reverse_reverse, lastLine]

theorem lastLine_of_endsLine {whole : List Char} (h : Text.EndsLine whole) :
    lastLine whole = [] := by
  have hnone : whole.reverse.takeWhile (· ≠ '\n') = [] := by
    rw [takeWhile_eq_nil_iff, List.reverse_eq_nil_iff, List.head?_reverse]
    exact h
  rw [lastLine, hnone, List.reverse_nil]

theorem atEnd_append {whole last : List Char} (hwhole : Text.EndsLine whole)
    (hlast : '\n' ∉ last) {line column : UInt32} (hline : line.toNat = whole.count '\n')
    (hcolumn : column.toNat = Text.unitCount last) :
    atEnd (whole ++ last) = ⟨line, column⟩ := by
  rw [atEnd, lastLine_append_of_not_mem whole hlast, lastLine_of_endsLine hwhole, List.nil_append,
    List.count_append, List.count_eq_zero.2 hlast, Nat.add_zero, ← hline, ← hcolumn,
    UInt32.ofNat_toNat, UInt32.ofNat_toNat]

theorem ofNat_inj_of_lt {m n : Nat} (hm : m < 2 ^ 32) (hn : n < 2 ^ 32)
    (h : UInt32.ofNat m = UInt32.ofNat n) : m = n := by
  have hnat := congrArg UInt32.toNat h
  rwa [UInt32.toNat_ofNat_of_lt' hm, UInt32.toNat_ofNat_of_lt' hn] at hnat

theorem eq_nil_of_atEnd_append {before after : List Char}
    (hsize : Text.byteSize (before ++ after) < 2 ^ 32)
    (h : atEnd (before ++ after) = atEnd before) :
    after = [] := by
  have hunits := Text.unitCount_le_byteSize (before ++ after)
  have hcount := Text.count_le_byteSize '\n' (before ++ after)
  rw [Text.unitCount_append] at hunits
  rw [List.count_append] at hcount
  have hline := congrArg Position.line h
  simp only [atEnd, List.count_append] at hline
  have hsame := ofNat_inj_of_lt (by omega) (by omega) hline
  have hafter : '\n' ∉ after := List.count_eq_zero.1 (by omega)
  obtain ⟨whole, hbefore, -, -, -⟩ := exists_lastLine before
  have hfront := congrArg Text.unitCount hbefore
  rw [Text.unitCount_append] at hfront
  have hcolumn := congrArg Position.character h
  simp only [atEnd, lastLine_append_of_not_mem before hafter, Text.unitCount_append] at hcolumn
  have hzero := ofNat_inj_of_lt (by omega) (by omega) hcolumn
  by_contra hne
  have hpos := Text.unitCount_pos hne
  omega

section Extract

variable {text : String} {before middle after : List Char}
  (htext : text.toList = before ++ (middle ++ after))
  (hsize : Text.byteSize text.toList < 2 ^ 32)
  (hfirst : ¬ AfterReturn before (middle ++ after))
include htext hsize hfirst

theorem extract_offset_atEnd (hlast : ¬ AfterReturn (before ++ middle) after) :
    text.toUTF8.extract ((atEnd before).offset text) ((atEnd (before ++ middle)).offset text) =
      (String.ofList middle).toUTF8 := by
  have hparts : text.toList = before ++ middle ++ after := by rw [htext, List.append_assoc]
  rw [offset_atEnd htext hsize hfirst, offset_atEnd hparts hsize hlast, Text.byteSize_append]
  exact Text.extract_toUTF8 htext

theorem extract_offset_atEnd_afterReturn (hne : middle ≠ [])
    (hlast : AfterReturn (before ++ middle) after) :
    ∃ chars, middle = chars ++ ['\r'] ∧
      text.toUTF8.extract ((atEnd before).offset text) ((atEnd (before ++ middle)).offset text) =
        (String.ofList chars).toUTF8 := by
  have hparts : text.toList = before ++ middle ++ after := by rw [htext, List.append_assoc]
  have hreturn := hlast.1
  rw [List.getLast?_append_of_ne_nil _ hne] at hreturn
  obtain ⟨chars, rfl⟩ := List.getLast?_eq_some_iff.1 hreturn
  have hbytes : Text.byteSize (before ++ (chars ++ ['\r'])) - 1 =
      Text.byteSize before + Text.byteSize chars := by
    rw [Text.byteSize_append, Text.byteSize_append]
    rfl
  refine ⟨chars, rfl, ?_⟩
  rw [offset_atEnd htext hsize hfirst, offset_atEnd_afterReturn hparts hsize hlast, hbytes]
  rw [List.append_assoc] at htext
  exact Text.extract_toUTF8 htext

end Extract

end Position

namespace Token

def start (token : Token) : Position := ⟨token.line, token.column⟩

def stop (token : Token) : Position := ⟨token.line, token.endColumn⟩

def ReachesEnd (token : Token) (text : String) : Prop :=
  token.stop = Position.atEnd text.toList

instance (token : Token) (text : String) : Decidable (token.ReachesEnd text) :=
  inferInstanceAs (Decidable (_ = _))

end Token

namespace Lexer

section Document

variable {lexer : Lexer} {text : String} (hsize : Text.byteSize text.toList < 2 ^ 32)
include hsize

/-- A token stands in the document between its positions, and neither of them is directly after a
return at the end of a line, unless that is the end of the document. -/
theorem exists_append_of_mem_lex {token : Token} (hmem : token ∈ lexer.lex text) :
    ∃ before after, text.toList = before ++ (token.text.toList ++ after) ∧
      Position.atEnd before = token.start ∧
      Position.atEnd (before ++ token.text.toList) = token.stop ∧
      ¬ Position.AfterReturn before (token.text.toList ++ after) ∧
      (Position.AfterReturn (before ++ token.text.toList) after → after = []) := by
  obtain ⟨line, hline, htoken⟩ := exists_isLine_of_mem_lex hsize hmem
  have hne := text_ne_nil_of_mem_lex hsize hmem
  have htiled := tiled_lexLine (unitCount_lt_of_isLine hsize hline) lexer token.line
  obtain ⟨front, back, hsplit, hcolumn⟩ := htiled.exists_append htoken
  obtain ⟨whole, rest, htext, hwhole, hcount, hfeed, hreturn⟩ := hline.exists_append
  rw [Nat.zero_add] at hcolumn
  rw [hsplit] at htext hfeed hreturn
  simp only [List.mem_append, not_or] at hfeed
  obtain ⟨hfront, hchars, hback⟩ := hfeed
  have hend : token.endColumn.toNat = Text.unitCount (front ++ token.text.toList) := by
    rw [Text.unitCount_append, ← hcolumn]
    exact Text.toNat_add_width (endColumn_lt_of_mem_lex hsize hmem)
  have hplace : text.toList = whole ++ front ++ (token.text.toList ++ (back ++ rest)) := by
    rw [htext]
    simp only [List.append_assoc]
  refine ⟨whole ++ front, back ++ rest, hplace, ?_, ?_, ?_, ?_⟩
  · exact Position.atEnd_append hwhole hfront hcount.symm hcolumn
  · rw [List.append_assoc]
    refine Position.atEnd_append hwhole ?_ hcount.symm hend
    rw [List.mem_append]
    exact fun h => h.elim hfront hchars
  · rintro ⟨-, hnil | hhead⟩
    · exact hne (List.append_eq_nil_iff.1 hnil).1
    · rw [List.head?_append_of_ne_nil _ hne] at hhead
      exact hchars (List.mem_of_head? hhead)
  · rintro ⟨hlast, hnil | hhead⟩
    · exact hnil
    · cases back with
      | cons c back => exact (hback (List.mem_of_head? hhead)).elim
      | nil =>
        -- A line that a line feed ends directly does not end with a return.
        refine (hreturn hhead ?_).elim
        rw [List.getLast?_append_of_ne_nil _ hne] at hlast
        rwa [List.append_nil, List.getLast?_append_of_ne_nil _ hne]

/-- The offsets of the two positions of a token cut its text out of the document. Where the
document ends with a return and the token reaches the end, they leave that return out. -/
theorem lex_offsets_cut_text {token : Token} (hmem : token ∈ lexer.lex text) :
    (¬ (text.toList.getLast? = some '\r' ∧ token.ReachesEnd text) →
      text.toUTF8.extract (token.start.offset text) (token.stop.offset text) =
        token.text.toUTF8) ∧
    (text.toList.getLast? = some '\r' ∧ token.ReachesEnd text →
      ∃ chars, token.text.toList = chars ++ ['\r'] ∧
        text.toUTF8.extract (token.start.offset text) (token.stop.offset text) =
          (String.ofList chars).toUTF8) := by
  obtain ⟨before, after, htext, hstart, hstop, hfirst, hlast⟩ :=
    exists_append_of_mem_lex hsize hmem
  have hne := text_ne_nil_of_mem_lex hsize hmem
  have hparts : text.toList = before ++ token.text.toList ++ after := by
    rw [htext, List.append_assoc]
  have hiff : Position.AfterReturn (before ++ token.text.toList) after ↔
      text.toList.getLast? = some '\r' ∧ token.ReachesEnd text := by
    rw [Token.ReachesEnd, ← hstop, hparts]
    rw [hparts] at hsize
    constructor
    · intro h
      rw [hlast h, List.append_nil]
      exact ⟨h.1, rfl⟩
    · rintro ⟨hreturn, hreach⟩
      rw [Position.eq_nil_of_atEnd_append hsize hreach.symm, List.append_nil] at hreturn
      exact ⟨hreturn, .inl (Position.eq_nil_of_atEnd_append hsize hreach.symm)⟩
  rw [← hiff, ← hstart, ← hstop]
  constructor
  · intro hplain
    rw [Position.extract_offset_atEnd htext hsize hfirst hplain, String.ofList_toList]
  · intro hreturn
    exact Position.extract_offset_atEnd_afterReturn htext hsize hfirst hne hreturn

end Document

/-- A literal that ends with the first of two returns before a line feed, and a comment that a
return follows at the end of the document. -/
theorem lex_offsets_cut_text_returns :
    Text.byteSize "\"😀\r\r\n%0 // c\r".toList < 2 ^ 32 ∧
      (⟨0, 0, "\"😀\r", some .string, .empty⟩ : Token) ∈
        ({} : Lexer).lex "\"😀\r\r\n%0 // c\r" ∧
      (⟨1, 3, "// c\r", some .comment, .empty⟩ : Token) ∈
        ({} : Lexer).lex "\"😀\r\r\n%0 // c\r" ∧
      "\"😀\r\r\n%0 // c\r".toUTF8.extract 0 6 = "\"😀\r".toUTF8 ∧
      ∃ chars, "// c\r".toList = chars ++ ['\r'] ∧
        "\"😀\r\r\n%0 // c\r".toUTF8.extract 11 15 = (String.ofList chars).toUTF8 := by
  have hsize : Text.byteSize "\"😀\r\r\n%0 // c\r".toList < 2 ^ 32 := by decide
  have hliteral : (⟨0, 0, "\"😀\r", some .string, .empty⟩ : Token) ∈
      ({} : Lexer).lex "\"😀\r\r\n%0 // c\r" := by decide +kernel
  have hcomment : (⟨1, 3, "// c\r", some .comment, .empty⟩ : Token) ∈
      ({} : Lexer).lex "\"😀\r\r\n%0 // c\r" := by decide +kernel
  exact ⟨hsize, hliteral, hcomment, (lex_offsets_cut_text hsize hliteral).1 (by decide),
    (lex_offsets_cut_text hsize hcomment).2 (by decide)⟩

end Lexer

end CirHighlight
