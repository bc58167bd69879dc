import CirHighlight.Proofs.Highlighter.Stream
import CirHighlight.Proofs.TokenStream.Confined

namespace CirHighlight

namespace Text

theorem exists_lines_append {line back : List Char} (hline : '\n' ∉ line)
    (hback : back = [] ∨ back.head? = some '\n') :
    ∃ edited, edited.length ≤ 1 ∧ (back ≠ [] → edited.length = 1) ∧
      lines (line ++ back) = edited ++ lines back.tail := by
  rcases hback with rfl | hback
  · rw [List.append_nil]
    by_cases hne : line = []
    · subst hne
      exact ⟨[], Nat.zero_le 1, fun h => (h rfl).elim, rfl⟩
    · exact ⟨[line], Nat.le_refl 1, fun _ => rfl, linesFrom_last hline [] hne⟩
  · obtain ⟨rest, rfl⟩ := List.head?_eq_some_iff.1 hback
    exact ⟨[stripReturn line], Nat.le_refl 1, fun _ => rfl, linesFrom_of_not_mem hline [] rest⟩

end Text

namespace Lexer

theorem lexLines_append (lexer : Lexer) (number : UInt32) (first second : List (List Char)) :
    lexer.lexLines number (first ++ second) =
      lexer.lexLines number first ++
        lexer.lexLines (number + UInt32.ofNat first.length) second := by
  induction first generalizing number with
  | nil => simp [lexLines]
  | cons line first ih =>
    have hnext : number + 1 + UInt32.ofNat first.length =
        number + UInt32.ofNat (line :: first).length := by
      rw [List.length_cons, UInt32.ofNat_add, UInt32.add_assoc, UInt32.add_comm 1]
      rfl
    rw [List.cons_append, lexLines, ih, hnext, lexLines, List.append_assoc]

/-- The number of the line that follows whole lines. -/
def lineNumber (front : String) : UInt32 :=
  UInt32.ofNat (front.toList.count '\n')

/-- The tokens of the lines that follow an edited line. -/
def later (lexer : Lexer) (front back : String) : List Token :=
  lexer.lexLines (lineNumber front + 1) (Text.lines back.toList.tail)

section Edited

variable {front line back : String}

/-- A document has the tokens of the lines before a line, those of the line, which carry its
number, and those of the lines after it. -/
theorem exists_lex_append (lexer : Lexer) (hfront : Text.EndsLine front.toList)
    (hline : '\n' ∉ line.toList) (hback : back.toList = [] ∨ back.toList.head? = some '\n') :
    ∃ middle, lexer.lex (front ++ line ++ back) =
        lexer.lex front ++ (middle ++ lexer.later front back) ∧
      ∀ token ∈ middle, token.line = lineNumber front := by
  obtain ⟨edited, hle, hone, hlines⟩ := Text.exists_lines_append hline hback
  refine ⟨lexer.lexLines (lineNumber front) edited, ?_, ?_⟩
  · have hnumber : (0 : UInt32) + UInt32.ofNat (Text.lines front.toList).length =
        lineNumber front := by
      rw [Text.length_lines_of_endsLine hfront, UInt32.zero_add, lineNumber]
    rw [lex, String.toList_append, String.toList_append, List.append_assoc,
      Text.lines_append hfront, hlines, lexLines_append, lexLines_append, hnumber, ← lex]
    by_cases hnil : back.toList = []
    · rw [later, hnil]
      rfl
    · rw [hone hnil]
      rfl
  · intro token hmem
    match edited, hle with
    | [], _ => cases hmem
    | [line], _ =>
      rw [lexLines, lexLines, List.append_nil] at hmem
      exact line_of_mem_lexLine hmem

section Document

variable (hsize : Text.byteSize (front ++ line ++ back).toList < 2 ^ 32)
include hsize

theorem byteSize_parts_lt :
    Text.byteSize front.toList + Text.byteSize line.toList + Text.byteSize back.toList <
      2 ^ 32 := by
  rwa [String.toList_append, String.toList_append, Text.byteSize_append,
    Text.byteSize_append] at hsize

theorem toNat_lineNumber : (lineNumber front).toNat = front.toList.count '\n' := by
  have hparts := byteSize_parts_lt hsize
  have hcount := Text.count_le_byteSize '\n' front.toList
  exact UInt32.toNat_ofNat_of_lt' (by change _ < 2 ^ 32; omega)

theorem line_lt_of_mem_lex (hfront : Text.EndsLine front.toList) {lexer : Lexer} {token : Token}
    (hmem : token ∈ lexer.lex front) : token.line < lineNumber front := by
  have hparts := byteSize_parts_lt hsize
  obtain ⟨n, found, hfound, hnumber, -⟩ :=
    exists_line_of_mem_lexLines (length_lines_fits (by omega)) hmem
  obtain ⟨hlt, -⟩ := List.getElem?_eq_some_iff.1 hfound
  rw [Text.length_lines_of_endsLine hfront] at hlt
  rw [UInt32.lt_iff_toNat_lt, toNat_lineNumber hsize, hnumber, UInt32.toNat_zero]
  omega

theorem lt_line_of_mem_later (hback : back.toList = [] ∨ back.toList.head? = some '\n')
    {lexer : Lexer} {token : Token} (hmem : token ∈ lexer.later front back) :
    lineNumber front < token.line := by
  have hparts := byteSize_parts_lt hsize
  have hnumber := toNat_lineNumber hsize
  have hcount := Text.count_le_byteSize '\n' front.toList
  rcases hback with hnil | hback
  · rw [later, hnil] at hmem
    cases hmem
  · obtain ⟨rest, hrest⟩ := List.head?_eq_some_iff.1 hback
    have hlines := Text.length_lines_le rest
    have hfeed : ('\n').utf8Size = 1 := rfl
    rw [hrest, Text.byteSize_cons, hfeed] at hparts
    rw [later, hrest, List.tail_cons] at hmem
    have hfits : (lineNumber front).toNat + ([] :: Text.lines rest).length ≤ 2 ^ 32 := by
      rw [List.length_cons]
      omega
    rw [UInt32.lt_iff_toNat_lt]
    exact lt_line_of_mem_lexLines hfits hmem

end Document

end Edited

end Lexer

namespace Token

theorem exists_of_mem_entries {policy : Policy} {tokens : List Token} {entry : Entry}
    (h : entry ∈ tokens.filterMap (Token.entry? policy)) :
    ∃ token ∈ tokens, entry.line = token.line := by
  obtain ⟨token, hmem, hentry⟩ := List.mem_filterMap.1 h
  obtain ⟨category, -, rfl⟩ := Option.map_eq_some_iff.1 hentry
  exact ⟨token, hmem, rfl⟩

end Token

namespace TokenStream

def countOn (stream : TokenStream) (line : Nat) : Nat :=
  stream.decode.countP (·.line.toNat = line)

end TokenStream

namespace Highlighter

/-- The entries of the tokens of a document that are emitted. -/
def entries (highlighter : Highlighter) (text : String) : List Entry :=
  (highlighter.lexer.lex text).filterMap (Token.entry? highlighter.policy)

theorem ordered_entries (highlighter : Highlighter) {text : String}
    (hsize : Text.byteSize text.toList < 2 ^ 32) : Entry.Ordered (highlighter.entries text) :=
  Token.ordered_entries highlighter.policy (pairwise_follows_lex hsize highlighter.lexer)

theorem highlight_eq_ok (highlighter : Highlighter) {text : String}
    (hsize : Text.byteSize text.toList < 2 ^ 32) :
    highlighter.highlight text = .ok (TokenStream.ofEntries (highlighter.entries text)) := by
  have hordered := Token.disorder?_eq_none (pairwise_follows_lex hsize highlighter.lexer)
  rw [highlight, TokenStream.encode, hordered, entries]

section Edited

variable {front line back : String}

/-- The entries of the lines that follow an edited line. -/
def laterEntries (highlighter : Highlighter) (front back : String) : List Entry :=
  (highlighter.lexer.later front back).filterMap (Token.entry? highlighter.policy)

theorem line_ne_of_mem_laterEntries {highlighter : Highlighter}
    (hback : back.toList = [] ∨ back.toList.head? = some '\n')
    (hsize : Text.byteSize (front ++ line ++ back).toList < 2 ^ 32) {entry : Entry}
    (hmem : entry ∈ highlighter.laterEntries front back) :
    entry.line ≠ Lexer.lineNumber front := by
  obtain ⟨token, htoken, hentry⟩ := Token.exists_of_mem_entries hmem
  rw [hentry]
  exact (UInt32.ne_of_lt (Lexer.lt_line_of_mem_later hsize hback htoken)).symm

/-- The entries of a document are those of the lines before a line, those on it and those of the
lines after it, which do not depend on it. -/
theorem exists_entries_append (highlighter : Highlighter)
    (hfront : Text.EndsLine front.toList) (hline : '\n' ∉ line.toList)
    (hback : back.toList = [] ∨ back.toList.head? = some '\n') :
    ∃ middle, highlighter.entries (front ++ line ++ back) =
        highlighter.entries front ++ (middle ++ highlighter.laterEntries front back) ∧
      ∀ entry ∈ middle, entry.line = Lexer.lineNumber front := by
  obtain ⟨middle, hlex, hmiddle⟩ := Lexer.exists_lex_append highlighter.lexer hfront hline hback
  refine ⟨middle.filterMap (Token.entry? highlighter.policy), ?_, ?_⟩
  · rw [entries, hlex, List.filterMap_append, List.filterMap_append, entries, laterEntries]
  · intro entry hmem
    obtain ⟨token, htoken, hentry⟩ := Token.exists_of_mem_entries hmem
    rw [hentry, hmiddle token htoken]

theorem countOn_eq_length {highlighter : Highlighter} (hfront : Text.EndsLine front.toList)
    (hback : back.toList = [] ∨ back.toList.head? = some '\n')
    (hsize : Text.byteSize (front ++ line ++ back).toList < 2 ^ 32) {middle : List Entry}
    (hentries : highlighter.entries (front ++ line ++ back) =
      highlighter.entries front ++ (middle ++ highlighter.laterEntries front back))
    (hmiddle : ∀ entry ∈ middle, entry.line = Lexer.lineNumber front) :
    (TokenStream.ofEntries (highlighter.entries (front ++ line ++ back))).countOn
      (front.toList.count '\n') = middle.length := by
  have hiff (entry : Entry) : decide (entry.line.toNat = front.toList.count '\n') = true ↔
      entry.line = Lexer.lineNumber front := by
    rw [decide_eq_true_iff, ← Lexer.toNat_lineNumber hsize, UInt32.toNat_inj]
  have hbefore : (highlighter.entries front).countP
      (·.line.toNat = front.toList.count '\n') = 0 := by
    refine List.countP_eq_zero.2 fun entry hmem => ?_
    obtain ⟨token, htoken, hentry⟩ := Token.exists_of_mem_entries hmem
    rw [hiff, hentry]
    exact UInt32.ne_of_lt (Lexer.line_lt_of_mem_lex hsize hfront htoken)
  have hafter : (highlighter.laterEntries front back).countP
      (·.line.toNat = front.toList.count '\n') = 0 := by
    refine List.countP_eq_zero.2 fun entry hmem => ?_
    rw [hiff]
    exact line_ne_of_mem_laterEntries hback hsize hmem
  have hon : middle.countP (·.line.toNat = front.toList.count '\n') = middle.length :=
    List.countP_eq_length.2 fun entry hmem => (hiff entry).2 (hmiddle entry hmem)
  rw [TokenStream.countOn, TokenStream.decode_ofEntries (ordered_entries highlighter hsize),
    hentries, List.countP_append, List.countP_append, hbefore, hon, hafter, Nat.zero_add,
    Nat.add_zero]

end Edited

/-- A change of one line of a document changes its stream by one edit at most, which is confined
to the tokens of that line. -/
theorem line_change_confined (highlighter : Highlighter) {front old new back : String}
    (hfront : Text.EndsLine front.toList)
    (hback : back.toList = [] ∨ back.toList.head? = some '\n')
    (hold : '\n' ∉ old.toList) (hnew : '\n' ∉ new.toList)
    (hsizeOld : Text.byteSize (front ++ old ++ back).toList < 2 ^ 32)
    (hsizeNew : Text.byteSize (front ++ new ++ back).toList < 2 ^ 32) :
    ∃ whole before after, highlighter.highlight front = .ok whole ∧
      highlighter.highlight (front ++ old ++ back) = .ok before ∧
      highlighter.highlight (front ++ new ++ back) = .ok after ∧
      (Edit.diffTokens before.integers after.integers = [] ∨
        ∃ edit, Edit.diffTokens before.integers after.integers = [edit] ∧
          edit.Confined whole.length (before.countOn (front.toList.count '\n'))
            (after.countOn (front.toList.count '\n'))) := by
  have hsizeFront : Text.byteSize front.toList < 2 ^ 32 := by
    have hparts := Lexer.byteSize_parts_lt hsizeOld
    omega
  obtain ⟨oldEntries, hbefore, holdLine⟩ :=
    exists_entries_append highlighter hfront hold hback
  obtain ⟨newEntries, hafter, hnewLine⟩ :=
    exists_entries_append highlighter hfront hnew hback
  refine ⟨_, _, _, highlighter.highlight_eq_ok hsizeFront, highlighter.highlight_eq_ok hsizeOld,
    highlighter.highlight_eq_ok hsizeNew, ?_⟩
  rw [countOn_eq_length hfront hback hsizeOld hbefore holdLine,
    countOn_eq_length hfront hback hsizeNew hafter hnewLine]
  have horderedOld := ordered_entries highlighter hsizeOld
  have horderedNew := ordered_entries highlighter hsizeNew
  rw [hbefore] at horderedOld ⊢
  rw [hafter] at horderedNew ⊢
  have hlength : (TokenStream.ofEntries (highlighter.entries front)).length =
      (highlighter.entries front).length := TokenStream.length_ofEntriesFrom 0 0 _
  rw [hlength]
  refine TokenStream.diffTokens_confined horderedOld horderedNew holdLine hnewLine ?_
  intro entry hmem
  exact line_ne_of_mem_laterEntries hback hsizeOld hmem

/-- A line that gains its first token, between lines with equal tokens. -/
theorem line_change_confined_first_token :
    Text.EndsLine "%0\n".toList ∧ "\n%0\n".toList.head? = some '\n' ∧ '\n' ∉ "".toList ∧
      '\n' ∉ "%0".toList ∧ Text.byteSize ("%0\n" ++ "" ++ "\n%0\n").toList < 2 ^ 32 ∧
      Text.byteSize ("%0\n" ++ "%0" ++ "\n%0\n").toList < 2 ^ 32 ∧
      ∃ before after, ({} : Highlighter).highlight ("%0\n" ++ "" ++ "\n%0\n") = .ok before ∧
        ({} : Highlighter).highlight ("%0\n" ++ "%0" ++ "\n%0\n") = .ok after ∧
        before = [⟨0, 0, 2, 2, 0⟩, ⟨2, 0, 2, 2, 0⟩] ∧
        after = [⟨0, 0, 2, 2, 0⟩, ⟨1, 0, 2, 2, 0⟩, ⟨1, 0, 2, 2, 0⟩] ∧
        ∃ edit, Edit.diffTokens before.integers after.integers = [edit] ∧
          edit = ⟨5, 5, [1, 0, 2, 2, 0, 1, 0, 2, 2, 0]⟩ ∧ edit.Confined 1 0 1 := by
  have hfront : Text.EndsLine "%0\n".toList := .inr (by decide)
  have hback : "\n%0\n".toList.head? = some '\n' := by decide
  have hold : '\n' ∉ "".toList := by decide
  have hnew : '\n' ∉ "%0".toList := by decide
  have hsizeOld : Text.byteSize ("%0\n" ++ "" ++ "\n%0\n").toList < 2 ^ 32 := by decide
  have hsizeNew : Text.byteSize ("%0\n" ++ "%0" ++ "\n%0\n").toList < 2 ^ 32 := by decide
  refine ⟨hfront, hback, hold, hnew, hsizeOld, hsizeNew, ?_⟩
  have hfound : ({} : Highlighter).highlight "%0\n" = .ok [⟨0, 0, 2, 2, 0⟩] := by decide +kernel
  have hfoundOld : ({} : Highlighter).highlight ("%0\n" ++ "" ++ "\n%0\n") =
      .ok [⟨0, 0, 2, 2, 0⟩, ⟨2, 0, 2, 2, 0⟩] := by decide +kernel
  have hfoundNew : ({} : Highlighter).highlight ("%0\n" ++ "%0" ++ "\n%0\n") =
      .ok [⟨0, 0, 2, 2, 0⟩, ⟨1, 0, 2, 2, 0⟩, ⟨1, 0, 2, 2, 0⟩] := by decide +kernel
  obtain ⟨whole, before, after, hwhole, hbefore, hafter, hedits⟩ :=
    line_change_confined {} hfront (.inr hback) hold hnew hsizeOld hsizeNew
  cases hfound.symm.trans hwhole
  cases hfoundOld.symm.trans hbefore
  cases hfoundNew.symm.trans hafter
  refine ⟨_, _, hbefore, hafter, rfl, rfl, ?_⟩
  rcases hedits with hnone | ⟨edit, hedit, hconfined⟩
  · exact absurd hnone (by decide)
  · have hdiff : Edit.diffTokens [0, 0, 2, 2, 0, 2, 0, 2, 2, 0]
        [0, 0, 2, 2, 0, 1, 0, 2, 2, 0, 1, 0, 2, 2, 0] =
          [⟨5, 5, [1, 0, 2, 2, 0, 1, 0, 2, 2, 0]⟩] := by decide
    exact ⟨edit, hedit, List.singleton_inj.1 (hedit.symm.trans hdiff), hconfined⟩

end Highlighter

end CirHighlight
