import CirHighlight.Proofs.Highlighter.LineEdit

namespace CirHighlight

def Entry.down (lines : Nat) (entry : Entry) : Entry :=
  { entry with line := entry.line + UInt32.ofNat lines }

namespace Token

def down (lines : Nat) (token : Token) : Token :=
  { token with line := token.line + UInt32.ofNat lines }

theorem toNat_line_down {line : UInt32} {lines : Nat} (h : line.toNat + lines < 2 ^ 32) :
    (line + UInt32.ofNat lines).toNat = line.toNat + lines := by
  have hlines : (UInt32.ofNat lines).toNat = lines :=
    UInt32.toNat_ofNat_of_lt' (by change lines < 2 ^ 32; omega)
  rw [UInt32.toNat_add, hlines, Nat.mod_eq_of_lt h]

theorem entry?_down (policy : Policy) (lines : Nat) (token : Token) :
    Token.entry? policy (token.down lines) = (Token.entry? policy token).map (Entry.down lines) := by
  rw [Token.entry?, Token.entry?, Option.map_map]
  rfl

end Token

namespace Lexeme

theorem tokens_down (lines : Nat) (line column : UInt32) (piece : Lexeme) :
    piece.tokens (line + UInt32.ofNat lines) column =
      (piece.tokens line column).map (Token.down lines) := by
  cases piece <;> rfl

theorem place_down (lines : Nat) (line column : UInt32) (pieces : List Lexeme) :
    place (line + UInt32.ofNat lines) column pieces =
      (place line column pieces).map (Token.down lines) := by
  induction pieces generalizing column with
  | nil => rfl
  | cons piece rest ih => rw [place, place, List.map_append, tokens_down, ih]

end Lexeme

namespace Lexer

theorem lexLine_down (lexer : Lexer) (lines : Nat) (number : UInt32) (line : List Char) :
    lexer.lexLine (number + UInt32.ofNat lines) line =
      (lexer.lexLine number line).map (Token.down lines) := by
  have hcomment : commentTokens lexer.comments (number + UInt32.ofNat lines) line =
      (commentTokens lexer.comments number line).map (Token.down lines) := by
    unfold commentTokens
    split
    · rw [List.map_map]
      rfl
    · rfl
  rw [lexLine_eq_append, lexLine_eq_append, List.map_append, hcomment, Lexeme.scanLine,
    Lexeme.place_down, Lexeme.scanLine]

theorem lexLines_down (lexer : Lexer) (lines : Nat) (number : UInt32) (texts : List (List Char)) :
    lexer.lexLines (number + UInt32.ofNat lines) texts =
      (lexer.lexLines number texts).map (Token.down lines) := by
  induction texts generalizing number with
  | nil => rfl
  | cons line rest ih =>
    have hnext : number + UInt32.ofNat lines + 1 = number + 1 + UInt32.ofNat lines := by
      rw [UInt32.add_assoc, UInt32.add_comm (UInt32.ofNat lines), ← UInt32.add_assoc]
    rw [lexLines, lexLines, List.map_append, lexLine_down, hnext, ih]

theorem lex_append (lexer : Lexer) {first : String} (hfirst : Text.EndsLine first.toList)
    (second : String) :
    lexer.lex (first ++ second) =
      lexer.lex first ++ (lexer.lex second).map (Token.down (first.toList.count '\n')) := by
  rw [lex, String.toList_append, Text.lines_append hfirst, lexLines_append,
    Text.length_lines_of_endsLine hfirst, lexLines_down]
  rfl

end Lexer

namespace TokenStream

/-- The stream with its first token further from what stands before it, by the lines from the line
`last` to the line `lines`. -/
def moveFirst (lines last : Nat) : TokenStream → TokenStream
  | [] => []
  | token :: rest =>
    { token with deltaLine := UInt32.ofNat (lines + token.deltaLine.toNat - last) } :: rest

theorem ofEntriesFrom_down (lines : Nat) (line column : UInt32) (entries : List Entry) :
    ofEntriesFrom (line + UInt32.ofNat lines) column (entries.map (Entry.down lines)) =
      ofEntriesFrom line column entries := by
  induction entries generalizing line column with
  | nil => rfl
  | cons entry rest ih =>
    have hdelta : (entry.down lines).line - (line + UInt32.ofNat lines) = entry.line - line := by
      rw [UInt32.sub_eq_iff_eq_add, ← UInt32.add_assoc, UInt32.sub_add_cancel]
      rfl
    rw [List.map_cons, ofEntriesFrom, hdelta, ofEntriesFrom]
    exact congrArg (_ :: ·) (ih entry.line entry.column)

theorem ofEntries_cons (entry : Entry) (rest : List Entry) :
    ofEntries (entry :: rest) =
      { deltaLine := entry.line, deltaStart := entry.column, length := entry.length,
        category := entry.category, modifiers := entry.modifiers } ::
        ofEntriesFrom entry.line entry.column rest := by
  simp only [ofEntries, ofEntriesFrom, UInt32.sub_zero, ite_self]

/-- Entries that move down are further from the line before them, and their columns count from the
start of their line as long as that line is passed. -/
theorem ofEntriesFrom_eq_moveFirst {lines : Nat} {line column : UInt32} {entries : List Entry}
    (hbefore : line.toNat < lines ∨ (line = 0 ∧ column = 0))
    (hfits : ∀ entry ∈ entries, entry.line.toNat + lines < 2 ^ 32) :
    ofEntriesFrom line column (entries.map (Entry.down lines)) =
      moveFirst lines line.toNat (ofEntries entries) := by
  cases entries with
  | nil => rfl
  | cons entry rest =>
    have hline : (entry.down lines).line.toNat = entry.line.toNat + lines :=
      Token.toNat_line_down (hfits entry List.mem_cons_self)
    have hle : line ≤ (entry.down lines).line := by
      rw [UInt32.le_iff_toNat_le, hline]
      rcases hbefore with hlt | ⟨rfl, -⟩
      · omega
      · exact Nat.zero_le _
    have hdelta := UInt32.toNat_sub_of_le _ _ hle
    have hstart : (if (entry.down lines).line - line = 0 then (entry.down lines).column - column
        else (entry.down lines).column) = (entry.down lines).column := by
      split
      · next hzero =>
        rcases hbefore with hlt | ⟨-, rfl⟩
        · rw [hzero, hline, UInt32.toNat_zero] at hdelta
          omega
        · exact UInt32.sub_zero _
      · rfl
    rw [hline, Nat.add_comm] at hdelta
    rw [List.map_cons, ofEntriesFrom, hstart, ofEntries_cons, moveFirst, ← hdelta,
      UInt32.ofNat_toNat]
    exact congrArg (_ :: ·) (ofEntriesFrom_down lines entry.line entry.column rest)

theorem lastLine_eq_getLast? (line : UInt32) (entries : List Entry) :
    lastLine line entries = (entries.getLast?.map (·.line)).getD line := by
  induction entries generalizing line with
  | nil => rfl
  | cons entry rest ih =>
    rw [lastLine, ih, List.getLast?_cons]
    cases rest.getLast? <;> rfl

end TokenStream

namespace Highlighter

/-- The line of the last token of a document that is emitted, or the first line if none is. -/
def lastEmittedLine (highlighter : Highlighter) (text : String) : Nat :=
  ((highlighter.emitted text).getLast?.map (·.1.line.toNat)).getD 0

theorem entries_append (highlighter : Highlighter) {first : String}
    (hfirst : Text.EndsLine first.toList) (second : String) :
    highlighter.entries (first ++ second) =
      highlighter.entries first ++
        (highlighter.entries second).map (Entry.down (first.toList.count '\n')) := by
  rw [entries, Lexer.lex_append _ hfirst, List.filterMap_append, List.filterMap_map, entries,
    entries, List.map_filterMap]
  refine congrArg (_ ++ ·) (List.filterMap_congr fun token _ => ?_)
  exact Token.entry?_down highlighter.policy _ token

theorem toNat_lastLine_entries (highlighter : Highlighter) {text : String}
    (hsize : Text.byteSize text.toList < 2 ^ 32) :
    (TokenStream.lastLine 0 (highlighter.entries text)).toNat =
      highlighter.lastEmittedLine text := by
  rw [TokenStream.lastLine_eq_getLast?, entries, filterMap_entry?_lex hsize, List.getLast?_map,
    lastEmittedLine]
  cases (highlighter.emitted text).getLast? <;> rfl

section Document

variable {first second : String} (hsize : Text.byteSize (first ++ second).toList < 2 ^ 32)
include hsize

theorem byteSize_add_lt :
    Text.byteSize first.toList + Text.byteSize second.toList < 2 ^ 32 := by
  rwa [String.toList_append, Text.byteSize_append] at hsize

theorem line_add_lt_of_mem_lex {lexer : Lexer} {token : Token} (hmem : token ∈ lexer.lex second) :
    token.line.toNat + first.toList.count '\n' < 2 ^ 32 := by
  have hparts := byteSize_add_lt hsize
  have hcount := Text.count_le_byteSize '\n' first.toList
  obtain ⟨line, hline, -⟩ := Lexer.exists_isLine_of_mem_lex (by omega) hmem
  have hnumber := hline.lt_byteSize
  omega

/-- The last token that is emitted for whole lines stands before the line that follows them. If
there is none, distances are told from the start of the document. -/
theorem lastLine_entries_lt (highlighter : Highlighter) (hfirst : Text.EndsLine first.toList) :
    (TokenStream.lastLine 0 (highlighter.entries first)).toNat < first.toList.count '\n' ∨
      (TokenStream.lastLine 0 (highlighter.entries first) = 0 ∧
        TokenStream.lastColumn 0 (highlighter.entries first) = 0) := by
  cases hlast : (highlighter.entries first).getLast? with
  | none =>
    rw [List.getLast?_eq_none_iff.1 hlast]
    exact .inr ⟨rfl, rfl⟩
  | some entry =>
    left
    obtain ⟨token, htoken, hline⟩ := Token.exists_of_mem_entries (List.mem_of_getLast? hlast)
    have hempty : Text.byteSize (first ++ "" ++ second).toList < 2 ^ 32 := by
      rwa [String.append_empty]
    have hlt := UInt32.lt_iff_toNat_lt.1 (Lexer.line_lt_of_mem_lex hempty hfirst htoken)
    rw [Lexer.toNat_lineNumber hempty] at hlt
    rwa [TokenStream.lastLine_eq_getLast?, hlast, Option.map_some, Option.getD_some, hline]

/-- Whole lines and further text have the tokens of both, those of the second part further down by
the line feeds of the first. The stream is that of the first part followed by that of the second,
whose first token is told from the last line with a token before it; all else is the same. -/
theorem highlight_append (highlighter : Highlighter) (hfirst : Text.EndsLine first.toList) :
    (highlighter.lexer.lex (first ++ second) =
      highlighter.lexer.lex first ++
        (highlighter.lexer.lex second).map (Token.down (first.toList.count '\n')) ∧
      ∀ token ∈ highlighter.lexer.lex second,
        (token.down (first.toList.count '\n')).line.toNat =
          token.line.toNat + first.toList.count '\n') ∧
    ∃ before after, highlighter.highlight first = .ok before ∧
      highlighter.highlight second = .ok after ∧
      highlighter.highlight (first ++ second) =
        .ok (before ++
          after.moveFirst (first.toList.count '\n') (highlighter.lastEmittedLine first)) ∧
      highlighter.lastEmittedLine first ≤ first.toList.count '\n' ∧
      ∀ token, after.head? = some token →
        first.toList.count '\n' + token.deltaLine.toNat < 2 ^ 32 := by
  have hparts := byteSize_add_lt hsize
  have hsizeFirst : Text.byteSize first.toList < 2 ^ 32 := by omega
  have hsizeSecond : Text.byteSize second.toList < 2 ^ 32 := by omega
  have hfits : ∀ entry ∈ highlighter.entries second,
      entry.line.toNat + first.toList.count '\n' < 2 ^ 32 := by
    intro entry hmem
    obtain ⟨token, htoken, hline⟩ := Token.exists_of_mem_entries hmem
    rw [hline]
    exact line_add_lt_of_mem_lex hsize htoken
  have hlast := toNat_lastLine_entries highlighter hsizeFirst
  have hbefore := lastLine_entries_lt hsize highlighter hfirst
  refine ⟨⟨Lexer.lex_append _ hfirst second, fun token hmem =>
    Token.toNat_line_down (line_add_lt_of_mem_lex hsize hmem)⟩, _, _,
    highlighter.highlight_eq_ok hsizeFirst, highlighter.highlight_eq_ok hsizeSecond, ?_, ?_, ?_⟩
  · rw [highlighter.highlight_eq_ok hsize, entries_append highlighter hfirst second,
      TokenStream.ofEntries, TokenStream.ofEntriesFrom_append,
      TokenStream.ofEntriesFrom_eq_moveFirst hbefore hfits, hlast]
    rfl
  · rw [← hlast]
    rcases hbefore with hlt | ⟨hzero, -⟩
    · exact Nat.le_of_lt hlt
    · rw [hzero]
      exact Nat.zero_le _
  · intro token hhead
    cases hentries : highlighter.entries second with
    | nil =>
      rw [hentries] at hhead
      cases hhead
    | cons entry rest =>
      rw [hentries, TokenStream.ofEntries_cons] at hhead
      have hentry := hfits entry (by rw [hentries]; exact List.mem_cons_self)
      rw [← Option.some.inj hhead, Nat.add_comm]
      exact hentry

end Document

/-- A literal that is not closed, an empty line and a word that is left out, all with returns at the
ends of their lines, before a line with a comment. -/
theorem highlight_append_omitted_word :
    Text.EndsLine "\"open\r\n\r\nx\r\n".toList ∧
      Text.byteSize ("\"open\r\n\r\nx\r\n" ++ "%0 // c").toList < 2 ^ 32 ∧
      ({} : Highlighter).highlight "%0 // c" = .ok [⟨0, 0, 2, 2, 0⟩, ⟨0, 3, 4, 4, 0⟩] ∧
      ({} : Highlighter).highlight ("\"open\r\n\r\nx\r\n" ++ "%0 // c") =
        .ok [⟨0, 0, 5, 9, 0⟩, ⟨3, 0, 2, 2, 0⟩, ⟨0, 3, 4, 4, 0⟩] := by
  have hfirst : Text.EndsLine "\"open\r\n\r\nx\r\n".toList := .inr (by decide)
  have hsize : Text.byteSize ("\"open\r\n\r\nx\r\n" ++ "%0 // c").toList < 2 ^ 32 := by decide
  have hbefore : ({} : Highlighter).highlight "\"open\r\n\r\nx\r\n" =
      .ok [⟨0, 0, 5, 9, 0⟩] := by decide +kernel
  have hafter : ({} : Highlighter).highlight "%0 // c" =
      .ok [⟨0, 0, 2, 2, 0⟩, ⟨0, 3, 4, 4, 0⟩] := by decide +kernel
  have hmoved : TokenStream.moveFirst ("\"open\r\n\r\nx\r\n".toList.count '\n')
      (({} : Highlighter).lastEmittedLine "\"open\r\n\r\nx\r\n")
      [⟨0, 0, 2, 2, 0⟩, ⟨0, 3, 4, 4, 0⟩] = [⟨3, 0, 2, 2, 0⟩, ⟨0, 3, 4, 4, 0⟩] := by
    decide +kernel
  refine ⟨hfirst, hsize, hafter, ?_⟩
  obtain ⟨-, before, after, hbefore', hafter', happend, -⟩ := highlight_append hsize {} hfirst
  cases hbefore.symm.trans hbefore'
  cases hafter.symm.trans hafter'
  rw [happend, hmoved]
  rfl

end Highlighter

end CirHighlight
