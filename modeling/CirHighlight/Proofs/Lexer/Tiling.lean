import CirHighlight.Proofs.Lexer.Boundary
import CirHighlight.Proofs.Text.Lines

namespace CirHighlight

namespace Token

/-- A token stands on an earlier line than another one, or on the same line and ends before the
other starts. -/
def Before (first second : Token) : Prop :=
  first.line < second.line ∨
    (first.line = second.line ∧
      first.column.toNat + Text.unitCount first.text.toList ≤ second.column.toNat)

end Token

namespace Lexer

variable {lexer : Lexer} {number : UInt32} {lines : List (List Char)}

theorem toNat_add_one {line : List Char} {rest : List (List Char)} (hne : rest ≠ [])
    (hfits : number.toNat + (line :: rest).length ≤ 2 ^ 32) :
    (number + 1).toNat = number.toNat + 1 := by
  have := List.length_pos_iff.2 hne
  rw [List.length_cons] at hfits
  rw [UInt32.toNat_add, UInt32.toNat_one, Nat.mod_eq_of_lt (by omega)]

theorem lines_ne_nil_of_mem_lexLines {token : Token} (hmem : token ∈ lexer.lexLines number lines) :
    lines ≠ [] := by
  rintro rfl
  cases hmem

theorem exists_line_of_mem_lexLines (hfits : number.toNat + lines.length ≤ 2 ^ 32) {token : Token}
    (hmem : token ∈ lexer.lexLines number lines) :
    ∃ n line, lines[n]? = some line ∧ token.line.toNat = number.toNat + n ∧
      token ∈ lexer.lexLine token.line line := by
  induction lines generalizing number with
  | nil => cases hmem
  | cons line rest ih =>
    rcases List.mem_append.1 hmem with hmem | hmem
    · have hline := line_of_mem_lexLine hmem
      exact ⟨0, line, rfl, by rw [hline, Nat.add_zero], by rwa [hline]⟩
    · have hnext := toNat_add_one (lines_ne_nil_of_mem_lexLines hmem) hfits
      rw [List.length_cons] at hfits
      obtain ⟨n, found, hfound, hline, htoken⟩ := ih (by omega) hmem
      exact ⟨n + 1, found, hfound, by omega, htoken⟩

theorem lt_line_of_mem_lexLines {line : List Char} {rest : List (List Char)}
    (hfits : number.toNat + (line :: rest).length ≤ 2 ^ 32) {token : Token}
    (hmem : token ∈ lexer.lexLines (number + 1) rest) : number.toNat < token.line.toNat := by
  have hnext := toNat_add_one (lines_ne_nil_of_mem_lexLines hmem) hfits
  rw [List.length_cons] at hfits
  obtain ⟨n, -, -, hline, -⟩ := exists_line_of_mem_lexLines (by omega) hmem
  omega

theorem filter_lexLines (lexer : Lexer) (hfits : number.toNat + lines.length ≤ 2 ^ 32) {n : Nat}
    {line : List Char} (hline : lines[n]? = some line) :
    ∃ found : UInt32, found.toNat = number.toNat + n ∧
      (lexer.lexLines number lines).filter (·.line.toNat = number.toNat + n) =
        lexer.lexLine found line := by
  induction lines generalizing number n with
  | nil => cases hline
  | cons first rest ih =>
    rw [lexLines, List.filter_append]
    cases n with
    | zero =>
      obtain rfl : first = line := Option.some.inj hline
      refine ⟨number, rfl, ?_⟩
      have hfirst : (lexer.lexLine number first).filter (·.line.toNat = number.toNat + 0) =
          lexer.lexLine number first := by
        refine List.filter_eq_self.2 fun token hmem => ?_
        rw [line_of_mem_lexLine hmem, Nat.add_zero, decide_eq_true rfl]
      have hrest : (lexer.lexLines (number + 1) rest).filter
          (·.line.toNat = number.toNat + 0) = [] := by
        refine List.filter_eq_nil_iff.2 fun token hmem => ?_
        have := lt_line_of_mem_lexLines hfits hmem
        rw [decide_eq_true_iff]
        omega
      rw [hfirst, hrest, List.append_nil]
    | succ n =>
      have hne : rest ≠ [] := by
        rintro rfl
        cases hline
      have hnext := toNat_add_one hne hfits
      have hplace : number.toNat + (n + 1) = (number + 1).toNat + n := by omega
      have hfirst : (lexer.lexLine number first).filter
          (·.line.toNat = number.toNat + (n + 1)) = [] := by
        refine List.filter_eq_nil_iff.2 fun token hmem => ?_
        rw [line_of_mem_lexLine hmem, decide_eq_true_iff]
        omega
      rw [hfirst, List.nil_append, hplace]
      rw [List.length_cons] at hfits
      exact ih (by omega) hline

theorem pairwise_lexLines (lexer : Lexer) (hfits : number.toNat + lines.length ≤ 2 ^ 32)
    (hwidth : ∀ line ∈ lines, Text.unitCount line < 2 ^ 32) :
    (lexer.lexLines number lines).Pairwise Token.Before := by
  induction lines generalizing number with
  | nil => exact .nil
  | cons line rest ih =>
    refine List.pairwise_append.2 ⟨?_, ?_, ?_⟩
    · have htiled := tiled_lexLine (hwidth line List.mem_cons_self) lexer number
      refine htiled.pairwise.imp_of_mem fun hfirst hsecond hle => .inr ⟨?_, hle⟩
      rw [line_of_mem_lexLine hfirst, line_of_mem_lexLine hsecond]
    · by_cases hne : rest = []
      · rw [hne]
        exact .nil
      · have hnext := toNat_add_one hne hfits
        rw [List.length_cons] at hfits
        exact ih (by omega) fun line hmem => hwidth line (List.mem_cons_of_mem _ hmem)
    · intro first hfirst second hsecond
      left
      rw [line_of_mem_lexLine hfirst]
      exact UInt32.lt_iff_toNat_lt.2 (lt_line_of_mem_lexLines hfits hsecond)

theorem length_lexLines_le (lexer : Lexer) (number : UInt32)
    (hwidth : ∀ line ∈ lines, Text.unitCount line < 2 ^ 32) :
    (lexer.lexLines number lines).length ≤ (lines.map Text.byteSize).sum := by
  induction lines generalizing number with
  | nil => exact Nat.le_refl _
  | cons line rest ih =>
    have hfirst := (tiled_lexLine (hwidth line List.mem_cons_self) lexer number).length_le
    have hrest := ih (number + 1) fun line hmem => hwidth line (List.mem_cons_of_mem _ hmem)
    have hsize := Text.unitCount_le_byteSize line
    rw [lexLines, List.length_append, List.map_cons, List.sum_cons]
    omega

section Document

variable {text : String} (hsize : Text.byteSize text.toList < 2 ^ 32)
include hsize

theorem length_lines_fits :
    (0 : UInt32).toNat + (Text.lines text.toList).length ≤ 2 ^ 32 := by
  have := Text.length_lines_le text.toList
  rw [UInt32.toNat_zero]
  omega

theorem unitCount_lt_of_isLine {n : Nat} {line : List Char}
    (hline : Text.IsLine text.toList n line) : Text.unitCount line < 2 ^ 32 :=
  calc
    Text.unitCount line ≤ Text.byteSize line := Text.unitCount_le_byteSize line
    _ ≤ Text.byteSize text.toList := hline.byteSize_le
    _ < 2 ^ 32 := hsize

theorem unitCount_lt_of_mem_lines {line : List Char} (hmem : line ∈ Text.lines text.toList) :
    Text.unitCount line < 2 ^ 32 := by
  obtain ⟨n, hline⟩ := List.getElem?_of_mem hmem
  exact unitCount_lt_of_isLine hsize (Text.getElem?_lines_eq_some_iff.1 hline)

theorem pairwise_lex (lexer : Lexer) : (lexer.lex text).Pairwise Token.Before :=
  pairwise_lexLines lexer (length_lines_fits hsize) fun _ => unitCount_lt_of_mem_lines hsize

theorem length_lex_le (lexer : Lexer) : (lexer.lex text).length ≤ Text.byteSize text.toList :=
  calc
    (lexer.lex text).length ≤ ((Text.lines text.toList).map Text.byteSize).sum :=
      length_lexLines_le lexer 0 fun _ => unitCount_lt_of_mem_lines hsize
    _ ≤ Text.byteSize text.toList := Text.sum_byteSize_lines_le text.toList

theorem exists_isLine_of_mem_lex {token : Token} (hmem : token ∈ lexer.lex text) :
    ∃ line, Text.IsLine text.toList token.line.toNat line ∧
      token ∈ lexer.lexLine token.line line := by
  obtain ⟨n, line, hline, hnumber, htoken⟩ :=
    exists_line_of_mem_lexLines (length_lines_fits hsize) hmem
  rw [UInt32.toNat_zero, Nat.zero_add] at hnumber
  rw [← hnumber] at hline
  exact ⟨line, Text.getElem?_lines_eq_some_iff.1 hline, htoken⟩

theorem modifiers_of_mem_lex {token : Token} (hmem : token ∈ lexer.lex text) :
    token.modifiers = .empty := by
  obtain ⟨line, -, htoken⟩ := exists_isLine_of_mem_lex hsize hmem
  exact (of_mem_lexLine htoken).2

theorem endColumn_lt_of_mem_lex {token : Token} (hmem : token ∈ lexer.lex text) :
    token.column.toNat + Text.unitCount token.text.toList < 2 ^ 32 := by
  obtain ⟨line, hline, htoken⟩ := exists_isLine_of_mem_lex hsize hmem
  have hfits := unitCount_lt_of_isLine hsize hline
  have hbounds := ((tiled_lexLine hfits lexer token.line).bounds htoken).2
  omega

theorem text_ne_nil_of_mem_lex {token : Token} (hmem : token ∈ lexer.lex text) :
    token.text.toList ≠ [] := by
  obtain ⟨line, hline, htoken⟩ := exists_isLine_of_mem_lex hsize hmem
  exact (tiled_lexLine (unitCount_lt_of_isLine hsize hline) lexer token.line).text_ne_nil htoken

theorem newline_not_mem_of_mem_lex {token : Token} (hmem : token ∈ lexer.lex text) :
    '\n' ∉ token.text.toList := by
  obtain ⟨line, hline, htoken⟩ := exists_isLine_of_mem_lex hsize hmem
  obtain ⟨front, back, hparts, -⟩ :=
    (tiled_lexLine (unitCount_lt_of_isLine hsize hline) lexer token.line).exists_append htoken
  intro hfeed
  apply hline.not_mem
  rw [hparts]
  exact List.mem_append_right _ (List.mem_append_left _ hfeed)

theorem filter_lex (lexer : Lexer) {n : Nat} {line : List Char}
    (hline : Text.IsLine text.toList n line) :
    ∃ number, (lexer.lex text).filter (·.line.toNat = n) = lexer.lexLine number line := by
  obtain ⟨number, -, hfilter⟩ := filter_lexLines lexer (length_lines_fits hsize) hline.getElem?
  rw [UInt32.toNat_zero, Nat.zero_add] at hfilter
  exact ⟨number, hfilter⟩

end Document

/-- Tokens that a line is cut into. Of its code, they leave out no word and no quote, and a mark
only where no word follows; its comment is the last of them, or no part of any. The comment starts
at the first two slashes that no literal of the whole line covers. -/
structure CutsLine (comments : Bool) (line : List Char) (tokens : List Token) : Prop where
  tiled : Tiled (fun _ _ => True) 0 line tokens
  parts : (Comment.comment? line = none ∧ Comment.code line = line) ∨
    ∃ rest, Comment.comment? line = some ('/' :: '/' :: rest) ∧
      Comment.code line ++ '/' :: '/' :: rest = line
  comment_outside (lexicon : Lexicon) (number : UInt32) (hcomment : Comment.comment? line ≠ none) :
    ¬ Comment.InLiteral (Lexeme.scanLine lexicon number line) (Comment.code line)
  comment_first (lexicon : Lexicon) (number : UInt32) {front : List Char}
    (hslashes : Comment.SlashesAfter line front)
    (houtside : ¬ Comment.InLiteral (Lexeme.scanLine lexicon number line) front) :
    Text.byteSize (Comment.code line) ≤ Text.byteSize front
  covered {front rest : List Char} {c : Char} (hcode : Comment.code line = front ++ c :: rest)
    (hc : Rule.isWordChar c = true ∨ c = '"') :
    ∃ token, tokens.filter (·.covers (Text.unitCount front)) = [token]
  unmarked {front rest : List Char} {c : Char} (hline : line = front ++ c :: rest)
    (hcode : front.length < (Comment.code line).length) (hmark : c ∈ Rule.marks)
    (hgap : tokens.filter (·.covers (Text.unitCount front)) = []) {d : Char}
    (hd : rest.head? = some d) : Rule.isWordChar d = false
  comment_last {comment : List Char} (hon : comments = true)
    (hcomment : Comment.comment? line = some comment) :
    ∃ before token, tokens = before ++ [token] ∧
      token.column.toNat = Text.unitCount (Comment.code line) ∧
      token.text.toList = comment ∧ token.category = some .comment
  comment_untouched (hoff : comments = false) {token : Token} (hmem : token ∈ tokens) :
    token.column.toNat + Text.unitCount token.text.toList ≤
      Text.unitCount (Comment.code line)

theorem cutsLine_lexLine (lexer : Lexer) (number : UInt32) {line : List Char}
    (hfits : Text.unitCount line < 2 ^ 32) :
    CutsLine lexer.comments line (lexer.lexLine number line) where
  tiled := tiled_lexLine hfits lexer number
  parts := Comment.comment?_cases line
  comment_outside := by
    intro lexicon number hcomment
    obtain ⟨comment, hsome⟩ := Option.ne_none_iff_exists'.1 hcomment
    exact Comment.not_inLiteral_code lexicon number hfits hsome
  comment_first := by
    intro lexicon number front hslashes houtside
    exact Comment.byteSize_code_le lexicon number hfits hslashes houtside
  covered := by
    intro front rest c hcode hc
    rcases covered_lexLine hfits lexer number hcode with hone | ⟨-, hword, hquote, -⟩
    · exact hone
    · rcases hc with hc | hc
      · rw [hword] at hc
        cases hc
      · exact (hquote hc).elim
  unmarked := by
    intro front rest c hline hbefore hmark hgap d hd
    obtain ⟨inner, hcode, hnext⟩ := Comment.exists_code_eq hline hbefore
    rcases covered_lexLine hfits lexer number hcode with ⟨token, hone⟩ | ⟨-, -, -, hskipped⟩
    · rw [hgap] at hone
      cases hone
    · rcases hnext d hd with hinner | rfl
      · exact hskipped hmark d hinner
      · decide
  comment_last := by
    intro comment hon hcomment
    exact ⟨_, _, lexLine_of_comment? hon hcomment, column_commentToken hfits number comment,
      String.toList_ofList, rfl⟩
  comment_untouched := by
    intro hoff token hmem
    exact bounds_lexLine_of_comments_eq_false hfits hoff hmem

/-- The tokens of a document follow each other, each on a line of the document, and cut every
line. -/
theorem lex_cuts_every_line (lexer : Lexer) {text : String}
    (hsize : Text.byteSize text.toList < 2 ^ 32) :
    (lexer.lex text).Pairwise Token.Before ∧
    (∀ token ∈ lexer.lex text, token.text.toList ≠ [] ∧
      ∃ line, Text.IsLine text.toList token.line.toNat line) ∧
    ∀ n line, Text.IsLine text.toList n line →
      CutsLine lexer.comments line ((lexer.lex text).filter (·.line.toNat = n)) := by
  refine ⟨pairwise_lex hsize lexer, ?_, ?_⟩
  · intro token hmem
    obtain ⟨line, hline, -⟩ := exists_isLine_of_mem_lex hsize hmem
    exact ⟨text_ne_nil_of_mem_lex hsize hmem, line, hline⟩
  · intro n line hline
    obtain ⟨number, hfilter⟩ := filter_lex hsize lexer hline
    rw [hfilter]
    exact cutsLine_lexLine lexer number (unitCount_lt_of_isLine hsize hline)

/-- A line after another one, with an operation, a literal that holds slashes and a character of
two units, and a comment. -/
theorem lex_cuts_second_line :
    Text.byteSize "x\r\n%0 = cir.f \"//😀\" // c".toList < 2 ^ 32 ∧
      CutsLine true "%0 = cir.f \"//😀\" // c".toList
        ((({} : Lexer).lex "x\r\n%0 = cir.f \"//😀\" // c").filter (·.line.toNat = 1)) := by
  have hsize : Text.byteSize "x\r\n%0 = cir.f \"//😀\" // c".toList < 2 ^ 32 := by decide
  have hline : Text.IsLine "x\r\n%0 = cir.f \"//😀\" // c".toList 1
      "%0 = cir.f \"//😀\" // c".toList :=
    Text.getElem?_lines_eq_some_iff.1 (by decide)
  exact ⟨hsize, (lex_cuts_every_line {} hsize).2.2 1 _ hline⟩

end Lexer

end CirHighlight
