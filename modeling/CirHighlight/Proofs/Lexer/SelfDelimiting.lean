import CirHighlight.Proofs.Lexeme.BareWord
import CirHighlight.Proofs.Lexeme.Recognition
import CirHighlight.Proofs.Lexer.Boundary
import CirHighlight.Proofs.Lexer.Tiling

namespace CirHighlight

namespace Grammar

variable {language : Language Char} {kind : Kind} {rest text : List Char}

theorem exists_longest (hmem : text ∈ language) (hpre : text <+: rest) :
    ∃ longest, Longest language rest longest := by
  induction hroom : rest.length - text.length using Nat.strong_induction_on generalizing text with
  | _ room ih =>
    by_cases hlonger : ∃ other ∈ language, other <+: rest ∧ text.length < other.length
    · obtain ⟨other, hother, hotherPre, hlt⟩ := hlonger
      have hle := hotherPre.length_le
      exact ih (rest.length - other.length) (by omega) hother hotherPre rfl
    · refine ⟨text, hmem, hpre, ?_⟩
      intro other hother hotherPre
      by_contra hlt
      exact hlonger ⟨other, hother, hotherPre, Nat.lt_of_not_le hlt⟩

theorem Takes.self (h : Takes kind rest text) : Takes kind text text := by
  cases h with
  | longest h =>
    refine .longest ⟨h.mem, List.prefix_refl text, ?_⟩
    intro other _ hpre
    exact hpre.length_le
  | unclosed h => exact .unclosed h

theorem Takes.exists_of_isPrefix {start : List Char} (h : Takes kind start text)
    (hstart : start <+: rest) : ∃ found, Takes kind rest found := by
  cases h with
  | longest h =>
    obtain ⟨longest, hlongest⟩ := exists_longest h.mem (h.isPrefix.trans hstart)
    exact ⟨longest, .longest hlongest⟩
  | @unclosed start h =>
    obtain ⟨tail, rfl⟩ := hstart
    by_cases hclosed : ∃ text ∈ Kind.string.language, text <+: '"' :: (start ++ tail)
    · obtain ⟨text, hmem, hpre⟩ := hclosed
      obtain ⟨longest, hlongest⟩ := exists_longest hmem hpre
      exact ⟨longest, .longest hlongest⟩
    · refine ⟨'"' :: (start ++ tail), .unclosed ?_⟩
      intro text hmem hpre
      exact hclosed ⟨text, hmem, hpre⟩

theorem First.self (h : First kind rest text) : First kind text text := by
  obtain ⟨htakes, earlier, later, horder, hnone⟩ := h
  refine ⟨htakes.self, earlier, later, horder, ?_⟩
  intro other hother found hfound
  obtain ⟨more, hmore⟩ := hfound.exists_of_isPrefix htakes.isPrefix
  exact hnone other hother more hmore

theorem First.first_eq {c : Char} (h : First kind (c :: rest) text) (lexicon : Lexicon) :
    Lexeme.first Rule.all lexicon c rest = kind.piece lexicon text := by
  rw [Lexeme.first, findSome?_eq_some_iff.2 ⟨kind, text, h, rfl⟩, Option.getD_some]

theorem First.scan_eq (h : First kind text text) (lexicon : Lexicon) :
    Lexeme.scan lexicon text = [kind.piece lexicon text] := by
  have hall : First kind (text ++ []) text := by rwa [List.append_nil]
  have hscan : Lexeme.scan lexicon (text ++ []) = _ := scan_of_first hall
  rwa [List.append_nil, Lexeme.scan, Lexeme.scan, Lexeme.scanWith.eq_def _ _ []] at hscan

theorem First.codeLength_eq (h : First kind text text) :
    Comment.codeLength .code text = text.length := by
  have hchars := h.1.chars_piece .builtin
  obtain ⟨c, more, rfl⟩ := List.exists_cons_of_ne_nil h.1.ne_nil
  have hfirst := h.first_eq .builtin
  have hnot : ¬ Comment.Starts (c :: more) := by
    intro hstarts
    obtain ⟨rfl, -⟩ := Comment.starts_cons_iff.1 hstarts
    rw [Lexeme.first_slash] at hfirst
    cases kind <;> cases hfirst
  have hafter : (Lexeme.first Rule.all .builtin c more).chars ++ [] = c :: more := by
    rw [hfirst, hchars, List.append_nil]
  rw [Comment.codeLength_first .builtin hnot hafter, hfirst, hchars]
  rfl

end Grammar

namespace Text

theorem lines_of_not_mem {line : List Char} (h : '\n' ∉ line) (hne : line ≠ []) :
    lines line = [line] :=
  linesFrom_last h [] hne

end Text

namespace Lexeme

variable {lexicon : Lexicon} {text before rest : List Char}

theorem Comes.append_eq (h : Comes lexicon text before rest) : before ++ rest = text := by
  induction h with
  | start => rfl
  | @step before rest c h ih =>
    obtain ⟨more, after, hchars, rfl⟩ := exists_chars_first lexicon c rest
    rw [hchars, List.length_cons, Nat.add_sub_cancel, List.drop_left, List.append_assoc,
      List.cons_append, ih]

theorem exists_comes_of_mem_place {line : UInt32} {token : Token}
    (h : Comes lexicon text before rest)
    (hmem : token ∈ place line (Text.width before) (scan lexicon rest)) :
    ∃ front c tail, Comes lexicon text front (c :: tail) ∧
      token ∈ (first Rule.all lexicon c tail).tokens line (Text.width front) := by
  unfold scan at hmem
  fun_induction scanWith Rule.all lexicon rest generalizing before with
  | case1 => cases hmem
  | case2 c rest piece =>
    rename_i ih
    rcases List.mem_append.1 hmem with hmem | hmem
    · exact ⟨before, c, rest, h, hmem⟩
    · rw [← Text.width_append] at hmem
      exact ih h.step hmem

end Lexeme

namespace Lexer

variable {lexer : Lexer}

theorem lex_ofList (lexer : Lexer) {line : List Char} (h : '\n' ∉ line) (hne : line ≠ []) :
    lexer.lex (String.ofList line) = lexer.lexLine 0 line := by
  rw [lex, String.toList_ofList, Text.lines_of_not_mem h hne, lexLines, lexLines, List.append_nil]

theorem lex_of_first (lexer : Lexer) {kind : Grammar.Kind} {rest text : List Char}
    (hline : '\n' ∉ text) (h : Grammar.First kind rest text) :
    lexer.lex (String.ofList text) = (kind.piece lexer.lexicon text).tokens 0 0 := by
  have hself := h.self
  have hcode : Comment.code text = text := by
    rw [Comment.code, hself.codeLength_eq, List.take_length]
  have hcomment : Comment.comment? text = none := by
    simp only [Comment.comment?, hself.codeLength_eq, List.drop_length]
    rfl
  have hnone : commentTokens lexer.comments 0 text = [] := by
    unfold commentTokens
    rw [hcomment]
    split <;> rfl
  rw [lex_ofList lexer hline h.1.ne_nil, lexLine_eq_append, hcode, hnone, List.append_nil,
    Lexeme.scanLine, hself.scan_eq, Lexeme.place, Lexeme.place, List.append_nil]

theorem lex_of_comment? (hon : lexer.comments = true) {line comment : List Char}
    (hline : '\n' ∉ line) (h : Comment.comment? line = some comment) :
    lexer.lex (String.ofList comment) =
      [{ line := 0, column := 0, text := String.ofList comment, category := some .comment }] := by
  obtain ⟨hne, happend⟩ := Comment.code_append_of_comment? h
  have hcomment : '\n' ∉ comment := by
    intro hmem
    rw [← happend] at hline
    exact hline (List.mem_append_right _ hmem)
  rcases Comment.comment?_cases line with ⟨hnone, -⟩ | ⟨rest, hsome, -⟩
  · rw [h] at hnone
    cases hnone
  · obtain rfl : comment = '/' :: '/' :: rest := Option.some.inj (h.symm.trans hsome)
    have hcode : Comment.code ('/' :: '/' :: rest) = [] := rfl
    rw [lex_ofList lexer hcomment hne, lexLine_of_comment? hon rfl, commentToken, hcode,
      Lexeme.scanLine, Lexeme.scan, Lexeme.scanWith]
    rfl

theorem lex_of_comes {text line before rest : List Char} {n : Nat} {c : Char}
    (hline : Text.IsLine text n line)
    (hcomes : Lexeme.Comes lexer.lexicon (Comment.code line) before (c :: rest))
    (hgap : Lexeme.first Rule.all lexer.lexicon c rest ≠ .gap c) :
    lexer.lex (String.ofList (Lexeme.first Rule.all lexer.lexicon c rest).chars) =
      (Lexeme.first Rule.all lexer.lexicon c rest).tokens 0 0 := by
  cases hfind : Rule.all.findSome? (· lexer.lexicon (c :: rest)) with
  | none =>
    rw [Lexeme.first, hfind] at hgap
    exact (hgap rfl).elim
  | some piece =>
    obtain ⟨kind, found, hfirst, -⟩ := Grammar.findSome?_eq_some_iff.1 hfind
    rw [hfirst.first_eq, hfirst.1.chars_piece]
    refine lex_of_first lexer ?_ hfirst
    intro hmem
    apply hline.not_mem
    apply List.mem_of_mem_take
    rw [← Comment.code, ← hcomes.append_eq]
    exact List.mem_append_right _ (hfirst.1.isPrefix.subset hmem)

/-- A token of a document is one of the two tokens of an operation: the scanner comes to a place of
the code of its line where it reads that operation. -/
def IsOfOperation (lexer : Lexer) (text name : String) (token : Token) : Prop :=
  ∃ line before c rest, Text.IsLine text.toList token.line.toNat line ∧
    Lexeme.Comes lexer.lexicon (Comment.code line) before (c :: rest) ∧
    Lexeme.first Rule.all lexer.lexicon c rest = .operation name.toList ∧
    token ∈ (Lexeme.operation name.toList).tokens token.line (Text.width before)

theorem lex_text_of_mem_scanLine {text : String} {line : List Char} {token : Token}
    (hline : Text.IsLine text.toList token.line.toNat line)
    (hmem : token ∈ Lexeme.scanLine lexer.lexicon token.line (Comment.code line))
    (hnot : ∀ name, ¬ lexer.IsOfOperation text name token) :
    lexer.lex token.text =
      [{ line := 0, column := 0, text := token.text, category := token.category }] := by
  obtain ⟨before, c, rest, hcomes, hpiece⟩ := Lexeme.exists_comes_of_mem_place .start hmem
  have hlex := lex_of_comes hline hcomes
  cases hfirst : Lexeme.first Rule.all lexer.lexicon c rest with
  | gap d =>
    rw [hfirst] at hpiece
    cases hpiece
  | single found category =>
    rw [hfirst] at hlex hpiece
    rw [List.mem_singleton.1 hpiece]
    exact hlex Lexeme.noConfusion
  | operation name =>
    rw [hfirst] at hpiece
    refine (hnot (String.ofList name) ⟨line, before, c, rest, hline, hcomes, ?_, ?_⟩).elim
    · rw [hfirst, String.toList_ofList]
    · rwa [String.toList_ofList]

/-- A token of a document is the only token of its own text, at the start of it and with the same
category. Only the two tokens of an operation are read together: they are the tokens of its text. -/
theorem tokens_read_alone (lexer : Lexer) {text : String}
    (hsize : Text.byteSize text.toList < 2 ^ 32) {token : Token} (hmem : token ∈ lexer.lex text) :
    ((∀ name, ¬ lexer.IsOfOperation text name token) →
      lexer.lex token.text =
        [{ line := 0, column := 0, text := token.text, category := token.category }]) ∧
      ∀ name, lexer.IsOfOperation text name token →
        lexer.lex ("cir." ++ name) =
          [{ line := 0, column := 0, text := "cir", category := some .namespaceName },
            { line := 0, column := 4, text := name, category := some .function }] := by
  constructor
  · intro hnot
    obtain ⟨line, hline, htoken⟩ := exists_isLine_of_mem_lex hsize hmem
    rcases lexLine_cases lexer token.line line with ⟨-, heq⟩ | ⟨comment, hon, hcomment, heq⟩
    · rw [heq] at htoken
      exact lex_text_of_mem_scanLine hline htoken hnot
    · rw [heq] at htoken
      rcases List.mem_append.1 htoken with htoken | htoken
      · exact lex_text_of_mem_scanLine hline htoken hnot
      · rw [List.mem_singleton.1 htoken]
        exact lex_of_comment? hon hline.not_mem hcomment
  · rintro name ⟨line, before, c, rest, hline, hcomes, hfirst, -⟩
    have hlex := lex_of_comes hline hcomes
    rw [hfirst] at hlex
    have htext : String.ofList (Lexeme.operation name.toList).chars = "cir." ++ name := by
      rw [← String.toList_inj, String.toList_ofList, String.toList_append]
      rfl
    rw [htext] at hlex
    rw [hlex Lexeme.noConfusion, Lexeme.tokens, String.ofList_toList]
    rfl

/-- A literal that is not closed, with slashes in it and a carriage return at its end; and an
operation with the name of its own namespace. -/
theorem tokens_read_alone_open_literal :
    let text := "cir.cir.x // c\n\"a // b\r"
    let literal : Token := ⟨1, 0, "\"a // b\r", some .string, .empty⟩
    let name : Token := ⟨0, 4, "cir", some .function, .empty⟩
    Text.byteSize text.toList < 2 ^ 32 ∧ literal ∈ ({} : Lexer).lex text ∧
      (∀ name, ¬ IsOfOperation {} text name literal) ∧
      ({} : Lexer).lex "\"a // b\r" = [⟨0, 0, "\"a // b\r", some .string, .empty⟩] ∧
      name ∈ ({} : Lexer).lex text ∧ IsOfOperation {} text "cir" name ∧
      ({} : Lexer).lex "cir.cir" =
        [⟨0, 0, "cir", some .namespaceName, .empty⟩, ⟨0, 4, "cir", some .function, .empty⟩] := by
  intro text literal name
  have hsize : Text.byteSize text.toList < 2 ^ 32 := by decide
  have hliteral : literal ∈ ({} : Lexer).lex text := by decide +kernel
  have hname : name ∈ ({} : Lexer).lex text := by decide +kernel
  have hnot : ∀ name, ¬ IsOfOperation {} text name literal := by
    rintro name ⟨line, before, c, rest, -, -, -, hmem⟩
    simp [Lexeme.tokens, literal] at hmem
  have hline : Text.IsLine text.toList 0 "cir.cir.x // c".toList :=
    Text.getElem?_lines_eq_some_iff.1 (by decide)
  have hcode : Comment.code "cir.cir.x // c".toList = 'c' :: "ir.cir.x ".toList := by decide
  have hof : IsOfOperation {} text "cir" name := by
    refine ⟨_, [], 'c', "ir.cir.x ".toList, hline, ?_, by decide, by decide⟩
    rw [hcode]
    exact .start
  exact ⟨hsize, hliteral, hnot, (tokens_read_alone {} hsize hliteral).1 hnot, hname, hof,
    (tokens_read_alone {} hsize hname).2 "cir" hof⟩

end Lexer

end CirHighlight
