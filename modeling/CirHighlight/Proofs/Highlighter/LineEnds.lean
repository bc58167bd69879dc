import Mathlib.Data.List.Infix
import CirHighlight.Proofs.Highlighter.Stream

namespace CirHighlight

namespace Text

/-- A text with a carriage return before each of its line feeds. -/
def withReturns (text : List Char) : List Char :=
  text.flatMap fun c => if c = '\n' then ['\r', '\n'] else [c]

theorem withReturns_newline (rest : List Char) :
    withReturns ('\n' :: rest) = '\r' :: '\n' :: withReturns rest := rfl

theorem withReturns_cons {c : Char} (hc : c ≠ '\n') (rest : List Char) :
    withReturns (c :: rest) = c :: withReturns rest := by
  rw [withReturns, List.flatMap_cons, if_neg hc]
  rfl

theorem stripReturn_concat (line : List Char) : stripReturn (line ++ ['\r']) = line := by
  rw [stripReturn, List.getLast?_concat, if_pos rfl, List.dropLast_concat]

theorem stripReturn_of_not_isInfix {line rest : List Char}
    (h : ¬ ['\r', '\n'] <:+: line ++ '\n' :: rest) : stripReturn line = line := by
  apply if_neg
  intro hlast
  obtain ⟨start, rfl⟩ := List.getLast?_eq_some_iff.1 hlast
  apply h
  refine ⟨start, rest, ?_⟩
  simp only [List.append_assoc, List.cons_append, List.nil_append]

theorem linesFrom_withReturns {current text : List Char}
    (h : ¬ ['\r', '\n'] <:+: current.reverse ++ text) :
    linesFrom current (withReturns text) = linesFrom current text := by
  induction text generalizing current with
  | nil => rfl
  | cons c rest ih =>
    by_cases hc : c = '\n'
    · subst hc
      have hrest : ¬ ['\r', '\n'] <:+: [].reverse ++ rest := by
        intro hinfix
        apply h
        have hlater : rest <:+ current.reverse ++ '\n' :: rest :=
          (List.suffix_cons '\n' rest).trans (List.suffix_append _ _)
        exact hinfix.trans hlater.isInfix
      -- The return that is added goes with the line feed; no other one stood there.
      simp only [withReturns_newline, linesFrom, Char.reduceEq, ↓reduceIte, List.reverse_cons]
      rw [stripReturn_concat, stripReturn_of_not_isInfix h, ih hrest]
    · rw [withReturns_cons hc, linesFrom, linesFrom, if_neg hc, if_neg hc]
      apply ih
      rwa [List.reverse_cons, List.append_assoc]

theorem lines_withReturns {text : List Char} (h : ¬ ['\r', '\n'] <:+: text) :
    lines (withReturns text) = lines text :=
  linesFrom_withReturns h

end Text

theorem Lexer.lex_withReturns (lexer : Lexer) {text : String}
    (h : ¬ ['\r', '\n'] <:+: text.toList) :
    lexer.lex (String.ofList (Text.withReturns text.toList)) = lexer.lex text := by
  rw [lex, String.toList_ofList, Text.lines_withReturns h, lex]

namespace Highlighter

/-- A document without returns before its line feeds has the same tokens and the same stream with a
return before each of them. -/
theorem line_ends_leave_no_trace (highlighter : Highlighter) {text : String}
    (hends : ¬ ['\r', '\n'] <:+: text.toList) (hsize : Text.byteSize text.toList < 2 ^ 32) :
    highlighter.lexer.lex (String.ofList (Text.withReturns text.toList)) =
        highlighter.lexer.lex text ∧
      ∃ stream, highlighter.highlight text = .ok stream ∧
        highlighter.highlight (String.ofList (Text.withReturns text.toList)) = .ok stream := by
  have hlex := highlighter.lexer.lex_withReturns hends
  obtain ⟨stream, hstream, -⟩ := exists_highlight_eq_ok hsize highlighter
  refine ⟨hlex, stream, hstream, ?_⟩
  rw [highlight, hlex]
  exact hstream

/-- A literal and a comment that reach to the ends of their lines, an empty line, returns that end
no line, and a last line without a line feed. -/
theorem line_ends_leave_no_trace_open_literal :
    let text := "\"open\n\n%x\r // c\n\"\r"
    ¬ ['\r', '\n'] <:+: text.toList ∧ Text.byteSize text.toList < 2 ^ 32 ∧
      ({} : Lexer).lex "\"open\r\n\r\n%x\r // c\r\n\"\r" = ({} : Lexer).lex text ∧
      ∃ stream, ({} : Highlighter).highlight text = .ok stream ∧
        ({} : Highlighter).highlight "\"open\r\n\r\n%x\r // c\r\n\"\r" = .ok stream ∧
        stream.length = 4 := by
  intro text
  have hends : ¬ ['\r', '\n'] <:+: text.toList := by decide
  have hsize : Text.byteSize text.toList < 2 ^ 32 := by decide
  have hreturns : String.ofList (Text.withReturns text.toList) =
      "\"open\r\n\r\n%x\r // c\r\n\"\r" := by decide
  obtain ⟨hlex, stream, hstream, hother⟩ := line_ends_leave_no_trace {} hends hsize
  rw [hreturns] at hlex hother
  have hfound : ({} : Highlighter).highlight text =
      .ok [⟨0, 0, 5, 9, 0⟩, ⟨2, 0, 2, 2, 0⟩, ⟨0, 4, 4, 4, 0⟩, ⟨1, 0, 2, 9, 0⟩] := by
    decide +kernel
  obtain rfl := Except.ok.inj (hfound.symm.trans hstream)
  exact ⟨hends, hsize, hlex, _, hstream, hother, rfl⟩

end Highlighter

end CirHighlight
