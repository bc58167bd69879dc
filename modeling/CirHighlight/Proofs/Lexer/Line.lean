import CirHighlight.Lexer
import CirHighlight.Proofs.Lexeme.Comment
import CirHighlight.Proofs.Lexeme.Scan

namespace CirHighlight

namespace Lexer

variable {lexer : Lexer} {number : UInt32} {line : List Char}

def commentToken (number : UInt32) (line comment : List Char) : Token :=
  { line := number, column := Text.width (Comment.code line), text := String.ofList comment,
    category := some .comment }

/-- The token of the comment of a line, if it has one and comments are emitted. -/
def commentTokens (comments : Bool) (number : UInt32) (line : List Char) : List Token :=
  if comments then (Comment.comment? line).toList.map (commentToken number line) else []

theorem lexLine_eq_append (lexer : Lexer) (number : UInt32) (line : List Char) :
    lexer.lexLine number line =
      Lexeme.scanLine lexer.lexicon number (Comment.code line) ++
        commentTokens lexer.comments number line := by
  unfold lexLine commentTokens
  cases lexer.comments with
  | false => exact (List.append_nil _).symm
  | true =>
    cases Comment.comment? line with
    | none => exact (List.append_nil _).symm
    | some comment => rfl

theorem lexLine_cases (lexer : Lexer) (number : UInt32) (line : List Char) :
    ((lexer.comments = false ∨ Comment.comment? line = none) ∧
      lexer.lexLine number line =
        Lexeme.scanLine lexer.lexicon number (Comment.code line)) ∨
    ∃ comment, lexer.comments = true ∧ Comment.comment? line = some comment ∧
      lexer.lexLine number line =
        Lexeme.scanLine lexer.lexicon number (Comment.code line) ++
          [commentToken number line comment] := by
  unfold lexLine
  cases hcomments : lexer.comments with
  | false => exact .inl ⟨.inl rfl, rfl⟩
  | true =>
    cases hcomment : Comment.comment? line with
    | none => exact .inl ⟨.inr rfl, rfl⟩
    | some comment => exact .inr ⟨comment, rfl, rfl, rfl⟩

theorem of_mem_lexLine {token : Token} (h : token ∈ lexer.lexLine number line) :
    token.line = number ∧ token.modifiers = .empty := by
  rcases lexLine_cases lexer number line with ⟨-, heq⟩ | ⟨comment, -, -, heq⟩
  · rw [heq] at h
    exact Lexeme.of_mem_place h
  · rw [heq] at h
    rcases List.mem_append.1 h with h | h
    · exact Lexeme.of_mem_place h
    · rw [List.mem_singleton.1 h]
      exact ⟨rfl, rfl⟩

theorem line_of_mem_lexLine {token : Token} (h : token ∈ lexer.lexLine number line) :
    token.line = number :=
  (of_mem_lexLine h).1

section Fits

variable (hfits : Text.unitCount line < 2 ^ 32)
include hfits

theorem unitCount_code_lt : Text.unitCount (Comment.code line) < 2 ^ 32 := by
  have hle : Text.unitCount (Comment.code line) ≤ Text.unitCount line :=
    Text.unitCount_le_of_isPrefix (List.take_prefix _ _)
  exact Nat.lt_of_le_of_lt hle hfits

theorem column_commentToken (number : UInt32) (comment : List Char) :
    (commentToken number line comment).column.toNat = Text.unitCount (Comment.code line) :=
  Text.toNat_width_of_lt (unitCount_code_lt hfits)

theorem tiled_lexLine (lexer : Lexer) (number : UInt32) :
    Tiled (fun _ _ => True) 0 line (lexer.lexLine number line) := by
  have hcode := (Lexeme.tiled_scanLine lexer.lexicon number (unitCount_code_lt hfits)).forget
  rcases lexLine_cases lexer number line with ⟨-, heq⟩ | ⟨comment, -, hcomment, heq⟩
  · have happend := hcode.append (.skip (fun _ _ => trivial) _
      (line.drop (Comment.codeLength .code line)))
    rw [Comment.code, List.take_append_drop, List.append_nil] at happend
    rwa [heq]
  · obtain ⟨hne, hline⟩ := Comment.code_append_of_comment? hcomment
    have hlast : Tiled (fun _ _ => True) (commentToken number line comment).column.toNat
        (comment ++ []) [commentToken number line comment] :=
      .place number (some .comment) hne .nil
    rw [column_commentToken hfits, List.append_nil] at hlast
    rw [← Nat.zero_add (Text.unitCount _)] at hlast
    have happend := hcode.append hlast
    rw [hline] at happend
    rwa [heq]

theorem covered_lexLine (lexer : Lexer) (number : UInt32) {front rest : List Char} {c : Char}
    (hcode : Comment.code line = front ++ c :: rest) :
    (∃ token, (lexer.lexLine number line).filter (·.covers (Text.unitCount front)) = [token]) ∨
      ((lexer.lexLine number line).filter (·.covers (Text.unitCount front)) = [] ∧
        Rule.Skipped c rest) := by
  have hcovered :=
    (Lexeme.tiled_scanLine lexer.lexicon number (unitCount_code_lt hfits)).covered hcode
  rw [Nat.zero_add] at hcovered
  rcases lexLine_cases lexer number line with ⟨-, heq⟩ | ⟨comment, -, -, heq⟩
  · rwa [heq]
  · have hcolumn := column_commentToken hfits number comment
    rw [hcode, Text.unitCount_append, Text.unitCount_cons] at hcolumn
    have hpos := Text.units_pos c
    have hnot : (commentToken number line comment).covers (Text.unitCount front) = false := by
      simp only [Token.covers, Bool.and_eq_false_iff, decide_eq_false_iff_not]
      omega
    rw [heq, List.filter_append, List.filter_cons, hnot]
    simpa using hcovered

theorem bounds_lexLine_of_comments_eq_false (hoff : lexer.comments = false) {token : Token}
    (hmem : token ∈ lexer.lexLine number line) :
    token.column.toNat + Text.unitCount token.text.toList ≤
      Text.unitCount (Comment.code line) := by
  rcases lexLine_cases lexer number line with ⟨-, heq⟩ | ⟨comment, hon, -, -⟩
  · rw [heq] at hmem
    have hcode := Lexeme.tiled_scanLine lexer.lexicon number (unitCount_code_lt hfits)
    have hbounds := (hcode.bounds hmem).2
    rwa [Nat.zero_add] at hbounds
  · rw [hoff] at hon
    cases hon

end Fits

theorem lexLine_of_comment? (hon : lexer.comments = true) {comment : List Char}
    (hcomment : Comment.comment? line = some comment) :
    lexer.lexLine number line =
      Lexeme.scanLine lexer.lexicon number (Comment.code line) ++
        [commentToken number line comment] := by
  rcases lexLine_cases lexer number line with ⟨hoff | hnone, -⟩ | ⟨found, -, hfound, heq⟩
  · rw [hon] at hoff
    cases hoff
  · rw [hcomment] at hnone
    cases hnone
  · rw [hcomment] at hfound
    rwa [Option.some.inj hfound]

end Lexer

end CirHighlight
