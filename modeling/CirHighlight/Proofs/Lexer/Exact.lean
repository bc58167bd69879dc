import CirHighlight.Proofs.Lexer.Boundary
import CirHighlight.Proofs.Lexer.Tiling

namespace CirHighlight

namespace Exact

/-- A token with a place that is counted without bound. -/
structure Token where
  line : Nat
  column : Nat
  text : String
  category : Option Category
  modifiers : Modifiers := .empty
deriving DecidableEq

namespace Token

def length (token : Token) : Nat :=
  Text.unitCount token.text.toList

def endColumn (token : Token) : Nat :=
  token.column + token.length

end Token

def tokens (line column : Nat) : Lexeme → List Token
  | .gap _ => []
  | .single text category => [{ line, column, text := String.ofList text, category }]
  | .operation name =>
    [{ line, column, text := String.ofList Lexeme.operationNamespace,
       category := some .namespaceName },
      { line, column := column + 4, text := String.ofList name, category := some .function }]

def place (line : Nat) : Nat → List Lexeme → List Token
  | _, [] => []
  | column, piece :: rest =>
    tokens line column piece ++ place line (column + Text.unitCount piece.chars) rest

def lexLine (lexer : Lexer) (number : Nat) (line : List Char) : List Token :=
  let code := Comment.code line
  let tokens := place number 0 (Lexeme.scan lexer.lexicon code)
  match lexer.comments, Comment.comment? line with
  | true, some comment =>
    tokens ++
      [{ line := number, column := Text.unitCount code, text := String.ofList comment,
         category := some .comment }]
  | _, _ => tokens

def lexLines (lexer : Lexer) : Nat → List (List Char) → List Token
  | _, [] => []
  | number, line :: rest => lexLine lexer number line ++ lexLines lexer (number + 1) rest

/-- The tokens of a document, with places that are counted without bound. -/
def lex (lexer : Lexer) (text : String) : List Token :=
  lexLines lexer 0 (Text.lines text.toList)

end Exact

namespace Token

/-- A token with its place as numbers without bound. -/
def exact (token : Token) : Exact.Token where
  line := token.line.toNat
  column := token.column.toNat
  text := token.text
  category := token.category
  modifiers := token.modifiers

end Token

namespace Lexeme

theorem map_exact_tokens (line : UInt32) {column : UInt32} {piece : Lexeme}
    (hfits : column.toNat + Text.unitCount piece.chars < 2 ^ 32) :
    (piece.tokens line column).map Token.exact = Exact.tokens line.toNat column.toNat piece := by
  cases piece with
  | gap c => rfl
  | single text category => rfl
  | operation name =>
    rw [Exact.tokens, ← toNat_column_name hfits]
    rfl

theorem map_exact_place (line : UInt32) {column : UInt32} {pieces : List Lexeme}
    (hfits : column.toNat + Text.unitCount (pieces.flatMap chars) < 2 ^ 32) :
    (place line column pieces).map Token.exact = Exact.place line.toNat column.toNat pieces := by
  induction pieces generalizing column with
  | nil => rfl
  | cons piece rest ih =>
    rw [List.flatMap_cons, Text.unitCount_append, ← Nat.add_assoc] at hfits
    have hpiece := Nat.lt_of_le_of_lt (Nat.le_add_right _ _) hfits
    have hcolumn := Text.toNat_add_width hpiece
    rw [← hcolumn] at hfits
    rw [place, Exact.place, List.map_append, map_exact_tokens line hpiece, ih hfits, hcolumn]

end Lexeme

namespace Lexer

theorem map_exact_lexLine (lexer : Lexer) (number : UInt32) {line : List Char}
    (hfits : Text.unitCount line < 2 ^ 32) :
    (lexer.lexLine number line).map Token.exact =
      Exact.lexLine lexer number.toNat line := by
  have hcode : (Lexeme.scanLine lexer.lexicon number (Comment.code line)).map Token.exact =
      Exact.place number.toNat 0 (Lexeme.scan lexer.lexicon (Comment.code line)) := by
    apply Lexeme.map_exact_place
    rw [Lexeme.flatMap_chars_scan, UInt32.toNat_zero, Nat.zero_add]
    exact unitCount_code_lt hfits
  unfold Exact.lexLine
  rcases lexLine_cases lexer number line with ⟨hnone, heq⟩ | ⟨comment, hon, hcomment, heq⟩
  · rw [heq, hcode]
    rcases hnone with hoff | hnone
    · rw [hoff]
    · rw [hnone]
      cases lexer.comments with
      | false => rfl
      | true => rfl
  · rw [heq, List.map_append, hcode]
    simp only [hon, hcomment]
    rw [← column_commentToken hfits number comment]
    rfl

theorem map_exact_lexLines (lexer : Lexer) {number : UInt32} {lines : List (List Char)}
    (hfits : number.toNat + lines.length ≤ 2 ^ 32)
    (hwidth : ∀ line ∈ lines, Text.unitCount line < 2 ^ 32) :
    (lexer.lexLines number lines).map Token.exact =
      Exact.lexLines lexer number.toNat lines := by
  induction lines generalizing number with
  | nil => rfl
  | cons line rest ih =>
    obtain ⟨hline, hrest⟩ := List.forall_mem_cons.1 hwidth
    rw [lexLines, Exact.lexLines, List.map_append, map_exact_lexLine lexer number hline]
    by_cases hne : rest = []
    · rw [hne]
      rfl
    · have hnext := toNat_add_one hne hfits
      rw [List.length_cons] at hfits
      rw [ih (by omega) hrest, hnext]

theorem map_exact_lex (lexer : Lexer) {text : String}
    (hsize : Text.byteSize text.toList < 2 ^ 32) :
    (lexer.lex text).map Token.exact = Exact.lex lexer text :=
  map_exact_lexLines lexer (length_lines_fits hsize) fun _ => unitCount_lt_of_mem_lines hsize

end Lexer

end CirHighlight
