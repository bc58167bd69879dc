import CirHighlight.Lexeme.Comment
import CirHighlight.Lexeme.Scan
import CirHighlight.Text.Lines

namespace CirHighlight

structure Lexer where
  lexicon : Lexicon := .builtin
  comments : Bool := true

namespace Lexer

def lexLine (lexer : Lexer) (number : UInt32) (line : List Char) : List Token :=
  let code := Comment.code line
  let tokens := Lexeme.scanLine lexer.lexicon number code
  match lexer.comments, Comment.comment? line with
  | true, some comment =>
    tokens ++
      [{ line := number, column := Text.width code, text := String.ofList comment,
         category := some .comment }]
  | _, _ => tokens

/-- The tokens of consecutive lines, the first of which has a number. -/
def lexLines (lexer : Lexer) : UInt32 → List (List Char) → List Token
  | _, [] => []
  | number, line :: rest => lexer.lexLine number line ++ lexLines lexer (number + 1) rest

def lex (lexer : Lexer) (text : String) : List Token :=
  lexer.lexLines 0 (Text.lines text.toList)

end Lexer

end CirHighlight
