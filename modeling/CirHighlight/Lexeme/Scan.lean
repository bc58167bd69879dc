import CirHighlight.Lexeme.Rule

namespace CirHighlight.Lexeme

def first (rules : List Rule) (lexicon : Lexicon) (c : Char) (rest : List Char) : Lexeme :=
  (rules.findSome? (· lexicon (c :: rest))).getD (.gap c)

/-- The pieces of a text, read with the given rules. A piece takes its first character at
least. -/
def scanWith (rules : List Rule) (lexicon : Lexicon) : List Char → List Lexeme
  | [] => []
  | c :: rest =>
    let piece := first rules lexicon c rest
    piece :: scanWith rules lexicon (rest.drop (piece.chars.length - 1))
termination_by text => text.length
decreasing_by
  simp only [List.length_drop, List.length_cons]
  omega

def scan (lexicon : Lexicon) (text : List Char) : List Lexeme :=
  scanWith Rule.all lexicon text

/-- The tokens of consecutive pieces of a line, the first of which starts at a column. -/
def place (line : UInt32) : UInt32 → List Lexeme → List Token
  | _, [] => []
  | column, piece :: rest =>
    piece.tokens line column ++ place line (column + Text.width piece.chars) rest

def scanLine (lexicon : Lexicon) (line : UInt32) (text : List Char) : List Token :=
  place line 0 (scan lexicon text)

end CirHighlight.Lexeme
