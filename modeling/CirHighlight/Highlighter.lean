import CirHighlight.Lexer
import CirHighlight.TokenStream.Encode

namespace CirHighlight

/-- A lexer together with a policy for words that it cannot classify. -/
structure Highlighter where
  lexer : Lexer := {}
  policy : Policy := .omit

namespace Highlighter

def highlight (highlighter : Highlighter) (text : String) : Except Disorder TokenStream :=
  TokenStream.encode highlighter.policy (highlighter.lexer.lex text)

/-- The tokens of a document that are emitted, with the categories they are emitted under. -/
def emitted (highlighter : Highlighter) (text : String) : List (Token × Category) :=
  (highlighter.lexer.lex text).filterMap fun token =>
    (highlighter.policy.resolve token.category).map (token, ·)

end Highlighter

end CirHighlight
