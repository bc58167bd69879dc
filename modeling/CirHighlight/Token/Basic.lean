import CirHighlight.Text.Width
import CirHighlight.Token.Category

namespace CirHighlight

/-- A piece of a line with its place, in 32-bit UTF-16 units, and its meaning. A bare word that
no word list knows has no category. -/
structure Token where
  line : UInt32
  column : UInt32
  text : String
  category : Option Category
  modifiers : Modifiers := .empty
deriving DecidableEq

namespace Token

def length (token : Token) : UInt32 :=
  Text.width token.text.toList

def endColumn (token : Token) : UInt32 :=
  token.column + token.length

end Token

end CirHighlight
