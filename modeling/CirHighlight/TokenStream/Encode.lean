import CirHighlight.TokenStream.Basic

namespace CirHighlight

inductive Policy where
  | omit
  | fallback (category : Category)
deriving DecidableEq

namespace Policy

def resolve (policy : Policy) (category : Option Category) : Option Category :=
  match category, policy with
  | some category, _ => some category
  | none, .omit => none
  | none, .fallback category => some category

/-- Reads a policy: `omit`, or the name of the category to fall back to. -/
def read (name : String) : Except UnknownCategory Policy :=
  if name = "omit" then .ok .omit
  else (Category.read name).map .fallback

end Policy

/-- A token that does not start after the token before it, with the places of both. -/
structure Disorder where
  index : Nat
  line : UInt32
  column : UInt32
  previousLine : UInt32
  previousColumn : UInt32
  previousEnd : UInt32
deriving DecidableEq

def Disorder.message (disorder : Disorder) : String :=
  "token " ++ toString disorder.index ++ " at " ++ toString disorder.line.toNat ++ ":" ++
    toString disorder.column.toNat ++ " does not start after the previous token (" ++
    toString disorder.previousLine.toNat ++ ":" ++ toString disorder.previousColumn.toNat ++
    ", ends at column " ++ toString disorder.previousEnd.toNat ++ ")"

namespace Token

/-- Whether a token starts on a later line than another one, or on the same line after its start
and not before its end. -/
def follows (token previous : Token) : Bool :=
  previous.line < token.line ||
    (previous.line = token.line && previous.column < token.column &&
      previous.endColumn ≤ token.column)

/-- The first token that does not follow the token before it. The first token of the list, which
comes after `previous`, has the given index. -/
def disorderAfter? (previous : Token) (index : Nat) : List Token → Option Disorder
  | [] => none
  | token :: rest =>
    if token.follows previous then disorderAfter? token (index + 1) rest
    else
      some
        { index, line := token.line, column := token.column, previousLine := previous.line,
          previousColumn := previous.column, previousEnd := previous.endColumn }

/-- The first token of a list that does not follow the token before it. -/
def disorder? : List Token → Option Disorder
  | [] => none
  | token :: rest => disorderAfter? token 1 rest

def entry? (policy : Policy) (token : Token) : Option Entry :=
  (policy.resolve token.category).map fun category =>
    { line := token.line, column := token.column, length := token.length,
      category := category.index, modifiers := token.modifiers.bits }

end Token

def TokenStream.encode (policy : Policy) (tokens : List Token) : Except Disorder TokenStream :=
  match Token.disorder? tokens with
  | some disorder => .error disorder
  | none => .ok (ofEntries (tokens.filterMap (Token.entry? policy)))

end CirHighlight
