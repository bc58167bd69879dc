import CirHighlight.Lexeme.Literal
import CirHighlight.Lexicon
import CirHighlight.Token.Basic

/-!
The rules of the token grammar. Each rule reads one shape at the start of the rest of a line:

* a type, `!` and a word that `cir.` or `llvm.` may precede;
* a string literal;
* a number, decimal digits;
* an operation, `cir.` and a word;
* a name with the sigil `@`, `%` or `#`, and `cir.` perhaps between the two;
* a bare word, which the lexicon classifies.

A leading `cir.` or `llvm.` that no word follows is read as if it were not one.
-/

namespace CirHighlight

/-- A piece of a line: one character that belongs to no token, the text of one token, or an
operation, which gives a token for its namespace and one for its name. -/
inductive Lexeme where
  | gap (c : Char)
  | single (text : List Char) (category : Option Category)
  | operation (name : List Char)
deriving DecidableEq

namespace Lexeme

def operationNamespace : List Char := ['c', 'i', 'r']

def chars : Lexeme → List Char
  | .gap c => [c]
  | .single text _ => text
  | .operation name => operationNamespace ++ '.' :: name

def tokens (line column : UInt32) : Lexeme → List Token
  | .gap _ => []
  | .single text category => [{ line, column, text := String.ofList text, category }]
  | .operation name =>
    [{ line, column, text := String.ofList operationNamespace, category := some .namespaceName },
      { line, column := column + 4, text := String.ofList name, category := some .function }]

end Lexeme

/-- A rule of the grammar: what it reads at the start of the rest of a line, if anything. -/
abbrev Rule := Lexicon → List Char → Option Lexeme

namespace Rule

/-- The characters of words: ASCII letters, digits and the underscore. -/
def isWordChar (c : Char) : Bool :=
  c.isAlphanum || c = '_'

def word (text : List Char) : List Char :=
  text.takeWhile isWordChar

def strip? (start text : List Char) : Option (List Char) :=
  if start.isPrefixOf text then some (text.drop start.length) else none

/-- A word with a qualifier before it, if a word follows that qualifier. -/
def qualified? (qualifier text : List Char) : Option (List Char) :=
  match strip? qualifier text with
  | none => none
  | some rest => if (word rest).isEmpty then none else some (qualifier ++ word rest)

/-- The word, perhaps empty, at the start of a text, together with the first of the qualifiers
that stands before it. -/
def qualifiedWord (qualifiers : List (List Char)) (text : List Char) : List Char :=
  (qualifiers.findSome? (qualified? · text)).getD (word text)

def cirQualifier : List Char := ['c', 'i', 'r', '.']

def llvmQualifier : List Char := ['l', 'l', 'v', 'm', '.']

/-- A token with the given text, unless the text is only its mark. -/
def marked (mark : Char) (body : List Char) (category : Category) : Option Lexeme :=
  if body.isEmpty then none else some (.single (mark :: body) (some category))

def type : Rule
  | _, '!' :: rest => marked '!' (qualifiedWord [cirQualifier, llvmQualifier] rest) .typeName
  | _, _ => none

/-- A string literal, to its closing quote or to the end of the line. -/
def string : Rule
  | _, '"' :: rest => some (.single ('"' :: rest.take (Literal.closingChars 0 rest)) (some .string))
  | _, _ => none

def number : Rule
  | _, text =>
    let digits := text.takeWhile Char.isDigit
    if digits.isEmpty then none else some (.single digits (some .number))

def operation : Rule
  | _, text =>
    match strip? cirQualifier text with
    | none => none
    | some rest => if (word rest).isEmpty then none else some (.operation (word rest))

def sigilCategory? : Char → Option Category
  | '@' => some .function
  | '%' => some .variableName
  | '#' => some .enumMember
  | _ => none

def sigil : Rule
  | _, [] => none
  | _, c :: rest =>
    match sigilCategory? c with
    | none => none
    | some category => marked c (qualifiedWord [cirQualifier] rest) category

def bareWord : Rule
  | lexicon, text =>
    if (word text).isEmpty then none
    else some (.single (word text) (lexicon.classify (String.ofList (word text))))

def all : List Rule :=
  [type, string, number, operation, sigil, bareWord]

end Rule

end CirHighlight
