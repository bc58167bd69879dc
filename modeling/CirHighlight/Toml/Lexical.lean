import CirHighlight.Text.Ascii
import CirHighlight.Text.Reader

namespace CirHighlight.Toml

open Reader

def isBlank (c : Char) : Bool :=
  c = ' ' || c = '\t'

/-- What may stand in comments and strings: all but control characters, and the tab. -/
def isPlain (c : Char) : Bool :=
  c = '\t' || (0x20 ≤ c.toNat && c.toNat ≠ 0x7F)

def blanks : Reader Unit :=
  skipWhile isBlank

def newline : Reader Unit :=
  exactly ['\n'] <|> exactly ['\r', '\n']

def comment : Reader Unit := do
  char '#'
  skipWhile isPlain

def lineEnd : Reader Unit := do
  blanks
  let _ ← maybe comment
  newline <|> atEnd

def gap : Reader Unit := do
  let _ ← many ((do let _ ← satisfy isBlank) <|> newline <|> (do comment; newline))

def hexDigits : Nat → Reader Nat
  | 0 => return 0
  | count + 1 => do
    let value ← hexDigits count
    match Text.hexValue? (← next) with
    | some digit => return value * 16 + digit
    | none => failure

def scalar (number : Nat) : Reader Char :=
  if number < 0xD800 ∨ (0xE000 ≤ number ∧ number < 0x110000) then return Char.ofNat number
  else failure

def escape : Reader Char := do
  char '\\'
  match ← next with
  | 'b' => return '\x08'
  | 't' => return '\t'
  | 'n' => return '\n'
  | 'f' => return '\x0c'
  | 'r' => return '\r'
  | '"' => return '"'
  | '\\' => return '\\'
  | 'u' => scalar (← hexDigits 4)
  | 'U' => scalar (← hexDigits 8)
  | _ => failure

def basicString : Reader String := do
  char '"'
  let chars ← many (escape <|> satisfy fun c => isPlain c && c ≠ '"' && c ≠ '\\')
  char '"'
  return String.ofList chars

/-- A string in single quotes on one line: its characters stand for themselves. -/
def literalString : Reader String := do
  char '\''
  let chars ← takeWhile fun c => isPlain c && c ≠ '\''
  char '\''
  return String.ofList chars

/-- A backslash at the end of a line, with all blanks and line ends after it. -/
def continuation : Reader Unit := do
  char '\\'
  blanks
  newline
  let _ ← many ((do let _ ← satisfy isBlank) <|> newline)

def innerQuotes (quote : Char) : Reader (List Char) := do
  let quotes ← takeWhile1 (· = quote)
  if quotes.length < 3 then return quotes else failure

/-- The quotes that end a string, with up to two more that belong to it. -/
def closingQuotes (quote : Char) : Reader (List Char) := do
  let quotes ← takeWhile (· = quote)
  if 3 ≤ quotes.length && quotes.length ≤ 5 then return quotes.drop 3 else failure

/-- A string between three quotes, made of the given pieces. A line end directly after the opening
quotes is left out, and other line ends are line feeds. -/
def multilineString (quote : Char) (piece : Reader (List Char)) : Reader String := do
  exactly [quote, quote, quote]
  let _ ← maybe newline
  let pieces ← many (piece <|> (do newline; return ['\n']) <|> innerQuotes quote)
  let last ← closingQuotes quote
  return String.ofList (pieces.flatten ++ last)

def multilineBasic : Reader String :=
  multilineString '"' <|
    (do continuation; return []) <|> (do return [← escape]) <|>
      takeWhile1 fun c => isPlain c && c ≠ '"' && c ≠ '\\'

def multilineLiteral : Reader String :=
  multilineString '\'' <| takeWhile1 fun c => isPlain c && c ≠ '\''

def string : Reader String := do
  let text ← rest
  if ['"', '"', '"'].isPrefixOf text then multilineBasic
  else if ['\'', '\'', '\''].isPrefixOf text then multilineLiteral
  else basicString <|> literalString

def keyPart : Reader String := do
  match ← peek? with
  | some '"' => basicString
  | some '\'' => literalString
  | _ => String.ofList <$> takeWhile1 fun c => c.isAlphanum || c = '_' || c = '-'

def key : Reader (List String) := do
  let parts ← sepBy1 (do blanks; let part ← keyPart; blanks; return part) (char '.')
  if parts.length < 80 then return parts else failure

end CirHighlight.Toml
