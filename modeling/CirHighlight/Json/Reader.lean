import CirHighlight.Json.Basic
import CirHighlight.Number.Word64
import CirHighlight.Text.Ascii
import CirHighlight.Text.Reader

namespace CirHighlight.Json

open Reader

def blanks : Reader Unit :=
  skipWhile fun c => c = ' ' || c = '\t' || c = '\n' || c = '\r'

def hex4? : List Char → Option (Nat × List Char)
  | a :: b :: c :: d :: rest => do
    let a ← Text.hexValue? a
    let b ← Text.hexValue? b
    let c ← Text.hexValue? c
    let d ← Text.hexValue? d
    return (((a * 16 + b) * 16 + c) * 16 + d, rest)
  | _ => none

def escaped? : Char → Option Char
  | '"' => some '"'
  | '\\' => some '\\'
  | '/' => some '/'
  | 'b' => some '\x08'
  | 'f' => some '\x0c'
  | 'n' => some '\n'
  | 'r' => some '\r'
  | 't' => some '\t'
  | _ => none

/-- The character of an escape by number, of which one half of a pair may be all. -/
def unicodeEscape? (text : List Char) : Option (Char × List Char) := do
  let (high, rest) ← hex4? text
  if 0xD800 ≤ high ∧ high < 0xDC00 then
    match rest with
    | '\\' :: 'u' :: rest =>
      let (low, rest) ← hex4? rest
      if 0xDC00 ≤ low ∧ low < 0xE000 then
        return (Char.ofNat (0x10000 + (high - 0xD800) * 0x400 + (low - 0xDC00)), rest)
      else none
    | _ => none
  else if 0xDC00 ≤ high ∧ high < 0xE000 then none
  else return (Char.ofNat high, rest)

def quotedChar? : List Char → Option (Char × List Char)
  | '\\' :: 'u' :: rest => unicodeEscape? rest
  | '\\' :: c :: rest => (escaped? c).map (·, rest)
  | c :: rest => if c.toNat < 0x20 || c = '"' || c = '\\' then none else some (c, rest)
  | [] => none

def quoted : Reader String := do
  char '"'
  let chars ← many quotedChar?
  char '"'
  return String.ofList chars

def wholeDigits : Reader (List Char) := do
  let digits ← takeWhile1 Char.isDigit
  if digits.head? = some '0' && digits.length ≠ 1 then failure else return digits

/-- The fraction and the exponent of a number, as they are written. -/
def fraction : Reader (List Char) := do
  let point ← maybe do
    char '.'
    return '.' :: (← takeWhile1 Char.isDigit)
  let power ← maybe do
    let mark ← satisfy fun c => c = 'e' || c = 'E'
    let sign ← maybe (satisfy fun c => c = '+' || c = '-')
    return mark :: (sign.toList ++ (← takeWhile1 Char.isDigit))
  return point.getD [] ++ power.getD []

def number : Reader Json := do
  let minus ← maybe (char '-')
  let digits ← wholeDigits
  let more ← fraction
  let value := Text.decimalValue digits
  let literal := (if minus.isSome then ['-'] else []) ++ digits ++ more
  if more.isEmpty then
    match minus with
    | none => if Number.isUnsigned64 value then return .integer value
    | some _ => if value ≠ 0 && Number.isSigned64 (-value) then return .integer (-value)
  return .real (String.ofList literal)

def named (word : String) (json : Json) : Reader Json := do
  exactly word.toList
  return json

def itemsUntil {α : Type} (close : Char) (item : Reader α) : Reader (List α) := do
  blanks
  let items ← maybe (sepBy1 (do let a ← item; blanks; return a) (do char ','; blanks))
  char close
  return items.getD []

def valueUpTo : Nat → Reader Json
  | 0 => named "null" .null <|> named "true" (.bool true) <|> named "false" (.bool false) <|>
      (.string <$> quoted) <|> number
  | depth + 1 => do
    match ← peek? with
    | some '[' =>
      char '['
      return .array (← itemsUntil ']' (valueUpTo depth))
    | some '\x7b' =>
      char '\x7b'
      return .object (← itemsUntil '\x7d' do
        let name ← quoted
        blanks
        char ':'
        blanks
        return (name, ← valueUpTo depth))
    | _ => valueUpTo 0

def read? (text : String) : Option Json :=
  Reader.run? (do blanks; let json ← valueUpTo 127; blanks; return json) text.toList

end CirHighlight.Json
