import CirHighlight.Number.Reader
import CirHighlight.Toml.Value

namespace CirHighlight.Toml

open Reader

/-- Digits that a test accepts, with single underscores between them. -/
def groupedDigits (test : Char → Bool) : Reader (List Char) := do
  let first ← satisfy test
  let more ← many (satisfy test <|> (do char '_'; satisfy test))
  return first :: more

def wholeDigits : Reader (List Char) := do
  let digits ← groupedDigits Char.isDigit
  if digits.head? = some '0' && digits.length ≠ 1 then failure else return digits

def inRange (value : Int) : Reader Value :=
  if Number.isSigned64 value then return .integer value else failure

def valueIn (base : Nat) (digits : List Char) : Nat :=
  digits.foldl (fun value c => value * base + (Text.hexValue? c).getD 0) 0

/-- A whole number to a base other than ten, after the mark of that base. -/
def based (mark : Char) (base : Nat) : Reader Value := do
  exactly ['0', mark]
  let digits ← groupedDigits fun c => (Text.hexValue? c).any (· < base)
  inRange (valueIn base digits)

def decimalInteger : Reader Value := do
  let negative ← Number.sign
  let value := Text.decimalValue (← wholeDigits)
  inRange (if negative then -value else value)

/-- A number with a fraction, an exponent or both. One too large for its format is refused, unless
it is negative. -/
def decimalReal : Reader Value := do
  let negative ← Number.sign
  let whole ← wholeDigits
  let fraction ← maybe do
    char '.'
    groupedDigits Char.isDigit
  let power ← maybe do
    let _ ← satisfy fun c => c = 'e' || c = 'E'
    let negative ← Number.sign
    let value := Text.decimalValue (← groupedDigits Char.isDigit)
    return if negative then -(value : Int) else value
  if fraction.isNone && power.isNone then failure
  let digits := Text.decimalValue (whole ++ fraction.getD [])
  let value := Binary64.ofDecimal negative digits (power.getD 0 - (fraction.getD []).length)
  if value = .infinite false then failure
  return .real value

def specialReal : Reader Value := do
  let negative ← Number.sign
  (do exactly ['i', 'n', 'f']; return .real (.infinite negative)) <|>
    (do exactly ['n', 'a', 'n']; return .real .nan)

def number : Reader Value :=
  decimalReal <|> specialReal <|> based 'x' 16 <|> based 'o' 8 <|> based 'b' 2 <|> decimalInteger

end CirHighlight.Toml
