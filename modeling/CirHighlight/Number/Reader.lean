import CirHighlight.Number.Binary64
import CirHighlight.Number.Word64
import CirHighlight.Text.Ascii
import CirHighlight.Text.Reader

namespace CirHighlight.Number

open Reader

def sign : Reader Bool := do
  match ← maybe (satisfy fun c => c = '+' || c = '-') with
  | some '-' => return true
  | _ => return false

def integer : Reader Int := do
  let negative ← sign
  let value := Text.decimalValue (← takeWhile1 Char.isDigit)
  return if negative then -value else value

def integer? (text : String) : Option Int :=
  (run? integer text.toList).filter isSigned64

/-- Digits with an optional point and an optional power of ten, as a whole number and a power of
ten. At least one digit must stand before the power. -/
def decimal : Reader (Nat × Int) := do
  let whole ← takeWhile Char.isDigit
  let fraction ← maybe do
    char '.'
    takeWhile Char.isDigit
  let fraction := fraction.getD []
  if whole.isEmpty && fraction.isEmpty then failure
  let power ← maybe do
    let _ ← satisfy fun c => c = 'e' || c = 'E'
    integer
  return (Text.decimalValue (whole ++ fraction), power.getD 0 - fraction.length)

/-- A double-precision number without its sign, as a function of it. -/
def unsignedReal : Reader (Bool → Binary64) := fun text =>
  let lower := Text.asciiLower text
  if lower = "inf".toList ∨ lower = "infinity".toList then some (.infinite, [])
  else if lower = "nan".toList then some (fun _ => .nan, [])
  else (decimal text).map fun ((digits, power), rest) => ((Binary64.ofDecimal · digits power), rest)

def real? (text : String) : Option Binary64 :=
  run? (do let negative ← sign; return (← unsignedReal) negative) text.toList

end CirHighlight.Number
