import CirHighlight.Text.Ascii

namespace CirHighlight.Uri.Address

def value? (base : Nat) (digits : List Char) : Option Nat :=
  digits.foldlM
    (fun value c => do
      let digit ← Text.hexValue? c
      if digit < base then some (value * base + digit) else none)
    0

/-- A number of an address: hexadecimal after `0x`, octal after another zero, else decimal. -/
def number? : List Char → Option Nat
  | [] => none
  | ['0'] => some 0
  | '0' :: c :: digits => if c = 'x' ∨ c = 'X' then value? 16 digits else value? 8 (c :: digits)
  | digits => value? 10 digits

/-- The parts of a name between points; a point at the end closes the last part. -/
def parts (name : List Char) : List (List Char) :=
  let parts := Text.splitWhere (· = '.') name
  if 1 < parts.length ∧ parts.getLast? = some [] then parts.dropLast else parts

def isNumeric (name : List Char) : Bool :=
  match (parts name).getLast? with
  | none | some [] => false
  | some last => last.all Char.isDigit || (number? last).isSome

/-- The bytes of an address from its numbers, of which the last fills all that is left. -/
def bytes? (count : Nat) : List Nat → Option (List Nat)
  | [] => none
  | [last] =>
    if last < 1 <<< (8 * count) then
      some ((List.range count).reverse.map fun place => last >>> (8 * place) % 256)
    else none
  | number :: rest =>
    if 1 < count ∧ number < 256 then (bytes? (count - 1) rest).map (number :: ·) else none

def four? (name : List Char) : Option (List Nat) :=
  ((parts name).mapM number?).bind (bytes? 4)

def byte? (digits : List Char) : Option Nat :=
  match digits with
  | [] => none
  | first :: rest =>
    if first = '0' ∧ !rest.isEmpty then none
    else (value? 10 digits).filter (· < 256)

/-- A piece of an address of 128 bits: one to four hexadecimal digits. -/
def piece? (digits : List Char) : Option Nat :=
  if digits.isEmpty ∨ 4 < digits.length then none else value? 16 digits

/-- Pieces of an address of 128 bits; the last two may be four bytes between points. -/
def pieces? (closing : Bool) (text : List Char) : Option (List Nat) :=
  if text.isEmpty then some []
  else
    let texts := Text.splitWhere (· = ':') text
    match closing, (Text.splitWhere (· = '.') (texts.getLast?.getD [])).mapM byte? with
    | true, some [a, b, c, d] =>
      (texts.dropLast.mapM piece?).map (· ++ [a * 256 + b, c * 256 + d])
    | _, _ => texts.mapM piece?

def gap? : List Char → Option (List Char × List Char)
  | [] => none
  | ':' :: ':' :: rest => some ([], rest)
  | c :: rest => (gap? rest).map fun (before, after) => (c :: before, after)

/-- The eight pieces of an address of 128 bits. Two colons in a row stand for one or more pieces
that are zero. -/
def six? (text : List Char) : Option (List Nat) :=
  match gap? text with
  | none => (pieces? true text).filter (·.length = 8)
  | some (before, after) => do
    let before ← pieces? false before
    let after ← pieces? true after
    let given := before.length + after.length
    if given < 8 then some (before ++ List.replicate (8 - given) 0 ++ after) else none

def renderFour (bytes : List Nat) : List Char :=
  ['.'].intercalate (bytes.map fun byte => (toString byte).toList)

def renderSix (pieces : List Nat) : List Char :=
  ['['] ++ [':'].intercalate (pieces.map (Nat.toDigits 16)) ++ [']']

end CirHighlight.Uri.Address
