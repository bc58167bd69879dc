namespace CirHighlight.Text

def hexValue? (c : Char) : Option Nat :=
  if c.isDigit then some (c.toNat - '0'.toNat)
  else if 'a' ≤ c ∧ c ≤ 'f' then some (c.toNat - 'a'.toNat + 10)
  else if 'A' ≤ c ∧ c ≤ 'F' then some (c.toNat - 'A'.toNat + 10)
  else none

def upperHexDigit (n : Nat) : Char :=
  if n < 10 then Char.ofNat ('0'.toNat + n) else Char.ofNat ('A'.toNat + (n - 10))

def lowerHexDigit (n : Nat) : Char :=
  if n < 10 then Char.ofNat ('0'.toNat + n) else Char.ofNat ('a'.toNat + (n - 10))

/-- The number written in decimal digits; a character that is no digit counts as its distance
from zero, so the text should hold digits only. -/
def decimalValue (digits : List Char) : Nat :=
  digits.foldl (fun value c => value * 10 + (c.toNat - '0'.toNat)) 0

/-- The pieces of a text between the characters that a test accepts; always one piece more than
there are such characters. -/
def splitWhere (test : Char → Bool) : List Char → List (List Char)
  | [] => [[]]
  | c :: rest =>
    match splitWhere test rest with
    | [] => [[]]
    | piece :: pieces => if test c then [] :: piece :: pieces else (c :: piece) :: pieces

def breakWhere (test : Char → Bool) (text : List Char) : List Char × List Char :=
  text.span (!test ·)

def asciiLower (text : List Char) : List Char :=
  text.map Char.toLower

end CirHighlight.Text
