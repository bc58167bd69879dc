/-!
String literals. A literal starts with a quote and ends with the first later quote that has an
even number of escapes directly before it, or with the line. The rule is stated for any alphabet,
because it is used on the characters of a line and on its bytes.
-/

namespace CirHighlight.Literal

/-- How many symbols after the opening quote belong to a literal, its closing quote included.
`run` is the number of escapes directly before the next symbol. -/
def closing {α : Type} [DecidableEq α] (quote escape : α) (run : Nat) : List α → Nat
  | [] => 0
  | x :: rest =>
    if x = escape then closing quote escape (run + 1) rest + 1
    else if x = quote ∧ run % 2 = 0 then 1
    else closing quote escape 0 rest + 1

theorem closing_le {α : Type} [DecidableEq α] (quote escape : α) (run : Nat) (text : List α) :
    closing quote escape run text ≤ text.length := by
  induction text generalizing run with
  | nil => simp [closing]
  | cons x rest ih =>
    have := ih (run + 1)
    have := ih 0
    simp only [closing, List.length_cons]
    split <;> (try split) <;> omega

/-- Length of a literal's text after its opening quote, in characters. -/
def closingChars (run : Nat) (text : List Char) : Nat :=
  closing '"' '\\' run text

def quoteByte : UInt8 := 0x22

def escapeByte : UInt8 := 0x5C

/-- The byte index just after the literal that opens at the index `start`. There is none when
the line has no byte at that index. -/
def endByte? (line : String) (start : Nat) : Option Nat :=
  let bytes := line.toUTF8.data.toList
  if start < bytes.length then
    some (start + 1 + closing quoteByte escapeByte 0 (bytes.drop (start + 1)))
  else none

end CirHighlight.Literal
