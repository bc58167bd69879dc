import CirHighlight.Text.Unicode.Composition

namespace CirHighlight.Text

namespace Hangul

def syllables : Nat := 0xAC00

def leads : Nat := 0x1100

def vowels : Nat := 0x1161

def trails : Nat := 0x11A7

def parts? (c : Char) : Option (List Char) :=
  let index := c.toNat - syllables
  if syllables ≤ c.toNat ∧ index < 19 * 21 * 28 then
    let lead := Char.ofNat (leads + index / (21 * 28))
    let vowel := Char.ofNat (vowels + index % (21 * 28) / 28)
    if index % 28 = 0 then some [lead, vowel]
    else some [lead, vowel, Char.ofNat (trails + index % 28)]
  else none

/-- The syllable of a leading consonant and a vowel, or of a syllable without trailing consonant
and one. -/
def composed? (a b : Char) : Option Char :=
  let lead := a.toNat - leads
  let vowel := b.toNat - vowels
  let index := a.toNat - syllables
  let trail := b.toNat - trails
  if leads ≤ a.toNat ∧ lead < 19 ∧ vowels ≤ b.toNat ∧ vowel < 21 then
    some (Char.ofNat (syllables + (lead * 21 + vowel) * 28))
  else if syllables ≤ a.toNat ∧ index < 19 * 21 * 28 ∧ index % 28 = 0 ∧ trails < b.toNat ∧
      trail < 28 then
    some (Char.ofNat (a.toNat + trail))
  else none

end Hangul

/-- What a character is composed of: itself, unless it is a composed letter. -/
def decompose (c : Char) : List Char :=
  (Hangul.parts? c <|> Unicode.parts? c).getD [c]

def compose? (a b : Char) : Option Char :=
  Hangul.composed? a b <|> Unicode.composed? (decompose a ++ [b])

/-- Puts a mark in its place among the marks before it, of which the last comes first. -/
def insertMark (mark : Char) : List Char → List Char
  | [] => [mark]
  | c :: rest =>
    if Unicode.markClass mark < Unicode.markClass c then c :: insertMark mark rest
    else mark :: c :: rest

/-- Puts the marks of a text in the order of their classes; `done` is the text before it, last
character first. -/
def orderMarks (done : List Char) : List Char → List Char
  | [] => done.reverse
  | c :: rest =>
    if Unicode.markClass c = 0 then orderMarks (c :: done) rest
    else orderMarks (insertMark c done) rest

/-- Composes a letter with the characters that follow it. A mark that another one of at least its
class parts from the letter stays; `kept` holds what stays after the letter, last character
first. -/
def composeFrom (letter : Char) (kept : List Char) : List Char → List Char
  | [] => letter :: kept.reverse
  | c :: rest =>
    let free := kept.head?.all fun last =>
      Unicode.markClass last ≠ 0 && Unicode.markClass last < Unicode.markClass c
    match if free then compose? letter c else none with
    | some composed => composeFrom composed kept rest
    | none =>
      if Unicode.markClass c = 0 then letter :: kept.reverse ++ composeFrom c [] rest
      else composeFrom letter (c :: kept) rest

/-- Composes the letters of a text; marks before the first letter stay. -/
def composeAll (text : List Char) : List Char :=
  match text.span (Unicode.markClass · ≠ 0) with
  | (marks, []) => marks
  | (marks, letter :: rest) => marks ++ composeFrom letter [] rest

def normalForm (text : List Char) : List Char :=
  composeAll (orderMarks [] (text.flatMap decompose))

end CirHighlight.Text
