namespace CirHighlight.Uri.Punycode

def digitChar (digit : Nat) : Char :=
  if digit < 26 then Char.ofNat ('a'.toNat + digit) else Char.ofNat ('0'.toNat + (digit - 26))

def digit? (c : Char) : Option Nat :=
  if c.isDigit then some (c.toNat - '0'.toNat + 26)
  else if c.isAlpha then some (c.toLower.toNat - 'a'.toNat)
  else none

/-- The least digit at a place that is followed by others; places count from one. -/
def threshold (bias place : Nat) : Nat :=
  max 1 (min 26 (36 * place - bias))

def biasOf (number : Nat) : Nat :=
  if 455 < number then 36 + biasOf (number / 35) else 36 * number / (number + 38)
termination_by number
decreasing_by exact Nat.div_lt_self (by omega) (by omega)

/-- The bias after a number was written for one of `count` characters. -/
def adapt (first : Bool) (number count : Nat) : Nat :=
  let number := number / if first then 700 else 2
  biasOf (number + number / count)

def digits (bias place number : Nat) : List Char :=
  let least := threshold bias place
  if number < least then [digitChar number]
  else
    digitChar (least + (number - least) % (36 - least)) ::
      digits bias (place + 1) ((number - least) / (36 - least))
termination_by number
decreasing_by
  have positive : 1 ≤ threshold bias place := Nat.le_max_left ..
  have smaller :=
    Nat.div_le_self (number - threshold bias place) (36 - threshold bias place)
  omega

structure Writer where
  /-- The characters written, of those that are not ASCII and of all. -/
  first : Bool := true
  count : Nat
  distance : Nat := 0
  bias : Nat := 72
  written : List Char := []

namespace Writer

/-- Passes a character of the text while those with the number `point` are written. -/
def pass (point : Nat) (writer : Writer) (c : Char) : Writer :=
  if c.toNat < point then { writer with distance := writer.distance + 1 }
  else if c.toNat = point then
    { first := false
      count := writer.count + 1
      distance := 0
      bias := adapt writer.first writer.distance (writer.count + 1)
      written := writer.written ++ digits writer.bias 1 writer.distance }
  else writer

/-- Writes the characters of a text whose numbers are given in order; those below `next` are
done. -/
def points (text : List Char) (next : Nat) (writer : Writer) : List Nat → Writer
  | [] => writer
  | point :: rest =>
    let distance := writer.distance + (point - next) * (writer.count + 1)
    let writer := text.foldl (pass point) { writer with distance }
    points text (point + 1) { writer with distance := writer.distance + 1 } rest

end Writer

def encode (text : List Char) : List Char :=
  let basic := text.filter (·.toNat < 0x80)
  let others := ((text.map Char.toNat).filter (0x80 ≤ ·)).mergeSort.eraseDups
  let writer := Writer.points text 0x80 { count := basic.length } others
  basic ++ (if basic.isEmpty then [] else ['-']) ++ writer.written

structure Reader where
  text : List Char
  /-- The number of the character that comes next, and its place in the text. -/
  point : Nat := 0x80
  index : Nat := 0
  /-- The number that is being read, its next place and what a digit there counts. -/
  number : Nat := 0
  place : Nat := 1
  weight : Nat := 1
  bias : Nat := 72
  first : Bool := true

namespace Reader

def insert? (reader : Reader) : Option Reader :=
  let count := reader.text.length + 1
  let total := reader.index + reader.number
  let point := reader.point + total / count
  let index := total % count
  if point.isValidChar then
    some
      { text := reader.text.take index ++ Char.ofNat point :: reader.text.drop index
        point
        index := index + 1
        bias := adapt reader.first reader.number count
        first := false }
  else none

def step? (reader : Reader) (c : Char) : Option Reader := do
  let digit ← digit? c
  let least := threshold reader.bias reader.place
  let reader := { reader with number := reader.number + digit * reader.weight }
  if digit < least then reader.insert?
  else
    some
      { reader with place := reader.place + 1, weight := reader.weight * (36 - least) }

end Reader

def decode? (written : List Char) : Option (List Char) := do
  let (digitsReversed, basicReversed) := written.reverse.span (· ≠ '-')
  let (basic, digits) :=
    if basicReversed.length ≤ 1 then ([], written)
    else (basicReversed.tail.reverse, digitsReversed.reverse)
  let reader ← digits.foldlM Reader.step? { text := basic }
  if reader.place = 1 ∧ basic.all (·.toNat < 0x80) then some reader.text else none

end CirHighlight.Uri.Punycode
