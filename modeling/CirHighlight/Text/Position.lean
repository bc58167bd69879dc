import CirHighlight.Text.Lines
import CirHighlight.Text.Width

namespace CirHighlight

structure Position where
  line : UInt32
  character : UInt32
deriving DecidableEq

namespace Position

/-- How many characters stand up to and including the `n`-th line feed of a text, if it has that
many. -/
def lineStart? : Nat → List Char → Option Nat
  | 0, _ => some 0
  | _ + 1, [] => none
  | n + 1, c :: rest => (lineStart? (if c = '\n' then n else n + 1) rest).map (· + 1)

/-- What stands on the line at the start of a text: all up to a line feed or the end, less one
carriage return. -/
def lineContent (text : List Char) : List Char :=
  Text.stripReturn (text.takeWhile (· ≠ '\n'))

/-- How many characters of a line are needed to reach a column, when some units have been counted
before them. All are taken if they do not reach it. -/
def charactersTo (column counted : UInt32) : List Char → Nat
  | [] => 0
  | c :: rest =>
    if column ≤ counted then 0 else charactersTo column (counted + Text.units c) rest + 1

def index (position : Position) (text : List Char) : Nat :=
  match lineStart? position.line.toNat text with
  | none => text.length
  | some start => start + charactersTo position.character 0 (lineContent (text.drop start))

def offset (position : Position) (text : String) : Nat :=
  Text.byteSize (text.toList.take (position.index text.toList))

end Position

end CirHighlight
