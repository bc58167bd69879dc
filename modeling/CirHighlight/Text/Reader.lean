namespace CirHighlight

abbrev Reader := StateT (List Char) Option

namespace Reader

variable {α : Type}

def rest : Reader (List Char) := get

def peek? : Reader (Option Char) := return (← get).head?

def next : Reader Char := fun text =>
  match text with
  | [] => none
  | c :: rest => some (c, rest)

def satisfy (test : Char → Bool) : Reader Char := fun text =>
  match text with
  | c :: rest => if test c then some (c, rest) else none
  | [] => none

def char (c : Char) : Reader Unit := do
  let _ ← satisfy (· = c)

def exactly (expected : List Char) : Reader Unit := fun text =>
  if expected.isPrefixOf text then some ((), text.drop expected.length) else none

def takeWhile (test : Char → Bool) : Reader (List Char) := fun text =>
  some (text.span test)

/-- Takes one character or more, up to the first that a test refuses. -/
def takeWhile1 (test : Char → Bool) : Reader (List Char) := do
  let taken ← takeWhile test
  if taken.isEmpty then failure else return taken

def skipWhile (test : Char → Bool) : Reader Unit := fun text =>
  some ((), text.dropWhile test)

def maybe (p : Reader α) : Reader (Option α) := fun text =>
  match p text with
  | some (a, rest) => some (some a, rest)
  | none => some (none, text)

def atEnd : Reader Unit := fun text =>
  if text.isEmpty then some ((), []) else none

/-- What a reader that is repeated at most so many times takes off a text, after what it has
taken before, last first; and what it leaves. -/
def manyFrom (p : Reader α) : Nat → List α → List Char → List α × List Char
  | 0, taken, text => (taken.reverse, text)
  | bound + 1, taken, text =>
    match p text with
    | none => (taken.reverse, text)
    | some (a, rest) => manyFrom p bound (a :: taken) rest

/-- Reads as often as it can. A reader that takes something each time reads at most as often as
the text has characters. -/
def many (p : Reader α) : Reader (List α) := fun text =>
  some (manyFrom p text.length [] text)

def sepBy1 (p : Reader α) (separator : Reader Unit) : Reader (List α) := do
  let first ← p
  let more ← many (do separator; p)
  return first :: more

def run? (p : Reader α) (text : List Char) : Option α :=
  match p text with
  | some (a, []) => some a
  | _ => none

end Reader

end CirHighlight
