import CirHighlight.Text.Normal
import CirHighlight.Text.Unicode.Direction
import CirHighlight.Text.Unicode.HostLetter
import CirHighlight.Text.Unicode.Joining
import CirHighlight.Uri.Punycode

namespace CirHighlight.Uri.Domain

def mark : List Char := ['x', 'n', '-', '-']

def isForbidden (c : Char) : Bool :=
  c.toNat ≤ 0x20 || c.toNat = 0x7F ||
    c ∈ ['%', '#', '/', ':', '<', '>', '?', '@', '[', '\\', ']', '^', '|']

def isKept (c : Char) : Bool :=
  Text.Unicode.hostLetters? c = some [c]

/-- Whether the joiners of a text, which show nothing themselves, stand where they change how the
characters beside them are joined; `before` is the text before it, last character first. -/
def joinersFit (before : List Char) : List Char → Bool
  | [] => true
  | c :: rest =>
    let afterVirama := before.head?.any Text.Unicode.isVirama
    let between :=
      (before.dropWhile Text.Unicode.isTransparent).head?.any Text.Unicode.joinsNext &&
        (rest.dropWhile Text.Unicode.isTransparent).head?.any Text.Unicode.joinsPrevious
    let fits :=
      if c = '\u200D' then afterVirama
      else if c = '\u200C' then afterVirama || between
      else true
    fits && joinersFit (c :: before) rest

def isLabel (label : List Char) : Bool :=
  !mark.isPrefixOf label && !label.head?.any Text.Unicode.isMark &&
    label.all (fun c => c ≠ '.' && isKept c) && joinersFit [] label

/-- How many characters a label has at most that is written in ASCII after the mark. -/
def longestWritten : Nat := 2000

/-- How many characters a label has at most that is to be written in ASCII. -/
def longestLabel : Nat := 1000

def label? (part : List Char) : Option (List Char) := do
  let label ←
    if mark.isPrefixOf part then
      let written := part.drop mark.length
      if longestWritten < written.length then none
      else
        (Punycode.decode? written).filter fun label =>
          label.any (0x80 ≤ ·.toNat) && Text.normalForm label = label
    else some part
  if isLabel label then some label else none

def isDirected (label : List Char) : Bool :=
  let directions := label.map Text.Unicode.direction
  let last := (directions.reverse.dropWhile (· = .mark)).head?
  match directions.head? with
  | none => true
  | some .leftToRight =>
    directions.all (fun d => d ≠ .rightToLeft && d ≠ .arabicNumber) &&
      last.any fun d => d = .leftToRight || d = .number
  | some .rightToLeft =>
    directions.all (· ≠ .leftToRight) &&
      last.any (fun d => d = .rightToLeft || d = .number || d = .arabicNumber) &&
      !(directions.contains .number && directions.contains .arabicNumber)
  | some _ => false

/-- Whether a label has characters that are written from right to left. -/
def hasRightToLeft (label : List Char) : Bool :=
  label.any fun c =>
    Text.Unicode.direction c = .rightToLeft || Text.Unicode.direction c = .arabicNumber

def asciiLabel? (label : List Char) : Option (List Char) :=
  if label.all (·.toNat < 0x80) then some label
  else if longestLabel < label.length then none
  else some (mark ++ Punycode.encode label)

def ascii? (name : List Char) : Option (List Char) := do
  let letters ← name.mapM Text.Unicode.hostLetters?
  let name := Text.normalForm letters.flatten
  if name.any isForbidden then none
  else
    let labels ← (Text.splitWhere (· = '.') name).mapM label?
    if labels.any hasRightToLeft && !labels.all isDirected then none
    else (labels.mapM asciiLabel?).map ['.'].intercalate

end CirHighlight.Uri.Domain
