import CirHighlight.Store
import CirHighlight.Text.Position

namespace CirHighlight

/-- A change of a document: new text for a range of it, or for the whole of it. -/
structure Change where
  range : Option (Position × Position)
  text : String

namespace Change

/-- The characters of a text after a change. A range that ends before it starts is empty. -/
def applyChars (change : Change) (text : List Char) : List Char :=
  match change.range with
  | none => change.text.toList
  | some (start, stop) =>
    let first := start.index text
    let last := max first (stop.index text)
    text.take first ++ change.text.toList ++ text.drop last

def apply (change : Change) (text : String) : String :=
  String.ofList (change.applyChars text.toList)

/-- The text after several changes, each made to the result of the one before it. -/
def applyAll (changes : List Change) (text : String) : String :=
  changes.foldl (fun text change => change.apply text) text

end Change

abbrev Documents (κ : Type) := Store κ String

namespace Documents

variable {κ : Type} [DecidableEq κ]

def text? (documents : Documents κ) (uri : κ) : Option String :=
  documents.get? uri

def openText (documents : Documents κ) (uri : κ) (text : String) : Documents κ :=
  documents.insert uri text

def change (documents : Documents κ) (uri : κ) (changes : List Change) : Bool × Documents κ :=
  match documents.text? uri with
  | none => (false, documents)
  | some text => (true, documents.insert uri (Change.applyAll changes text))

def close (documents : Documents κ) (uri : κ) : Documents κ :=
  documents.erase uri

end Documents

end CirHighlight
