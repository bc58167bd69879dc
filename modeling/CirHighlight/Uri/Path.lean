import CirHighlight.Uri.Percent

namespace CirHighlight.Uri

def isDrive : List Char → Bool
  | [letter, mark] => letter.isAlpha && (mark = ':' || mark = '|')
  | _ => false

def isDot (segment : List Char) : Bool :=
  Text.asciiLower segment ∈ [['.'], ['%', '2', 'e']]

def isDoubleDot (segment : List Char) : Bool :=
  let dots := [['.'], ['%', '2', 'e']]
  Text.asciiLower segment ∈ dots.flatMap fun first => dots.map (first ++ ·)

structure Walk where
  done : List (List Char) := []
  drive : Bool := false

namespace Walk

def leave (walk : Walk) : Walk :=
  match walk.done with
  | [] => walk
  | segment :: rest => if isDrive segment then walk else { walk with done := rest }

def enter (walk : Walk) (segment : List Char) : Walk :=
  { walk with done := segment :: walk.done }

/-- The walk of a file with its first segment. A letter and a colon before more text are a
segment of their own. -/
def start (segment : List Char) : Walk :=
  match segment with
  | letter :: mark :: rest =>
    if isDrive [letter, mark] && rest.isEmpty then { done := [[letter, ':']], drive := true }
    else if isDrive [letter, mark] && mark = ':' then
      { done := [encode pathSet rest, [letter, mark]] }
    else { done := [encode pathSet segment] }
  | _ => { done := [encode pathSet segment] }

/-- Reads segments. A path that ends in a dot segment ends in a slash. -/
def resolve (file : Bool) (walk : Walk) : List (List Char) → Walk
  | [] => walk
  | segment :: rest =>
    let close := fun walk : Walk => if rest.isEmpty then walk.enter [] else walk
    let walk :=
      if isDoubleDot segment then close walk.leave
      else if isDot segment then close walk
      else if file && walk.done.isEmpty then start segment
      else walk.enter (encode pathSet segment)
    walk.resolve file rest

def path (walk : Walk) : List Char :=
  '/' :: ['/'].intercalate walk.done.reverse

/-- The path of a file that has been read, in which no empty segments come first. -/
def filePath (walk : Walk) : List Char :=
  '/' :: ['/'].intercalate (walk.done.reverse.dropWhile List.isEmpty)

end Walk

end CirHighlight.Uri
