namespace CirHighlight.Text

def stripReturn (line : List Char) : List Char :=
  if line.getLast? = some '\r' then line.dropLast else line

/-- Lines of a text of which `current`, read backwards, has been seen since the last line feed. -/
def linesFrom (current : List Char) : List Char → List (List Char)
  | [] => if current.isEmpty then [] else [current.reverse]
  | c :: rest =>
    if c = '\n' then stripReturn current.reverse :: linesFrom [] rest
    else linesFrom (c :: current) rest

def lines (text : List Char) : List (List Char) :=
  linesFrom [] text

end CirHighlight.Text
