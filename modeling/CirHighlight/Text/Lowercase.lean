import CirHighlight.Text.Unicode.Case

namespace CirHighlight.Text

/-- Lower case of a letter that has the same one wherever it stands. -/
def lowerChar (c : Char) : List Char :=
  if c.toNat < 0x80 then [c.toLower]
  else if c = 'İ' then ['i', '\u0307']
  else [(Unicode.shifted? Unicode.lowercaseRuns c).getD c]

/-- Whether the first character that case rules do not pass over is a cased letter. -/
def startsCased (text : List Char) : Bool :=
  ((text.dropWhile (Unicode.inRuns Unicode.caseIgnorableRuns)).head?).any
    (Unicode.inRuns Unicode.casedRuns)

/-- Lower case of a text, of which `before`, last character first, has been read. A capital sigma
after a cased letter and before none has its final form. -/
def lowerFrom (before : List Char) : List Char → List Char
  | [] => []
  | c :: rest =>
    let lower :=
      if c = 'Σ' then [if startsCased before && !startsCased rest then 'ς' else 'σ']
      else lowerChar c
    lower ++ lowerFrom (c :: before) rest

def lowercase (text : String) : String :=
  String.ofList (lowerFrom [] text.toList)

end CirHighlight.Text
