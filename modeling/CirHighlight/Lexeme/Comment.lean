import CirHighlight.Lexeme.Literal

namespace CirHighlight.Comment

/-- Where the reader of a line stands: in code, or in a literal after a run of escapes. -/
inductive Place where
  | code
  | literal (run : Nat)
deriving DecidableEq

def codeLength : Place → List Char → Nat
  | _, [] => 0
  | .code, c :: rest =>
    if c = '"' then codeLength (.literal 0) rest + 1
    else if c = '/' ∧ rest.head? = some '/' then 0
    else codeLength .code rest + 1
  | .literal run, c :: rest =>
    if c = '\\' then codeLength (.literal (run + 1)) rest + 1
    else if c = '"' ∧ run % 2 = 0 then codeLength .code rest + 1
    else codeLength (.literal 0) rest + 1

def code (line : List Char) : List Char :=
  line.take (codeLength .code line)

def comment? (line : List Char) : Option (List Char) :=
  let comment := line.drop (codeLength .code line)
  if comment.isEmpty then none else some comment

end CirHighlight.Comment
