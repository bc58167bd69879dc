namespace CirHighlight.CommandLine

/-- The form of an argument. A long option may carry a value after an equals sign, and a short one
directly after its letter. -/
inductive Argument where
  | separator
  | long (name : String) (value : Option String)
  | short (letter : Char) (value : Option String)
  | plain (text : String)

namespace Argument

/-- What follows a short option: an equals sign before the value is left out. -/
def attached? : List Char → Option String
  | [] => none
  | '=' :: value => some (String.ofList value)
  | value => some (String.ofList value)

def read (text : String) : Argument :=
  match text.toList with
  | ['-', '-'] => .separator
  | '-' :: '-' :: rest =>
    match rest.span (· ≠ '=') with
    | (name, _ :: value) => .long (String.ofList name) (some (String.ofList value))
    | (name, []) => .long (String.ofList name) none
  | '-' :: letter :: rest => .short letter (attached? rest)
  | _ => .plain text

end Argument

/-- Why a command line starts no work: it asks for the version or for help, or it is wrong. -/
inductive Stop where
  | version
  | help
  | usage
deriving DecidableEq

/-- What a program leaves behind: its exit code and what it wrote. -/
structure Outcome where
  code : UInt32
  stdout : String := ""
  stderr : String := ""

def Stop.outcome (program usage : String) (version : String) : Stop → Outcome
  | .version => { code := 0, stdout := program ++ " " ++ version ++ "\n" }
  | .help => { code := 0, stdout := usage ++ "\n" }
  | .usage => { code := 2, stderr := usage ++ "\n" }

end CirHighlight.CommandLine
