import CirHighlight.Toml.DateTime
import CirHighlight.Toml.Lexical
import CirHighlight.Toml.Number
import CirHighlight.Toml.Reserved
import CirHighlight.Toml.Table

namespace CirHighlight.Toml

open Reader

def bool : Reader Value :=
  (do exactly "true".toList; return .bool true) <|>
    (do exactly "false".toList; return .bool false)

def simpleValue : Reader Value := do
  match ← peek? with
  | some '"' | some '\'' => .string <$> string
  | some 't' | some 'f' => bool
  | _ => (.dateTime <$> dateTime .plain) <|> number

/-- An array of items, over several lines if need be; a comma may follow the last one. -/
def array {α : Type} (item : Reader α) : Reader (List α) := do
  char '['
  let items ← maybe (sepBy1 (do gap; let a ← item; gap; return a) (char ','))
  if items.isSome then
    let _ ← maybe (char ',')
  gap
  char ']'
  return items.getD []

def pair (value : Reader Value) : Reader (List String × Value) := do
  let path ← key
  char '='
  blanks
  return (path, ← value)

def inlineTable (value : Reader Value) : Reader Value := do
  char '\x7b'
  blanks
  let pairs ← maybe (sepBy1 (do let p ← pair value; blanks; return p) (char ','))
  blanks
  char '\x7d'
  match (pairs.getD []).foldlM (fun fields (path, v) => Fields.addValue path v false fields) [] with
  | some fields => return .table (fieldValues fields)
  | none => failure

def valueUpTo : Nat → Reader Value
  | 0 => simpleValue
  | depth + 1 => do
    match ← peek? with
    | some '[' => .array <$> array (valueUpTo depth)
    | some '\x7b' => inlineTable (valueUpTo depth)
    | _ => simpleValue

inductive Line where
  | empty
  | pair (path : List String) (value : Value)
  | header (path : List String)
  | arrayHeader (path : List String)

def header : Reader Line := do
  (do
    exactly ['[', '[']
    let path ← key
    exactly [']', ']']
    return .arrayHeader path) <|>
  (do
    char '['
    let path ← key
    char ']'
    return .header path)

/-- A line, which may be the last one; there is none in an empty text. -/
def line : Reader Line := do
  if (← rest).isEmpty then failure
  blanks
  let content ← match ← peek? with
    | none | some '#' | some '\n' | some '\r' => pure .empty
    | some '[' => header
    | _ => do
      let (path, value) ← pair (valueUpTo 79)
      pure (.pair path value)
  lineEnd
  return content

/-- A document that is being read: its fields and the path of the table that pairs go to. -/
structure State where
  root : Fields := []
  current : List String := []

def State.add (state : State) : Line → Option State
  | .empty => some state
  | .pair path value => do
    let add (_ : Bool) (fields : Fields) : Option Fields := Fields.addValue path value false fields
    return { state with root := ← Fields.update false add state.current false state.root }
  | .header path => do return { root := ← Fields.addHeader path state.root, current := path }
  | .arrayHeader path => do
    return { root := ← Fields.addArrayHeader path state.root, current := path }

def dropMark : List Char → List Char
  | '\ufeff' :: text => text
  | text => text

def read? (text : String) : Option (List (String × Value)) := do
  let lines ← run? (many line) (dropMark text.toList)
  let state ← lines.foldlM State.add {}
  match ← Value.resolveTable? (fieldValues state.root) with
  | .table fields => some fields
  | _ => none

end CirHighlight.Toml
