import CirHighlight.Toml.Value

namespace CirHighlight.Toml

/-- A part of a table that is being read: a finished value, a table, or an array of tables of
which the last one is open. A table is implicit if no header names it, and dotted if a key with
points made it. -/
inductive Node where
  | value (value : Value)
  | table (implicit dotted : Bool) (fields : List (String × Node))
  | tables (earlier : List (List (String × Node))) (last : List (String × Node))

abbrev Fields := List (String × Node)

namespace Fields

def find? (fields : Fields) (name : String) : Option Node :=
  (List.find? (·.1 = name) fields).map (·.2)

/-- Gives a field a value in place of the one it had; a new field comes last. -/
def set (fields : Fields) (name : String) (node : Node) : Fields :=
  if (fields.find? name).isSome then
    fields.map fun field => if field.1 = name then (name, node) else field
  else fields ++ [(name, node)]

def setLast (fields : Fields) (name : String) (node : Node) : Fields :=
  fields.filter (·.1 ≠ name) ++ [(name, node)]

/-- Changes the table at a path. Tables on the way that are missing are made; a key with points
may not go through a table that a header names. The change is told whether the table is
dotted. -/
def update (byKey : Bool) (change : Bool → Fields → Option Fields) :
    List String → Bool → Fields → Option Fields
  | [], dotted, fields => change dotted fields
  | name :: path, _, fields =>
    match fields.find? name with
    | none => do
      return fields.set name (.table true byKey (← update byKey change path byKey []))
    | some (.value _) => none
    | some (.table implicit dotted inner) =>
      if byKey && !implicit then none
      else do
        return fields.set name (.table implicit dotted (← update byKey change path dotted inner))
    | some (.tables earlier last) => do
      return fields.set name (.tables earlier (← update byKey change path false last))

def splitLast : List String → List String × String
  | [] => ([], "")
  | [name] => ([], name)
  | name :: path =>
    let (before, last) := splitLast path
    (name :: before, last)

def addValue (path : List String) (value : Value) (dotted : Bool) (fields : Fields) :
    Option Fields :=
  let (before, name) := splitLast path
  let add (isDotted : Bool) (fields : Fields) : Option Fields :=
    if isDotted = before.isEmpty then none
    else if (fields.find? name).isSome then none
    else some (fields.set name (.value value))
  fields.update true add before dotted

/-- Opens the table of a header, which may only have been named by its subtables before. -/
def addHeader (path : List String) (root : Fields) : Option Fields :=
  let (before, name) := splitLast path
  let add (_ : Bool) (fields : Fields) : Option Fields :=
    match fields.find? name with
    | none => some (fields.set name (.table false false []))
    | some (.table true false inner) => some (fields.setLast name (.table false false inner))
    | some _ => none
  root.update false add before false

def addArrayHeader (path : List String) (root : Fields) : Option Fields :=
  let (before, name) := splitLast path
  let add (_ : Bool) (fields : Fields) : Option Fields :=
    match fields.find? name with
    | none => some (fields.set name (.tables [] []))
    | some (.tables earlier last) => some (fields.set name (.tables (earlier ++ [last]) []))
    | some _ => none
  root.update false add before false

end Fields

mutual

def Node.toValue : Node → Value
  | .value value => value
  | .table _ _ fields => .table (fieldValues fields)
  | .tables earlier last => .array (tableValues earlier ++ [.table (fieldValues last)])

def fieldValues : List (String × Node) → List (String × Value)
  | [] => []
  | (name, node) :: rest => (name, node.toValue) :: fieldValues rest

def tableValues : List (List (String × Node)) → List Value
  | [] => []
  | fields :: rest => .table (fieldValues fields) :: tableValues rest

end

end CirHighlight.Toml
