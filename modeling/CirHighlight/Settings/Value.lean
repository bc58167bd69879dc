import CirHighlight.Number.Binary64
import CirHighlight.Text.Lowercase
import CirHighlight.Toml.Value

namespace CirHighlight.Settings

inductive Scalar where
  | nil
  | bool (value : Bool)
  | integer (value : Int)
  | real (value : Binary64)
  | string (text : String)

inductive Value where
  | scalar (origin : Option String) (value : Scalar)
  | array (origin : Option String) (items : List Value)
  | table (origin : Option String) (fields : List (String × Value))

namespace Value

def nil : Value := .scalar none .nil

def emptyTable : Value := .table none []

def fields : Value → List (String × Value)
  | .table _ fields => fields
  | _ => []

def items : Value → List Value
  | .array _ items => items
  | _ => []

def field? (value : Value) (name : String) : Option Value :=
  (value.fields.find? (·.1 = name)).map (·.2)

/-- Gives a field a value in place of any it had. A value that is no table becomes one without
origin. -/
def withField (target : Value) (name : String) (value : Value) : Value :=
  let origin :=
    match target with
    | .table origin _ => origin
    | _ => none
  if (target.field? name).isSome then
    .table origin (target.fields.map fun field => if field.1 = name then (name, value) else field)
  else .table origin (target.fields ++ [(name, value)])

mutual

/-- Puts a value under a name of a table. Tables are merged field by field; everything else
replaces what was there. -/
def setField (name : String) : Value → Value → Value
  | .table _ incoming, target =>
    let name := Text.lowercase name
    target.withField name (mergeFields incoming ((target.field? name).getD emptyTable))
  | value, target => target.withField (Text.lowercase name) value

def mergeFields : List (String × Value) → Value → Value
  | [], target => target
  | (name, value) :: rest, target => mergeFields rest (setField name value target)

end

mutual

def ofToml (origin : Option String) : Toml.Value → Value
  | .string text => .scalar origin (.string text)
  | .integer value => .scalar origin (.integer value)
  | .real value => .scalar origin (.real value)
  | .bool value => .scalar origin (.bool value)
  | .dateTime text => .scalar origin (.string text)
  | .array items => .array origin (itemsOfToml origin items)
  | .table fields => .table origin (fieldsOfToml origin fields)

def itemsOfToml (origin : Option String) : List Toml.Value → List Value
  | [] => []
  | item :: rest => ofToml origin item :: itemsOfToml origin rest

def fieldsOfToml (origin : Option String) :
    List (String × Toml.Value) → List (String × Value)
  | [] => []
  | (name, value) :: rest => (name, ofToml origin value) :: fieldsOfToml origin rest

end

end Value

end CirHighlight.Settings
