import CirHighlight.Number.Shortest
import CirHighlight.Settings.Error
import CirHighlight.Text.Quoted

namespace CirHighlight.Settings

namespace Value

def describe : Value → String
  | .scalar _ .nil => "unit value"
  | .scalar _ (.bool value) => "boolean `" ++ toString value ++ "`"
  | .scalar _ (.integer value) => "integer `" ++ toString value ++ "`"
  | .scalar _ (.real value) => "floating point `" ++ value.renderWithPoint ++ "`"
  | .scalar _ (.string text) => "string " ++ Text.quoted text
  | .array _ _ => "sequence"
  | .table _ _ => "map"

def origin : Value → Option String
  | .scalar origin _ | .array origin _ | .table origin _ => origin

def toText : Value → Except Error String
  | .scalar _ (.string text) => .ok text
  | .scalar _ (.bool value) => .ok (toString value)
  | .scalar _ (.integer value) => .ok (toString value)
  | .scalar _ (.real value) => .ok value.render
  | value => .error (.wrongType value.describe "a string" [] value.origin)

def toBool : Value → Except Error Bool
  | .scalar _ (.bool value) => .ok value
  | .scalar _ (.integer value) => .ok (value ≠ 0)
  | .scalar _ (.real value) => .ok !value.isZero
  | .scalar origin (.string text) =>
    let lower := Text.lowercase text
    if lower ∈ ["1", "true", "on", "yes"] then .ok true
    else if lower ∈ ["0", "false", "off", "no"] then .ok false
    else .error (.wrongType ("string " ++ Text.quoted lower) "a boolean" [] origin)
  | value => .error (.wrongType value.describe "a boolean" [] value.origin)

def toTextsFrom (index : Nat) : List Value → Except Error (List String)
  | [] => .ok []
  | item :: rest => do
    let text ← item.toText.mapError (.below (.item index))
    return text :: (← toTextsFrom (index + 1) rest)

def toTexts : Value → Except Error (List String)
  | .array _ items => toTextsFrom 0 items
  | value => .error (.mismatch value.describe "a sequence")

end Value

/-- A part of the settings: its name in error messages and the names of its fields, in order. -/
structure Part where
  name : String
  fields : List String

inductive PartValues where
  | named (table : Value)
  | listed (items : List Value)

namespace Part

def expectation (part : Part) : String :=
  "struct " ++ part.name ++ " with " ++ toString part.fields.length ++
    (if part.fields.length = 1 then " element" else " elements")

def values (part : Part) : Value → Except Error PartValues
  | .table origin fields => .ok (.named (.table origin fields))
  | .array _ items => .ok (.listed items)
  | value => .error (.mismatch value.describe ("struct " ++ part.name))

/-- Reads a field if it is there. A list must have a value for it. -/
def read? {α : Type} (part : Part) (values : PartValues) (name : String)
    (decode : Value → Except Error α) : Except Error (Option α) :=
  match values with
  | .named table =>
    match table.field? name with
    | none => .ok none
    | some value => ((decode value).mapError (.below (.field name))).map some
  | .listed items =>
    let index := part.fields.idxOf name
    match items[index]? with
    | none => .error (.tooShort items.length part.expectation)
    | some value => ((decode value).mapError (.below (.item index))).map some

def require {α : Type} (name : String) : Option α → Except Error α
  | some value => .ok value
  | none => .error (.missingField name)

end Part

end CirHighlight.Settings
