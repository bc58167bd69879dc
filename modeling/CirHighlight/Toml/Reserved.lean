import CirHighlight.Toml.DateTime
import CirHighlight.Toml.Value

namespace CirHighlight.Toml.Value

def dateTimeKey : String := "$__toml_private_datetime"

mutual

/-- The value in which the tables that stand for a date or time are replaced by it. There is none
if one of them gives no date or time. -/
def resolve? : Value → Option Value
  | .array items => (resolveItems? items).map .array
  | .table fields => resolveTable? fields
  | value => some value

def resolveTable? : List (String × Value) → Option Value
  | [] => some (.table [])
  | (name, value) :: rest =>
    if name = dateTimeKey then
      match value with
      | .string text => (dateTimeOf? text).map .dateTime
      | _ => none
    else do
      let value ← value.resolve?
      return .table ((name, value) :: (← resolveFields? rest))

def resolveFields? : List (String × Value) → Option (List (String × Value))
  | [] => some []
  | (name, value) :: rest => do
    let value ← value.resolve?
    return (name, value) :: (← resolveFields? rest)

def resolveItems? : List Value → Option (List Value)
  | [] => some []
  | item :: rest => do
    let item ← item.resolve?
    return item :: (← resolveItems? rest)

end

end CirHighlight.Toml.Value
