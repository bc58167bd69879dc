import CirHighlight.Json.Basic

namespace CirHighlight.Rpc

/-- The fields of a record, in order, by name or by place. A field that an object lacks is
missing, and so are those beyond the end of an array, which holds `least` fields at least. -/
def fieldsFrom? (least : Nat) (names : List String) : Json → Option (List (Option Json))
  | .object fields => some (names.map fun name => Json.field? name (.object fields))
  | .array items =>
    if least ≤ items.length ∧ items.length ≤ names.length then
      some (items.map some ++ List.replicate (names.length - items.length) none)
    else none
  | _ => none

def recordFields? (names : List String) : Json → Option (List (Option Json)) :=
  fieldsFrom? names.length names

def required? {α : Type} (read : Json → Option α) (field : Option Json) : Option α :=
  field.bind read

end CirHighlight.Rpc
