import CirHighlight.Json.Basic
import CirHighlight.Uri

namespace CirHighlight.Rpc

/-- Whether a field may be missing: nowhere, from an object only, or from an object and from the
end of an array. -/
inductive Presence where
  | required
  | optional
  | trailing
deriving DecidableEq

inductive Shape where
  | any
  | bool
  | number
  | word
  | int32
  | string
  | uri
  /-- One of some words, which may also be the only key of an object, over null. -/
  | oneOf (words : List String)
  | nullable (shape : Shape)
  | either (first second : Shape)
  | pair (first second : Shape)
  | list (item : Shape)
  | table (key item : Shape)
  | record (fields : List (String × Presence × Shape))
  /-- An object with some fields, all others of which have one shape. -/
  | object (fields : List (String × Presence × Shape)) (rest : Shape)
  /-- A record of one of several kinds. The kind, by name or by number, is a field of the object
  or comes first in the array. -/
  | tagged (tag : String) (kinds : List (String × Shape))

abbrev Field := String × Presence × Shape

def must (name : String) (shape : Shape) : Field := (name, .required, shape)

def may (name : String) (shape : Shape) : Field := (name, .optional, .nullable shape)

namespace Shape

def isWord (words : List String) : Json → Bool
  | .string given => given ∈ words
  | .object [(given, .null)] => given ∈ words
  | _ => false

/-- Whether a value stands for the kind with the given name and number. -/
def isKind (name : String) (number : Nat) : Json → Bool
  | .string kind => kind = name
  | .integer kind => kind = number
  | _ => false

mutual

def accepts : Shape → Json → Bool
  | .any, _ => true
  | .bool, json => json.bool?.isSome
  | .number, json => json.isNumber
  | .word, json => json.word?.isSome
  | .int32, json => json.int32?.isSome
  | .string, json => json.string?.isSome
  | .uri, json => (json.string?.bind Uri.parse?).isSome
  | .oneOf words, json => isWord words json
  | .nullable shape, json => json.isNull || shape.accepts json
  | .either first second, json => first.accepts json || second.accepts json
  | .pair first second, .array [a, b] => first.accepts a && second.accepts b
  | .list item, .array items => items.all item.accepts
  | .table key item, .object given =>
    given.all fun (name, value) => key.accepts (.string name) && item.accepts value
  | .record fields, .object given => acceptsNamed fields given
  | .record fields, .array items => acceptsPlaced fields items
  | .object fields rest, .object given =>
    acceptsNamed fields given &&
      given.all fun (name, value) => fields.any (·.1 = name) || rest.accepts value
  | .tagged tag kinds, .object given =>
    match Json.field? tag (.object given) with
    | some kind => acceptsKind 0 kinds kind (.object given)
    | none => false
  | .tagged _ kinds, .array (kind :: items) => acceptsKind 0 kinds kind (.array items)
  | _, _ => false

def acceptsNamed : List (String × Presence × Shape) → List (String × Json) → Bool
  | [], _ => true
  | (name, presence, shape) :: rest, given =>
    (match Json.field? name (.object given) with
      | none => presence ≠ .required
      | some value => shape.accepts value) && acceptsNamed rest given

/-- Whether an array has the fields of a record, in order and no more. -/
def acceptsPlaced : List (String × Presence × Shape) → List Json → Bool
  | [], items => items.isEmpty
  | (_, presence, _) :: rest, [] => presence = .trailing && acceptsPlaced rest []
  | (_, _, shape) :: rest, value :: items => shape.accepts value && acceptsPlaced rest items

/-- Whether a value has the shape of the kind that it names; the kinds are counted on from the
given number. -/
def acceptsKind (number : Nat) : List (String × Shape) → Json → Json → Bool
  | [], _, _ => false
  | (name, shape) :: rest, kind, json =>
    if isKind name number kind then shape.accepts json
    else acceptsKind (number + 1) rest kind json

end

end Shape

end CirHighlight.Rpc
