namespace CirHighlight

inductive Json where
  | null
  | bool (value : Bool)
  | integer (value : Int)
  | real (literal : String)
  | string (value : String)
  | array (items : List Json)
  | object (fields : List (String × Json))

namespace Json

def ofNat (n : Nat) : Json := .integer n

def ofWord (n : UInt32) : Json := .integer n.toNat

def ofWords (numbers : List UInt32) : Json := .array (numbers.map ofWord)

def ofStrings (texts : List String) : Json := .array (texts.map .string)

def isNull : Json → Bool
  | .null => true
  | _ => false

def isNumber : Json → Bool
  | .integer _ | .real _ => true
  | _ => false

/-- The field of an object with the given name. Of several the last counts. -/
def field? (name : String) : Json → Option Json
  | .object fields => (fields.reverse.find? (·.1 = name)).map (·.2)
  | _ => none

def string? : Json → Option String
  | .string value => some value
  | _ => none

def bool? : Json → Option Bool
  | .bool value => some value
  | _ => none

/-- The whole number that a value is, if it lies between the given bounds. -/
def integerIn? (least greatest : Int) : Json → Option Int
  | .integer value => if least ≤ value ∧ value ≤ greatest then some value else none
  | _ => none

def word? (json : Json) : Option UInt32 :=
  (json.integerIn? 0 0xFFFFFFFF).map (·.toNat.toUInt32)

def int32? (json : Json) : Option Int :=
  json.integerIn? (-0x80000000) 0x7FFFFFFF

def items? : Json → Option (List Json)
  | .array items => some items
  | _ => none

/-- The items of an array, each read by a reader that must accept it. -/
def list? {α : Type} (read : Json → Option α) (json : Json) : Option (List α) :=
  json.items?.bind (·.mapM read)

def nullable? {α : Type} (read : Json → Option α) : Option Json → Option (Option α)
  | none | some .null => some none
  | some json => (read json).map some

end Json

end CirHighlight
