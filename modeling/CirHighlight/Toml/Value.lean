import CirHighlight.Number.Binary64

namespace CirHighlight.Toml

/-- A TOML value; a date or time is kept in its normal text form, the fields of a table in
order. -/
inductive Value where
  | string (text : String)
  | integer (value : Int)
  | real (value : Binary64)
  | bool (value : Bool)
  | dateTime (text : String)
  | array (items : List Value)
  | table (fields : List (String × Value))

end CirHighlight.Toml
