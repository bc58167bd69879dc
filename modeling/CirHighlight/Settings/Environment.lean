import CirHighlight.Number.Reader
import CirHighlight.Settings.Value

namespace CirHighlight.Settings.Environment

def origin : String := "the environment"

def marker : List Char := "cir_".toList

def listKeys : List String :=
  ["lexicon.extra_keywords", "lexicon.extra_macros", "lexicon.extra_typenames"]

/-- The text with a point for every two underscores, from the left. -/
def withPoints : List Char → List Char
  | '_' :: '_' :: rest => '.' :: withPoints rest
  | c :: rest => c :: withPoints rest
  | [] => []

def key? (name : String) : Option String :=
  let lower := (Text.lowercase name).toList
  if marker.isPrefixOf lower then some (String.ofList (withPoints (lower.drop marker.length)))
  else none

def value (key text : String) : Value :=
  let lower := Text.lowercase text
  if lower = "true" then .scalar (some origin) (.bool true)
  else if lower = "false" then .scalar (some origin) (.bool false)
  else
    match Number.integer? text with
    | some value => .scalar (some origin) (.integer value)
    | none =>
      match Number.real? text with
      | some value => .scalar (some origin) (.real value)
      | none =>
        if key ∈ listKeys then
          .array (some origin)
            ((Text.splitWhere (· = ',') text.toList).map fun word =>
              .scalar (some origin) (.string (String.ofList word)))
        else .scalar (some origin) (.string text)

/-- The settings that variables give; of two variables for a key the later one counts. -/
def fields (environment : List (String × String)) : List (String × Value) :=
  environment.foldl
    (fun fields (name, text) =>
      match key? name with
      | none => fields
      | some key => fields.filter (·.1 ≠ key) ++ [(key, value key text)])
    []

end CirHighlight.Settings.Environment
