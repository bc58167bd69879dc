import CirHighlight.FileTree
import CirHighlight.Settings.Path
import CirHighlight.Token.Category

namespace CirHighlight.Settings

/-- The reasons why settings cannot be loaded. Where a single value has the wrong type, the error
names its place and its origin. -/
inductive Error where
  | badPath (key : String)
  | fileNotFound (name : String)
  | unreadable (reason : FileEntry.ReadError)
  | malformed (name : String)
  | indexBeforeStart (error : IndexBeforeStart)
  | wrongType (found expected : String) (place : List Step) (origin : Option String)
  | mismatch (found expected : String)
  | tooShort (length : Nat) (expected : String)
  | missingField (name : String)
  | unknownFallback (unknown : UnknownCategory)

namespace Error

def placeText : List Step → String
  | [] => ""
  | [.field name] => name
  | .field name :: .field next :: rest => name ++ "." ++ placeText (.field next :: rest)
  | .field name :: rest => name ++ placeText rest
  | .item index :: .field next :: rest =>
    "[" ++ toString index ++ "]." ++ placeText (.field next :: rest)
  | .item index :: rest => "[" ++ toString index ++ "]" ++ placeText rest

def message : Error → String
  | .badPath key => "invalid path: " ++ key
  | .fileNotFound name => "configuration file \"" ++ name ++ "\" not found"
  | .unreadable reason => reason.message
  | .malformed name => "invalid syntax in " ++ name
  | .indexBeforeStart error =>
    "index " ++ toString error.index ++ " of an array of " ++ toString error.length
  | .wrongType found expected place origin =>
    "invalid type: " ++ found ++ ", expected " ++ expected ++
      (if place.isEmpty then "" else " for key `" ++ placeText place ++ "`") ++
      (match origin with
        | some origin => " in " ++ origin
        | none => "")
  | .mismatch found expected => "invalid type: " ++ found ++ ", expected " ++ expected
  | .tooShort length expected =>
    "invalid length " ++ toString length ++ ", expected " ++ expected
  | .missingField name => "missing field `" ++ name ++ "`"
  | .unknownFallback unknown => "highlight.unclassified: " ++ unknown.message

def below (step : Step) : Error → Error
  | .wrongType found expected place origin => .wrongType found expected (step :: place) origin
  | error => error

end Error

end CirHighlight.Settings
