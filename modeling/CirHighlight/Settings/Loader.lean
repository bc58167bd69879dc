import CirHighlight.Settings.Basic
import CirHighlight.Settings.Environment
import CirHighlight.Toml.Document

namespace CirHighlight.Settings

inductive Layer where
  | file (required : Bool) (name : String)
  | environment
  | byHand (key : String) (value : Value)

structure World where
  files : Files
  environment : List (String × String)

def builtinFields : List (String × Value) :=
  let text (s : String) : Value := .scalar none (.string s)
  [("lexicon",
      .table none
        [("extra_keywords", .array none []), ("extra_macros", .array none []),
          ("extra_typenames", .array none [])]),
    ("highlight",
      .table none [("comments", .scalar none (.bool true)), ("unclassified", text "omit")]),
    ("logging", .table none [("level", text "info")])]

/-- The path with `.toml` after its last name. A path without a name has no such form. -/
def withExtension? (name : String) : Option String :=
  let parts := pathParts name
  match parts.getLast? with
  | none | some ".." => none
  | some _ =>
    some ((if name.startsWith "/" then "/" else "") ++ "/".intercalate parts ++ ".toml")

def originOf (path : String) : String :=
  (if path.startsWith "/" then "/" else "") ++ "/".intercalate (pathParts path)

def candidates (name : String) : List String :=
  name :: (withExtension? name).toList

/-- Finds a file under its name, or under its name with `.toml` after it. -/
def findFile? (files : Files) (name : String) : Option (String × FileEntry) :=
  ((candidates name).find? fun path => (files path).isFile).map fun path =>
    (originOf path, files path)

/-- The settings of a file. One that is not required may be missing or unreadable, but not
malformed. -/
def fileFields (files : Files) (required : Bool) (name : String) :
    Except Error (List (String × Value)) :=
  let skip (error : Error) : Except Error (List (String × Value)) :=
    if required then .error error else .ok []
  match findFile? files name with
  | none => skip (.fileNotFound name)
  | some (origin, entry) =>
    match entry.text with
    | .error reason => skip (.unreadable reason)
    | .ok text =>
      match Toml.read? text with
      | none => .error (.malformed origin)
      | some fields => .ok (Value.fieldsOfToml (some origin) fields)

/-- Layers sorted out: the sources in order, and the values set by hand. -/
structure Loader where
  sources : List Layer := []
  byHand : List (Path × Value) := []

namespace Loader

/-- Adds a layer. The key of a value set by hand must be a path; a second value for the same path
replaces the first. -/
def add (loader : Loader) : Layer → Except Error Loader
  | .byHand key value =>
    match Path.read? key with
    | none => .error (.badPath key)
    | some path =>
      let others := loader.byHand.filter (·.1 ≠ path)
      .ok { loader with byHand := others ++ [(path, value)] }
  | layer => .ok { loader with sources := loader.sources ++ [layer] }

def sourceFields (world : World) : Layer → Except Error (List (String × Value))
  | .file required name => fileFields world.files required name
  | .environment => .ok (Environment.fields world.environment)
  | .byHand _ _ => .ok []

def put (target : Value) (fields : List (String × Value)) : Except Error Value :=
  (target.setKeys fields).mapError .indexBeforeStart

/-- The table that the sources make: each is put on the ones before it, and the whole is read as
a source of its own. -/
def merge (world : World) (loader : Loader) : Except Error Value := do
  let base ← put .emptyTable builtinFields
  let merged ← loader.sources.foldlM
    (fun table layer => do put table (← sourceFields world layer)) base
  put .emptyTable merged.fields

def load (world : World) (loader : Loader) : Except Error Settings := do
  let table ← merge world loader
  let table ← loader.byHand.foldlM
    (fun table (path, value) => (table.setAt path value).mapError Error.indexBeforeStart)
    table
  decode table

end Loader

def load (world : World) (layers : List Layer) : Except Error Settings := do
  let loader ← layers.foldlM Loader.add {}
  loader.load world

end CirHighlight.Settings
