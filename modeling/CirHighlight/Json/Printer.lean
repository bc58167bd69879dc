import CirHighlight.Json.Basic
import CirHighlight.Text.Ascii

namespace CirHighlight.Json

/-- A character inside a quoted text. Quotes, backslashes and control characters are escaped. -/
def escape (c : Char) : List Char :=
  match c with
  | '"' => ['\\', '"']
  | '\\' => ['\\', '\\']
  | '\x08' => ['\\', 'b']
  | '\t' => ['\\', 't']
  | '\n' => ['\\', 'n']
  | '\x0c' => ['\\', 'f']
  | '\r' => ['\\', 'r']
  | c =>
    if c.toNat < 0x20 then
      ['\\', 'u', '0', '0', Text.lowerHexDigit (c.toNat / 16), Text.lowerHexDigit (c.toNat % 16)]
    else [c]

def quote (text : String) : String :=
  "\"" ++ String.ofList (text.toList.flatMap escape) ++ "\""

def scalar : Json → String
  | .null => "null"
  | .bool true => "true"
  | .bool false => "false"
  | .integer value => toString value
  | .real literal => literal
  | .string value => quote value
  | .array _ => "[]"
  | .object _ => "\x7b\x7d"

mutual

def compress : Json → String
  | .array items => "[" ++ ",".intercalate (compressItems items) ++ "]"
  | .object fields => "\x7b" ++ ",".intercalate (compressFields fields) ++ "\x7d"
  | json => scalar json

def compressItems : List Json → List String
  | [] => []
  | item :: rest => compress item :: compressItems rest

def compressFields : List (String × Json) → List String
  | [] => []
  | (name, value) :: rest => (quote name ++ ":" ++ compress value) :: compressFields rest

end

/-- Lines of an array or object: its items one level deeper, with commas between. -/
def block (indent : String) (open_ close : String) (items : List String) : String :=
  if items.isEmpty then open_ ++ close
  else
    open_ ++ "\n" ++ ",\n".intercalate (items.map (indent ++ "  " ++ ·)) ++ "\n" ++ indent ++ close

mutual

/-- A value over several lines, all but the first after the given indentation. -/
def prettyFrom (indent : String) : Json → String
  | .array items => block indent "[" "]" (prettyItems (indent ++ "  ") items)
  | .object fields => block indent "\x7b" "\x7d" (prettyFields (indent ++ "  ") fields)
  | json => scalar json

def prettyItems (indent : String) : List Json → List String
  | [] => []
  | item :: rest => prettyFrom indent item :: prettyItems indent rest

def prettyFields (indent : String) : List (String × Json) → List String
  | [] => []
  | (name, value) :: rest =>
    (quote name ++ ": " ++ prettyFrom indent value) :: prettyFields indent rest

end

def pretty (json : Json) : String :=
  prettyFrom "" json

end CirHighlight.Json
