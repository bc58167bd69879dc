import CirHighlight.Highlighter
import CirHighlight.Json.Printer
import CirHighlight.TokenStream.Edit

namespace CirHighlight.CommandLine.Report

def padLeft (width : Nat) (text : String) : String :=
  String.ofList (List.replicate (width - text.length) ' ') ++ text

def padRight (width : Nat) (text : String) : String :=
  text ++ String.ofList (List.replicate (width - text.length) ' ')

def row (line column length category text : String) : String :=
  padLeft 5 line ++ " " ++ padLeft 5 column ++ " " ++ padLeft 5 length ++ "  " ++
    padRight 11 category ++ " " ++ text ++ "\n"

def table (tokens : List (Token × Category)) : String :=
  row "LINE" "COL" "LEN" "CATEGORY" "TEXT" ++
    String.join
      (tokens.map fun (token, category) =>
        row (toString token.line.toNat) (toString token.column.toNat)
          (toString token.length.toNat) category.name token.text)

def tokenJson (token : Token) (category : Category) : Json :=
  .object
    [("category", .string category.name), ("column", Json.ofWord token.column),
      ("length", Json.ofWord token.length), ("line", Json.ofWord token.line),
      ("text", .string token.text)]

def json (tokens : List (Token × Category)) : String :=
  Json.pretty (.array (tokens.map fun (token, category) => tokenJson token category)) ++ "\n"

def encoded (stream : TokenStream) : String :=
  Json.pretty (Json.ofWords stream.integers) ++ "\n"

def editJson (edit : Edit) : Json :=
  .object
    [("start", Json.ofNat edit.start), ("deleteCount", Json.ofNat edit.deleteCount),
      ("data", Json.ofWords edit.data)]

def edits (edits : List Edit) : String :=
  Json.pretty (.array (edits.map editJson)) ++ "\n"

end CirHighlight.CommandLine.Report
