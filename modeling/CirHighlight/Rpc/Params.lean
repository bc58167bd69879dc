import CirHighlight.Rpc.Record
import CirHighlight.Rpc.Shape.Document
import CirHighlight.Server.Basic

namespace CirHighlight.Rpc

def uri? (json : Json) : Option Uri :=
  json.string?.bind Uri.parse?

def documentUri? (json : Json) : Option Uri := do
  match ← recordFields? ["uri"] json with
  | [uri] => required? uri? uri
  | _ => none

def position? (json : Json) : Option Position := do
  match ← recordFields? ["line", "character"] json with
  | [line, character] =>
    return { line := ← required? Json.word? line, character := ← required? Json.word? character }
  | _ => none

def range? (json : Json) : Option (Position × Position) := do
  match ← recordFields? ["start", "end"] json with
  | [start, stop] => return (← required? position? start, ← required? position? stop)
  | _ => none

/-- A change of a document. The length of the range is read and not used. -/
def change? (json : Json) : Option Change := do
  match ← recordFields? ["range", "rangeLength", "text"] json with
  | [range, length, text] =>
    let range ← Json.nullable? range? range
    let _ ← Json.nullable? Json.word? length
    return { range, text := ← required? Json.string? text }
  | _ => none

def didOpen? (json : Json) : Option (Request Uri) := do
  match ← recordFields? ["textDocument"] json with
  | [some document] =>
    match ← recordFields? ["uri", "languageId", "version", "text"] document with
    | [uri, language, version, text] =>
      let uri ← required? uri? uri
      let _ ← required? Json.string? language
      let _ ← required? Json.int32? version
      return .didOpen uri (← required? Json.string? text)
    | _ => none
  | _ => none

def didChange? (json : Json) : Option (Request Uri) := do
  match ← recordFields? ["textDocument", "contentChanges"] json with
  | [some document, changes] =>
    match ← recordFields? ["uri", "version"] document with
    | [uri, version] =>
      let uri ← required? uri? uri
      let _ ← required? Json.int32? version
      return .didChange uri (← required? (Json.list? change?) changes)
    | _ => none
  | _ => none

def didClose? (json : Json) : Option (Request Uri) := do
  match ← recordFields? ["textDocument"] json with
  | [document] => return .didClose (← required? documentUri? document)
  | _ => none

def workDone : Field := may "workDoneToken" Shape.key

def partialResult : Field := may "partialResultToken" Shape.key

/-- Parameters of a request that the server carries out: an object, which may ask for reports. -/
def reports : Shape := .object [workDone, partialResult] .any

def full? (json : Json) : Option (Request Uri) := do
  guard (reports.accepts json)
  return .full (← required? documentUri? (json.field? "textDocument"))

def delta? (json : Json) : Option (Request Uri) := do
  guard (reports.accepts json)
  let uri ← required? documentUri? (json.field? "textDocument")
  return .delta uri (← required? Json.string? (json.field? "previousResultId"))

end CirHighlight.Rpc
