import CirHighlight.Number.Word64
import CirHighlight.Rpc.Record
import CirHighlight.Server.Basic
import CirHighlight.Version

namespace CirHighlight.Rpc

inductive Id where
  | null
  | number (value : Int)
  | name (value : String)
deriving DecidableEq

def Id.toJson : Id → Json
  | .null => .null
  | .number value => .integer value
  | .name value => .string value

def Id.read? : Json → Option Id
  | .null => some .null
  | .string value => some (.name value)
  | .integer value => if Number.isSigned64 value then some (.number value) else none
  | _ => none

/-- A message of a client; one without identifier is a notification. Parameters and identifiers
that are null count as given. -/
structure Message where
  method : String
  params : Option Json
  id : Option Id

namespace Message

def isVersion (json : Json) : Bool :=
  json.string? = some "2.0"

/-- Reads a message. It must name the version of the protocol; a method that is missing is the
empty one. -/
def read? (json : Json) : Option Message := do
  match ← fieldsFrom? 1 ["jsonrpc", "method", "params", "id"] json with
  | [version, method, params, id] =>
    guard (version.any isVersion)
    let method ← match method with
      | none => some ""
      | some method => method.string?
    let id ← match id with
      | none => some none
      | some id => (Id.read? id).map some
    return { method, params, id }
  | _ => none

def isFailure (json : Json) : Bool :=
  match recordFields? ["code", "message", "data"] json with
  | some [some (.integer code), some (.string _), _] => Number.isSigned64 code
  | _ => false

/-- Whether a value is a response to a request of the server, which needs no answer. -/
def isResponse (json : Json) : Bool :=
  (json.field? "jsonrpc").any isVersion && ((json.field? "id").bind Id.read?).isSome &&
    ((json.field? "result").isSome || (json.field? "error").any isFailure)

end Message

inductive Error where
  | unreadable
  | notInitialized
  | invalidRequest
  | methodNotFound (name : Option String)
  | invalidParams
  | internal
deriving DecidableEq

namespace Error

def code : Error → Int
  | .unreadable => -32700
  | .notInitialized => -32002
  | .invalidRequest => -32600
  | .methodNotFound _ => -32601
  | .invalidParams => -32602
  | .internal => -32603

def message : Error → String
  | .unreadable => "Parse error"
  | .notInitialized => "Server not initialized"
  | .invalidRequest => "Invalid request"
  | .methodNotFound _ => "Method not found"
  | .invalidParams => "Invalid params"
  | .internal => "Internal error"

def data? : Error → Option String
  | .methodNotFound name => name
  | _ => none

def toJson (error : Error) : Json :=
  .object
    ([("code", .integer error.code), ("message", .string error.message)] ++
      (error.data?.map fun data => ("data", Json.string data)).toList)

end Error

structure Response where
  id : Id
  result : Except Error Json

def Response.toJson (response : Response) : Json :=
  .object
    [("jsonrpc", .string "2.0"),
      match response.result with
      | .ok result => ("result", result)
      | .error error => ("error", error.toJson),
      ("id", response.id.toJson)]

def legend : Json :=
  .object
    [("tokenTypes", Json.ofStrings (Category.legend.map Category.name)),
      ("tokenModifiers", Json.ofStrings (Modifier.legend.map Modifier.name))]

def serverName : String := "cir-lsp"

/-- What the server says when a client connects: documents are synchronised by changes, and
tokens are given for whole documents, as edits too. -/
def capabilities : Json :=
  .object
    [("capabilities",
        .object
          [("textDocumentSync", .integer 2),
            ("semanticTokensProvider",
              .object
                [("legend", legend), ("range", .bool false),
                  ("full", .object [("delta", .bool true)])])]),
      ("serverInfo", .object [("name", .string serverName), ("version", .string version)])]

def wireEdit (edit : WireEdit) : Json :=
  .object
    ([("start", Json.ofWord edit.start), ("deleteCount", Json.ofWord edit.deleteCount)] ++
      (edit.data.map fun data => ("data", Json.ofWords data.integers)).toList)

/-- The result that a response carries for an answer of the server. -/
def result : Answer → Except Error Json
  | .none => .ok .null
  | .failed => .error .internal
  | .full full =>
    .ok (.object [("resultId", .string full.id), ("data", Json.ofWords full.tokens.integers)])
  | .edits id edits =>
    .ok (.object [("resultId", .string id), ("edits", .array (edits.map wireEdit))])
  | .delta delta =>
    .ok
      (.object
        [("resultId", .string delta.id),
          ("edits", .array (delta.edits.map fun edit => wireEdit (.ofEdit edit)))])

end CirHighlight.Rpc
