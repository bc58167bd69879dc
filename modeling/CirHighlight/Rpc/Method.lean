import CirHighlight.Rpc.Params
import CirHighlight.Rpc.Shape.Item

namespace CirHighlight.Rpc

/-- What becomes of a message by its method: a request or a notification that the server carries
out, a request that it does not support, or a notification that it ignores. -/
inductive Method where
  | ask (read? : Json → Option (Request Uri))
  | tell (read? : Json → Option (Request Uri))
  | unsupported (params : Shape)
  | ignored

namespace Method

def inDocument : Field := must "textDocument" Shape.document

def atPosition : List Field := [inDocument, must "position" Shape.position]

def inRange : List Field := [inDocument, must "range" Shape.range]

def reporting (fields : List Field) : Shape := .object (workDone :: fields) .any

/-- Parameters of a request that also reports parts of its result. -/
def streaming (fields : List Field) : Shape :=
  .object (workDone :: partialResult :: fields) .any

/-- The requests that the server does not support, with their parameters. -/
def unsupportedRequests : List (String × Shape) :=
  [("textDocument/willSaveWaitUntil", .record [inDocument, must "reason" .int32]),
    ("textDocument/declaration", streaming atPosition),
    ("textDocument/definition", streaming atPosition),
    ("textDocument/typeDefinition", streaming atPosition),
    ("textDocument/implementation", streaming atPosition),
    ("textDocument/references",
      streaming
        (must "context" (.record [must "includeDeclaration" .bool]) :: atPosition)),
    ("textDocument/prepareCallHierarchy", reporting atPosition),
    ("callHierarchy/incomingCalls",
      streaming [must "item" (Shape.hierarchyItem (.list .int32))]),
    ("callHierarchy/outgoingCalls",
      streaming [must "item" (Shape.hierarchyItem (.list .int32))]),
    ("textDocument/prepareTypeHierarchy", reporting atPosition),
    ("typeHierarchy/supertypes", streaming [must "item" (Shape.hierarchyItem .int32)]),
    ("typeHierarchy/subtypes", streaming [must "item" (Shape.hierarchyItem .int32)]),
    ("textDocument/documentHighlight", streaming atPosition),
    ("textDocument/documentLink", streaming [inDocument]),
    ("documentLink/resolve", Shape.link),
    ("textDocument/hover", reporting atPosition),
    ("textDocument/codeLens", streaming [inDocument]),
    ("codeLens/resolve", Shape.lens),
    ("textDocument/foldingRange", streaming [inDocument]),
    ("textDocument/selectionRange",
      streaming [inDocument, must "positions" (.list Shape.position)]),
    ("textDocument/documentSymbol", streaming [inDocument]),
    ("textDocument/semanticTokens/range", streaming inRange),
    ("textDocument/inlineValue",
      reporting
        (must "context"
          (.record [must "frameId" .int32, must "stoppedLocation" Shape.range]) :: inRange)),
    ("textDocument/inlayHint", reporting inRange),
    ("inlayHint/resolve", Shape.hint),
    ("textDocument/moniker", streaming atPosition),
    ("textDocument/completion",
      streaming (may "context" Shape.completionContext :: atPosition)),
    ("completionItem/resolve", Shape.completion),
    ("textDocument/diagnostic",
      streaming [inDocument, may "identifier" .string, may "previousResultId" .string]),
    ("workspace/diagnostic",
      streaming
        [may "identifier" .string,
          must "previousResultIds"
            (.list (.record [must "uri" .uri, must "value" .string]))]),
    ("textDocument/signatureHelp",
      reporting (may "context" Shape.signatureContext :: atPosition)),
    ("textDocument/codeAction", streaming (must "context" Shape.actionContext :: inRange)),
    ("codeAction/resolve", Shape.action),
    ("textDocument/documentColor", streaming [inDocument]),
    ("textDocument/colorPresentation", streaming (must "color" Shape.colour :: inRange)),
    ("textDocument/formatting", reporting [inDocument, must "options" Shape.formatting]),
    ("textDocument/rangeFormatting", reporting (must "options" Shape.formatting :: inRange)),
    ("textDocument/onTypeFormatting",
      .object (must "ch" .string :: must "options" Shape.formatting :: atPosition) .any),
    ("textDocument/rename", reporting (must "newName" .string :: atPosition)),
    ("textDocument/prepareRename", .record atPosition),
    ("textDocument/linkedEditingRange", reporting atPosition),
    ("workspace/symbol", streaming [must "query" .string]),
    ("workspaceSymbol/resolve", Shape.symbol),
    ("workspace/willCreateFiles", Shape.files ["uri"]),
    ("workspace/willRenameFiles", Shape.files ["oldUri", "newUri"]),
    ("workspace/willDeleteFiles", Shape.files ["uri"]),
    ("workspace/executeCommand",
      reporting [must "command" .string, ("arguments", .trailing, .list .any)])]

def ignoredNotifications : List String :=
  ["initialized", "textDocument/willSave", "textDocument/didSave",
    "workspace/didChangeConfiguration", "workspace/didChangeWorkspaceFolders",
    "workspace/didCreateFiles", "workspace/didRenameFiles", "workspace/didDeleteFiles",
    "workspace/didChangeWatchedFiles"]

def find? (name : String) : Option Method :=
  match name with
  | "textDocument/didOpen" => some (.tell didOpen?)
  | "textDocument/didChange" => some (.tell didChange?)
  | "textDocument/didClose" => some (.tell didClose?)
  | "textDocument/semanticTokens/full" => some (.ask full?)
  | "textDocument/semanticTokens/full/delta" => some (.ask delta?)
  | _ =>
    match unsupportedRequests.find? (·.1 = name) with
    | some (_, params) => some (.unsupported params)
    | none => if name ∈ ignoredNotifications then some .ignored else none

end Method

end CirHighlight.Rpc
