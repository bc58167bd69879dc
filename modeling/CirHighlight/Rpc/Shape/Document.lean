import CirHighlight.Rpc.Shape.Basic

namespace CirHighlight.Rpc.Shape

def key : Shape := .either .int32 .string

def document : Shape := .record [must "uri" .uri]

def position : Shape := .record [must "line" .word, must "character" .word]

def range : Shape := .record [must "start" position, must "end" position]

def location : Shape := .record [must "uri" .uri, must "range" range]

def markupKind : Shape := .oneOf ["plaintext", "markdown"]

def documentation : Shape :=
  .either .string (.record [must "kind" markupKind, must "value" .string])

def command : Shape :=
  .record [must "title" .string, must "command" .string, may "arguments" (.list .any)]

def diagnostic : Shape :=
  .record
    [must "range" range, may "severity" .int32, may "code" key,
      may "codeDescription" (.record [must "href" .uri]), may "source" .string,
      must "message" .string,
      may "relatedInformation"
        (.list (.record [must "location" location, must "message" .string])),
      may "tags" (.list .int32), may "data" .any]

def textEdit : Shape := .record [must "range" range, must "newText" .string]

/-- An edit of a text that a completion makes: one range, or a choice between two. -/
def completionEdit : Shape :=
  .either textEdit
    (.record [must "newText" .string, must "insert" range, must "replace" range])

def documentEdit : Shape :=
  .record
    [must "textDocument" (.record [must "uri" .uri, may "version" .int32]),
      must "edits" (.list textEdit)]

def fileChange : Shape :=
  .tagged "kind"
    [("create",
        .record
          [must "uri" .uri,
            may "options" (.record [may "overwrite" .bool, may "ignoreIfExists" .bool]),
            may "annotationId" .string]),
      ("rename",
        .record
          [must "oldUri" .uri, must "newUri" .uri,
            may "options" (.record [may "overwrite" .bool, may "ignoreIfExists" .bool]),
            may "annotationId" .string]),
      ("delete",
        .record
          [must "uri" .uri,
            may "options"
              (.record
                [may "recursive" .bool, may "ignoreIfNotExists" .bool,
                  may "annotationId" .string])])]

def workspaceEdit : Shape :=
  .record
    [("changes", .trailing, .nullable (.table .uri (.list textEdit))),
      may "documentChanges" (.list (.either fileChange documentEdit)),
      may "changeAnnotations"
        (.table .string
          (.record
            [must "label" .string, may "needsConfirmation" .bool, may "description" .string]))]

end CirHighlight.Rpc.Shape
