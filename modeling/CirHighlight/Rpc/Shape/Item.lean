import CirHighlight.Rpc.Shape.Document

namespace CirHighlight.Rpc.Shape

def files (names : List String) : Shape :=
  .record [must "files" (.list (.record (names.map (must · .string))))]

/-- An item of a hierarchy of calls or types, with the shape of its tags. -/
def hierarchyItem (tags : Shape) : Shape :=
  .record
    [must "name" .string, must "kind" .int32, may "tags" tags, may "detail" .string,
      must "uri" .uri, must "range" range, must "selectionRange" range, may "data" .any]

/-- A symbol of a workspace; its place in the document may be left open. -/
def symbol : Shape :=
  .record
    [must "name" .string, must "kind" .int32, may "tags" (.list .int32),
      may "containerName" .string, must "location" (.either location document),
      may "data" .any]

def link : Shape :=
  .record
    [must "range" range, may "target" .uri, may "tooltip" .string, may "data" .any]

def lens : Shape :=
  .record [must "range" range, may "command" command, may "data" .any]

def hint : Shape :=
  .record
    [must "position" position,
      must "label"
        (.either .string
          (.list
            (.record
              [must "value" .string, may "tooltip" documentation, may "location" location,
                may "command" command]))),
      may "kind" .int32, may "textEdits" (.list textEdit), may "tooltip" documentation,
      may "paddingLeft" .bool, may "paddingRight" .bool, may "data" .any]

def completion : Shape :=
  .record
    [must "label" .string,
      may "labelDetails" (.record [may "detail" .string, may "description" .string]),
      may "kind" .int32, may "detail" .string, may "documentation" documentation,
      may "deprecated" .bool, may "preselect" .bool, may "sortText" .string,
      may "filterText" .string, may "insertText" .string, may "insertTextFormat" .int32,
      may "insertTextMode" .int32, may "textEdit" completionEdit,
      may "additionalTextEdits" (.list textEdit), may "command" command,
      may "commitCharacters" (.list .string), may "data" .any, may "tags" (.list .int32)]

def completionContext : Shape :=
  .record [must "triggerKind" .int32, may "triggerCharacter" .string]

def action : Shape :=
  .record
    [must "title" .string, may "kind" .string, may "diagnostics" (.list diagnostic),
      may "edit" workspaceEdit, may "command" command, may "isPreferred" .bool,
      may "disabled" (.record [must "reason" .string]), may "data" .any]

def actionContext : Shape :=
  .record
    [must "diagnostics" (.list diagnostic), may "only" (.list .string),
      may "triggerKind" .int32]

def signatures : Shape :=
  .record
    [must "signatures"
        (.list
          (.record
            [must "label" .string, may "documentation" documentation,
              may "parameters"
                (.list
                  (.record
                    [must "label" (.either .string (.pair .word .word)),
                      may "documentation" documentation])),
              may "activeParameter" .word])),
      may "activeSignature" .word, may "activeParameter" .word]

def signatureContext : Shape :=
  .record
    [must "triggerKind" .int32, may "triggerCharacter" .string, must "isRetrigger" .bool,
      may "activeSignatureHelp" signatures]

def colour : Shape :=
  .record
    [must "red" .number, must "green" .number, must "blue" .number, must "alpha" .number]

/-- How a document is to be formatted. Further options have simple values. -/
def formatting : Shape :=
  .object
    [must "tabSize" .word, must "insertSpaces" .bool, may "trimTrailingWhitespace" .bool,
      may "insertFinalNewline" .bool, may "trimFinalNewlines" .bool]
    (.either .bool key)

end CirHighlight.Rpc.Shape
