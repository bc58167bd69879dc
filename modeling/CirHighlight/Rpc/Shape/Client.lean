import CirHighlight.Rpc.Shape.Document

namespace CirHighlight.Rpc.Shape

def flags (names : List String) : Shape := .record (names.map (may · .bool))

def registration : Shape := flags ["dynamicRegistration"]

/-- Whether a feature may be registered later, and whether links may be given for places. -/
def linkRegistration : Shape := flags ["dynamicRegistration", "linkSupport"]

def refreshing : Shape := flags ["refreshSupport"]

def lateProperties : Shape := .record [must "properties" (.list .string)]

def knownKinds : Shape := .record [may "valueSet" (.list .int32)]

def knownTags : Field :=
  ("tagSupport", .trailing,
    .nullable (.either .bool (.record [must "valueSet" (.list .int32)])))

def workspaceFeatures : Shape :=
  .record
    [may "applyEdit" .bool,
      may "workspaceEdit"
        (.record
          [may "documentChanges" .bool,
            may "resourceOperations" (.list (.oneOf ["create", "rename", "delete"])),
            may "failureHandling"
              (.oneOf ["abort", "transactional", "textOnlyTransactional", "undo"]),
            may "normalizesLineEndings" .bool,
            may "changeAnnotationSupport" (flags ["groupsOnLabel"])]),
      may "didChangeConfiguration" registration,
      may "didChangeWatchedFiles" (flags ["dynamicRegistration", "relativePatternSupport"]),
      may "symbol"
        (.record
          [may "dynamicRegistration" .bool, may "symbolKind" knownKinds, knownTags,
            may "resolveSupport" lateProperties]),
      may "executeCommand" registration,
      may "workspaceFolders" .bool,
      may "configuration" .bool,
      may "semanticTokens" refreshing,
      may "codeLens" refreshing,
      may "fileOperations"
        (flags
          ["dynamicRegistration", "didCreate", "willCreate", "didRename", "willRename",
            "didDelete", "willDelete"]),
      may "inlineValue" refreshing,
      may "inlayHint" refreshing,
      may "diagnostic" refreshing]

def completionFeatures : Shape :=
  .record
    [may "dynamicRegistration" .bool,
      may "completionItem"
        (.record
          [may "snippetSupport" .bool, may "commitCharactersSupport" .bool,
            may "documentationFormat" (.list markupKind), may "deprecatedSupport" .bool,
            may "preselectSupport" .bool, knownTags, may "insertReplaceSupport" .bool,
            may "resolveSupport" lateProperties,
            may "insertTextModeSupport" (.record [must "valueSet" (.list .int32)]),
            may "labelDetailsSupport" .bool]),
      may "completionItemKind" knownKinds,
      may "contextSupport" .bool,
      may "insertTextMode" .int32,
      may "completionList" (.record [may "itemDefaults" (.list .string)])]

def signatureFeatures : Shape :=
  .record
    [may "dynamicRegistration" .bool,
      may "signatureInformation"
        (.record
          [may "documentationFormat" (.list markupKind),
            may "parameterInformation" (flags ["labelOffsetSupport"]),
            may "activeParameterSupport" .bool]),
      may "contextSupport" .bool]

def actionFeatures : Shape :=
  .record
    [may "dynamicRegistration" .bool,
      may "codeActionLiteralSupport"
        (.record [must "codeActionKind" (.record [must "valueSet" (.list .string)])]),
      may "isPreferredSupport" .bool, may "disabledSupport" .bool, may "dataSupport" .bool,
      may "resolveSupport" lateProperties, may "honorsChangeAnnotations" .bool]

def tokenFeatures : Shape :=
  .record
    [may "dynamicRegistration" .bool,
      must "requests"
        (.record
          [may "range" .bool,
            may "full" (.either .bool (.object [may "delta" .bool] .any))]),
      must "tokenTypes" (.list .string), must "tokenModifiers" (.list .string),
      must "formats" (.list .string), may "overlappingTokenSupport" .bool,
      may "multilineTokenSupport" .bool, may "serverCancelSupport" .bool,
      may "augmentsSyntaxTokens" .bool]

def documentFeatures : Shape :=
  .record
    [may "synchronization"
        (flags ["dynamicRegistration", "willSave", "willSaveWaitUntil", "didSave"]),
      may "completion" completionFeatures,
      may "hover"
        (.record [may "dynamicRegistration" .bool, may "contentFormat" (.list markupKind)]),
      may "signatureHelp" signatureFeatures,
      may "references" registration,
      may "documentHighlight" registration,
      may "documentSymbol"
        (.record
          [may "dynamicRegistration" .bool, may "symbolKind" knownKinds,
            may "hierarchicalDocumentSymbolSupport" .bool, knownTags]),
      may "formatting" registration,
      may "rangeFormatting" registration,
      may "onTypeFormatting" registration,
      may "declaration" linkRegistration,
      may "definition" linkRegistration,
      may "typeDefinition" linkRegistration,
      may "implementation" linkRegistration,
      may "codeAction" actionFeatures,
      may "codeLens" registration,
      may "documentLink" (flags ["dynamicRegistration", "tooltipSupport"]),
      may "colorProvider" registration,
      may "rename"
        (.record
          [may "dynamicRegistration" .bool, may "prepareSupport" .bool,
            may "prepareSupportDefaultBehavior" .int32, may "honorsChangeAnnotations" .bool]),
      may "publishDiagnostics"
        (.record
          [may "relatedInformation" .bool, knownTags, may "versionSupport" .bool,
            may "codeDescriptionSupport" .bool, may "dataSupport" .bool]),
      may "foldingRange"
        (.record
          [may "dynamicRegistration" .bool, may "rangeLimit" .word, may "lineFoldingOnly" .bool,
            may "foldingRangeKind"
              (.record [may "valueSet" (.list (.oneOf ["comment", "imports", "region"]))]),
            may "foldingRange" (flags ["collapsedText"])]),
      may "selectionRange" registration,
      may "linkedEditingRange" registration,
      may "callHierarchy" registration,
      may "semanticTokens" tokenFeatures,
      may "moniker" registration,
      may "typeHierarchy" registration,
      may "inlineValue" registration,
      may "inlayHint"
        (.record [may "dynamicRegistration" .bool, may "resolveSupport" lateProperties]),
      may "diagnostic" (flags ["dynamicRegistration", "relatedDocumentSupport"])]

def windowFeatures : Shape :=
  .record
    [may "workDoneProgress" .bool,
      may "showMessage"
        (.record [may "messageActionItem" (flags ["additionalPropertiesSupport"])]),
      may "showDocument" (.record [must "support" .bool])]

def generalFeatures : Shape :=
  .record
    [may "regularExpressions" (.record [must "engine" .string, may "version" .string]),
      may "markdown"
        (.record [must "parser" .string, may "version" .string,
          may "allowedTags" (.list .string)]),
      may "staleRequestSupport"
        (.record [must "cancel" .bool, must "retryOnContentModified" (.list .string)]),
      may "positionEncodings" (.list .string)]

def connection : Shape :=
  .record
    [may "processId" .word, may "rootPath" .string, ("rootUri", .trailing, .nullable .uri),
      may "initializationOptions" .any,
      must "capabilities"
        (.record
          [may "workspace" workspaceFeatures, may "textDocument" documentFeatures,
            may "window" windowFeatures, may "general" generalFeatures,
            may "experimental" .any]),
      ("trace", .trailing, .nullable (.oneOf ["off", "messages", "verbose"])),
      may "workspaceFolders" (.list (.record [must "uri" .uri, must "name" .string])),
      may "clientInfo" (.record [must "name" .string, may "version" .string]),
      may "locale" .string]

end CirHighlight.Rpc.Shape
