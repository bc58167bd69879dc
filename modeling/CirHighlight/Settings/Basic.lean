import CirHighlight.Highlighter
import CirHighlight.Settings.Decode

namespace CirHighlight

/-- The settings of the programs: words added to the built-in lists, what becomes of comments and
unclassified words, and how much is logged. -/
structure Settings where
  extraKeywords : List String
  extraMacros : List String
  extraTypenames : List String
  comments : Bool
  unclassified : String
  level : String
deriving DecidableEq

namespace Settings

def lexiconPart : Part :=
  ⟨"LexiconConfig", ["extra_keywords", "extra_macros", "extra_typenames"]⟩

def highlightPart : Part :=
  ⟨"HighlightConfig", ["comments", "unclassified"]⟩

def loggingPart : Part :=
  ⟨"LoggingConfig", ["level"]⟩

def decodeLexicon (value : Value) : Except Error (List String × List String × List String) := do
  let values ← lexiconPart.values value
  let keywords ← lexiconPart.read? values "extra_keywords" Value.toTexts
  let macros ← lexiconPart.read? values "extra_macros" Value.toTexts
  let typenames ← lexiconPart.read? values "extra_typenames" Value.toTexts
  return (← Part.require "extra_keywords" keywords, ← Part.require "extra_macros" macros,
    ← Part.require "extra_typenames" typenames)

def decodeHighlight (value : Value) : Except Error (Bool × String) := do
  let values ← highlightPart.values value
  let comments ← highlightPart.read? values "comments" Value.toBool
  let unclassified ← highlightPart.read? values "unclassified" Value.toText
  return (← Part.require "comments" comments, ← Part.require "unclassified" unclassified)

def decodeLogging (value : Value) : Except Error String := do
  let values ← loggingPart.values value
  let level ← loggingPart.read? values "level" Value.toText
  Part.require "level" level

def decodePart {α : Type} (root : Value) (name : String) (decode : Value → Except Error α) :
    Except Error (Option α) :=
  match root.field? name with
  | none => .ok none
  | some value => ((decode value).mapError (.below (.field name))).map some

def decode (root : Value) : Except Error Settings := do
  let lexicon ← decodePart root "lexicon" decodeLexicon
  let highlight ← decodePart root "highlight" decodeHighlight
  let logging ← decodePart root "logging" decodeLogging
  let (extraKeywords, extraMacros, extraTypenames) ← Part.require "lexicon" lexicon
  let (comments, unclassified) ← Part.require "highlight" highlight
  let level ← Part.require "logging" logging
  return { extraKeywords, extraMacros, extraTypenames, comments, unclassified, level }

def lexicon (settings : Settings) : Lexicon :=
  ((Lexicon.builtin.withKeywords settings.extraKeywords).withMacros
    settings.extraMacros).withTypenames settings.extraTypenames

def policy (settings : Settings) : Except Error Policy :=
  (Policy.read settings.unclassified).mapError .unknownFallback

def highlighter (settings : Settings) : Except Error Highlighter := do
  return {
    lexer := { lexicon := settings.lexicon, comments := settings.comments }
    policy := ← settings.policy }

end Settings

end CirHighlight
