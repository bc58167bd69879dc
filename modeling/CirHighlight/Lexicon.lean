import CirHighlight.Token.Category

namespace CirHighlight

structure Lexicon where
  keywords : List String
  macros : List String
  typenames : List String

namespace Lexicon

def builtin : Lexicon where
  keywords := ["loc", "module", "nsw", "nuw", "extra", "const"]
  macros :=
    ["fused", "undefined", "async", "init", "constant", "dsolocal", "private", "cir_private",
      "attributes", "struct", "incomplete", "true", "false"]
  typenames := ["dense", "vector"]

def withKeywords (lexicon : Lexicon) (words : List String) : Lexicon :=
  { lexicon with keywords := lexicon.keywords ++ words }

def withMacros (lexicon : Lexicon) (words : List String) : Lexicon :=
  { lexicon with macros := lexicon.macros ++ words }

def withTypenames (lexicon : Lexicon) (words : List String) : Lexicon :=
  { lexicon with typenames := lexicon.typenames ++ words }

/-- The category of a word: keyword before macro before type name. -/
def classify (lexicon : Lexicon) (word : String) : Option Category :=
  if word ∈ lexicon.keywords then some .keyword
  else if word ∈ lexicon.macros then some .macroName
  else if word ∈ lexicon.typenames then some .typeName
  else none

/-- Whether two lists hold the same words, order and repetition aside. -/
def sameWords (left right : List String) : Bool :=
  left.all (· ∈ right) && right.all (· ∈ left)

def isBuiltin (lexicon : Lexicon) : Bool :=
  sameWords lexicon.keywords builtin.keywords && sameWords lexicon.macros builtin.macros &&
    sameWords lexicon.typenames builtin.typenames

end Lexicon

end CirHighlight
