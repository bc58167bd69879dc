namespace CirHighlight

inductive Category where
  | keyword
  | function
  | variableName
  | number
  | comment
  | typeName
  | macroName
  | operator
  | namespaceName
  | string
  | enumMember
deriving DecidableEq

namespace Category

def legend : List Category :=
  [.keyword, .function, .variableName, .number, .comment, .typeName, .macroName, .operator,
    .namespaceName, .string, .enumMember]

def index : Category → UInt32
  | .keyword => 0
  | .function => 1
  | .variableName => 2
  | .number => 3
  | .comment => 4
  | .typeName => 5
  | .macroName => 6
  | .operator => 7
  | .namespaceName => 8
  | .string => 9
  | .enumMember => 10

def name : Category → String
  | .keyword => "keyword"
  | .function => "function"
  | .variableName => "variable"
  | .number => "number"
  | .comment => "comment"
  | .typeName => "type"
  | .macroName => "macro"
  | .operator => "operator"
  | .namespaceName => "namespace"
  | .string => "string"
  | .enumMember => "enumMember"

def ofIndex? (index : UInt32) : Option Category :=
  legend[index.toNat]?

def ofName? (name : String) : Option Category :=
  legend.find? (·.name = name)

theorem ofIndex?_index (category : Category) : ofIndex? category.index = some category := by
  cases category <;> rfl

theorem ofName?_name (category : Category) : ofName? category.name = some category := by
  cases category <;> decide

end Category

structure UnknownCategory where
  name : String
deriving DecidableEq

def UnknownCategory.message (unknown : UnknownCategory) : String :=
  "unknown token category '" ++ unknown.name ++ "'"

def Category.read (name : String) : Except UnknownCategory Category :=
  match ofName? name with
  | some category => .ok category
  | none => .error ⟨name⟩

/-- A property of a token beside its category, in the order of the legend. -/
inductive Modifier where
  | declaration
  | readonly
  | deprecated
deriving DecidableEq

namespace Modifier

def legend : List Modifier :=
  [.declaration, .readonly, .deprecated]

def name : Modifier → String
  | .declaration => "declaration"
  | .readonly => "readonly"
  | .deprecated => "deprecated"

def bit : Modifier → UInt32
  | .declaration => 1
  | .readonly => 2
  | .deprecated => 4

def ofName? (name : String) : Option Modifier :=
  legend.find? (·.name = name)

end Modifier

structure Modifiers where
  bits : UInt32 := 0
deriving DecidableEq

namespace Modifiers

def empty : Modifiers := {}

def insert (modifiers : Modifiers) (modifier : Modifier) : Modifiers :=
  ⟨modifiers.bits ||| modifier.bit⟩

def contains (modifiers : Modifiers) (modifier : Modifier) : Bool :=
  modifiers.bits &&& modifier.bit ≠ 0

def toList (modifiers : Modifiers) : List Modifier :=
  Modifier.legend.filter modifiers.contains

end Modifiers

end CirHighlight
