import CirHighlight.Number.Word64
import CirHighlight.Settings.Value
import CirHighlight.Text.Reader
import CirHighlight.Text.Ascii

namespace CirHighlight.Settings

open Reader

inductive Step where
  | field (name : String)
  | item (index : Int)
deriving DecidableEq

structure Path where
  root : String
  steps : List Step
deriving DecidableEq

namespace Path

def isNameChar (c : Char) : Bool :=
  c.isAlphanum || c = ' ' || c = '_' || c = '-'

def name : Reader String :=
  String.ofList <$> takeWhile1 isNameChar

def index : Reader Int := do
  let blank := fun c => c = ' ' || c = '\t'
  skipWhile blank
  let minus ← maybe (char '-')
  let value := Text.decimalValue (← takeWhile1 Char.isDigit)
  let value : Int := if minus.isSome then -value else value
  skipWhile blank
  if Number.isSigned64 value then return value else failure

def step : Reader Step :=
  (do char '.'; return .field (← name)) <|>
    (do char '['; let i ← index; char ']'; return .item i)

def read? (text : String) : Option Path :=
  run? (do return { root := ← name, steps := ← many step }) text.toList

end Path

structure IndexBeforeStart where
  index : Int
  length : Nat
deriving DecidableEq

/-- The place of an index in an array; negative ones count from the end. -/
def place (index : Int) (length : Nat) : Except IndexBeforeStart Nat :=
  let counted := if 0 ≤ index then index else length + index
  if 0 ≤ counted then .ok counted.toNat else .error ⟨index, length⟩

namespace Value

/-- The items of an array, with enough nil values at the end that there is one at the place. -/
def padded (items : List Value) (place : Nat) : List Value :=
  items ++ List.replicate (place + 1 - items.length) nil

def arrayOrigin : Value → Option String
  | .array origin _ => origin
  | _ => none

/-- Changes the value at some steps below a value. What is not of the kind that a step needs is
replaced by an empty table or array. -/
def modify (change : Value → Except IndexBeforeStart Value) :
    List Step → Value → Except IndexBeforeStart Value
  | [], value => change value
  | .field name :: steps, value => do
    let name := Text.lowercase name
    return value.withField name (← modify change steps ((value.field? name).getD nil))
  | .item index :: steps, value => do
    let items := value.items
    let place ← place index items.length
    let items := padded items place
    let item ← modify change steps ((items[place]?).getD nil)
    return .array value.arrayOrigin (items.set place item)

def splitLast (first : Step) : List Step → List Step × Step
  | [] => ([], first)
  | next :: rest =>
    let (before, last) := splitLast next rest
    (first :: before, last)

def setAt (target : Value) (path : Path) (value : Value) : Except IndexBeforeStart Value :=
  let (before, last) := splitLast (.field path.root) path.steps
  let change (parent : Value) : Except IndexBeforeStart Value :=
    match last with
    | .field name => .ok (setField name value parent)
    | .item index => do
      let place ← place index parent.items.length
      return .array parent.arrayOrigin ((padded parent.items place).set place value)
  target.modify change before

/-- Puts a value under a key: at the path that the key is, or under the key as it stands if it is
none. -/
def setKey (target : Value) (key : String) (value : Value) : Except IndexBeforeStart Value :=
  match Path.read? key with
  | some path => target.setAt path value
  | none => .ok (setField key value target)

def setKeys (target : Value) (fields : List (String × Value)) :
    Except IndexBeforeStart Value :=
  fields.foldlM (fun target (key, value) => target.setKey key value) target

end Value

end CirHighlight.Settings
