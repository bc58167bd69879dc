import CirHighlight.Token.Basic

/-!
The stream of tokens that goes to a client. Every token is five integers: its distance in lines
from the token before it, its distance in columns if it is on the same line and its column
otherwise, its length, its category and its modifiers.
-/

namespace CirHighlight

structure Relative where
  deltaLine : UInt32
  deltaStart : UInt32
  length : UInt32
  category : UInt32
  modifiers : UInt32
deriving DecidableEq

/-- A token with its absolute place, as it stands in a stream: without its text. -/
structure Entry where
  line : UInt32
  column : UInt32
  length : UInt32
  category : UInt32
  modifiers : UInt32
deriving DecidableEq

namespace Relative

def integers (token : Relative) : List UInt32 :=
  [token.deltaLine, token.deltaStart, token.length, token.category, token.modifiers]

end Relative

abbrev TokenStream := List Relative

namespace TokenStream

def tokenWidth : Nat := 5

def integers (stream : TokenStream) : List UInt32 :=
  stream.flatMap Relative.integers

def ofIntegers : List UInt32 → TokenStream
  | deltaLine :: deltaStart :: length :: category :: modifiers :: rest =>
    { deltaLine, deltaStart, length, category, modifiers } :: ofIntegers rest
  | _ => []

structure Truncated where
  length : Nat
deriving DecidableEq

def Truncated.message (truncated : Truncated) : String :=
  "encoded stream has " ++ toString truncated.length ++
    " integers, not a whole number of 5-integer tokens"

def read (integers : List UInt32) : Except Truncated TokenStream :=
  if integers.length % tokenWidth = 0 then .ok (ofIntegers integers)
  else .error ⟨integers.length⟩

@[simp]
theorem length_integers (stream : TokenStream) :
    stream.integers.length = tokenWidth * stream.length := by
  induction stream with
  | nil => rfl
  | cons token rest ih =>
    simp only [integers, List.flatMap_cons, List.length_append, List.length_cons] at ih ⊢
    rw [ih]
    simp only [Relative.integers, List.length_cons, List.length_nil, tokenWidth]
    omega

@[simp]
theorem ofIntegers_integers (stream : TokenStream) : ofIntegers stream.integers = stream := by
  induction stream with
  | nil => rfl
  | cons token rest ih => exact congrArg (token :: ·) ih

/-- The sum of two 32-bit numbers, or the greatest such number where the sum is beyond it. -/
def saturatingAdd (a b : UInt32) : UInt32 :=
  if a.toNat + b.toNat < UInt32.size then a + b else 0xFFFFFFFF

/-- The absolute places of tokens that follow a token at a line and a column. -/
def decodeFrom (line column : UInt32) : TokenStream → List Entry
  | [] => []
  | token :: rest =>
    let line := saturatingAdd line token.deltaLine
    let column :=
      if token.deltaLine = 0 then saturatingAdd column token.deltaStart else token.deltaStart
    { line, column, length := token.length, category := token.category,
      modifiers := token.modifiers } :: decodeFrom line column rest

def decode (stream : TokenStream) : List Entry :=
  decodeFrom 0 0 stream

/-- Places tokens relative to each other, the first to a token at a line and a column. -/
def ofEntriesFrom (line column : UInt32) : List Entry → TokenStream
  | [] => []
  | entry :: rest =>
    { deltaLine := entry.line - line
      deltaStart := if entry.line - line = 0 then entry.column - column else entry.column
      length := entry.length
      category := entry.category
      modifiers := entry.modifiers } :: ofEntriesFrom entry.line entry.column rest

def ofEntries (entries : List Entry) : TokenStream :=
  ofEntriesFrom 0 0 entries

end TokenStream

end CirHighlight
