import CirHighlight.Store
import CirHighlight.TokenStream.Basic
import CirHighlight.TokenStream.Edit

namespace CirHighlight

structure Result where
  id : String
  tokens : TokenStream
deriving DecidableEq

structure Delta where
  id : String
  base : Option String
  edits : List Edit
  tokens : TokenStream
deriving DecidableEq

structure Sessions (κ : Type) where
  baselines : Store κ Result := {}
  next : UInt64 := 0

namespace Sessions

variable {κ : Type} [DecidableEq κ]

/-- The identifier of the next result: its number in decimal digits. -/
def nextId (sessions : Sessions κ) : String :=
  toString sessions.next.toNat

def baseline? (sessions : Sessions κ) (uri : κ) : Option Result :=
  sessions.baselines.get? uri

/-- Makes a stream the baseline of a document, under the next identifier. -/
def record (sessions : Sessions κ) (uri : κ) (tokens : TokenStream) : Sessions κ where
  baselines := sessions.baselines.insert uri ⟨sessions.nextId, tokens⟩
  next := sessions.next + 1

def full (sessions : Sessions κ) (uri : κ) (tokens : TokenStream) : Result × Sessions κ :=
  (⟨sessions.nextId, tokens⟩, sessions.record uri tokens)

/-- Hands out a stream as edits to the baseline, or to the empty stream where there is none. -/
def delta (sessions : Sessions κ) (uri : κ) (tokens : TokenStream) : Delta × Sessions κ :=
  let baseline := sessions.baseline? uri
  let before : TokenStream := (baseline.map (·.tokens)).getD []
  ({ id := sessions.nextId
     base := baseline.map (·.id)
     edits := Edit.diffTokens before.integers tokens.integers
     tokens },
    sessions.record uri tokens)

def remove (sessions : Sessions κ) (uri : κ) : Sessions κ :=
  { sessions with baselines := sessions.baselines.erase uri }

end Sessions

end CirHighlight
