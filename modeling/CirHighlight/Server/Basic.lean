import CirHighlight.Document
import CirHighlight.Highlighter
import CirHighlight.Server.Wire
import CirHighlight.Session

/-!
The language server as a state machine. It keeps the texts of open documents and the results its
client may hold, and answers requests one after the other. What a document's tokens are is up to
a provider, which may fail.
-/

namespace CirHighlight

abbrev Provider := String → Option TokenStream

def Highlighter.provider (highlighter : Highlighter) : Provider := fun text =>
  (highlighter.highlight text).toOption

structure Server (κ : Type) where
  documents : Documents κ := {}
  sessions : Sessions κ := {}

inductive Request (κ : Type) where
  | didOpen (uri : κ) (text : String)
  | didChange (uri : κ) (changes : List Change)
  | didClose (uri : κ)
  | full (uri : κ)
  | delta (uri : κ) (previous : String)
  | computeFull (uri : κ)
  | computeDelta (uri : κ)

/-- What a server answers. `none` stands for notifications and for documents that are not open,
`failed` for a provider that failed. -/
inductive Answer where
  | none
  | failed
  | full (result : Result)
  | edits (id : String) (edits : List WireEdit)
  | delta (delta : Delta)
deriving DecidableEq

namespace Server

variable {κ : Type} [DecidableEq κ]

/-- Hands out the tokens of a document by a method of the session store. -/
def handOut (provider : Provider) (server : Server κ) (uri : κ)
    (give : Sessions κ → TokenStream → Answer × Sessions κ) : Answer × Server κ :=
  match server.documents.text? uri with
  | none => (.none, server)
  | some text =>
    match provider text with
    | none => (.failed, server)
    | some tokens =>
      let (answer, sessions) := give server.sessions tokens
      (answer, { server with sessions })

/-- The answer to a client that holds the given result: edits if that is the baseline or there is
none, and otherwise all tokens. -/
def wireDelta (delta : Delta) (previous : String) : Answer :=
  match delta.base with
  | none => .edits delta.id (delta.edits.map WireEdit.ofEdit)
  | some base =>
    if base = previous then .edits delta.id (delta.edits.map WireEdit.ofEdit)
    else .full ⟨delta.id, delta.tokens⟩

def step (provider : Provider) (server : Server κ) : Request κ → Answer × Server κ
  | .didOpen uri text =>
    (.none, { server with documents := server.documents.openText uri text })
  | .didChange uri changes =>
    (.none, { server with documents := (server.documents.change uri changes).2 })
  | .didClose uri =>
    (.none,
      { documents := server.documents.close uri, sessions := server.sessions.remove uri })
  | .full uri | .computeFull uri =>
    server.handOut provider uri fun sessions tokens =>
      let (result, sessions) := sessions.full uri tokens
      (.full result, sessions)
  | .delta uri previous =>
    server.handOut provider uri fun sessions tokens =>
      let (delta, sessions) := sessions.delta uri tokens
      (wireDelta delta previous, sessions)
  | .computeDelta uri =>
    server.handOut provider uri fun sessions tokens =>
      let (delta, sessions) := sessions.delta uri tokens
      (.delta delta, sessions)

def run (provider : Provider) (server : Server κ) : List (Request κ) → List Answer × Server κ
  | [] => ([], server)
  | request :: rest =>
    let (answer, server) := server.step provider request
    let (answers, server) := server.run provider rest
    (answer :: answers, server)

end Server

end CirHighlight
