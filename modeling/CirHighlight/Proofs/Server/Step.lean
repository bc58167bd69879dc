import CirHighlight.Server.Basic

namespace CirHighlight

namespace Documents

variable {κ : Type} [DecidableEq κ]

@[simp]
theorem text?_openText (documents : Documents κ) (uri other : κ) (text : String) :
    (documents.openText uri text).text? other =
      if other = uri then some text else documents.text? other :=
  Store.get?_insert _ _ _ _

@[simp]
theorem text?_close (documents : Documents κ) (uri other : κ) :
    (documents.close uri).text? other = if other = uri then none else documents.text? other :=
  Store.get?_erase _ _ _

@[simp]
theorem text?_snd_change (documents : Documents κ) (uri other : κ) (changes : List Change) :
    (documents.change uri changes).2.text? other =
      if other = uri then (documents.text? other).map (Change.applyAll changes)
      else documents.text? other := by
  unfold change
  by_cases huri : other = uri
  · rw [if_pos huri, huri]
    cases htext : documents.text? uri with
    | none => exact htext
    | some text => exact (Store.get?_insert _ _ _ _).trans (if_pos rfl)
  · rw [if_neg huri]
    cases documents.text? uri with
    | none => rfl
    | some text => exact (Store.get?_insert _ _ _ _).trans (if_neg huri)

end Documents

namespace Request

variable {κ : Type}

def uri : Request κ → κ
  | .didOpen uri _ | .didChange uri _ | .didClose uri | .full uri | .delta uri _
  | .computeFull uri | .computeDelta uri => uri

def asks : Request κ → Bool
  | .didOpen .. | .didChange .. | .didClose .. => false
  | .full .. | .delta .. | .computeFull .. | .computeDelta .. => true

/-- The text of the document of a request after it, given the text before it. -/
def textAfter : Request κ → Option String → Option String
  | .didOpen _ text, _ => some text
  | .didChange _ changes, text => text.map (Change.applyAll changes)
  | .didClose _, _ => none
  | .full _, text | .delta _ _, text | .computeFull _, text | .computeDelta _, text => text

theorem textAfter_of_asks {request : Request κ} (h : request.asks = true)
    (text : Option String) : request.textAfter text = text := by
  cases request with
  | didOpen | didChange | didClose => cases h
  | full | delta | computeFull | computeDelta => rfl

end Request

namespace Answer

/-- The identifier under which an answer hands out tokens. -/
def id? : Answer → Option String
  | .none | .failed => Option.none
  | .full result => some result.id
  | .edits id _ => some id
  | .delta handed => some handed.id

end Answer

namespace Sessions

variable {κ : Type} [DecidableEq κ]

theorem toString_injective {m n : Nat} (h : toString m = toString n) : m = n := by
  have hdigits : Nat.toDigits 10 m = Nat.toDigits 10 n := by
    simpa using congrArg String.toList h
  rw [← Nat.ofDigitChars_ten_toDigits (n := m), hdigits, Nat.ofDigitChars_ten_toDigits]

/-- The answer to a request for tokens, given the tokens. -/
def answer (sessions : Sessions κ) (tokens : TokenStream) : Request κ → Answer
  | .full uri | .computeFull uri => .full (sessions.full uri tokens).1
  | .delta uri previous => Server.wireDelta (sessions.delta uri tokens).1 previous
  | .computeDelta uri => .delta (sessions.delta uri tokens).1
  | .didOpen .. | .didChange .. | .didClose .. => .none

theorem wireDelta_id? (delta : Delta) (previous : String) :
    (Server.wireDelta delta previous).id? = some delta.id := by
  unfold Server.wireDelta
  split
  · rfl
  · split <;> rfl

theorem wireDelta_delta (sessions : Sessions κ) (uri : κ) (tokens : TokenStream)
    (previous : String) :
    ((∀ baseline, sessions.baseline? uri = some baseline → baseline.id = previous) ∧
      Server.wireDelta (sessions.delta uri tokens).1 previous =
        .edits sessions.nextId ((sessions.delta uri tokens).1.edits.map WireEdit.ofEdit)) ∨
    ∃ baseline, sessions.baseline? uri = some baseline ∧ baseline.id ≠ previous ∧
      Server.wireDelta (sessions.delta uri tokens).1 previous =
        .full ⟨sessions.nextId, tokens⟩ := by
  have hbase : (sessions.delta uri tokens).1.base = (sessions.baseline? uri).map (·.id) := rfl
  rw [Server.wireDelta, hbase]
  cases hb : sessions.baseline? uri with
  | none =>
    refine .inl ⟨?_, rfl⟩
    intro baseline he
    cases he
  | some baseline =>
    by_cases hid : baseline.id = previous
    · refine .inl ⟨?_, if_pos hid⟩
      intro other he
      cases he
      exact hid
    · exact .inr ⟨baseline, rfl, hid, if_neg hid⟩

theorem answer_id? (sessions : Sessions κ) (tokens : TokenStream) {request : Request κ}
    (h : request.asks = true) : (sessions.answer tokens request).id? = some sessions.nextId := by
  cases request with
  | didOpen | didChange | didClose => cases h
  | full | computeFull | computeDelta => rfl
  | delta uri previous => exact wireDelta_id? _ previous

@[simp]
theorem baseline?_record (sessions : Sessions κ) (uri other : κ) (tokens : TokenStream) :
    (sessions.record uri tokens).baseline? other =
      if other = uri then some ⟨sessions.nextId, tokens⟩ else sessions.baseline? other :=
  Store.get?_insert _ _ _ _

@[simp]
theorem baseline?_remove (sessions : Sessions κ) (uri other : κ) :
    (sessions.remove uri).baseline? other =
      if other = uri then none else sessions.baseline? other :=
  Store.get?_erase _ _ _

end Sessions

namespace Server

variable {κ : Type} [DecidableEq κ]

/-- The rules by which a server answers a request and goes on. -/
inductive Transition (provider : Provider) (server : Server κ) :
    Request κ → Answer → Server κ → Prop
  | opened (uri : κ) (text : String) :
    Transition provider server (.didOpen uri text) .none
      { server with documents := server.documents.openText uri text }
  | changed (uri : κ) (changes : List Change) :
    Transition provider server (.didChange uri changes) .none
      { server with documents := (server.documents.change uri changes).2 }
  | closed (uri : κ) :
    Transition provider server (.didClose uri) .none
      { documents := server.documents.close uri, sessions := server.sessions.remove uri }
  | unknown {request : Request κ} (hasks : request.asks = true)
      (htext : server.documents.text? request.uri = none) :
    Transition provider server request .none server
  | failed {request : Request κ} {text : String} (hasks : request.asks = true)
      (htext : server.documents.text? request.uri = some text) (hfails : provider text = none) :
    Transition provider server request .failed server
  | answered {request : Request κ} {text : String} {tokens : TokenStream}
      (hasks : request.asks = true) (htext : server.documents.text? request.uri = some text)
      (htokens : provider text = some tokens) :
    Transition provider server request (server.sessions.answer tokens request)
      { server with sessions := server.sessions.record request.uri tokens }

theorem transition_step (provider : Provider) (server : Server κ) (request : Request κ) :
    Transition provider server request (server.step provider request).1
      (server.step provider request).2 := by
  cases request with
  | didOpen uri text => exact .opened uri text
  | didChange uri changes => exact .changed uri changes
  | didClose uri => exact .closed uri
  | full uri | delta uri previous | computeFull uri | computeDelta uri =>
    simp only [step, handOut]
    split
    case h_1 htext => exact .unknown rfl htext
    case h_2 text htext =>
      split
      case h_1 hfails => exact .failed rfl htext hfails
      case h_2 tokens htokens => exact .answered rfl htext htokens

theorem step_of_asks (provider : Provider) (server : Server κ) {request : Request κ}
    (hasks : request.asks = true) :
    server.step provider request =
      match server.documents.text? request.uri with
      | none => (.none, server)
      | some text =>
        match provider text with
        | none => (.failed, server)
        | some tokens =>
          (server.sessions.answer tokens request,
            { server with sessions := server.sessions.record request.uri tokens }) := by
  cases request with
  | didOpen | didChange | didClose => cases hasks
  | full | delta | computeFull | computeDelta => rfl

end Server

end CirHighlight
