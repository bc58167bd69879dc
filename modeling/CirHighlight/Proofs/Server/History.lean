import CirHighlight.Proofs.Server.Step

namespace CirHighlight

/-- A request, the server that was sent it, and the answer that was given. -/
structure Moment (κ : Type) where
  server : Server κ
  request : Request κ
  answer : Answer

namespace Moment

variable {κ : Type} [DecidableEq κ]

def closes (uri : κ) (moment : Moment κ) : Bool :=
  match moment.request with
  | .didClose closed => closed = uri
  | _ => false

/-- What a moment hands out: the tokens of the document as it is, under the identifier of the
answer. -/
def result? (provider : Provider) (moment : Moment κ) : Option Result :=
  moment.answer.id?.bind fun id =>
    ((moment.server.documents.text? moment.request.uri).bind provider).map (Result.mk id)

def resultFor? (provider : Provider) (uri : κ) (moment : Moment κ) : Option Result :=
  if moment.request.uri = uri then moment.result? provider else none

theorem closes_of_ne {uri : κ} {moment : Moment κ} (h : moment.request.uri ≠ uri) :
    moment.closes uri = false := by
  obtain ⟨server, request, answer⟩ := moment
  cases request with
  | didClose closed => exact decide_eq_false h
  | didOpen | didChange | full | delta | computeFull | computeDelta => rfl

theorem closes_of_asks {uri : κ} {moment : Moment κ} (h : moment.request.asks = true) :
    moment.closes uri = false := by
  obtain ⟨server, request, answer⟩ := moment
  cases request with
  | didOpen | didChange | didClose => cases h
  | full | delta | computeFull | computeDelta => rfl

theorem resultFor?_of_id?_none {provider : Provider} {uri : κ} {moment : Moment κ}
    (h : moment.answer.id? = none) : moment.resultFor? provider uri = none := by
  simp [resultFor?, result?, h]

end Moment

namespace Server

variable {κ : Type} [DecidableEq κ]

def history (provider : Provider) (server : Server κ) : List (Request κ) → List (Moment κ)
  | [] => []
  | request :: rest =>
    ⟨server, request, (server.step provider request).1⟩ ::
      (server.step provider request).2.history provider rest

theorem run_cons (provider : Provider) (server : Server κ) (request : Request κ)
    (rest : List (Request κ)) :
    server.run provider (request :: rest) =
      ((server.step provider request).1 :: ((server.step provider request).2.run provider rest).1,
        ((server.step provider request).2.run provider rest).2) := rfl

theorem map_answer_history (provider : Provider) (server : Server κ)
    (requests : List (Request κ)) :
    (server.history provider requests).map (·.answer) = (server.run provider requests).1 := by
  induction requests generalizing server with
  | nil => rfl
  | cons request rest ih => exact congrArg (_ :: ·) (ih _)

theorem map_request_history (provider : Provider) (server : Server κ)
    (requests : List (Request κ)) :
    (server.history provider requests).map (·.request) = requests := by
  induction requests generalizing server with
  | nil => rfl
  | cons request rest ih => exact congrArg (_ :: ·) (ih _)

theorem answer_of_mem_history {provider : Provider} {server : Server κ}
    {requests : List (Request κ)} {moment : Moment κ}
    (h : moment ∈ server.history provider requests) :
    moment.answer = (moment.server.step provider moment.request).1 := by
  induction requests generalizing server with
  | nil => cases h
  | cons request rest ih =>
    rcases List.mem_cons.1 h with rfl | h
    · rfl
    · exact ih h

theorem text?_step (provider : Provider) (server : Server κ) (request : Request κ) (uri : κ) :
    (server.step provider request).2.documents.text? uri =
      if uri = request.uri then request.textAfter (server.documents.text? uri)
      else server.documents.text? uri := by
  have hstep := server.transition_step provider request
  generalize (server.step provider request).1 = answer at hstep
  generalize (server.step provider request).2 = next at hstep
  cases hstep with
  | opened opened text => exact Documents.text?_openText _ _ _ _
  | changed changed changes => exact Documents.text?_snd_change _ _ _ _
  | closed closed => exact Documents.text?_close _ _ _
  | unknown hasks | failed hasks | answered hasks =>
    rw [Request.textAfter_of_asks hasks, ite_self]

/-- A request that hands out a result makes it the baseline of its document, and one that closes
a document drops its baseline. No other baseline changes. -/
theorem baseline?_step (provider : Provider) (server : Server κ) (request : Request κ)
    (uri : κ) :
    (server.step provider request).2.sessions.baseline? uri =
      if Moment.closes uri ⟨server, request, (server.step provider request).1⟩ then none
      else
        (Moment.resultFor? provider uri
          ⟨server, request, (server.step provider request).1⟩).or
          (server.sessions.baseline? uri) := by
  have hstep := server.transition_step provider request
  generalize (server.step provider request).1 = answer at *
  generalize (server.step provider request).2 = next at *
  cases hstep with
  | opened opened text | changed changed changes =>
    rw [Moment.resultFor?_of_id?_none rfl]
    rfl
  | closed closed =>
    rw [Moment.resultFor?_of_id?_none rfl, Sessions.baseline?_remove]
    simp [Moment.closes, eq_comm]
  | unknown hasks | failed hasks =>
    rw [Moment.resultFor?_of_id?_none rfl, Moment.closes_of_asks hasks]
    rfl
  | answered hasks htext htokens =>
    rw [Moment.closes_of_asks hasks, Sessions.baseline?_record]
    simp only [Moment.resultFor?, Moment.result?, Sessions.answer_id? _ _ hasks, htext, htokens,
      Option.bind_some, Option.map_some, Bool.false_eq_true, if_false]
    by_cases huri : uri = request.uri
    · rw [if_pos huri, if_pos huri.symm, Option.some_or]
    · rw [if_neg huri, if_neg (Ne.symm huri), Option.none_or]

end Server

end CirHighlight
