import CirHighlight.Proofs.Server.History

namespace CirHighlight

namespace Moment

variable {κ : Type} [DecidableEq κ]

/-- Whether a request came to nothing: it asked for tokens and got none, or it changed a document
that was not open. -/
def vain (moment : Moment κ) : Bool :=
  match moment.request with
  | .didChange uri _ => moment.server.documents.text? uri = none
  | .didOpen .. | .didClose .. => false
  | .full .. | .delta .. | .computeFull .. | .computeDelta .. =>
    moment.answer = .none || moment.answer = .failed

theorem vain_of_asks {moment : Moment κ} (h : moment.request.asks = true) :
    moment.vain = true ↔ moment.answer = .none ∨ moment.answer = .failed := by
  obtain ⟨server, request, answer⟩ := moment
  cases request with
  | didOpen | didChange | didClose => cases h
  | full | delta | computeFull | computeDelta => simp [vain]

end Moment

namespace Sessions

variable {κ : Type} [DecidableEq κ] (sessions : Sessions κ) (tokens : TokenStream)
  {request : Request κ}

theorem answer_ne_none (h : request.asks = true) : sessions.answer tokens request ≠ .none := by
  intro hnone
  have hid := sessions.answer_id? tokens h
  rw [hnone] at hid
  cases hid

theorem answer_ne_failed (h : request.asks = true) :
    sessions.answer tokens request ≠ .failed := by
  intro hfailed
  have hid := sessions.answer_id? tokens h
  rw [hfailed] at hid
  cases hid

end Sessions

namespace Server

variable {κ : Type} [DecidableEq κ]

theorem step_eq_none_iff {provider : Provider} {server : Server κ} {request : Request κ}
    (hasks : request.asks = true) :
    (server.step provider request).1 = .none ↔
      server.documents.text? request.uri = none := by
  rw [step_of_asks provider server hasks]
  cases server.documents.text? request.uri with
  | none => simp
  | some text =>
    cases htokens : provider text with
    | none => simp [htokens]
    | some tokens => simp [htokens, Sessions.answer_ne_none _ _ hasks]

theorem step_eq_failed_iff {provider : Provider} {server : Server κ} {request : Request κ}
    (hasks : request.asks = true) :
    (server.step provider request).1 = .failed ↔
      ∃ text, server.documents.text? request.uri = some text ∧ provider text = none := by
  rw [step_of_asks provider server hasks]
  cases server.documents.text? request.uri with
  | none => simp
  | some text =>
    cases htokens : provider text with
    | none => simp [htokens]
    | some tokens => simp [htokens, Sessions.answer_ne_failed _ _ hasks]

theorem step_of_vain {provider : Provider} {server : Server κ} {request : Request κ}
    (h : Moment.vain ⟨server, request, (server.step provider request).1⟩ = true) :
    (server.step provider request).2 = server := by
  have hstep := server.transition_step provider request
  generalize (server.step provider request).1 = answer at h hstep
  generalize (server.step provider request).2 = next at hstep
  cases hstep with
  | opened | closed => cases h
  | changed uri changes =>
    have hclosed : server.documents.text? uri = none := of_decide_eq_true h
    rw [Documents.change, hclosed]
  | unknown | failed => rfl
  | answered hasks =>
    rcases (Moment.vain_of_asks hasks).1 h with hnone | hfailed
    · exact (Sessions.answer_ne_none _ _ hasks hnone).elim
    · exact (Sessions.answer_ne_failed _ _ hasks hfailed).elim

theorem run_without_vain (provider : Provider) (server : Server κ)
    (requests : List (Request κ)) :
    server.run provider
        (((server.history provider requests).filter (!·.vain)).map (·.request)) =
      (((server.history provider requests).filter (!·.vain)).map (·.answer),
        (server.run provider requests).2) := by
  induction requests generalizing server with
  | nil => rfl
  | cons request rest ih =>
    have hkept := ih (server.step provider request).2
    rw [history, List.filter_cons]
    cases hvain : Moment.vain ⟨server, request, (server.step provider request).1⟩ with
    | true =>
      rw [step_of_vain hvain] at hkept
      simp only [run_cons, step_of_vain hvain]
      exact hkept
    | false => simp only [Bool.not_false, if_true, List.map_cons, run_cons, hkept]

/-- A run without the requests that come to nothing ends with the same server, and its requests
get the answers that they get among the others. Of the requests for tokens those come to nothing
whose document is not open, which get no answer, and those on whose text the provider fails. -/
theorem vain_requests_leave_no_trace (provider : Provider) (server : Server κ)
    (requests : List (Request κ)) :
    (server.history provider requests).map (·.request) = requests ∧
      (server.history provider requests).map (·.answer) = (server.run provider requests).1 ∧
      server.run provider
          (((server.history provider requests).filter (!·.vain)).map (·.request)) =
        (((server.history provider requests).filter (!·.vain)).map (·.answer),
          (server.run provider requests).2) ∧
      ∀ moment ∈ server.history provider requests, moment.request.asks = true →
        (moment.answer = .none ↔
          moment.server.documents.text? moment.request.uri = none) ∧
        (moment.answer = .failed ↔
          ∃ text, moment.server.documents.text? moment.request.uri = some text ∧
            provider text = none) := by
  refine ⟨map_request_history provider server requests,
    map_answer_history provider server requests, run_without_vain provider server requests, ?_⟩
  intro moment hmem hasks
  rw [answer_of_mem_history hmem]
  exact ⟨step_eq_none_iff hasks, step_eq_failed_iff hasks⟩

/-- A request before its document is open, one on whose text the provider fails, and a change of
a document that is not open, among others. -/
theorem vain_requests_leave_no_trace_among_others :
    let provider : Provider := fun text => if text = "" then none else some [⟨0, 0, 2, 2, 0⟩]
    let requests : List (Request Nat) :=
      [.computeFull 0, .didOpen 0 "", .full 0, .didChange 1 [⟨none, "%1"⟩],
        .didChange 0 [⟨none, "%0"⟩], .computeFull 0]
    let history := ({} : Server Nat).history provider requests
    history.map (·.answer) = [.none, .none, .failed, .none, .none, .full ⟨"0", [⟨0, 0, 2, 2, 0⟩]⟩] ∧
      ({} : Server Nat).run provider ((history.filter (!·.vain)).map (·.request)) =
        ([.none, .none, .full ⟨"0", [⟨0, 0, 2, 2, 0⟩]⟩],
          (({} : Server Nat).run provider requests).2) ∧
      ∃ moment ∈ history, moment.request.asks = true ∧ moment.answer = .failed ∧
        ∃ text, moment.server.documents.text? moment.request.uri = some text ∧
          provider text = none := by
  intro provider requests history
  obtain ⟨-, -, hrun, hasked⟩ := vain_requests_leave_no_trace provider ({} : Server Nat) requests
  have hkept : (history.filter (!·.vain)).map (·.answer) =
      [.none, .none, .full ⟨"0", [⟨0, 0, 2, 2, 0⟩]⟩] := by
    decide +kernel
  refine ⟨by decide +kernel, ?_, ?_⟩
  · rw [← hkept]
    exact hrun
  · have hmem : ⟨(({} : Server Nat).run provider (requests.take 2)).2, .full 0, .failed⟩ ∈ history :=
      .tail _ (.tail _ (.head _))
    exact ⟨_, hmem, rfl, rfl, (hasked _ hmem rfl).2.1 rfl⟩

end Server

end CirHighlight
