import Mathlib.Algebra.Ring.Nat
import Mathlib.Data.List.Nodup
import Mathlib.Data.List.Range
import CirHighlight.Proofs.Server.History
import CirHighlight.Proofs.TokenStream.Edit

namespace CirHighlight

namespace Answer

def ids (answers : List Answer) : List String :=
  answers.filterMap id?

/-- Whether an answer hands out a result to a client that holds some tokens: in full, or as edits
that make it out of the tokens. -/
def Hands (held : TokenStream) (result : Result) : Answer → Prop
  | .none | .failed => False
  | .full given => given = result
  | .edits id sent =>
    id = result.id ∧
      ∃ made, sent = made.map WireEdit.ofEdit ∧
        Edit.apply held.integers made = result.tokens.integers
  | .delta given =>
    given.id = result.id ∧ given.tokens = result.tokens ∧
      Edit.apply held.integers given.edits = result.tokens.integers

theorem ids_cons (answer : Answer) (answers : List Answer) :
    ids (answer :: answers) = answer.id?.toList ++ ids answers := by
  unfold ids
  cases h : answer.id? with
  | none => exact List.filterMap_cons_none h
  | some id => exact List.filterMap_cons_some h

end Answer

namespace Moment

variable {κ : Type} [DecidableEq κ]

/-- The last result of a document in a history, if there is one since the document was closed. -/
def lastResult? (provider : Provider) (uri : κ) (history : List (Moment κ)) : Option Result :=
  (history.reverse.takeWhile (!·.closes uri)).findSome? (·.resultFor? provider uri)

theorem lastResult?_concat (provider : Provider) (uri : κ) (history : List (Moment κ))
    (moment : Moment κ) :
    lastResult? provider uri (history ++ [moment]) =
      if moment.closes uri then none
      else (moment.resultFor? provider uri).or (lastResult? provider uri history) := by
  unfold lastResult?
  rw [List.reverse_append, List.reverse_singleton, List.singleton_append, List.takeWhile_cons]
  cases moment.closes uri with
  | true => rfl
  | false =>
    simp only [Bool.not_false, if_true, List.findSome?_cons, Bool.false_eq_true, if_false]
    cases moment.resultFor? provider uri <;> rfl

end Moment

namespace Sessions

variable {κ : Type} [DecidableEq κ]

theorem hands_answer (sessions : Sessions κ) (tokens : TokenStream) {request : Request κ}
    (hasks : request.asks = true) :
    (sessions.answer tokens request).Hands
      (((sessions.baseline? request.uri).map (·.tokens)).getD []) ⟨sessions.nextId, tokens⟩ := by
  have hedits (uri : κ) :=
    Edit.apply_diffTokens
      (TokenStream.integers (((sessions.baseline? uri).map (·.tokens)).getD [])) tokens.integers
  cases request with
  | didOpen | didChange | didClose => cases hasks
  | full | computeFull => rfl
  | delta uri previous =>
    rw [answer]
    rcases sessions.wireDelta_delta uri tokens previous with ⟨-, he⟩ | ⟨-, -, -, he⟩
    · rw [he]
      exact ⟨rfl, _, rfl, hedits uri⟩
    · rw [he]
      rfl
  | computeDelta uri => exact ⟨rfl, rfl, hedits uri⟩

theorem base_of_answer_eq_delta {sessions : Sessions κ} {tokens : TokenStream}
    {request : Request κ} {delta : Delta} (h : sessions.answer tokens request = .delta delta) :
    delta.base = (sessions.baseline? request.uri).map (·.id) := by
  cases request with
  | didOpen | didChange | didClose | full | computeFull => cases h
  | delta uri previous =>
    rw [answer] at h
    rcases sessions.wireDelta_delta uri tokens previous with ⟨-, he⟩ | ⟨-, -, -, he⟩
    · cases he.symm.trans h
    · cases he.symm.trans h
  | computeDelta uri =>
    cases h
    rfl

end Sessions

namespace Server

variable {κ : Type} [DecidableEq κ]

theorem id?_step (provider : Provider) (server : Server κ) (request : Request κ) :
    (server.step provider request).1.id? = none ∨
      (server.step provider request).1.id? = some server.sessions.nextId := by
  have hstep := server.transition_step provider request
  generalize (server.step provider request).1 = answer at *
  generalize (server.step provider request).2 = next at *
  cases hstep with
  | opened | changed | closed | unknown | failed => exact .inl rfl
  | answered hasks => exact .inr (Sessions.answer_id? _ _ hasks)

theorem toNat_next_step (provider : Provider) (server : Server κ) (request : Request κ) :
    (server.step provider request).2.sessions.next.toNat =
      (server.sessions.next.toNat + (server.step provider request).1.id?.toList.length) %
        2 ^ 64 := by
  have hstep := server.transition_step provider request
  have hlt := server.sessions.next.toNat_lt
  generalize (server.step provider request).1 = answer at *
  generalize (server.step provider request).2 = next at *
  cases hstep with
  | opened | changed | closed | unknown | failed => exact (Nat.mod_eq_of_lt hlt).symm
  | answered hasks =>
    rw [Sessions.answer_id? _ _ hasks]
    exact UInt64.toNat_add _ _

theorem toNat_next_run (provider : Provider) (server : Server κ) (requests : List (Request κ)) :
    (server.run provider requests).2.sessions.next.toNat =
      (server.sessions.next.toNat + (Answer.ids (server.run provider requests).1).length) %
        2 ^ 64 := by
  induction requests generalizing server with
  | nil => exact (Nat.mod_eq_of_lt server.sessions.next.toNat_lt).symm
  | cons request rest ih =>
    rw [run_cons, ih, toNat_next_step, Answer.ids_cons, List.length_append]
    omega

theorem ids_run (provider : Provider) (server : Server κ) (requests : List (Request κ))
    (hcount : server.sessions.next.toNat +
      (Answer.ids (server.run provider requests).1).length ≤ 2 ^ 64) :
    Answer.ids (server.run provider requests).1 =
      (List.range' server.sessions.next.toNat
        (Answer.ids (server.run provider requests).1).length).map toString := by
  induction requests generalizing server with
  | nil => rfl
  | cons request rest ih =>
    have hnext := toNat_next_step provider server request
    rw [run_cons, Answer.ids_cons] at hcount ⊢
    rcases id?_step provider server request with hid | hid
    · rw [hid, Option.toList_none, List.nil_append] at hcount ⊢
      rw [hid, Option.toList_none, List.length_nil, Nat.add_zero,
        Nat.mod_eq_of_lt server.sessions.next.toNat_lt] at hnext
      rw [← hnext] at hcount ⊢
      exact ih _ hcount
    · rw [hid, Option.toList_some, List.singleton_append, List.length_cons] at hcount ⊢
      rw [hid, Option.toList_some, List.length_singleton] at hnext
      rw [List.range'_succ, List.map_cons]
      refine congrArg (_ :: ·) ?_
      -- The last number may be taken; the counter then starts again, with nothing left to number.
      by_cases hrest : (Answer.ids
          ((server.step provider request).2.run provider rest).1).length = 0
      · rw [List.length_eq_zero_iff.1 hrest]
        rfl
      · rw [Nat.mod_eq_of_lt (by omega)] at hnext
        rw [← hnext]
        exact ih _ (by omega)

/-- What holds of the baselines of a server: each has a number of its own, which was handed out,
and belongs to an open document. -/
structure Orderly (server : Server κ) : Prop where
  below : ∀ {uri baseline}, server.sessions.baseline? uri = some baseline →
    ∃ n < server.sessions.next.toNat, baseline.id = toString n
  distinct : ∀ {uri other baseline second}, server.sessions.baseline? uri = some baseline →
    server.sessions.baseline? other = some second → baseline.id = second.id → uri = other
  isOpen : ∀ {uri baseline}, server.sessions.baseline? uri = some baseline →
    ∃ text, server.documents.text? uri = some text

theorem orderly_start : ({} : Server κ).Orderly where
  below h := nomatch h
  distinct h := nomatch h
  isOpen h := nomatch h

theorem Orderly.nextId_ne {server : Server κ} (h : server.Orderly) {uri : κ} {baseline : Result}
    (hbaseline : server.sessions.baseline? uri = some baseline) :
    baseline.id ≠ server.sessions.nextId := by
  intro hid
  obtain ⟨n, hn, he⟩ := h.below hbaseline
  have := Sessions.toString_injective (he.symm.trans hid)
  omega

theorem Orderly.record {server : Server κ} (h : server.Orderly) {uri : κ} {text : String}
    (htext : server.documents.text? uri = some text) (tokens : TokenStream)
    (hnext : server.sessions.next.toNat + 1 < 2 ^ 64) :
    Orderly { server with sessions := server.sessions.record uri tokens } where
  below := by
    intro other baseline hbaseline
    have hsucc : (server.sessions.record uri tokens).next.toNat =
        server.sessions.next.toNat + 1 :=
      (UInt64.toNat_add _ _).trans (Nat.mod_eq_of_lt hnext)
    rw [hsucc]
    rw [Sessions.baseline?_record] at hbaseline
    split at hbaseline
    · cases hbaseline
      exact ⟨server.sessions.next.toNat, Nat.lt_succ_self _, rfl⟩
    · obtain ⟨n, hn, he⟩ := h.below hbaseline
      exact ⟨n, Nat.lt_succ_of_lt hn, he⟩
  distinct := by
    intro first second baseline other hfirst hsecond hid
    rw [Sessions.baseline?_record] at hfirst hsecond
    split at hfirst
    · next hf =>
      split at hsecond
      · next hs => exact hf.trans hs.symm
      · cases hfirst
        exact (h.nextId_ne hsecond hid.symm).elim
    · split at hsecond
      · cases hsecond
        exact (h.nextId_ne hfirst hid).elim
      · exact h.distinct hfirst hsecond hid
  isOpen := by
    intro other baseline hbaseline
    rw [Sessions.baseline?_record] at hbaseline
    split at hbaseline
    · next huri => exact ⟨text, by rw [huri]; exact htext⟩
    · exact h.isOpen hbaseline

theorem Orderly.close {server : Server κ} (h : server.Orderly) (uri : κ) :
    Orderly
      { documents := server.documents.close uri, sessions := server.sessions.remove uri } := by
  have hkept {other : κ} {baseline : Result}
      (hbaseline : (server.sessions.remove uri).baseline? other = some baseline) :
      other ≠ uri ∧ server.sessions.baseline? other = some baseline := by
    rw [Sessions.baseline?_remove] at hbaseline
    split at hbaseline
    · cases hbaseline
    · next hne => exact ⟨hne, hbaseline⟩
  refine ⟨?_, ?_, ?_⟩
  · intro other baseline hbaseline
    exact h.below (hkept hbaseline).2
  · intro first second baseline other hfirst hsecond hid
    exact h.distinct (hkept hfirst).2 (hkept hsecond).2 hid
  · intro other baseline hbaseline
    obtain ⟨hne, hbaseline⟩ := hkept hbaseline
    obtain ⟨text, htext⟩ := h.isOpen hbaseline
    exact ⟨text, by rw [Documents.text?_close, if_neg hne]; exact htext⟩

theorem Orderly.step {provider : Provider} {server : Server κ} (h : server.Orderly)
    {request : Request κ}
    (hnext : server.sessions.next.toNat +
      (server.step provider request).1.id?.toList.length < 2 ^ 64) :
    (server.step provider request).2.Orderly := by
  have hstep := server.transition_step provider request
  generalize (server.step provider request).1 = answer at *
  generalize (server.step provider request).2 = next at *
  cases hstep with
  | opened uri text =>
    refine ⟨h.below, h.distinct, ?_⟩
    intro other baseline hbaseline
    obtain ⟨old, hold⟩ := h.isOpen hbaseline
    rw [Documents.text?_openText]
    split
    · exact ⟨text, rfl⟩
    · exact ⟨old, hold⟩
  | changed uri changes =>
    refine ⟨h.below, h.distinct, ?_⟩
    intro other baseline hbaseline
    obtain ⟨old, hold⟩ := h.isOpen hbaseline
    rw [Documents.text?_snd_change, hold]
    split
    · exact ⟨_, rfl⟩
    · exact ⟨old, rfl⟩
  | closed uri => exact h.close uri
  | unknown | failed => exact h
  | answered hasks htext htokens =>
    rw [Sessions.answer_id? _ _ hasks] at hnext
    exact h.record htext _ hnext

theorem Orderly.run {provider : Provider} {server : Server κ} (h : server.Orderly)
    {requests : List (Request κ)}
    (hcount : server.sessions.next.toNat +
      (Answer.ids (server.run provider requests).1).length < 2 ^ 64) :
    (server.run provider requests).2.Orderly := by
  induction requests generalizing server with
  | nil => exact h
  | cons request rest ih =>
    rw [run_cons] at hcount ⊢
    rw [Answer.ids_cons, List.length_append] at hcount
    have hnext := toNat_next_step provider server request
    have hnow : (server.step provider request).2.Orderly := h.step (by omega)
    exact ih hnow (by omega)

theorem baseline?_run_of_history {provider : Provider} {server : Server κ}
    (history : List (Moment κ)) {uri : κ}
    (h : server.sessions.baseline? uri = Moment.lastResult? provider uri history)
    (requests : List (Request κ)) :
    (server.run provider requests).2.sessions.baseline? uri =
      Moment.lastResult? provider uri (history ++ server.history provider requests) := by
  induction requests generalizing server history with
  | nil =>
    rw [Server.history, List.append_nil]
    exact h
  | cons request rest ih =>
    rw [run_cons, Server.history, List.append_cons]
    apply ih
    rw [Moment.lastResult?_concat, ← h]
    exact server.baseline?_step provider request uri

theorem baseline?_run (provider : Provider) (requests : List (Request κ)) (uri : κ) :
    (({} : Server κ).run provider requests).2.sessions.baseline? uri =
      Moment.lastResult? provider uri (({} : Server κ).history provider requests) :=
  baseline?_run_of_history [] rfl requests

theorem exists_run_of_history_eq {provider : Provider} {server : Server κ}
    {requests : List (Request κ)} {before later : List (Moment κ)} {moment : Moment κ}
    (h : server.history provider requests = before ++ moment :: later) :
    ∃ earlier, before = server.history provider earlier ∧
      moment.server = (server.run provider earlier).2 := by
  induction before generalizing server requests with
  | nil =>
    cases requests with
    | nil => cases h
    | cons request rest =>
      cases h
      exact ⟨[], rfl, rfl⟩
  | cons first before ih =>
    cases requests with
    | nil => cases h
    | cons request rest =>
      obtain ⟨hfirst, hrest⟩ := List.cons.inj h
      obtain ⟨earlier, hbefore, hserver⟩ := ih hrest
      refine ⟨request :: earlier, ?_, hserver⟩
      rw [Server.history, ← hbefore, ← hfirst]

theorem exists_result_of_id? {provider : Provider} {server : Server κ} {request : Request κ}
    {id : String} (h : (server.step provider request).1.id? = some id) :
    ∃ result,
      Moment.result? provider ⟨server, request, (server.step provider request).1⟩ = some result ∧
      result.id = id ∧
      (server.step provider request).1.Hands
        (((server.sessions.baseline? request.uri).map (·.tokens)).getD []) result := by
  have hstep := server.transition_step provider request
  generalize (server.step provider request).1 = answer at *
  generalize (server.step provider request).2 = next at *
  cases hstep with
  | opened | changed | closed | unknown | failed => cases h
  | @answered _ text tokens hasks htext htokens =>
    rw [Sessions.answer_id? _ _ hasks] at h
    cases h
    refine ⟨⟨server.sessions.nextId, tokens⟩, ?_, rfl, server.sessions.hands_answer tokens hasks⟩
    simp [Moment.result?, Sessions.answer_id? _ _ hasks, htext, htokens]

theorem base_of_step_eq_delta {provider : Provider} {server : Server κ} {request : Request κ}
    {delta : Delta} (h : (server.step provider request).1 = .delta delta) :
    delta.base = (server.sessions.baseline? request.uri).map (·.id) := by
  have hstep := server.transition_step provider request
  generalize (server.step provider request).1 = answer at *
  generalize (server.step provider request).2 = next at *
  cases hstep with
  | opened | changed | closed | unknown | failed => cases h
  | answered => exact Sessions.base_of_answer_eq_delta h

/-- In a run of fewer than 2 ^ 64 results these are numbered in order, over all documents. At the
end, and so at every time, the baselines have numbers of their own below that of the next result,
belong to open documents, and are the last results of their documents. Every answer that hands out
a result hands out the tokens of the document as it was, and one with edits names as their base the
last result of the document before it. -/
theorem results_numbered_and_chained (provider : Provider) (requests : List (Request κ))
    (hcount : (Answer.ids (({} : Server κ).run provider requests).1).length < 2 ^ 64) :
    let history := ({} : Server κ).history provider requests
    let ids := Answer.ids (({} : Server κ).run provider requests).1
    let server := (({} : Server κ).run provider requests).2
    ids = (List.range ids.length).map toString ∧ ids.Nodup ∧
      server.sessions.next.toNat = ids.length ∧
      server.Orderly ∧
      (∀ uri, server.sessions.baseline? uri = Moment.lastResult? provider uri history) ∧
      ∀ before moment later, history = before ++ moment :: later →
        (∀ id, moment.answer.id? = some id →
          ∃ result, moment.result? provider = some result ∧ result.id = id ∧
            moment.answer.Hands
              (((Moment.lastResult? provider moment.request.uri before).map (·.tokens)).getD [])
              result) ∧
        ∀ delta, moment.answer = .delta delta →
          delta.base = (Moment.lastResult? provider moment.request.uri before).map (·.id) := by
  intro history ids server
  have hstart : ({} : Server κ).sessions.next.toNat = 0 := rfl
  have hids : ids = (List.range ids.length).map toString := by
    have hrun := ids_run provider ({} : Server κ) requests (by rw [hstart]; omega)
    rwa [hstart, ← List.range_eq_range'] at hrun
  refine ⟨hids, ?_, ?_, ?_, ?_, ?_⟩
  · rw [hids]
    exact List.nodup_range.map fun _ _ h => Sessions.toString_injective h
  · have hnext := toNat_next_run provider ({} : Server κ) requests
    rw [hstart, Nat.zero_add, Nat.mod_eq_of_lt hcount] at hnext
    exact hnext
  · exact orderly_start.run (by rw [hstart]; omega)
  · intro uri
    exact baseline?_run provider requests uri
  · intro before moment later hsplit
    obtain ⟨earlier, hbefore, hserver⟩ := exists_run_of_history_eq hsplit
    have hmem : moment ∈ history := by
      rw [hsplit]
      exact List.mem_append_right _ List.mem_cons_self
    have hanswer := answer_of_mem_history hmem
    have hbaseline := baseline?_run provider earlier moment.request.uri
    rw [← hserver, ← hbefore] at hbaseline
    rw [← hbaseline]
    obtain ⟨current, request, answer⟩ := moment
    obtain rfl : answer = (current.step provider request).1 := hanswer
    exact ⟨fun id hid => exists_result_of_id? hid, fun delta hdelta => base_of_step_eq_delta hdelta⟩

/-- Two documents, of which the first is closed and opened again. -/
theorem results_numbered_and_chained_reopened :
    let provider : Provider := fun text => if text = "" then none else some [⟨0, 0, 2, 2, 0⟩]
    let requests : List (Request Nat) :=
      [.didOpen 0 "%0", .full 0, .didOpen 1 "%1", .computeDelta 1, .didClose 0, .full 0,
        .didOpen 0 "%2", .computeDelta 0, .delta 0 "2", .computeDelta 0]
    let history := ({} : Server Nat).history provider requests
    let ids := Answer.ids (({} : Server Nat).run provider requests).1
    let server := (({} : Server Nat).run provider requests).2
    ids.length < 2 ^ 64 ∧ ids = ["0", "1", "2", "3", "4"] ∧ server.Orderly ∧
      server.sessions.baseline? 0 = some ⟨"4", [⟨0, 0, 2, 2, 0⟩]⟩ ∧
      server.sessions.baseline? 1 = some ⟨"1", [⟨0, 0, 2, 2, 0⟩]⟩ ∧
      ∃ delta, (history.map (·.answer)).getLast? = some (.delta delta) ∧
        delta.base = some "3" := by
  intro provider requests history ids server
  have hcount : ids.length < 2 ^ 64 := by decide +kernel
  obtain ⟨hids, -, -, horderly, hbaseline, hmoments⟩ :=
    results_numbered_and_chained provider requests hcount
  have hlast (uri : Nat) (result : Result)
      (h : Moment.lastResult? provider uri history = some result) :
      server.sessions.baseline? uri = some result := (hbaseline uri).trans h
  refine ⟨hcount, hids.trans (by decide +kernel), horderly, hlast 0 _ (by decide +kernel),
    hlast 1 _ (by decide +kernel), ?_⟩
  let current := (({} : Server Nat).run provider (requests.take 9)).2
  have hsplit : history = history.take 9 ++
      [⟨current, .computeDelta 0, (current.step provider (.computeDelta 0)).1⟩] := rfl
  have hanswer : (current.step provider (.computeDelta 0)).1 =
      .delta ⟨"4", some "3", [], [⟨0, 0, 2, 2, 0⟩]⟩ := by
    decide +kernel
  have hbase := (hmoments _ _ _ hsplit).2 _ hanswer
  exact ⟨_, by decide +kernel, hbase.trans (by decide +kernel)⟩

end Server

end CirHighlight
