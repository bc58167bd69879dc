import Mathlib.Data.List.Forall2
import CirHighlight.Proofs.Server.Numbering

namespace CirHighlight

namespace Request

variable {κ : Type}

/-- Whether a request names a result that its client holds. -/
def namesResult : Request κ → Bool
  | .delta .. => true
  | .didOpen .. | .didChange .. | .didClose .. | .full .. | .computeFull .. | .computeDelta .. =>
    false

end Request

/-- Two results have the same tokens, and their names are paired. -/
structure Result.Renamed (names : List (String × String)) (first second : Result) : Prop where
  id : (first.id, second.id) ∈ names
  tokens : first.tokens = second.tokens

/-- Two answers are the same but for the names of results, which are paired. -/
inductive Answer.Renamed (names : List (String × String)) : Answer → Answer → Prop
  | none : Renamed names .none .none
  | failed : Renamed names .failed .failed
  | full {first second : Result} (h : first.Renamed names second) :
    Renamed names (.full first) (.full second)
  | delta {first second : String} {base other : Option String} {edits : List Edit}
      {tokens : TokenStream} (hid : (first, second) ∈ names)
      (hbase : Option.Rel (fun left right => (left, right) ∈ names) base other) :
    Renamed names (.delta ⟨first, base, edits, tokens⟩) (.delta ⟨second, other, edits, tokens⟩)

section Names

variable {names more : List (String × String)}

theorem Result.Renamed.mono {first second : Result} (h : first.Renamed names second)
    (hmore : names ⊆ more) : first.Renamed more second :=
  ⟨hmore h.id, h.tokens⟩

theorem Answer.Renamed.mono {first second : Answer} (h : first.Renamed names second)
    (hmore : names ⊆ more) : first.Renamed more second := by
  cases h with
  | none => exact .none
  | failed => exact .failed
  | full h => exact .full (h.mono hmore)
  | delta hid hbase =>
    refine .delta (hmore hid) ?_
    cases hbase with
    | none => exact .none
    | some h => exact .some (hmore h)

theorem Answer.Renamed.length_id? {first second : Answer} (h : first.Renamed names second) :
    first.id?.toList.length = second.id?.toList.length := by
  cases h <;> rfl

end Names

namespace Server

variable {κ : Type} [DecidableEq κ]

/-- What two servers have in common of a document: its text, and its baseline but for the name. -/
structure Alike (names : List (String × String)) (uri : κ) (whole own : Server κ) : Prop where
  text : own.documents.text? uri = whole.documents.text? uri
  baseline : Option.Rel (Result.Renamed names) (whole.sessions.baseline? uri)
    (own.sessions.baseline? uri)

variable {names : List (String × String)} {uri : κ} {whole own : Server κ}

theorem Alike.mono {more : List (String × String)} (h : Alike names uri whole own)
    (hmore : names ⊆ more) : Alike more uri whole own := by
  refine ⟨h.text, ?_⟩
  have hbaseline := h.baseline
  generalize whole.sessions.baseline? uri = first at *
  generalize own.sessions.baseline? uri = second at *
  cases hbaseline with
  | none => exact .none
  | some h => exact .some (h.mono hmore)

theorem Alike.step_other (h : Alike names uri whole own) (provider : Provider)
    {request : Request κ} (huri : request.uri ≠ uri) :
    Alike names uri (whole.step provider request).2 own := by
  constructor
  · rw [text?_step, if_neg huri.symm]
    exact h.text
  · rw [baseline?_step, Moment.closes_of_ne huri, Moment.resultFor?, if_neg huri]
    exact h.baseline

def newNames (first second : Answer) : List (String × String) :=
  first.id?.toList.zip second.id?.toList

/-- What two servers answer is the same but for names, and with the new names they are alike in a
document. -/
structure StayAlike (names : List (String × String)) (uri : κ)
    (whole own : Answer × Server κ) : Prop where
  answer : whole.1.Renamed (names ++ newNames whole.1 own.1) own.1
  alike : Alike (names ++ newNames whole.1 own.1) uri whole.2 own.2

theorem Alike.answer (h : Alike names uri whole own) {request : Request κ}
    (huri : request.uri = uri) (hasks : request.asks = true) (hnames : request.namesResult = false)
    (tokens : TokenStream) (hnew : (whole.sessions.nextId, own.sessions.nextId) ∈ names) :
    (whole.sessions.answer tokens request).Renamed names (own.sessions.answer tokens request) := by
  cases request with
  | didOpen | didChange | didClose => cases hasks
  | delta => cases hnames
  | full | computeFull => exact .full ⟨hnew, rfl⟩
  | computeDelta asked =>
    obtain rfl : asked = uri := huri
    have hbaseline := h.baseline
    simp only [Sessions.answer, Sessions.delta]
    generalize whole.sessions.baseline? asked = first at *
    generalize own.sessions.baseline? asked = second at *
    cases hbaseline with
    | none => exact .delta hnew .none
    | some hrenamed =>
      simp only [Option.map_some, Option.getD_some, hrenamed.tokens]
      exact .delta hnew (.some hrenamed.id)

theorem Alike.record (h : Alike names uri whole own) (tokens : TokenStream)
    (hnew : (whole.sessions.nextId, own.sessions.nextId) ∈ names) :
    Alike names uri { whole with sessions := whole.sessions.record uri tokens }
      { own with sessions := own.sessions.record uri tokens } := by
  refine ⟨h.text, ?_⟩
  rw [Sessions.baseline?_record, Sessions.baseline?_record, if_pos rfl, if_pos rfl]
  exact .some ⟨hnew, rfl⟩

theorem Alike.told (h : Alike names uri whole own) (provider : Provider) {request : Request κ}
    (huri : request.uri = uri) (hasks : request.asks = false) :
    StayAlike names uri (whole.step provider request) (own.step provider request) := by
  have htext : (own.step provider request).2.documents.text? uri =
      (whole.step provider request).2.documents.text? uri := by
    rw [text?_step, text?_step, h.text]
  have hmore := h.mono (List.subset_append_left names [])
  cases request with
  | didOpen | didChange => exact ⟨.none, htext, hmore.baseline⟩
  | didClose closed =>
    obtain rfl : closed = uri := huri
    refine ⟨.none, htext, ?_⟩
    change Option.Rel _ ((whole.sessions.remove closed).baseline? closed)
      ((own.sessions.remove closed).baseline? closed)
    rw [Sessions.baseline?_remove, Sessions.baseline?_remove, if_pos rfl, if_pos rfl]
    exact .none
  | full | delta | computeFull | computeDelta => cases hasks

/-- A request about a document gets the same answer from two servers that are alike in it, and
leaves them alike. -/
theorem Alike.step (h : Alike names uri whole own) (provider : Provider) {request : Request κ}
    (huri : request.uri = uri) (hnames : request.namesResult = false) :
    StayAlike names uri (whole.step provider request) (own.step provider request) := by
  cases hasks : request.asks with
  | false => exact h.told provider huri hasks
  | true =>
    have hnothing := h.mono (List.subset_append_left names [])
    rw [step_of_asks provider whole hasks, step_of_asks provider own hasks, huri, h.text]
    cases whole.documents.text? uri with
    | none => exact ⟨.none, hnothing⟩
    | some text =>
      cases htokens : provider text with
      | none =>
        simp only [htokens]
        exact ⟨.failed, hnothing⟩
      | some tokens =>
        simp only [htokens]
        have hpair : newNames (whole.sessions.answer tokens request)
            (own.sessions.answer tokens request) =
              [(whole.sessions.nextId, own.sessions.nextId)] := by
          rw [newNames, Sessions.answer_id? _ _ hasks, Sessions.answer_id? _ _ hasks]
          rfl
        have hnew : (whole.sessions.nextId, own.sessions.nextId) ∈
            names ++ [(whole.sessions.nextId, own.sessions.nextId)] :=
          List.mem_append_right _ List.mem_cons_self
        have hmore := h.mono (List.subset_append_left names
          [(whole.sessions.nextId, own.sessions.nextId)])
        rw [← hpair] at hnew hmore
        exact ⟨hmore.answer huri hasks hnames tokens hnew, hmore.record tokens hnew⟩

def answersAbout (uri : κ) (history : List (Moment κ)) : List Answer :=
  (history.filter (·.request.uri = uri)).map (·.answer)

theorem Alike.run (h : Alike names uri whole own) (provider : Provider)
    {requests : List (Request κ)}
    (hnames : ∀ request ∈ requests, request.uri = uri → request.namesResult = false) :
    let mine := answersAbout uri (whole.history provider requests)
    let alone := own.run provider (requests.filter (·.uri = uri))
    let paired := names ++ (Answer.ids mine).zip (Answer.ids alone.1)
    List.Forall₂ (Answer.Renamed paired) mine alone.1 ∧
      Alike paired uri (whole.run provider requests).2 alone.2 := by
  induction requests generalizing names whole own with
  | nil => exact ⟨.nil, h.mono (List.subset_append_left _ _)⟩
  | cons request rest ih =>
    have hrest : ∀ other ∈ rest, other.uri = uri → other.namesResult = false := by
      intro other hother
      exact hnames other (List.mem_cons_of_mem _ hother)
    rw [run_cons, history, answersAbout, List.filter_cons, List.filter_cons]
    by_cases huri : request.uri = uri
    · have hstep := h.step provider huri (hnames request List.mem_cons_self huri)
      obtain ⟨hanswers, halike⟩ := ih hstep.alike hrest
      rw [if_pos (decide_eq_true huri), if_pos (decide_eq_true huri), List.map_cons, run_cons]
      simp only [Answer.ids_cons, List.zip_append hstep.answer.length_id?, ← List.append_assoc]
      refine ⟨.cons (hstep.answer.mono ?_) hanswers, halike⟩
      exact List.subset_append_left _ _
    · rw [if_neg (by simpa using huri), if_neg (by simpa using huri)]
      exact ih (h.step_other provider huri) hrest

theorem length_ids_of_renamed {first second : List Answer}
    (h : List.Forall₂ (Answer.Renamed names) first second) :
    (Answer.ids first).length = (Answer.ids second).length := by
  induction h with
  | nil => rfl
  | cons hanswer _ ih =>
    rw [Answer.ids_cons, Answer.ids_cons, List.length_append, List.length_append,
      hanswer.length_id?, ih]

theorem ids_answersAbout_sublist (provider : Provider) (server : Server κ)
    (requests : List (Request κ)) (uri : κ) :
    (Answer.ids (answersAbout uri (server.history provider requests))).Sublist
      (Answer.ids (server.run provider requests).1) := by
  rw [← map_answer_history]
  exact (List.filter_sublist.map _).filterMap _

/-- A run answers about a document what the run of the requests about it alone answers, and ends
with the same text and baseline for it, but for the names of results: the first name handed out
for the document stands for the first name of the other run, and so on. As long as the numbers
last, the names are numbers that go up in both runs. -/
theorem answers_about_document_alone (provider : Provider) {requests : List (Request κ)} {uri : κ}
    (hnames : ∀ request ∈ requests, request.uri = uri → request.namesResult = false) :
    let whole := ({} : Server κ).run provider requests
    let mine := answersAbout uri (({} : Server κ).history provider requests)
    let alone := ({} : Server κ).run provider (requests.filter (·.uri = uri))
    let names := (Answer.ids mine).zip (Answer.ids alone.1)
    List.Forall₂ (Answer.Renamed names) mine alone.1 ∧
      alone.2.documents.text? uri = whole.2.documents.text? uri ∧
      Option.Rel (Result.Renamed names) (whole.2.sessions.baseline? uri)
        (alone.2.sessions.baseline? uri) ∧
      ((Answer.ids whole.1).length ≤ 2 ^ 64 →
        ∃ numbers : List Nat, numbers.Pairwise (· < ·) ∧
          Answer.ids mine = numbers.map toString ∧
          Answer.ids alone.1 = (List.range numbers.length).map toString) := by
  intro whole mine alone names
  have hstart : Alike [] uri ({} : Server κ) {} := ⟨rfl, .none⟩
  obtain ⟨hanswers, halike⟩ := hstart.run provider hnames
  refine ⟨hanswers, halike.text, halike.baseline, ?_⟩
  intro hcount
  change (Answer.ids (({} : Server κ).run provider requests).1).length ≤ 2 ^ 64 at hcount
  have hzero : ({} : Server κ).sessions.next.toNat = 0 := rfl
  have hsublist := ids_answersAbout_sublist provider {} requests uri
  have hlength := length_ids_of_renamed hanswers
  have hmine := hsublist.length_le
  have hwhole := ids_run provider ({} : Server κ) requests (by omega)
  have halone := ids_run provider ({} : Server κ) (requests.filter (·.uri = uri)) (by omega)
  rw [hwhole] at hsublist
  obtain ⟨numbers, hnumbers, hids⟩ := List.sublist_map_iff.1 hsublist
  refine ⟨numbers, .sublist hnumbers List.pairwise_lt_range', hids, ?_⟩
  rw [← hlength, hids, List.length_map, hzero, ← List.range_eq_range'] at halone
  exact halone

/-- Requests about two documents, one after the other. -/
theorem answers_about_document_alone_interleaved :
    let provider := ({} : Highlighter).provider
    let requests : List (Request Nat) :=
      [.didOpen 0 "%0", .didOpen 1 "%1", .computeFull 1, .computeFull 0,
        .didChange 0 [⟨none, "%0 %1"⟩], .delta 1 "0", .computeDelta 0]
    let mine := answersAbout 0 (({} : Server Nat).history provider requests)
    let alone := ({} : Server Nat).run provider (requests.filter (·.uri = 0))
    (∀ request ∈ requests, request.uri = 0 → request.namesResult = false) ∧
      Answer.ids mine = ["1", "3"] ∧ Answer.ids alone.1 = ["0", "1"] ∧
      List.Forall₂ (Answer.Renamed [("1", "0"), ("3", "1")]) mine alone.1 ∧
      alone.2.documents.text? 0 = some "%0 %1" ∧
      ∃ numbers : List Nat, numbers.Pairwise (· < ·) ∧
        ["1", "3"] = numbers.map toString ∧
        ["0", "1"] = (List.range numbers.length).map toString := by
  intro provider requests mine alone
  have hnames : ∀ request ∈ requests, request.uri = 0 → request.namesResult = false := by
    decide
  have hmine : Answer.ids mine = ["1", "3"] := by decide +kernel
  have halone : Answer.ids alone.1 = ["0", "1"] := by decide +kernel
  obtain ⟨hanswers, htext, -, hnumbers⟩ := answers_about_document_alone provider hnames
  have hup := hnumbers (by decide +kernel)
  rw [hmine, halone] at hanswers hup
  exact ⟨hnames, hmine, halone, hanswers, htext.trans (by decide +kernel), hup⟩

end Server

end CirHighlight
