import CirHighlight.Proofs.Highlighter.Stream
import CirHighlight.Proofs.Server.Step
import CirHighlight.Proofs.Server.Wire

/-!
A server and a client that keeps copies of the tokens it is sent. A client that names the copy it
holds whenever it asks for edits ends up, with every answer that it takes, with the tokens of the
document as the server has it.
-/

namespace CirHighlight

/-- The integers of a document's tokens as a client holds them, and their identifier. -/
structure Copy where
  id : String
  data : List UInt32
deriving DecidableEq

/-- A request of a client, and whether it takes the answer or ignores it. -/
structure Turn (κ : Type) where
  request : Request κ
  accepted : Bool

/-- A server with a client, the copies that the client holds and the identifiers that were handed
out, the last one first. -/
structure Exchange (κ : Type) where
  server : Server κ := {}
  copies : Store κ Copy := {}
  issued : List String := []

/-- Whether an answer brings tokens to a client: all of them, or edits to its copy. -/
def Answer.BringsTokens : Answer → Prop
  | .full _ | .edits .. => True
  | .none | .failed | .delta _ => False

namespace Copy

variable {κ : Type} [DecidableEq κ]

/-- The integers that a client holds for a document: none if it has no copy. -/
def held (copies : Store κ Copy) (uri : κ) : List UInt32 :=
  ((copies.get? uri).map (·.data)).getD []

/-- The copies of a client that takes an answer about a document. -/
def take (copies : Store κ Copy) (uri : κ) : Answer → Store κ Copy
  | .full result => copies.insert uri ⟨result.id, result.tokens.integers⟩
  | .edits id edits =>
    copies.insert uri ⟨id, Edit.apply (held copies uri) (edits.map WireEdit.toEdit)⟩
  | .none | .failed | .delta _ => copies

/-- The copies of a client after a turn. A client that closes a document drops its copy. -/
def after (copies : Store κ Copy) (turn : Turn κ) (answer : Answer) : Store κ Copy :=
  match turn.request with
  | .didClose uri => copies.erase uri
  | request => if turn.accepted then take copies request.uri answer else copies

theorem after_of_asks (copies : Store κ Copy) {turn : Turn κ} (answer : Answer)
    (h : turn.request.asks = true) :
    after copies turn answer =
      if turn.accepted then take copies turn.request.uri answer else copies := by
  obtain ⟨request, accepted⟩ := turn
  cases request with
  | didOpen | didChange | didClose => cases h
  | full | delta | computeFull | computeDelta => rfl

end Copy

namespace Exchange

variable {κ : Type} [DecidableEq κ]

def answer (provider : Provider) (exchange : Exchange κ) (turn : Turn κ) : Answer :=
  (exchange.server.step provider turn.request).1

/-- One turn: the server answers, and the client takes the answer or ignores it. -/
def turn (provider : Provider) (exchange : Exchange κ) (turn : Turn κ) : Exchange κ where
  server := (exchange.server.step provider turn.request).2
  copies := Copy.after exchange.copies turn (exchange.answer provider turn)
  issued := (exchange.answer provider turn).id?.toList ++ exchange.issued

/-- A client keeps to the protocol: when it asks for edits it names the copy that it holds, or,
if it holds none, something that was not handed out as an identifier. -/
def Fair (exchange : Exchange κ) (turn : Turn κ) : Prop :=
  match turn.request with
  | .delta uri previous =>
    match exchange.copies.get? uri with
    | some copy => previous = copy.id
    | none => previous ∉ exchange.issued
  | _ => True

/-- The tokens of every open document have fewer than 2 ^ 32 integers, so that places among them
can be written on the wire. -/
def Fits (highlighter : Highlighter) (exchange : Exchange κ) : Prop :=
  ∀ uri text stream, exchange.server.documents.text? uri = some text →
    highlighter.highlight text = .ok stream → stream.integers.length < 2 ^ 32

theorem fits_of_byteSize {highlighter : Highlighter} {exchange : Exchange κ}
    (h : ∀ entry ∈ exchange.server.documents.entries,
      5 * Text.byteSize entry.2.toList < 2 ^ 32) : exchange.Fits highlighter := by
  intro uri text stream htext hstream
  obtain ⟨entry, hfind, rfl⟩ := Option.map_eq_some_iff.1 htext
  have hentry := h entry (List.mem_of_find?_eq_some hfind)
  have hlength := Highlighter.length_integers_le (by omega) hstream
  omega

/-- What a server and its client can come to, turn by turn. -/
inductive Reachable (highlighter : Highlighter) : Exchange κ → Prop
  | start : Reachable highlighter {}
  | next {exchange : Exchange κ} (turn : Turn κ) (hreachable : Reachable highlighter exchange)
      (hfair : exchange.Fair turn) (hfits : exchange.Fits highlighter) :
    Reachable highlighter (exchange.turn highlighter.provider turn)

/-- What holds between a server and its client. Identifiers are numbered in order; a copy has a
baseline beside it, and if the two have one identifier they are equal. -/
structure Consistent (exchange : Exchange κ) : Prop where
  next : exchange.server.sessions.next.toNat = exchange.issued.length % 2 ^ 64
  numbered : ∀ id ∈ exchange.issued, ∃ n < exchange.issued.length, id = toString n
  baseline : ∀ uri baseline, exchange.server.sessions.baseline? uri = some baseline →
    baseline.id ∈ exchange.issued ∧ baseline.tokens.integers.length < 2 ^ 32
  copy : ∀ uri copy, exchange.copies.get? uri = some copy →
    copy.id ∈ exchange.issued ∧
      ∃ baseline, exchange.server.sessions.baseline? uri = some baseline ∧
        (baseline.id = copy.id → baseline.tokens.integers = copy.data)

theorem Consistent.nextId_eq {exchange : Exchange κ} (h : exchange.Consistent)
    (hlength : exchange.issued.length < 2 ^ 64) :
    exchange.server.sessions.nextId = toString exchange.issued.length := by
  rw [Sessions.nextId, h.next, Nat.mod_eq_of_lt hlength]

theorem Consistent.nextId_not_mem {exchange : Exchange κ} (h : exchange.Consistent)
    (hlength : exchange.issued.length < 2 ^ 64) :
    exchange.server.sessions.nextId ∉ exchange.issued := by
  intro hmem
  obtain ⟨n, hn, he⟩ := h.numbered _ hmem
  rw [h.nextId_eq hlength] at he
  have := Sessions.toString_injective he
  omega

theorem Consistent.held_eq {exchange : Exchange κ} (h : exchange.Consistent) {uri : κ}
    {previous : String} {accepted : Bool} (hfair : exchange.Fair ⟨.delta uri previous, accepted⟩)
    (hbase : ∀ baseline, exchange.server.sessions.baseline? uri = some baseline →
      baseline.id = previous) :
    Copy.held exchange.copies uri =
      TokenStream.integers
        (((exchange.server.sessions.baseline? uri).map (·.tokens)).getD []) := by
  simp only [Fair] at hfair
  cases hcopy : exchange.copies.get? uri with
  | none =>
    rw [hcopy] at hfair
    -- A baseline would have the identifier that the client names, which was not handed out.
    cases hb : exchange.server.sessions.baseline? uri with
    | none => simp [Copy.held, hcopy, TokenStream.integers]
    | some baseline =>
      rw [← hbase baseline hb] at hfair
      exact absurd (h.baseline uri baseline hb).1 hfair
  | some copy =>
    rw [hcopy] at hfair
    obtain ⟨-, baseline, hb, heq⟩ := h.copy uri copy hcopy
    have hid : baseline.id = copy.id := (hbase baseline hb).trans hfair
    simp [Copy.held, hcopy, hb, heq hid]

theorem Consistent.take_edits {exchange : Exchange κ} (h : exchange.Consistent) {uri : κ}
    {previous : String} {accepted : Bool} (hfair : exchange.Fair ⟨.delta uri previous, accepted⟩)
    (hbase : ∀ baseline, exchange.server.sessions.baseline? uri = some baseline →
      baseline.id = previous) (tokens : TokenStream) :
    Edit.apply (Copy.held exchange.copies uri)
      (((exchange.server.sessions.delta uri tokens).1.edits.map WireEdit.ofEdit).map
        WireEdit.toEdit) = tokens.integers := by
  rw [h.held_eq hfair hbase]
  apply WireEdit.apply_toEdit_ofEdit
  cases hb : exchange.server.sessions.baseline? uri with
  | none => exact Nat.two_pow_pos 32
  | some baseline => exact (h.baseline uri baseline hb).2

theorem Consistent.take_answer {exchange : Exchange κ} (h : exchange.Consistent)
    {turn : Turn κ} (hfair : exchange.Fair turn) (tokens : TokenStream)
    (hbrings : (exchange.server.sessions.answer tokens turn.request).BringsTokens) :
    Copy.take exchange.copies turn.request.uri
        (exchange.server.sessions.answer tokens turn.request) =
      exchange.copies.insert turn.request.uri
        ⟨exchange.server.sessions.nextId, tokens.integers⟩ := by
  obtain ⟨request, accepted⟩ := turn
  cases request with
  | didOpen | didChange | didClose | computeDelta => cases hbrings
  | full | computeFull => rfl
  | delta uri previous =>
    rcases exchange.server.sessions.wireDelta_delta uri tokens previous with
      ⟨hbase, he⟩ | ⟨_, _, _, he⟩
    · simp only [Sessions.answer, he, Copy.take, Request.uri, h.take_edits hfair hbase tokens]
    · simp only [Sessions.answer, he, Copy.take, Request.uri]

theorem take_of_not_bringsTokens (copies : Store κ Copy) (uri : κ) {answer : Answer}
    (h : ¬ answer.BringsTokens) : Copy.take copies uri answer = copies := by
  cases answer with
  | none | failed | delta => rfl
  | full | edits => exact (h trivial).elim

theorem Consistent.after_answer {exchange : Exchange κ} (h : exchange.Consistent)
    {turn : Turn κ} (hfair : exchange.Fair turn) (hasks : turn.request.asks = true)
    (tokens : TokenStream) :
    Copy.after exchange.copies turn (exchange.server.sessions.answer tokens turn.request) =
        exchange.copies.insert turn.request.uri
          ⟨exchange.server.sessions.nextId, tokens.integers⟩ ∨
      Copy.after exchange.copies turn (exchange.server.sessions.answer tokens turn.request) =
        exchange.copies := by
  rw [Copy.after_of_asks _ _ hasks]
  by_cases haccepted : turn.accepted = true
  · rw [if_pos haccepted]
    by_cases hbrings : (exchange.server.sessions.answer tokens turn.request).BringsTokens
    · exact .inl (h.take_answer hfair tokens hbrings)
    · exact .inr (take_of_not_bringsTokens _ _ hbrings)
  · rw [if_neg haccepted]
    exact .inr rfl

theorem Consistent.copy_of_record {exchange : Exchange κ} (h : exchange.Consistent)
    (hlength : exchange.issued.length < 2 ^ 64) {uri asked : κ} (tokens : TokenStream)
    {copy : Copy} (hcopy : exchange.copies.get? uri = some copy) :
    copy.id ∈ exchange.server.sessions.nextId :: exchange.issued ∧
      ∃ baseline, (exchange.server.sessions.record asked tokens).baseline? uri = some baseline ∧
        (baseline.id = copy.id → baseline.tokens.integers = copy.data) := by
  obtain ⟨hmem, baseline, hb, heq⟩ := h.copy uri copy hcopy
  refine ⟨List.mem_cons_of_mem _ hmem, ?_⟩
  rw [Sessions.baseline?_record]
  by_cases huri : uri = asked
  · refine ⟨_, if_pos huri, ?_⟩
    intro hid
    rw [← hid] at hmem
    exact absurd hmem (h.nextId_not_mem hlength)
  · exact ⟨baseline, (if_neg huri).trans hb, heq⟩

theorem Consistent.record {exchange : Exchange κ} (h : exchange.Consistent) {turn : Turn κ}
    (hfair : exchange.Fair turn) (hasks : turn.request.asks = true) {tokens : TokenStream}
    (hlength : exchange.issued.length < 2 ^ 64) (hfits : tokens.integers.length < 2 ^ 32) :
    Consistent
      { server :=
          { exchange.server with
            sessions := exchange.server.sessions.record turn.request.uri tokens }
        copies :=
          Copy.after exchange.copies turn (exchange.server.sessions.answer tokens turn.request)
        issued := exchange.server.sessions.nextId :: exchange.issued } where
  next := by
    have hnext := h.next
    simp only [Sessions.record, UInt64.toNat_add, hnext, List.length_cons]
    change (_ + 1) % _ = _
    omega
  numbered := by
    intro id hid
    rcases List.mem_cons.1 hid with rfl | hid
    · exact ⟨exchange.issued.length, by simp, h.nextId_eq hlength⟩
    · obtain ⟨n, hn, he⟩ := h.numbered id hid
      exact ⟨n, Nat.lt_succ_of_lt hn, he⟩
  baseline := by
    intro uri baseline hb
    simp only [Sessions.baseline?_record] at hb
    by_cases huri : uri = turn.request.uri
    · rw [if_pos huri] at hb
      cases hb
      exact ⟨List.mem_cons_self, hfits⟩
    · rw [if_neg huri] at hb
      exact ⟨List.mem_cons_of_mem _ (h.baseline uri baseline hb).1, (h.baseline uri baseline hb).2⟩
  copy := by
    intro uri copy hcopy
    rcases h.after_answer hfair hasks tokens with he | he
    · rw [he, Store.get?_insert] at hcopy
      by_cases huri : uri = turn.request.uri
      · rw [if_pos huri] at hcopy
        cases hcopy
        have hnew := exchange.server.sessions.baseline?_record turn.request.uri uri tokens
        exact ⟨List.mem_cons_self, _, hnew.trans (if_pos huri), fun _ => rfl⟩
      · rw [if_neg huri] at hcopy
        exact h.copy_of_record hlength tokens hcopy
    · rw [he] at hcopy
      exact h.copy_of_record hlength tokens hcopy

theorem after_of_id?_none (copies : Store κ Copy) {turn : Turn κ} {answer : Answer}
    (hclose : ∀ uri, turn.request ≠ .didClose uri) (h : answer.id? = none) :
    Copy.after copies turn answer = copies := by
  have hbrings : ¬ answer.BringsTokens := by
    cases answer with
    | none | failed | delta => exact id
    | full | edits => cases h
  obtain ⟨request, accepted⟩ := turn
  cases request with
  | didClose uri => exact (hclose uri rfl).elim
  | didOpen | didChange | full | delta | computeFull | computeDelta =>
    simp only [Copy.after, take_of_not_bringsTokens _ _ hbrings, ite_self]

theorem provider_eq_some {highlighter : Highlighter} {text : String} {tokens : TokenStream}
    (h : highlighter.provider text = some tokens) : highlighter.highlight text = .ok tokens := by
  unfold Highlighter.provider at h
  cases he : highlighter.highlight text with
  | error disorder =>
    rw [he] at h
    cases h
  | ok stream =>
    rw [he] at h
    cases h
    rfl

theorem Consistent.turn {highlighter : Highlighter} {exchange : Exchange κ}
    (h : exchange.Consistent) {turn : Turn κ} (hfair : exchange.Fair turn)
    (hfits : exchange.Fits highlighter)
    (hids : (exchange.turn highlighter.provider turn).issued.length ≤ 2 ^ 64) :
    (exchange.turn highlighter.provider turn).Consistent := by
  have htransition := exchange.server.transition_step highlighter.provider turn.request
  obtain ⟨request, accepted⟩ := turn
  simp only [Exchange.turn, answer] at hids ⊢
  generalize (exchange.server.step highlighter.provider request).1 = answer at *
  generalize (exchange.server.step highlighter.provider request).2 = server at *
  cases htransition with
  | opened uri text =>
    rw [after_of_id?_none _ (by simp) rfl]
    exact ⟨h.next, h.numbered, h.baseline, h.copy⟩
  | changed uri changes =>
    rw [after_of_id?_none _ (by simp) rfl]
    exact ⟨h.next, h.numbered, h.baseline, h.copy⟩
  | closed uri =>
    refine ⟨h.next, h.numbered, ?_, ?_⟩
    · intro other baseline hb
      simp only [Sessions.baseline?_remove] at hb
      split at hb
      · cases hb
      · exact h.baseline other baseline hb
    · intro other copy hcopy
      simp only [Copy.after, Store.get?_erase] at hcopy
      split at hcopy
      · cases hcopy
      · next hother =>
        simp only [Sessions.baseline?_remove, if_neg hother]
        exact h.copy other copy hcopy
  | unknown hasks htext =>
    rw [after_of_id?_none _ (by rintro uri rfl; cases hasks) rfl]
    exact ⟨h.next, h.numbered, h.baseline, h.copy⟩
  | failed hasks htext hfails =>
    rw [after_of_id?_none _ (by rintro uri rfl; cases hasks) rfl]
    exact ⟨h.next, h.numbered, h.baseline, h.copy⟩
  | @answered _ text tokens hasks htext htokens =>
    rw [Sessions.answer_id? _ _ hasks] at hids ⊢
    exact h.record hfair hasks (Nat.lt_of_succ_le hids)
      (hfits _ _ _ htext (provider_eq_some htokens))

theorem length_issued_le (provider : Provider) (exchange : Exchange κ) (turn : Turn κ)
    {bound : Nat} (h : (exchange.turn provider turn).issued.length ≤ bound) :
    exchange.issued.length ≤ bound := by
  simp only [Exchange.turn, List.length_append] at h
  omega

theorem Reachable.consistent {highlighter : Highlighter} {exchange : Exchange κ}
    (h : exchange.Reachable highlighter) (hids : exchange.issued.length ≤ 2 ^ 64) :
    exchange.Consistent := by
  induction h with
  | start =>
    refine ⟨rfl, ?_, ?_, ?_⟩
    · intro id hid
      cases hid
    · intro uri baseline hb
      cases hb
    · intro uri copy hcopy
      cases hcopy
  | next turn hreachable hfair hfits ih =>
    exact (ih (length_issued_le _ _ _ hids)).turn hfair hfits hids

/-- With every answer that brings tokens and that it takes, a client that keeps to the protocol
comes to hold the tokens of the document as the server has it, under the identifier of the
answer. -/
theorem Reachable.copy_eq_highlight {highlighter : Highlighter} {exchange : Exchange κ}
    (h : exchange.Reachable highlighter) {turn : Turn κ} (hfair : exchange.Fair turn)
    (hids : (exchange.turn highlighter.provider turn).issued.length ≤ 2 ^ 64)
    (haccepted : turn.accepted = true)
    (hbrings : (exchange.answer highlighter.provider turn).BringsTokens) :
    ∃ text stream copy,
      (exchange.turn highlighter.provider turn).server.documents.text? turn.request.uri =
        some text ∧
      highlighter.highlight text = .ok stream ∧
      (exchange.turn highlighter.provider turn).copies.get? turn.request.uri = some copy ∧
      copy.data = stream.integers ∧
      (exchange.answer highlighter.provider turn).id? = some copy.id := by
  have hconsistent := h.consistent (length_issued_le _ _ _ hids)
  have htransition := exchange.server.transition_step highlighter.provider turn.request
  obtain ⟨request, accepted⟩ := turn
  simp only [Exchange.turn, answer] at hbrings ⊢
  generalize (exchange.server.step highlighter.provider request).1 = answer at *
  generalize (exchange.server.step highlighter.provider request).2 = server at *
  cases htransition with
  | opened | changed | closed | unknown | failed => cases hbrings
  | @answered _ text tokens hasks htext htokens =>
    refine ⟨text, tokens, ⟨exchange.server.sessions.nextId, tokens.integers⟩, htext,
      provider_eq_some htokens, ?_, rfl, Sessions.answer_id? _ _ hasks⟩
    rw [Copy.after_of_asks _ _ hasks, if_pos haccepted, hconsistent.take_answer hfair _ hbrings,
      Store.get?_insert, if_pos rfl]

/-- A client that takes all tokens, changes the document and takes edits to them. -/
theorem copy_eq_highlight_after_change :
    let provider := ({} : Highlighter).provider
    let exchange := ((({} : Exchange Nat).turn provider ⟨.didOpen 0 "%0", false⟩).turn provider
      ⟨.full 0, true⟩).turn provider ⟨.didChange 0 [⟨none, "%0 %1"⟩], false⟩
    exchange.Reachable {} ∧ exchange.Fair ⟨.delta 0 "0", true⟩ ∧
      exchange.answer provider ⟨.delta 0 "0", true⟩ =
        .edits "1" [⟨5, 0, some [⟨0, 3, 2, 2, 0⟩]⟩] ∧
      ∃ text stream copy,
        (exchange.turn provider ⟨.delta 0 "0", true⟩).server.documents.text? 0 = some text ∧
        ({} : Highlighter).highlight text = .ok stream ∧
        (exchange.turn provider ⟨.delta 0 "0", true⟩).copies.get? 0 = some copy ∧
        copy.data = stream.integers ∧ copy.id = "1" := by
  intro provider exchange
  have hreachable : exchange.Reachable {} := by
    refine .next _ (.next _ (.next _ .start trivial ?_) trivial ?_) trivial ?_
    · exact fits_of_byteSize (by decide)
    · exact fits_of_byteSize (by decide)
    · exact fits_of_byteSize (by decide +kernel)
  have hcopy : exchange.copies.get? 0 = some ⟨"0", [0, 0, 2, 2, 0]⟩ := by decide +kernel
  have hfair : exchange.Fair ⟨.delta 0 "0", true⟩ := by simp only [Fair, hcopy]
  have hanswer : exchange.answer provider ⟨.delta 0 "0", true⟩ =
      .edits "1" [⟨5, 0, some [⟨0, 3, 2, 2, 0⟩]⟩] := by
    decide +kernel
  have hids : (exchange.turn provider ⟨.delta 0 "0", true⟩).issued.length ≤ 2 ^ 64 := by
    decide +kernel
  have hbrings : (exchange.answer provider ⟨.delta 0 "0", true⟩).BringsTokens := by
    rw [hanswer]
    trivial
  obtain ⟨text, stream, copy, htext, hstream, htaken, hdata, hid⟩ :=
    Reachable.copy_eq_highlight hreachable hfair hids rfl hbrings
  rw [hanswer] at hid
  exact ⟨hreachable, hfair, hanswer, text, stream, copy, htext, hstream, htaken, hdata,
    (Option.some.inj hid).symm⟩

end Exchange

end CirHighlight
