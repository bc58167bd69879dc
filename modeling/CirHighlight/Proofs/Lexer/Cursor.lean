import Mathlib.Logic.Relation
import CirHighlight.Proofs.Lexeme.Delimiter
import CirHighlight.Proofs.Lexeme.Extent

namespace CirHighlight

namespace Loop

variable {σ ρ : Type}

/-- A pass of a loop leads from one state to the next. It may also end the loop with a result, or
fail. -/
def Leads (pass : σ → Option (σ ⊕ ρ)) (state next : σ) : Prop :=
  pass state = some (.inl next)

def Reaches (pass : σ → Option (σ ⊕ ρ)) (start state : σ) : Prop :=
  Relation.ReflTransGen (Leads pass) start state

def Returns (pass : σ → Option (σ ⊕ ρ)) (start : σ) (result : ρ) : Prop :=
  ∃ state, Reaches pass start state ∧ pass state = some (.inr result)

/-- Where an invariant holds, a pass ends the loop with the given result or leads further on, but
not beyond a size, to where the invariant holds again. -/
def Advances (pass : σ → Option (σ ⊕ ρ)) (index : σ → Nat) (size : Nat) (result : ρ)
    (Inv : σ → Prop) : Prop :=
  ∀ state, Inv state → pass state = some (.inr result) ∨
    ∃ next, Leads pass state next ∧ Inv next ∧ index state < index next ∧ index next ≤ size

variable {pass : σ → Option (σ ⊕ ρ)} {index : σ → Nat} {size : Nat} {result : ρ} {Inv : σ → Prop}

theorem Advances.of_reaches (h : Advances pass index size result Inv) {start state : σ}
    (hstart : Inv start) (hreaches : Reaches pass start state) : Inv state := by
  induction hreaches with
  | refl => exact hstart
  | tail _ hleads ih =>
    rcases h _ ih with hends | ⟨next, hnext, hinv, -⟩
    · cases hends.symm.trans hleads
    · cases hnext.symm.trans hleads
      exact hinv

theorem Advances.returns (h : Advances pass index size result Inv) {start : σ}
    (hstart : Inv start) : Returns pass start result := by
  -- What is left of the size gets smaller with every pass.
  induction hroom : size - index start using Nat.strong_induction_on generalizing start with
  | _ room ih =>
    rcases h start hstart with hends | ⟨next, hleads, hinv, hlt, hle⟩
    · exact ⟨start, .refl, hends⟩
    · obtain ⟨state, hreaches, hends⟩ := ih (size - index next) (by omega) hinv rfl
      exact ⟨state, .head hleads hreaches, hends⟩

end Loop

/-- Where the scanner of a line stands, at a byte and a column, and the tokens it has found. -/
structure Cursor where
  index : Nat := 0
  column : UInt32 := 0
  tokens : List Token := []
deriving DecidableEq

namespace Cursor

/-- The cursor after the first rule that reads something in the rest of a line, or after one
character if no rule does. -/
def advance? (lexicon : Lexicon) (number : UInt32) (rest : String) (cursor : Cursor) :
    Option Cursor := do
  match ← ByteRule.all.findSomeM? (· lexicon rest) with
  | none =>
    match rest.toList.head? with
    | none => return cursor -- the same cursor again: the loop would not end
    | some c =>
      return { cursor with
        index := cursor.index + c.utf8Size, column := cursor.column + Text.units c }
  | some extent =>
    let tokens ← extent.tokens? number cursor.column rest
    let text ← Text.slice? rest 0 extent.size
    return {
      index := cursor.index + extent.size, column := cursor.column + Text.width text.toList,
      tokens := cursor.tokens ++ tokens }

/-- A pass of the scanner, which goes on as long as there are bytes left. -/
def pass (lexicon : Lexicon) (number : UInt32) (line : String) (cursor : Cursor) :
    Option (Cursor ⊕ List Token) :=
  if cursor.index < line.utf8ByteSize then do
    let rest ← Text.slice? line cursor.index line.utf8ByteSize
    let next ← cursor.advance? lexicon number rest
    return .inl next
  else some (.inr cursor.tokens)

def behind (number : UInt32) (piece : Lexeme) (cursor : Cursor) : Cursor where
  index := cursor.index + Text.byteSize piece.chars
  column := cursor.column + Text.width piece.chars
  tokens := cursor.tokens ++ piece.tokens number cursor.column

variable (lexicon : Lexicon) (number : UInt32)

theorem advance?_eq (cursor : Cursor) {rest : String} {c : Char} {tail : List Char}
    (h : rest.toList = c :: tail) :
    cursor.advance? lexicon number rest =
      some (cursor.behind number (Lexeme.first Rule.all lexicon c tail)) := by
  rw [advance?, ByteRule.findSomeM?_eq ByteRule.forall₂_measures, h, Lexeme.first]
  cases hfind : Rule.all.findSome? (· lexicon (c :: tail)) with
  | none =>
    simp [behind, Lexeme.chars, Lexeme.tokens]
  | some piece =>
    obtain ⟨rule, hrule, hreads⟩ := List.exists_of_findSome?_eq_some hfind
    obtain ⟨hgives, after, hafter⟩ := Rule.readsStart_of_mem_all hrule _ _ _ hreads
    have hrest : rest.toList = piece.chars ++ after := by rw [h, hafter]
    have htext := Text.slice?_from_start hrest
    simp [Extent.tokens?_extent hgives hrest, htext, behind]

/-- The cursor stands between two characters, and scanning what is left of the line from there
gives the tokens of the line that are still missing. -/
def Reading (line : String) (cursor : Cursor) : Prop :=
  ∃ before after, line.toList = before ++ after ∧ cursor.index = Text.byteSize before ∧
    cursor.tokens ++ Lexeme.place number cursor.column (Lexeme.scan lexicon after) =
      Lexeme.scanLine lexicon number line.toList

variable {lexicon number} {line : String} {cursor : Cursor}

theorem Reading.isBoundary (h : Reading lexicon number line cursor) :
    Text.IsBoundary line cursor.index := by
  obtain ⟨before, after, hline, hindex, -⟩ := h
  rw [hindex]
  exact Text.isBoundary_of_append hline

theorem Reading.le_size (h : Reading lexicon number line cursor) :
    cursor.index ≤ line.utf8ByteSize := by
  obtain ⟨before, after, hline, hindex, -⟩ := h
  rw [hindex, Text.utf8ByteSize_eq, hline, Text.byteSize_append]
  exact Nat.le_add_right _ _

theorem Reading.exists_rest (h : Reading lexicon number line cursor)
    (hlt : cursor.index < line.utf8ByteSize) :
    ∃ rest c, Text.slice? line cursor.index line.utf8ByteSize = some rest ∧
      rest.toList.head? = some c := by
  obtain ⟨before, after, hline, hindex, -⟩ := h
  have hslice := Text.slice?_to_end hline
  rw [← hindex] at hslice
  cases after with
  | nil =>
    rw [hindex, Text.utf8ByteSize_eq, hline, List.append_nil] at hlt
    exact (Nat.lt_irrefl _ hlt).elim
  | cons c tail => exact ⟨_, c, hslice, by rw [String.toList_ofList, List.head?_cons]⟩

theorem Reading.pass_cases (h : Reading lexicon number line cursor) :
    (cursor.index = line.utf8ByteSize ∧
      pass lexicon number line cursor = some (.inr (Lexeme.scanLine lexicon number line.toList))) ∨
      ∃ next, pass lexicon number line cursor = some (.inl next) ∧
        Reading lexicon number line next ∧ cursor.index < next.index := by
  obtain ⟨before, after, hline, hindex, htokens⟩ := h
  have hsize : line.utf8ByteSize = cursor.index + Text.byteSize after := by
    rw [Text.utf8ByteSize_eq, hline, Text.byteSize_append, hindex]
  cases after with
  | nil =>
    rw [Text.byteSize_nil, Nat.add_zero] at hsize
    rw [Lexeme.scan, Lexeme.scanWith, Lexeme.place, List.append_nil] at htokens
    left
    refine ⟨hsize.symm, ?_⟩
    rw [pass, if_neg (Nat.not_lt_of_le (Nat.le_of_eq hsize)), htokens]
  | cons c tail =>
    right
    obtain ⟨more, after, hchars, rfl⟩ := Lexeme.exists_chars_first lexicon c tail
    have hpiece : (Lexeme.first Rule.all lexicon c (more ++ after)).chars ++ after =
        c :: (more ++ after) := by rw [hchars, List.cons_append]
    have hpos := c.utf8Size_pos
    rw [Text.byteSize_cons] at hsize
    refine ⟨cursor.behind number (Lexeme.first Rule.all lexicon c (more ++ after)), ?_, ?_, ?_⟩
    · have hrest := Text.slice?_to_end hline
      rw [← hindex] at hrest
      rw [pass, if_pos (by omega), hrest]
      simp only [Option.bind_eq_bind, Option.bind_some, Option.pure_def,
        advance?_eq lexicon number cursor String.toList_ofList]
    · refine ⟨before ++ (Lexeme.first Rule.all lexicon c (more ++ after)).chars, after, ?_, ?_, ?_⟩
      · rw [List.append_assoc, hpiece, hline]
      · rw [behind, hindex, Text.byteSize_append]
      · rw [Lexeme.scan_eq_cons lexicon hpiece, Lexeme.place, ← List.append_assoc] at htokens
        exact htokens
    · simp only [behind, hchars, Text.byteSize_cons]
      omega

theorem advances (lexicon : Lexicon) (number : UInt32) (line : String) :
    Loop.Advances (pass lexicon number line) index line.utf8ByteSize
      (Lexeme.scanLine lexicon number line.toList) (Reading lexicon number line) := by
  intro cursor hreading
  rcases hreading.pass_cases with ⟨-, hends⟩ | ⟨next, hleads, hnext, hlt⟩
  · exact .inl hends
  · exact .inr ⟨next, hleads, hnext, hlt, hnext.le_size⟩

/-- What is found where the scanner stands. It is between two characters. If the line goes on, there
is a next character and each rule has an answer, which lies in the rest of the line. A pass ends the
scan only at the end of the line, and else leads further on. -/
structure Sound (lexicon : Lexicon) (number : UInt32) (line : String) (cursor : Cursor) : Prop where
  boundary : Text.IsBoundary line cursor.index
  rest : cursor.index < line.utf8ByteSize →
    ∃ rest c, Text.slice? line cursor.index line.utf8ByteSize = some rest ∧
      rest.toList.head? = some c ∧
      ∀ rule ∈ ByteRule.all, ∃ found, rule lexicon rest = some found ∧
        ∀ extent ∈ found, extent.Fits rest
  passes :
    (cursor.index = line.utf8ByteSize ∧
      pass lexicon number line cursor = some (.inr (Lexeme.scanLine lexicon number line.toList))) ∨
    ∃ next, pass lexicon number line cursor = some (.inl next) ∧ cursor.index < next.index ∧
      next.index ≤ line.utf8ByteSize

theorem Reading.sound (h : Reading lexicon number line cursor) :
    cursor.Sound lexicon number line := by
  refine ⟨h.isBoundary, ?_, ?_⟩
  · intro hlt
    obtain ⟨rest, c, hrest, hhead⟩ := h.exists_rest hlt
    exact ⟨rest, c, hrest, hhead, fun rule hrule => ByteRule.exists_fits hrule lexicon rest⟩
  · rcases h.pass_cases with hends | ⟨next, hleads, hnext, hlt⟩
    · exact .inl hends
    · exact .inr ⟨next, hleads, hlt, hnext.le_size⟩

end Cursor

end CirHighlight
