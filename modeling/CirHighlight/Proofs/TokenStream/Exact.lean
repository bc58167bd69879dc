import CirHighlight.Proofs.Lexer.Exact
import CirHighlight.Proofs.TokenStream.Difference
import CirHighlight.Proofs.TokenStream.Inverse

namespace CirHighlight

namespace Exact

structure Entry where
  line : Nat
  column : Nat
  length : Nat
  category : Nat
  modifiers : Nat
deriving DecidableEq

structure Relative where
  deltaLine : Nat
  deltaStart : Nat
  length : Nat
  category : Nat
  modifiers : Nat
deriving DecidableEq

namespace Token

def follows (token previous : Token) : Bool :=
  previous.line < token.line ||
    (previous.line = token.line && previous.column < token.column &&
      previous.endColumn ≤ token.column)

def entry? (policy : Policy) (token : Token) : Option Entry :=
  (policy.resolve token.category).map fun category =>
    { line := token.line, column := token.column, length := token.length,
      category := category.index.toNat, modifiers := token.modifiers.bits.toNat }

end Token

def inOrder : List Token → Bool
  | [] => true
  | [_] => true
  | previous :: token :: rest => token.follows previous && inOrder (token :: rest)

/-- Places entries relative to each other. There is no stream where a distance would be negative. -/
def ofEntriesFrom? (line column : Nat) : List Entry → Option (List Relative)
  | [] => some []
  | entry :: rest => do
    let deltaLine ← Edit.minus? entry.line line
    let deltaStart ← (if deltaLine = 0 then Edit.minus? entry.column column else some entry.column)
    let stream ← ofEntriesFrom? entry.line entry.column rest
    return { deltaLine, deltaStart, length := entry.length, category := entry.category,
             modifiers := entry.modifiers } :: stream

theorem ofEntriesFrom?_cons {line column deltaLine deltaStart : Nat} {entry : Entry}
    {rest : List Entry} {stream : List Relative}
    (hline : Edit.minus? entry.line line = some deltaLine)
    (hstart : (if deltaLine = 0 then Edit.minus? entry.column column else some entry.column) =
      some deltaStart)
    (hrest : ofEntriesFrom? entry.line entry.column rest = some stream) :
    ofEntriesFrom? line column (entry :: rest) =
      some ({ deltaLine, deltaStart, length := entry.length, category := entry.category,
              modifiers := entry.modifiers } :: stream) := by
  simp only [ofEntriesFrom?, hline, hstart, hrest, Option.bind_eq_bind, Option.bind_some,
    Option.pure_def]

/-- The stream of tokens, with numbers without bound. -/
def encode? (policy : Policy) (tokens : List Token) : Option (List Relative) :=
  if inOrder tokens then ofEntriesFrom? 0 0 (tokens.filterMap (Token.entry? policy)) else none

def decodeFrom (line column : Nat) : List Relative → List Entry
  | [] => []
  | token :: rest =>
    let line := line + token.deltaLine
    let column := if token.deltaLine = 0 then column + token.deltaStart else token.deltaStart
    { line, column, length := token.length, category := token.category,
      modifiers := token.modifiers } :: decodeFrom line column rest

/-- The entries of a stream, with sums without bound. -/
def decode (stream : List Relative) : List Entry :=
  decodeFrom 0 0 stream

end Exact

def Entry.exact (entry : Entry) : Exact.Entry where
  line := entry.line.toNat
  column := entry.column.toNat
  length := entry.length.toNat
  category := entry.category.toNat
  modifiers := entry.modifiers.toNat

def Relative.exact (token : Relative) : Exact.Relative where
  deltaLine := token.deltaLine.toNat
  deltaStart := token.deltaStart.toNat
  length := token.length.toNat
  category := token.category.toNat
  modifiers := token.modifiers.toNat

namespace Token

def Fits (token : Token) : Prop :=
  token.column.toNat + Text.unitCount token.text.toList < 2 ^ 32

theorem Fits.length_exact {token : Token} (h : token.Fits) :
    token.exact.length = token.length.toNat :=
  (toNat_length_of_lt h).symm

theorem Fits.endColumn_exact {token : Token} (h : token.Fits) :
    token.exact.endColumn = token.endColumn.toNat :=
  (Text.toNat_add_width h).symm

theorem follows_exact {token previous : Token} (h : previous.Fits)
    (hfollows : token.follows previous = true) : token.exact.follows previous.exact = true := by
  simp only [Exact.Token.follows, Bool.or_eq_true, Bool.and_eq_true, decide_eq_true_eq,
    h.endColumn_exact]
  rcases follows_iff.1 hfollows with hline | ⟨hline, hcolumn, hend⟩
  · exact .inl (UInt32.lt_iff_toNat_lt.1 hline)
  · exact .inr ⟨⟨congrArg UInt32.toNat hline, UInt32.lt_iff_toNat_lt.1 hcolumn⟩,
      UInt32.le_iff_toNat_le.1 hend⟩

theorem inOrder_map_exact {tokens : List Token} (hfits : ∀ token ∈ tokens, token.Fits)
    (h : tokens.Pairwise fun first second => second.follows first = true) :
    Exact.inOrder (tokens.map exact) = true := by
  induction tokens with
  | nil => rfl
  | cons previous rest ih =>
    obtain ⟨hprevious, hrest⟩ := List.forall_mem_cons.1 hfits
    obtain ⟨hfirst, hordered⟩ := List.pairwise_cons.1 h
    cases rest with
    | nil => rfl
    | cons token rest =>
      have hfollows := follows_exact hprevious (hfirst token List.mem_cons_self)
      exact Bool.and_eq_true_iff.2 ⟨hfollows, ih hrest hordered⟩

theorem map_exact_entry? {token : Token} (h : token.Fits) (policy : Policy) :
    (token.entry? policy).map Entry.exact = token.exact.entry? policy := by
  rw [Token.entry?, Exact.Token.entry?, Option.map_map, h.length_exact]
  rfl

theorem map_exact_filterMap_entry? {tokens : List Token} (hfits : ∀ token ∈ tokens, token.Fits)
    (policy : Policy) :
    (tokens.filterMap (Token.entry? policy)).map Entry.exact =
      (tokens.map exact).filterMap (Exact.Token.entry? policy) := by
  rw [List.map_filterMap, List.filterMap_map]
  exact List.filterMap_congr fun token hmem => map_exact_entry? (hfits token hmem) policy

end Token

namespace TokenStream

theorem minus?_toNat {a b : UInt32} (h : b ≤ a) :
    Edit.minus? a.toNat b.toNat = some (a - b).toNat := by
  rw [Edit.minus?_eq_some (UInt32.le_iff_toNat_le.1 h), UInt32.toNat_sub_of_le a b h]

theorem toNat_add_toNat_sub {a b : UInt32} (h : a ≤ b) : a.toNat + (b - a).toNat = b.toNat := by
  rw [UInt32.toNat_sub_of_le b a h, Nat.add_sub_cancel' (UInt32.le_iff_toNat_le.1 h)]

theorem toNat_ne_zero {a : UInt32} (h : a ≠ 0) : a.toNat ≠ 0 := by
  intro hzero
  exact h (UInt32.toNat_inj.1 hzero)

/-- Entries in order are placed relative to each other as they are without bound, and the running
sums of the places stay inside 32 bits. -/
theorem ofEntriesFrom_exact {line column : UInt32} {entries : List Entry}
    (hfrom : ∀ entry ∈ entries, entry.From line column) (hordered : Entry.Ordered entries) :
    Exact.ofEntriesFrom? line.toNat column.toNat (entries.map Entry.exact) =
        some ((ofEntriesFrom line column entries).map Relative.exact) ∧
      SumsFit line.toNat column.toNat (ofEntriesFrom line column entries) := by
  induction entries generalizing line column with
  | nil => exact ⟨rfl, trivial⟩
  | cons entry rest ih =>
    obtain ⟨hafter, hrest⟩ := List.pairwise_cons.1 hordered
    obtain ⟨hstream, hsums⟩ := ih hafter hrest
    rw [ofEntriesFrom, SumsFit]
    rcases hfrom entry List.mem_cons_self with hlt | ⟨rfl, hle⟩
    · have hline := UInt32.le_of_lt hlt
      have hne := sub_ne_zero_of_lt hlt
      simp only [if_neg hne, toNat_add_toNat_sub hline]
      refine ⟨Exact.ofEntriesFrom?_cons (minus?_toNat hline) ?_ hstream, ?_⟩
      · rw [if_neg (toNat_ne_zero hne)]
        rfl
      · exact ⟨entry.line.toNat_lt, entry.column.toNat_lt, hsums⟩
    · have hzero : entry.line - entry.line = 0 := UInt32.sub_self _
      simp only [if_pos hzero, toNat_add_toNat_sub (UInt32.le_refl entry.line),
        toNat_add_toNat_sub hle]
      refine ⟨Exact.ofEntriesFrom?_cons (minus?_toNat (UInt32.le_refl _)) ?_ hstream, ?_⟩
      · rw [hzero, if_pos UInt32.toNat_zero]
        exact minus?_toNat hle
      · exact ⟨entry.line.toNat_lt, entry.column.toNat_lt, hsums⟩

theorem map_exact_decodeFrom {line column : UInt32} {stream : TokenStream}
    (h : SumsFit line.toNat column.toNat stream) :
    (decodeFrom line column stream).map Entry.exact =
      Exact.decodeFrom line.toNat column.toNat (stream.map Relative.exact) := by
  induction stream generalizing line column with
  | nil => rfl
  | cons token rest ih =>
    obtain ⟨hline, hcolumn, hrest⟩ := h
    have hnext := toNat_saturatingAdd hline
    rw [← hnext] at hrest
    rw [decodeFrom, List.map_cons, List.map_cons, Exact.decodeFrom]
    by_cases hsame : token.deltaLine = 0
    · have hzero : token.exact.deltaLine = 0 := congrArg UInt32.toNat hsame
      simp only [if_pos hsame] at hcolumn hrest
      have hstart := toNat_saturatingAdd hcolumn
      rw [← hstart] at hrest
      simp only [if_pos hsame, if_pos hzero, ih hrest, Entry.exact, hnext, hstart]
      rfl
    · have hne : token.exact.deltaLine ≠ 0 := toNat_ne_zero hsame
      simp only [if_neg hsame] at hrest
      simp only [if_neg hsame, if_neg hne, ih hrest, Entry.exact, hnext]
      rfl

end TokenStream

end CirHighlight
