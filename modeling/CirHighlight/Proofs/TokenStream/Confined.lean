import CirHighlight.Proofs.TokenStream.Edit
import CirHighlight.Proofs.TokenStream.Encode

namespace CirHighlight

namespace Edit

section Common

variable {α : Type} [DecidableEq α]

theorem length_le_common {front xs ys : List α} (hx : front <+: xs) (hy : front <+: ys) :
    front.length ≤ common xs ys := by
  induction front generalizing xs ys with
  | nil => exact Nat.zero_le _
  | cons c front ih =>
    obtain ⟨left, rfl⟩ := hx
    obtain ⟨right, rfl⟩ := hy
    rw [List.cons_append, List.cons_append, common, if_pos rfl, List.length_cons]
    exact Nat.succ_le_succ (ih (List.prefix_append _ _) (List.prefix_append _ _))

theorem length_le_common_reverse {back xs ys : List α} (hx : back <:+ xs) (hy : back <:+ ys) :
    back.length ≤ common xs.reverse ys.reverse := by
  rw [← List.length_reverse]
  exact length_le_common (List.reverse_prefix.2 hx) (List.reverse_prefix.2 hy)

end Common

theorem alignDown_eq_mul (stride n : Nat) : alignDown stride n = stride * (n / stride) := by
  have hsplit := Nat.div_add_mod n stride
  unfold alignDown
  omega

theorem le_alignDown {stride m n : Nat} (hm : m % stride = 0) (h : m ≤ n) :
    m ≤ alignDown stride n := by
  rw [alignDown_eq_mul, ← Nat.mul_div_cancel' (Nat.dvd_of_mod_eq_zero hm)]
  exact Nat.mul_le_mul_left stride (Nat.div_le_div_right h)

theorem alignDown_le_of_lt {stride m n : Nat} (hm : m % stride = 0) (h : n < m + stride) :
    alignDown stride n ≤ m := by
  obtain ⟨k, rfl⟩ := Nat.dvd_of_mod_eq_zero hm
  have hlt := Nat.lt_of_le_of_lt (alignDown_le stride n) h
  rw [alignDown_eq_mul, ← Nat.mul_succ] at hlt
  rw [alignDown_eq_mul]
  exact Nat.mul_le_mul_left stride (Nat.le_of_lt_succ (Nat.lt_of_mul_lt_mul_left hlt))

/-- Between lists that differ only in a middle part the edit lies in that part, unless the common
start goes on beyond it by a stride. -/
theorem mem_between_middle {stride : Nat} {front old new back : List UInt32}
    (hfront : front.length % stride = 0) (hback : back.length % stride = 0)
    (hold : old.length % stride = 0) (hnew : new.length % stride = 0)
    (hcommon : common (front ++ (old ++ back)) (front ++ (new ++ back)) <
      front.length + min old.length new.length + stride) {edit : Edit}
    (hmem : edit ∈ between stride (front ++ (old ++ back)) (front ++ (new ++ back))) :
    front.length ≤ edit.start ∧
      edit.start + edit.deleteCount ≤ front.length + old.length ∧
      edit.start + edit.data.length ≤ front.length + new.length := by
  have hmin : (front.length + min old.length new.length) % stride = 0 := by
    rcases Nat.le_total old.length new.length with hle | hle
    · rw [Nat.min_eq_left hle, Nat.add_mod, hfront, hold, Nat.add_zero, Nat.zero_mod]
    · rw [Nat.min_eq_right hle, Nat.add_mod, hfront, hnew, Nat.add_zero, Nat.zero_mod]
  have hstop := alignDown_le_of_lt hmin hcommon
  have hstart := le_alignDown hfront
    (length_le_common (List.prefix_append front (old ++ back))
      (List.prefix_append front (new ++ back)))
  unfold between at hmem
  split at hmem
  · cases hmem
  generalize alignDown stride (common (front ++ (old ++ back)) (front ++ (new ++ back))) =
    start at hmem hstart hstop
  have hsuffix {middle : List UInt32} (hle : start ≤ front.length + middle.length) :
      back <:+ (front ++ (middle ++ back)).drop start := by
    rw [← List.append_assoc, List.drop_append_of_le_length (by rwa [List.length_append])]
    exact List.suffix_append _ _
  have hkept := le_alignDown hback
    (length_le_common_reverse (hsuffix (show start ≤ front.length + old.length by omega))
      (hsuffix (show start ≤ front.length + new.length by omega)))
  rw [List.mem_singleton.1 hmem]
  simp only [List.length_append, List.length_drop, List.length_take]
  omega

end Edit

/-- An edit that keeps `tokens` tokens at the start and reaches over a line with `old` tokens, which
becomes one with `new` tokens. It takes the next token along only if one of the two has none. -/
structure Edit.Confined (tokens old new : Nat) (edit : Edit) : Prop where
  start_ge : 5 * tokens ≤ edit.start
  deleted : edit.start + edit.deleteCount ≤ 5 * (tokens + old + 1)
  inserted : edit.start + edit.data.length ≤ 5 * (tokens + new + 1)
  within (hold : 1 ≤ old) (hnew : 1 ≤ new) :
    edit.start + edit.deleteCount ≤ 5 * (tokens + old) ∧
      edit.start + edit.data.length ≤ 5 * (tokens + new)

namespace TokenStream

theorem integers_append (left right : TokenStream) :
    integers (left ++ right) = integers left ++ integers right :=
  List.flatMap_append

theorem take_integers (stream : TokenStream) (n : Nat) :
    stream.integers.take (5 * n) = integers (stream.take n) := by
  induction n generalizing stream with
  | zero => rfl
  | succ n ih =>
    cases stream with
    | nil => exact List.take_nil
    | cons token rest =>
      change (token.integers ++ integers rest).take (5 * n + 5) =
        token.integers ++ integers (rest.take n)
      rw [← ih]
      rfl

theorem take_eq_take_of_le_common {left right : TokenStream} {n : Nat}
    (h : 5 * n ≤ Edit.common left.integers right.integers) : left.take n = right.take n := by
  have hintegers := Edit.take_eq_take_of_le_common h
  rw [take_integers, take_integers] at hintegers
  have htokens := congrArg ofIntegers hintegers
  rwa [ofIntegers_integers, ofIntegers_integers] at htokens

theorem take_decodeFrom (line column : UInt32) (stream : TokenStream) (n : Nat) :
    (decodeFrom line column stream).take n = decodeFrom line column (stream.take n) := by
  induction n generalizing line column stream with
  | zero => rfl
  | succ n ih =>
    cases stream with
    | nil => rfl
    | cons token rest => rw [decodeFrom, List.take_succ_cons, ih, List.take_succ_cons, decodeFrom]

theorem length_ofEntriesFrom (line column : UInt32) (entries : List Entry) :
    (ofEntriesFrom line column entries).length = entries.length := by
  induction entries generalizing line column with
  | nil => rfl
  | cons entry rest ih => rw [ofEntriesFrom, List.length_cons, ih, List.length_cons]

/-- The line of the last of some entries that follow a token on a line. -/
def lastLine (line : UInt32) : List Entry → UInt32
  | [] => line
  | entry :: rest => lastLine entry.line rest

/-- The column of the last of some entries that follow a token at a column. -/
def lastColumn (column : UInt32) : List Entry → UInt32
  | [] => column
  | entry :: rest => lastColumn entry.column rest

theorem ofEntriesFrom_append (line column : UInt32) (front back : List Entry) :
    ofEntriesFrom line column (front ++ back) =
      ofEntriesFrom line column front ++
        ofEntriesFrom (lastLine line front) (lastColumn column front) back := by
  induction front generalizing line column with
  | nil => rfl
  | cons entry front ih => rw [List.cons_append, ofEntriesFrom, ih, ofEntriesFrom]; rfl

theorem lastLine_eq {line number : UInt32} {entries : List Entry} (hne : entries ≠ [])
    (h : ∀ entry ∈ entries, entry.line = number) : lastLine line entries = number := by
  induction entries generalizing line with
  | nil => exact (hne rfl).elim
  | cons entry rest ih =>
    by_cases hrest : rest = []
    · rw [hrest]
      exact h entry List.mem_cons_self
    · exact ih hrest fun other hmem => h other (List.mem_cons_of_mem _ hmem)

theorem ofEntriesFrom_congr_column {line : UInt32} {entries : List Entry}
    (h : ∀ entry ∈ entries, entry.line ≠ line) (first second : UInt32) :
    ofEntriesFrom line first entries = ofEntriesFrom line second entries := by
  cases entries with
  | nil => rfl
  | cons entry rest =>
    have hne : entry.line - line ≠ 0 := by
      intro hzero
      have hsame := UInt32.sub_add_cancel entry.line line
      rw [hzero, UInt32.zero_add] at hsame
      exact h entry List.mem_cons_self hsame.symm
    rw [ofEntriesFrom, ofEntriesFrom, if_neg hne, if_neg hne]

theorem mem_diffTokens_middle {front old new back : TokenStream}
    (hcommon : Edit.common (integers (front ++ (old ++ back)))
      (integers (front ++ (new ++ back))) < 5 * (front.length + min old.length new.length + 1))
    {edit : Edit} (hmem : edit ∈ Edit.diffTokens (integers (front ++ (old ++ back)))
      (integers (front ++ (new ++ back)))) :
    5 * front.length ≤ edit.start ∧
      edit.start + edit.deleteCount ≤ 5 * (front.length + old.length) ∧
      edit.start + edit.data.length ≤ 5 * (front.length + new.length) := by
  have hwidth (stream : TokenStream) : stream.integers.length = 5 * stream.length :=
    stream.length_integers
  have hwhole (stream : TokenStream) : stream.integers.length % 5 = 0 := by
    rw [hwidth, Nat.mul_mod_right]
  simp only [integers_append] at hcommon hmem
  have hbounds := Edit.mem_between_middle (hwhole front) (hwhole back) (hwhole old) (hwhole new)
    (by simp only [hwidth]; omega) hmem
  simp only [hwidth] at hbounds
  omega

section Line

variable {number : UInt32} {front old new back : List Entry}

theorem take_ne_take_of_length_lt (hlt : old.length < new.length)
    (hnew : ∀ entry ∈ new, entry.line = number) (hback : ∀ entry ∈ back, entry.line ≠ number) :
    (front ++ (old ++ back)).take (front.length + old.length + 1) ≠
      (front ++ (new ++ back)).take (front.length + old.length + 1) := by
  intro h
  have hentry := congrArg (·[front.length + old.length]?) h
  simp only [List.getElem?_take_of_lt (Nat.lt_succ_self _)] at hentry
  rw [List.getElem?_append_right (Nat.le_add_right _ _), Nat.add_sub_cancel_left,
    List.getElem?_append_right (Nat.le_refl _), Nat.sub_self,
    List.getElem?_append_right (Nat.le_add_right _ _), Nat.add_sub_cancel_left,
    List.getElem?_append_left hlt, List.getElem?_eq_getElem hlt] at hentry
  exact hback _ (List.mem_of_getElem? hentry) (hnew _ (List.getElem_mem hlt))

/-- Two streams that differ only on one line have no more in common at the start than the shorter
of the two lines. -/
theorem common_ofEntries_lt (hbefore : Entry.Ordered (front ++ (old ++ back)))
    (hafter : Entry.Ordered (front ++ (new ++ back)))
    (hold : ∀ entry ∈ old, entry.line = number) (hnew : ∀ entry ∈ new, entry.line = number)
    (hback : ∀ entry ∈ back, entry.line ≠ number)
    (hne : ofEntries (front ++ (old ++ back)) ≠ ofEntries (front ++ (new ++ back))) :
    Edit.common (integers (ofEntries (front ++ (old ++ back))))
        (integers (ofEntries (front ++ (new ++ back)))) <
      5 * (front.length + min old.length new.length + 1) := by
  by_contra hge
  have htokens := take_eq_take_of_le_common (Nat.not_lt.1 hge)
  have hentries := congrArg (decodeFrom 0 0) htokens
  rw [← take_decodeFrom, ← take_decodeFrom, ← decode, ← decode, decode_ofEntries hbefore,
    decode_ofEntries hafter] at hentries
  rcases Nat.lt_trichotomy old.length new.length with hlt | heq | hgt
  · rw [Nat.min_eq_left (Nat.le_of_lt hlt)] at hentries
    exact take_ne_take_of_length_lt hlt hnew hback hentries
  · have hlines := congrArg (List.take (front.length + old.length)) hentries
    rw [heq, Nat.min_self, List.take_take, List.take_take, Nat.min_eq_left (Nat.le_succ _),
      ← List.append_assoc, ← List.append_assoc, List.take_left' (by rw [List.length_append, heq]),
      List.take_left' List.length_append] at hlines
    exact hne (by rw [List.append_cancel_left hlines])
  · rw [Nat.min_eq_right (Nat.le_of_lt hgt)] at hentries
    exact take_ne_take_of_length_lt hgt hold hback hentries.symm

theorem ofEntries_append_append (front middle back : List Entry) :
    ofEntries (front ++ (middle ++ back)) =
      ofEntries front ++ (ofEntriesFrom (lastLine 0 front) (lastColumn 0 front) middle ++
        ofEntriesFrom (lastLine (lastLine 0 front) middle)
          (lastColumn (lastColumn 0 front) middle) back) := by
  rw [ofEntries, ofEntriesFrom_append, ofEntriesFrom_append, ofEntries]

theorem confined_of_mem_diffTokens (hbefore : Entry.Ordered (front ++ (old ++ back)))
    (hafter : Entry.Ordered (front ++ (new ++ back)))
    (hold : ∀ entry ∈ old, entry.line = number) (hnew : ∀ entry ∈ new, entry.line = number)
    (hback : ∀ entry ∈ back, entry.line ≠ number) {edit : Edit}
    (hmem : edit ∈ Edit.diffTokens (integers (ofEntries (front ++ (old ++ back))))
      (integers (ofEntries (front ++ (new ++ back))))) :
    edit.Confined front.length old.length new.length := by
  have hne : ofEntries (front ++ (old ++ back)) ≠ ofEntries (front ++ (new ++ back)) := by
    intro heq
    rw [heq, Edit.diffTokens, Edit.between_self] at hmem
    cases hmem
  have hcommon := common_ofEntries_lt hbefore hafter hold hnew hback hne
  rw [ofEntries_append_append, ofEntries_append_append] at hmem hcommon
  have hfront : (ofEntries front).length = front.length := length_ofEntriesFrom 0 0 front
  have holdLength := length_ofEntriesFrom (lastLine 0 front) (lastColumn 0 front) old
  have hnewLength := length_ofEntriesFrom (lastLine 0 front) (lastColumn 0 front) new
  by_cases hlines : back = [] ∨ (old ≠ [] ∧ new ≠ [])
  · have hrest : ofEntriesFrom (lastLine (lastLine 0 front) old)
          (lastColumn (lastColumn 0 front) old) back =
        ofEntriesFrom (lastLine (lastLine 0 front) new)
          (lastColumn (lastColumn 0 front) new) back := by
      rcases hlines with rfl | ⟨holdNe, hnewNe⟩
      · rfl
      · rw [lastLine_eq holdNe hold, lastLine_eq hnewNe hnew]
        exact ofEntriesFrom_congr_column hback _ _
    rw [hrest] at hmem hcommon
    have hbounds := mem_diffTokens_middle (by omega) hmem
    exact ⟨by omega, by omega, by omega, fun _ _ => by omega⟩
  · -- The token after the line depends on it, and those after that token do not.
    rw [not_or, not_and_or, not_not, not_not] at hlines
    obtain ⟨hne, hnone⟩ := hlines
    obtain ⟨entry, rest, rfl⟩ := List.exists_cons_of_ne_nil hne
    have hrest (line column : UInt32) : ∃ token, ofEntriesFrom line column (entry :: rest) =
        [token] ++ ofEntriesFrom entry.line entry.column rest := ⟨_, rfl⟩
    obtain ⟨first, hfirst⟩ :=
      hrest (lastLine (lastLine 0 front) old) (lastColumn (lastColumn 0 front) old)
    obtain ⟨second, hsecond⟩ :=
      hrest (lastLine (lastLine 0 front) new) (lastColumn (lastColumn 0 front) new)
    rw [hfirst, hsecond, ← List.append_assoc _ [first], ← List.append_assoc _ [second]]
      at hmem hcommon
    have hbounds := mem_diffTokens_middle
      (by simp only [List.length_append, List.length_singleton]; omega) hmem
    simp only [List.length_append, List.length_singleton] at hbounds
    refine ⟨by omega, by omega, by omega, ?_⟩
    intro holdPos hnewPos
    rcases hnone with rfl | rfl
    · exact absurd holdPos (by simp)
    · exact absurd hnewPos (by simp)

theorem diffTokens_confined (hbefore : Entry.Ordered (front ++ (old ++ back)))
    (hafter : Entry.Ordered (front ++ (new ++ back)))
    (hold : ∀ entry ∈ old, entry.line = number) (hnew : ∀ entry ∈ new, entry.line = number)
    (hback : ∀ entry ∈ back, entry.line ≠ number) :
    Edit.diffTokens (integers (ofEntries (front ++ (old ++ back))))
        (integers (ofEntries (front ++ (new ++ back)))) = [] ∨
      ∃ edit, Edit.diffTokens (integers (ofEntries (front ++ (old ++ back))))
          (integers (ofEntries (front ++ (new ++ back)))) = [edit] ∧
        edit.Confined front.length old.length new.length := by
  by_cases hsame : integers (ofEntries (front ++ (old ++ back))) =
      integers (ofEntries (front ++ (new ++ back)))
  · left
    rw [hsame, Edit.diffTokens, Edit.between_self]
  · right
    obtain ⟨start, removed, inserted, kept, -, -, -, -, hedit⟩ := Edit.between_of_ne 5 hsame
    refine ⟨_, hedit, confined_of_mem_diffTokens hbefore hafter hold hnew hback ?_⟩
    rw [Edit.diffTokens, hedit]
    exact List.mem_singleton_self _

end Line

end TokenStream

end CirHighlight
