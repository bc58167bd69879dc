import CirHighlight.Proofs.TokenStream.Encode

namespace CirHighlight

namespace Token

/-- A token starts on a later line than another one, or on the same line after its start and not
before its end, which is counted without bound. -/
def StartsAfter (token previous : Token) : Prop :=
  previous.line < token.line ∨
    (previous.line = token.line ∧ previous.column < token.column ∧
      previous.column.toNat + Text.unitCount previous.text.toList ≤ token.column.toNat)

/-- The token after a place in a list, if there is one, starts after the token at that place. -/
def InOrderAt (tokens : List Token) (place : Nat) : Prop :=
  ∀ previous token, tokens[place]? = some previous → tokens[place + 1]? = some token →
    token.StartsAfter previous

/-- Two neighbours in a list, the first of them at a place, of which the second does not start after
the first. Before that place the list is in order. -/
structure FirstDisorder (tokens : List Token) (place : Nat) (previous token : Token) : Prop where
  previous_eq : tokens[place]? = some previous
  token_eq : tokens[place + 1]? = some token
  not_startsAfter : ¬ token.StartsAfter previous
  inOrderAt {earlier : Nat} (hlt : earlier < place) : InOrderAt tokens earlier

def bare (token : Token) : Token :=
  { token with category := none, modifiers := .empty }

end Token

/-- A report tells the index and the place of a token, and the place and the exact end of the one
before it. -/
structure Disorder.Reports (disorder : Disorder) (index : Nat) (previous token : Token) : Prop where
  index : disorder.index = index
  line : disorder.line = token.line
  column : disorder.column = token.column
  previousLine : disorder.previousLine = previous.line
  previousColumn : disorder.previousColumn = previous.column
  previousEnd :
    disorder.previousEnd.toNat = previous.column.toNat + Text.unitCount previous.text.toList

namespace Token

variable {previous token : Token} {index place : Nat} {rest tokens : List Token}
  {disorder : Disorder}

section Order

theorem toNat_endColumn (hfits : token.column.toNat + Text.unitCount token.text.toList < 2 ^ 32) :
    token.endColumn.toNat = token.column.toNat + Text.unitCount token.text.toList :=
  Text.toNat_add_width hfits

theorem follows_iff_startsAfter
    (hfits : previous.column.toNat + Text.unitCount previous.text.toList < 2 ^ 32) :
    token.follows previous = true ↔ token.StartsAfter previous := by
  rw [follows_iff, StartsAfter, UInt32.le_iff_toNat_le, toNat_endColumn hfits]

theorem disorderAfter?_of_startsAfter
    (hfits : previous.column.toNat + Text.unitCount previous.text.toList < 2 ^ 32)
    (h : token.StartsAfter previous) :
    disorderAfter? previous index (token :: rest) = disorderAfter? token (index + 1) rest := by
  rw [disorderAfter?, if_pos ((follows_iff_startsAfter hfits).2 h)]

theorem disorderAfter?_of_not_startsAfter
    (hfits : previous.column.toNat + Text.unitCount previous.text.toList < 2 ^ 32)
    (h : ¬ token.StartsAfter previous) :
    disorderAfter? previous index (token :: rest) = some disorder ↔
      disorder.Reports index previous token := by
  rw [disorderAfter?, if_neg (mt (follows_iff_startsAfter hfits).1 h), Option.some_inj]
  constructor
  · rintro rfl
    exact ⟨rfl, rfl, rfl, rfl, rfl, toNat_endColumn hfits⟩
  · rintro ⟨rfl, hline, hcolumn, hpreviousLine, hpreviousColumn, hend⟩
    rw [← toNat_endColumn hfits, UInt32.toNat_inj] at hend
    rw [← hline, ← hcolumn, ← hpreviousLine, ← hpreviousColumn, ← hend]

theorem inOrderAt_zero : InOrderAt (previous :: token :: rest) 0 ↔ token.StartsAfter previous := by
  constructor
  · intro h
    exact h previous token rfl rfl
  · rintro h first second ⟨rfl⟩ ⟨rfl⟩
    exact h

theorem inOrderAt_succ : InOrderAt (previous :: tokens) (place + 1) ↔ InOrderAt tokens place :=
  Iff.rfl

theorem FirstDisorder.of_not_startsAfter (h : ¬ token.StartsAfter previous) :
    FirstDisorder (previous :: token :: rest) 0 previous token where
  previous_eq := rfl
  token_eq := rfl
  not_startsAfter := h
  inOrderAt hlt := absurd hlt (Nat.not_lt_zero _)

theorem FirstDisorder.eq_of_not_startsAfter {first second : Token}
    (h : ¬ token.StartsAfter previous)
    (hfirst : FirstDisorder (previous :: token :: rest) place first second) :
    place = 0 ∧ first = previous ∧ second = token := by
  cases place with
  | zero =>
    exact ⟨rfl, (Option.some.inj hfirst.previous_eq).symm, (Option.some.inj hfirst.token_eq).symm⟩
  | succ place => exact (h (inOrderAt_zero.1 (hfirst.inOrderAt (Nat.zero_lt_succ place)))).elim

theorem firstDisorder_cons_iff {first second : Token} (h : token.StartsAfter previous) :
    FirstDisorder (previous :: token :: rest) place first second ↔
      ∃ later, place = later + 1 ∧ FirstDisorder (token :: rest) later first second := by
  constructor
  · rintro ⟨hfirst, hsecond, hnot, hearlier⟩
    cases place with
    | zero =>
      cases hfirst
      cases hsecond
      exact (hnot h).elim
    | succ later =>
      refine ⟨later, rfl, hfirst, hsecond, hnot, ?_⟩
      intro earlier hlt
      exact inOrderAt_succ.1 (hearlier (Nat.succ_lt_succ hlt))
  · rintro ⟨later, rfl, hfirst, hsecond, hnot, hearlier⟩
    refine ⟨hfirst, hsecond, hnot, ?_⟩
    intro earlier hlt
    cases earlier with
    | zero => exact inOrderAt_zero.2 h
    | succ earlier => exact inOrderAt_succ.2 (hearlier (Nat.lt_of_succ_lt_succ hlt))

theorem disorderAfter?_eq_some_iff
    (hfits : ∀ token ∈ previous :: tokens,
      token.column.toNat + Text.unitCount token.text.toList < 2 ^ 32) :
    disorderAfter? previous index tokens = some disorder ↔
      ∃ place first second, FirstDisorder (previous :: tokens) place first second ∧
        disorder.Reports (index + place) first second := by
  induction tokens generalizing previous index with
  | nil =>
    constructor
    · intro h
      cases h
    · rintro ⟨place, first, second, hfirst, -⟩
      cases hfirst.token_eq
  | cons token rest ih =>
    obtain ⟨hprevious, hrest⟩ := List.forall_mem_cons.1 hfits
    by_cases hstarts : token.StartsAfter previous
    · rw [disorderAfter?_of_startsAfter hprevious hstarts, ih hrest]
      simp only [firstDisorder_cons_iff hstarts]
      constructor
      · rintro ⟨place, first, second, hfirst, hreports⟩
        rw [Nat.add_assoc, Nat.add_comm 1] at hreports
        exact ⟨place + 1, first, second, ⟨place, rfl, hfirst⟩, hreports⟩
      · rintro ⟨-, first, second, ⟨later, rfl, hfirst⟩, hreports⟩
        rw [Nat.add_comm later, ← Nat.add_assoc] at hreports
        exact ⟨later, first, second, hfirst, hreports⟩
    · rw [disorderAfter?_of_not_startsAfter hprevious hstarts]
      constructor
      · intro hreports
        exact ⟨0, previous, token, .of_not_startsAfter hstarts, hreports⟩
      · rintro ⟨place, first, second, hfirst, hreports⟩
        obtain ⟨rfl, rfl, rfl⟩ := hfirst.eq_of_not_startsAfter hstarts
        exact hreports

theorem disorderAfter?_eq_none_iff
    (hfits : ∀ token ∈ previous :: tokens,
      token.column.toNat + Text.unitCount token.text.toList < 2 ^ 32) :
    disorderAfter? previous index tokens = none ↔
      ∀ place, InOrderAt (previous :: tokens) place := by
  induction tokens generalizing previous index with
  | nil =>
    refine iff_of_true rfl ?_
    intro place first second hfirst hsecond
    cases hsecond
  | cons token rest ih =>
    obtain ⟨hprevious, hrest⟩ := List.forall_mem_cons.1 hfits
    by_cases hstarts : token.StartsAfter previous
    · rw [disorderAfter?_of_startsAfter hprevious hstarts, ih hrest]
      constructor
      · intro h place
        cases place with
        | zero => exact inOrderAt_zero.2 hstarts
        | succ place => exact inOrderAt_succ.2 (h place)
      · intro h place
        exact inOrderAt_succ.1 (h (place + 1))
    · refine iff_of_false ?_ ?_
      · rw [disorderAfter?, if_neg (mt (follows_iff_startsAfter hprevious).1 hstarts)]
        exact Option.some_ne_none _
      · intro h
        exact hstarts (inOrderAt_zero.1 (h 0))

theorem disorder?_eq_some_iff
    (hfits : ∀ token ∈ tokens, token.column.toNat + Text.unitCount token.text.toList < 2 ^ 32) :
    disorder? tokens = some disorder ↔
      ∃ place previous token, FirstDisorder tokens place previous token ∧
        disorder.Reports (place + 1) previous token := by
  cases tokens with
  | nil =>
    constructor
    · intro h
      cases h
    · rintro ⟨place, previous, token, hfirst, -⟩
      cases hfirst.token_eq
  | cons token rest =>
    simp only [Nat.add_comm _ 1]
    exact disorderAfter?_eq_some_iff hfits

theorem disorder?_eq_none_iff_inOrderAt
    (hfits : ∀ token ∈ tokens, token.column.toNat + Text.unitCount token.text.toList < 2 ^ 32) :
    disorder? tokens = none ↔ ∀ place, InOrderAt tokens place := by
  cases tokens with
  | nil =>
    refine iff_of_true rfl ?_
    intro place previous token hprevious
    cases hprevious
  | cons token rest => exact disorderAfter?_eq_none_iff hfits

end Order

theorem disorderAfter?_map_bare (previous : Token) (index : Nat) (tokens : List Token) :
    disorderAfter? previous.bare index (tokens.map bare) =
      disorderAfter? previous index tokens := by
  induction tokens generalizing previous index with
  | nil => rfl
  | cons token rest ih =>
    rw [List.map_cons, disorderAfter?, disorderAfter?, ih]
    rfl

theorem disorder?_map_bare (tokens : List Token) :
    disorder? (tokens.map bare) = disorder? tokens := by
  cases tokens with
  | nil => rfl
  | cons token rest => exact disorderAfter?_map_bare token 1 rest

def From (line column : UInt32) (token : Token) : Prop :=
  line < token.line ∨ (line = token.line ∧ column ≤ token.column)

theorem from_zero (token : Token) : From 0 0 token :=
  Entry.from_zero ⟨token.line, token.column, 0, 0, 0⟩

theorem from_self (token : Token) : From token.line token.column token :=
  .inr ⟨rfl, UInt32.le_refl _⟩

theorem From.follows {line column : UInt32} (h : previous.From line column)
    (hfollows : token.follows previous = true) : token.From line column := by
  rcases h with hline | ⟨hline, hcolumn⟩
  · rcases follows_iff.1 hfollows with hnext | ⟨hnext, -, -⟩
    · exact .inl (UInt32.lt_trans hline hnext)
    · exact .inl (hnext ▸ hline)
  · rcases follows_iff.1 hfollows with hnext | ⟨hnext, hlater, -⟩
    · exact .inl (hline ▸ hnext)
    · exact .inr ⟨hline.trans hnext, UInt32.le_trans hcolumn (UInt32.le_of_lt hlater)⟩

end Token

namespace TokenStream

/-- The distance from one number to another, unless it is negative. -/
def distance? (start stop : UInt32) : Option UInt32 :=
  if start ≤ stop then some (stop - start) else none

/-- Emits a token relative to the last one emitted, at a line and a column, and goes on from where
it stands; a token that is not emitted leaves that place as it is. There is no result where a
distance is negative. -/
def emit? (policy : Policy) (token : Token) (line column : UInt32)
    (next : UInt32 → UInt32 → Option (Except Disorder TokenStream)) :
    Option (Except Disorder TokenStream) :=
  match token.entry? policy with
  | none => next line column
  | some entry => do
    let deltaLine ← distance? line entry.line
    let deltaStart ← if deltaLine = 0 then distance? column entry.column else some entry.column
    let result ← next entry.line entry.column
    return result.map fun stream =>
      { deltaLine, deltaStart, length := entry.length, category := entry.category,
        modifiers := entry.modifiers } :: stream

/-- Encodes tokens in one pass. Each is compared with the one before it, the first with
`previous`, and has the given index; the last token emitted stands at a line and a column. -/
def encodeAfter? (policy : Policy) (previous : Token) (index : Nat) (line column : UInt32) :
    List Token → Option (Except Disorder TokenStream)
  | [] => some (.ok [])
  | token :: rest =>
    if token.follows previous then
      emit? policy token line column fun line column =>
        encodeAfter? policy token (index + 1) line column rest
    else
      some (.error
        { index, line := token.line, column := token.column, previousLine := previous.line,
          previousColumn := previous.column, previousEnd := previous.endColumn })

/-- Encodes tokens in one pass, without a result where a distance is negative. -/
def encodeChecked? (policy : Policy) : List Token → Option (Except Disorder TokenStream)
  | [] => some (.ok [])
  | token :: rest =>
    emit? policy token 0 0 fun line column => encodeAfter? policy token 1 line column rest

def verdict (disorder : Option Disorder) (stream : TokenStream) : Except Disorder TokenStream :=
  match disorder with
  | some disorder => .error disorder
  | none => .ok stream

theorem distance?_eq_some {start stop : UInt32} (h : start ≤ stop) :
    distance? start stop = some (stop - start) :=
  if_pos h

theorem emit?_eq_some {policy : Policy} {token : Token} {line column : UInt32}
    {next : UInt32 → UInt32 → Option (Except Disorder TokenStream)} {disorder : Option Disorder}
    {entries : List Entry} (hfrom : token.From line column)
    (hnext : ∀ line column, token.From line column →
      next line column = some (verdict disorder (ofEntriesFrom line column entries))) :
    emit? policy token line column next = some (verdict disorder
      (ofEntriesFrom line column ((token.entry? policy).toList ++ entries))) := by
  unfold emit?
  cases hentry : token.entry? policy with
  | none => exact hnext line column hfrom
  | some entry =>
    obtain ⟨category, -, rfl⟩ := Option.map_eq_some_iff.1 hentry
    have hrest := hnext token.line token.column token.from_self
    have hline : line ≤ token.line := by
      rcases hfrom with hlt | ⟨heq, -⟩
      · exact UInt32.le_of_lt hlt
      · exact heq ▸ UInt32.le_refl _
    -- The column is only counted from the last one on the same line, and there it is not before it.
    have hcolumn : token.line - line = 0 → column ≤ token.column := by
      intro hzero
      rcases hfrom with hlt | ⟨-, hle⟩
      · have hsame := UInt32.sub_add_cancel token.line line
        rw [hzero, UInt32.zero_add] at hsame
        exact (UInt32.ne_of_lt hlt hsame).elim
      · exact hle
    simp only [distance?_eq_some hline, hrest, Option.bind_eq_bind, Option.bind_some,
      Option.toList_some, List.singleton_append, ofEntriesFrom]
    by_cases hzero : token.line - line = 0
    · rw [if_pos hzero, if_pos hzero, distance?_eq_some (hcolumn hzero)]
      cases disorder <;> rfl
    · rw [if_neg hzero, if_neg hzero]
      cases disorder <;> rfl

theorem encodeAfter?_eq_some (policy : Policy) {previous : Token} {index : Nat}
    {line column : UInt32} {tokens : List Token} (hfrom : previous.From line column) :
    encodeAfter? policy previous index line column tokens =
      some (verdict (Token.disorderAfter? previous index tokens)
        (ofEntriesFrom line column (tokens.filterMap (Token.entry? policy)))) := by
  induction tokens generalizing previous index line column with
  | nil => rfl
  | cons token rest ih =>
    rw [encodeAfter?, Token.disorderAfter?]
    split
    · next hfollows =>
      rw [emit?_eq_some (hfrom.follows hfollows) fun line column hnext => ih hnext,
        List.filterMap_cons]
      cases token.entry? policy <;> rfl
    · rfl

theorem encodeChecked?_eq_some (policy : Policy) (tokens : List Token) :
    encodeChecked? policy tokens = some (encode policy tokens) := by
  cases tokens with
  | nil => rfl
  | cons token rest =>
    rw [encodeChecked?,
      emit?_eq_some token.from_zero fun line column hnext => encodeAfter?_eq_some policy hnext,
      encode, ofEntries, List.filterMap_cons]
    cases token.entry? policy <;> rfl

theorem encode_eq_error_iff {policy : Policy} {tokens : List Token} {disorder : Disorder} :
    encode policy tokens = .error disorder ↔ Token.disorder? tokens = some disorder := by
  rw [encode]
  cases Token.disorder? tokens with
  | none => simp
  | some found => simp

/-- Tokens are encoded exactly when each starts after the one before it; otherwise the first that
does not is reported. The same lists fail, in the same way, under all policies and with all
categories. Every distance that the encoding takes is that of two numbers in order, also where it
fails later. -/
theorem encode_rejects_first_disorder (policy : Policy) (tokens : List Token) :
    ((∀ token ∈ tokens, token.column.toNat + Text.unitCount token.text.toList < 2 ^ 32) →
      ((∃ stream, encode policy tokens = .ok stream) ↔ ∀ place, Token.InOrderAt tokens place) ∧
        ∀ disorder, encode policy tokens = .error disorder ↔
          ∃ place previous token, Token.FirstDisorder tokens place previous token ∧
            disorder.Reports (place + 1) previous token) ∧
      (∀ other others, others.map Token.bare = tokens.map Token.bare →
        (encode other others).map (fun _ => ()) = (encode policy tokens).map fun _ => ()) ∧
      encodeChecked? policy tokens = some (encode policy tokens) := by
  refine ⟨?_, ?_, encodeChecked?_eq_some policy tokens⟩
  · intro hfits
    constructor
    · simp only [encode_eq_ok_iff, ← Token.disorder?_eq_none_iff, exists_and_left, exists_eq',
        and_true]
      exact Token.disorder?_eq_none_iff_inOrderAt hfits
    · intro disorder
      exact encode_eq_error_iff.trans (Token.disorder?_eq_some_iff hfits)
  · intro other others hbare
    have hsame : Token.disorder? others = Token.disorder? tokens := by
      rw [← Token.disorder?_map_bare others, hbare, Token.disorder?_map_bare]
    rw [encode, encode, hsame]
    cases Token.disorder? tokens <;> rfl

/-- An empty word that is left out, a token at the same column, which is not before the end of the
word, and one that starts inside a character. -/
theorem encode_rejects_first_disorder_empty_word :
    let tokens : List Token :=
      [⟨0, 0, "cir", some .namespaceName, {}⟩, ⟨0, 4, "", none, {}⟩,
        ⟨0, 4, "\"😀\"", some .string, ⟨2⟩⟩, ⟨0, 6, "x", none, {}⟩]
    (∀ token ∈ tokens, token.column.toNat + Text.unitCount token.text.toList < 2 ^ 32) ∧
      encode .omit tokens = .error ⟨2, 0, 4, 0, 4, 4⟩ ∧
      (∃ place previous token, Token.FirstDisorder tokens place previous token ∧
        Disorder.Reports ⟨2, 0, 4, 0, 4, 4⟩ (place + 1) previous token) ∧
      (encode (.fallback .keyword) (tokens.map Token.bare)).map (fun _ => ()) =
        .error ⟨2, 0, 4, 0, 4, 4⟩ ∧
      encodeChecked? .omit tokens = some (.error ⟨2, 0, 4, 0, 4, 4⟩) ∧
      (∀ token ∈ tokens.take 2, token.column.toNat + Text.unitCount token.text.toList < 2 ^ 32) ∧
      (∀ place, Token.InOrderAt (tokens.take 2) place) ∧
      ∃ stream, encode .omit (tokens.take 2) = .ok stream := by
  intro tokens
  have hfits : ∀ token ∈ tokens,
      token.column.toNat + Text.unitCount token.text.toList < 2 ^ 32 := by
    decide
  have hencode : encode .omit tokens = .error ⟨2, 0, 4, 0, 4, 4⟩ := by rfl
  have htake : ∀ token ∈ tokens.take 2,
      token.column.toNat + Text.unitCount token.text.toList < 2 ^ 32 := by
    decide
  have hstream : ∃ stream, encode .omit (tokens.take 2) = .ok stream := ⟨_, rfl⟩
  obtain ⟨hverdict, hother, hchecked⟩ := encode_rejects_first_disorder .omit tokens
  obtain ⟨hinOrder, -, -⟩ := encode_rejects_first_disorder .omit (tokens.take 2)
  have hbare := hother (.fallback .keyword) (tokens.map Token.bare) rfl
  rw [hencode] at hbare hchecked
  exact ⟨hfits, hencode, ((hverdict hfits).2 _).1 hencode, hbare, hchecked, htake,
    (hinOrder htake).1.1 hstream, hstream⟩

end TokenStream

end CirHighlight
