import Mathlib.Data.List.Forall2
import CirHighlight.Proofs.TokenStream.Encode

namespace CirHighlight

namespace Category

theorem exists_index_eq {n : UInt32} (h : n ≤ 10) : ∃ category : Category, category.index = n := by
  have hall : ∀ k : Fin 11, ∃ category ∈ legend, category.index = UInt32.ofNat k := by decide
  have hlt : n.toNat < 11 := Nat.lt_succ_of_le (UInt32.le_iff_toNat_le.1 h)
  obtain ⟨category, -, hindex⟩ := hall ⟨n.toNat, hlt⟩
  exact ⟨category, hindex.trans UInt32.ofNat_toNat⟩

end Category

namespace Modifiers

/-- A set of modifiers is made of its members: it has no other bits. -/
def Proper (modifiers : Modifiers) : Prop :=
  modifiers.toList.foldl insert empty = modifiers

theorem proper_of_le {bits : UInt32} (h : bits ≤ 7) : Proper ⟨bits⟩ := by
  have hall : ∀ k : Fin 8, (Modifiers.mk (UInt32.ofNat k)).toList.foldl insert empty =
      ⟨UInt32.ofNat k⟩ := by
    decide
  have hlt : bits.toNat < 8 := Nat.lt_succ_of_le (UInt32.le_iff_toNat_le.1 h)
  have hproper := hall ⟨bits.toNat, hlt⟩
  rwa [UInt32.ofNat_toNat] at hproper

end Modifiers

namespace Token

/-- The tokens that a policy lets through, with the categories they are emitted under. -/
def emitted (policy : Policy) (tokens : List Token) : List (Token × Category) :=
  tokens.filterMap fun token => (policy.resolve token.category).map (token, ·)

/-- A token with a category in place of a missing one. -/
def fill (category : Category) (token : Token) : Token :=
  { token with category := some (token.category.getD category) }

end Token

namespace Entry

/-- An entry tells the place and the exact length of a token that is emitted under a category, with
the numbers of the category and of the modifiers. -/
structure Describes (entry : Entry) (token : Token) (category : Category) : Prop where
  line : token.line = entry.line
  column : token.column = entry.column
  length : Text.unitCount token.text.toList = entry.length.toNat
  category : category.index = entry.category
  modifiers : token.modifiers.bits = entry.modifiers

/-- An entry ends, on its line, before another one starts. -/
def Precedes (first second : Entry) : Prop :=
  first.line < second.line ∨
    (first.line = second.line ∧ first.column < second.column ∧
      first.column.toNat + first.length.toNat ≤ second.column.toNat)

instance (first second : Entry) : Decidable (first.Precedes second) :=
  inferInstanceAs (Decidable (_ ∨ _))

/-- The tokens are those of the entries, all of them with categories. -/
def DescribeAll (entries : List Entry) (tokens : List Token) : Prop :=
  List.Forall₂ (fun entry token =>
    ∃ category, token.category = some category ∧ entry.Describes token category) entries tokens

theorem Describes.entry?_eq {entry : Entry} {token : Token} {category : Category}
    (h : entry.Describes token category) (hcategory : token.category = some category)
    (policy : Policy) : token.entry? policy = some entry := by
  have hlength : token.length = entry.length := by
    apply UInt32.toNat_inj.1
    have hlt := entry.length.toNat_lt
    rw [← h.length] at hlt ⊢
    exact Text.toNat_width_of_lt hlt
  rw [Token.entry?, hcategory]
  simp only [Policy.resolve, Option.map_some, h.line, h.column, hlength, h.category, h.modifiers]

theorem Precedes.follows {first second : Entry} {token later : Token} {category other : Category}
    (h : first.Precedes second) (hfirst : first.Describes token category)
    (hsecond : second.Describes later other) : later.follows token = true := by
  rw [Token.follows_iff, hfirst.line, hfirst.column, hsecond.line, hsecond.column]
  rcases h with hline | ⟨hline, hcolumn, hend⟩
  · exact .inl hline
  · refine .inr ⟨hline, hcolumn, UInt32.le_iff_toNat_le.2 ?_⟩
    have hlt := second.column.toNat_lt
    rw [← hfirst.column, ← hfirst.length] at hend
    rw [Token.endColumn, Token.length, Text.toNat_add_width (by omega)]
    exact hend

theorem DescribeAll.filterMap_entry? {entries : List Entry} {tokens : List Token}
    (h : DescribeAll entries tokens) (policy : Policy) :
    tokens.filterMap (Token.entry? policy) = entries := by
  induction h with
  | nil => rfl
  | cons hfirst _ ih =>
    obtain ⟨category, hcategory, hdescribes⟩ := hfirst
    rw [List.filterMap_cons_some (hdescribes.entry?_eq hcategory policy), ih]

theorem DescribeAll.exists_describes {entries : List Entry} {tokens : List Token}
    (h : DescribeAll entries tokens) {token : Token} (hmem : token ∈ tokens) :
    ∃ entry ∈ entries, ∃ category, entry.Describes token category := by
  induction h with
  | nil => cases hmem
  | cons hfirst _ ih =>
    rcases List.mem_cons.1 hmem with rfl | hmem
    · obtain ⟨category, -, hdescribes⟩ := hfirst
      exact ⟨_, List.mem_cons_self, category, hdescribes⟩
    · obtain ⟨entry, hentry, hdescribes⟩ := ih hmem
      exact ⟨entry, List.mem_cons_of_mem _ hentry, hdescribes⟩

theorem DescribeAll.pairwise_follows {entries : List Entry} {tokens : List Token}
    (h : DescribeAll entries tokens) (hordered : entries.Pairwise Precedes) :
    tokens.Pairwise fun first second => second.follows first = true := by
  induction h with
  | nil => exact .nil
  | cons hfirst hrest ih =>
    obtain ⟨hbefore, hordered⟩ := List.pairwise_cons.1 hordered
    refine List.pairwise_cons.2 ⟨?_, ih hordered⟩
    obtain ⟨category, -, hdescribes⟩ := hfirst
    intro later hlater
    obtain ⟨second, hsecond, other, hother⟩ := DescribeAll.exists_describes hrest hlater
    exact (hbefore second hsecond).follows hdescribes hother

theorem exists_describes (entry : Entry) (hcategory : entry.category ≤ 10)
    (hmodifiers : entry.modifiers ≤ 7) :
    ∃ token : Token, token.modifiers.Proper ∧
      ∃ category, token.category = some category ∧ entry.Describes token category := by
  obtain ⟨category, hindex⟩ := Category.exists_index_eq hcategory
  refine ⟨⟨entry.line, entry.column, String.ofList (List.replicate entry.length.toNat 'a'),
    some category, ⟨entry.modifiers⟩⟩, Modifiers.proper_of_le hmodifiers, category, rfl,
    rfl, rfl, ?_, hindex, rfl⟩
  rw [String.toList_ofList, Text.unitCount_replicate rfl]

theorem exists_describeAll {entries : List Entry}
    (h : ∀ entry ∈ entries, entry.category ≤ 10 ∧ entry.modifiers ≤ 7) :
    ∃ tokens, DescribeAll entries tokens ∧ ∀ token ∈ tokens, token.modifiers.Proper := by
  induction entries with
  | nil => exact ⟨[], .nil, fun _ hmem => nomatch hmem⟩
  | cons entry entries ih =>
    obtain ⟨hfirst, hrest⟩ := List.forall_mem_cons.1 h
    obtain ⟨token, hproper, hdescribes⟩ := entry.exists_describes hfirst.1 hfirst.2
    obtain ⟨tokens, hall, hpropers⟩ := ih hrest
    exact ⟨token :: tokens, .cons hdescribes hall, List.forall_mem_cons.2 ⟨hproper, hpropers⟩⟩

end Entry

namespace TokenStream

/-- Whether the running lines and columns of a stream stay below 2 ^ 32 from a place on. -/
def SumsFit (line column : Nat) : TokenStream → Prop
  | [] => True
  | token :: rest =>
    let line := line + token.deltaLine.toNat
    let column :=
      if token.deltaLine = 0 then column + token.deltaStart.toNat else token.deltaStart.toNat
    line < 2 ^ 32 ∧ column < 2 ^ 32 ∧ SumsFit line column rest

instance decidableSumsFit :
    (line column : Nat) → (stream : TokenStream) → Decidable (SumsFit line column stream)
  | _, _, [] => inferInstanceAs (Decidable True)
  | line, column, token :: rest =>
    have := decidableSumsFit (line + token.deltaLine.toNat)
      (if token.deltaLine = 0 then column + token.deltaStart.toNat else token.deltaStart.toNat)
      rest
    inferInstanceAs (Decidable (_ ∧ _ ∧ _))

theorem saturatingAdd_of_lt {a b : UInt32} (h : a.toNat + b.toNat < 2 ^ 32) :
    saturatingAdd a b = a + b :=
  if_pos h

theorem toNat_saturatingAdd {a b : UInt32} (h : a.toNat + b.toNat < 2 ^ 32) :
    (saturatingAdd a b).toNat = a.toNat + b.toNat := by
  rw [saturatingAdd_of_lt h, UInt32.toNat_add, Nat.mod_eq_of_lt h]

theorem saturatingAdd_sub_self {a b : UInt32} (h : a.toNat + b.toNat < 2 ^ 32) :
    saturatingAdd a b - a = b := by
  rw [saturatingAdd_of_lt h, UInt32.add_comm, UInt32.add_sub_cancel]

theorem ofEntriesFrom_decodeFrom {line column : UInt32} {stream : TokenStream}
    (h : SumsFit line.toNat column.toNat stream) :
    ofEntriesFrom line column (decodeFrom line column stream) = stream := by
  induction stream generalizing line column with
  | nil => rfl
  | cons token rest ih =>
    obtain ⟨hline, hcolumn, hrest⟩ := h
    have hnext := toNat_saturatingAdd hline
    rw [decodeFrom, ofEntriesFrom]
    simp only [saturatingAdd_sub_self hline]
    by_cases hsame : token.deltaLine = 0
    · simp only [if_pos hsame] at hcolumn hrest ⊢
      rw [← hnext, ← toNat_saturatingAdd hcolumn] at hrest
      rw [saturatingAdd_sub_self hcolumn, ih hrest]
    · simp only [if_neg hsame] at hcolumn hrest ⊢
      rw [← hnext] at hrest
      rw [ih hrest]

theorem ofEntries_decode {stream : TokenStream} (h : SumsFit 0 0 stream) :
    ofEntries stream.decode = stream :=
  ofEntriesFrom_decodeFrom h

theorem encode_of_describeAll {stream : TokenStream} (hsums : SumsFit 0 0 stream)
    (hordered : stream.decode.Pairwise Entry.Precedes) {tokens : List Token}
    (hall : Entry.DescribeAll stream.decode tokens) (policy : Policy) :
    encode policy tokens = .ok stream := by
  rw [encode_eq_ok_iff, hall.filterMap_entry? policy]
  exact ⟨hall.pairwise_follows hordered, ofEntries_decode hsums⟩

theorem describes_decode {policy : Policy} {tokens : List Token} {stream : TokenStream}
    (hfits : ∀ token ∈ tokens,
      token.column.toNat + Text.unitCount token.text.toList < 2 ^ 32)
    (h : encode policy tokens = .ok stream) :
    List.Forall₂ (fun entry row => entry.Describes row.1 row.2) stream.decode
      (Token.emitted policy tokens) := by
  obtain ⟨hfollows, rfl⟩ := encode_eq_ok_iff.1 h
  have hrows : tokens.filterMap (Token.entry? policy) =
      (Token.emitted policy tokens).map fun row =>
        ⟨row.1.line, row.1.column, row.1.length, row.2.index, row.1.modifiers.bits⟩ := by
    rw [Token.emitted, List.map_filterMap]
    refine List.filterMap_congr fun token _ => ?_
    rw [Token.entry?, Option.map_map]
    rfl
  rw [decode_ofEntries (Token.ordered_entries policy hfollows), hrows, List.forall₂_map_left_iff,
    List.forall₂_same]
  rintro ⟨token, category⟩ hrow
  obtain ⟨emitted, hmem, hresolved⟩ := List.mem_filterMap.1 hrow
  obtain ⟨found, -, heq⟩ := Option.map_eq_some_iff.1 hresolved
  obtain ⟨rfl, rfl⟩ := Prod.mk.inj heq
  exact ⟨rfl, rfl, (Token.toNat_length_of_lt (hfits _ hmem)).symm, rfl, rfl⟩

theorem encode_omit {tokens : List Token} {stream : TokenStream}
    (h : encode .omit tokens = .ok stream) (policy : Policy) :
    encode policy (tokens.filter (·.category.isSome)) = .ok stream := by
  obtain ⟨hfollows, hstream⟩ := encode_eq_ok_iff.1 h
  refine encode_eq_ok_iff.2 ⟨hfollows.sublist List.filter_sublist, ?_⟩
  rw [← hstream, List.filterMap_filter]
  refine congrArg ofEntries (List.filterMap_congr fun token _ => ?_)
  unfold Token.entry?
  cases token.category <;> rfl

theorem encode_fallback {category : Category} {tokens : List Token} {stream : TokenStream}
    (h : encode (.fallback category) tokens = .ok stream) (policy : Policy) :
    encode policy (tokens.map (Token.fill category)) = .ok stream := by
  obtain ⟨hfollows, hstream⟩ := encode_eq_ok_iff.1 h
  refine encode_eq_ok_iff.2 ⟨List.pairwise_map.2 hfollows, ?_⟩
  rw [← hstream, List.filterMap_map]
  refine congrArg ofEntries (List.filterMap_congr fun token _ => ?_)
  unfold Function.comp Token.entry? Token.fill
  cases token.category <;> rfl

/-- Tokens that are encoded are decoded to what the policy lets through; leaving tokens out is the
same as not having them, and falling back to a category the same as having it. A stream whose
running lines and columns fit is made of its entries again, and no other such stream has the same
entries. If the entries are in order, without overlap, and their numbers are in the legend, there
are tokens with these entries, and all such tokens are encoded to the stream. -/
theorem encode_decode_inverse :
    (∀ {policy : Policy} {tokens : List Token} {stream : TokenStream},
      (∀ token ∈ tokens, token.column.toNat + Text.unitCount token.text.toList < 2 ^ 32) →
      encode policy tokens = .ok stream →
      List.Forall₂ (fun entry row => entry.Describes row.1 row.2) stream.decode
          (Token.emitted policy tokens) ∧
        (policy = .omit → ∀ other,
          encode other (tokens.filter (·.category.isSome)) = .ok stream) ∧
        ∀ category, policy = .fallback category → ∀ other,
          encode other (tokens.map (Token.fill category)) = .ok stream) ∧
    ∀ {stream : TokenStream}, SumsFit 0 0 stream →
      ofEntries stream.decode = stream ∧
        (∀ {other : TokenStream}, SumsFit 0 0 other → other.decode = stream.decode →
          other = stream) ∧
        (stream.decode.Pairwise Entry.Precedes →
          (∀ entry ∈ stream.decode, entry.category ≤ 10 ∧ entry.modifiers ≤ 7) →
          (∃ tokens, Entry.DescribeAll stream.decode tokens ∧
            ∀ token ∈ tokens, token.modifiers.Proper) ∧
          ∀ (policy : Policy) {tokens : List Token},
            Entry.DescribeAll stream.decode tokens → encode policy tokens = .ok stream) := by
  constructor
  · intro policy tokens stream hfits h
    refine ⟨describes_decode hfits h, ?_, ?_⟩
    · rintro rfl other
      exact encode_omit h other
    · rintro category rfl other
      exact encode_fallback h other
  · intro stream hsums
    refine ⟨ofEntries_decode hsums, ?_, ?_⟩
    · intro other hother hdecode
      rw [← ofEntries_decode hother, hdecode, ofEntries_decode hsums]
    · intro hordered hlegend
      refine ⟨Entry.exists_describeAll hlegend, ?_⟩
      intro policy tokens hall
      exact encode_of_describeAll hsums hordered hall policy

/-- A word that is left out, a character of two units, a modifier and an empty line. -/
theorem encode_decode_inverse_omitted_word :
    let tokens : List Token :=
      [⟨0, 0, "cir", some .namespaceName, {}⟩, ⟨0, 4, "x", none, {}⟩,
        ⟨0, 6, "\"😀\"", some .string, ⟨2⟩⟩, ⟨2, 1, "%0", some .variableName, {}⟩]
    let stream : TokenStream := [⟨0, 0, 3, 8, 0⟩, ⟨0, 6, 4, 9, 2⟩, ⟨2, 1, 2, 2, 0⟩]
    (∀ token ∈ tokens, token.column.toNat + Text.unitCount token.text.toList < 2 ^ 32) ∧
      encode .omit tokens = .ok stream ∧
      List.Forall₂ (fun entry row => entry.Describes row.1 row.2) stream.decode
        (Token.emitted .omit tokens) ∧
      encode .omit (tokens.filter (·.category.isSome)) = .ok stream ∧
      SumsFit 0 0 stream ∧ ofEntries stream.decode = stream ∧
      stream.decode.Pairwise Entry.Precedes ∧
      ∃ made, Entry.DescribeAll stream.decode made ∧ encode .omit made = .ok stream := by
  intro tokens stream
  have hfits : ∀ token ∈ tokens,
      token.column.toNat + Text.unitCount token.text.toList < 2 ^ 32 := by
    decide
  have hencode : encode .omit tokens = .ok stream := by rfl
  have hsums : SumsFit 0 0 stream := by decide
  have hordered : stream.decode.Pairwise Entry.Precedes := by decide
  obtain ⟨hdescribes, homit, -⟩ := encode_decode_inverse.1 hfits hencode
  obtain ⟨hentries, -, hmade⟩ := encode_decode_inverse.2 hsums
  obtain ⟨⟨made, hall, -⟩, hagain⟩ := hmade hordered (by decide)
  exact ⟨hfits, hencode, hdescribes, homit rfl .omit, hsums, hentries, hordered, made, hall,
    hagain .omit hall⟩

end TokenStream

end CirHighlight
