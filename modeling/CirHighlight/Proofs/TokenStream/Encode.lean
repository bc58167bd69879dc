import CirHighlight.TokenStream.Encode
import CirHighlight.Proofs.Text.Width

namespace CirHighlight

namespace Category

theorem index_lt_length_legend (category : Category) : category.index.toNat < legend.length := by
  obtain ⟨hlt, -⟩ := List.getElem?_eq_some_iff.1 (ofIndex?_index category)
  exact hlt

end Category

namespace Entry

def From (line column : UInt32) (entry : Entry) : Prop :=
  line < entry.line ∨ (line = entry.line ∧ column ≤ entry.column)

theorem from_zero (entry : Entry) : From 0 0 entry := by
  by_cases hline : entry.line = 0
  · exact .inr ⟨hline.symm, UInt32.zero_le⟩
  · exact .inl (UInt32.pos_iff_ne_zero.2 hline)

def Ordered (entries : List Entry) : Prop :=
  entries.Pairwise fun first second => From first.line first.column second

end Entry

namespace TokenStream

theorem saturatingAdd_sub {a b : UInt32} (h : a ≤ b) : saturatingAdd a (b - a) = b := by
  have hsub : (b - a).toNat = b.toNat - a.toNat := UInt32.toNat_sub_of_le b a h
  have hle := UInt32.le_iff_toNat_le.1 h
  have hlt := b.toNat_lt
  have hfits : a.toNat + (b - a).toNat < UInt32.size := by
    rw [hsub, UInt32.size]
    omega
  rw [saturatingAdd, if_pos hfits, UInt32.add_comm, UInt32.sub_add_cancel]

theorem sub_ne_zero_of_lt {a b : UInt32} (h : a < b) : b - a ≠ 0 := by
  intro hzero
  have hsame := UInt32.sub_add_cancel b a
  rw [hzero, UInt32.zero_add] at hsame
  exact UInt32.ne_of_lt h hsame

theorem decodeFrom_ofEntriesFrom {line column : UInt32} {entries : List Entry}
    (hfrom : ∀ entry ∈ entries, entry.From line column) (hordered : Entry.Ordered entries) :
    decodeFrom line column (ofEntriesFrom line column entries) = entries := by
  induction entries generalizing line column with
  | nil => rfl
  | cons entry rest ih =>
    obtain ⟨hafter, hrest⟩ := List.pairwise_cons.1 hordered
    rw [ofEntriesFrom, decodeFrom]
    rcases hfrom entry List.mem_cons_self with hlt | ⟨rfl, hle⟩
    · have hline : saturatingAdd line (entry.line - line) = entry.line :=
        saturatingAdd_sub (UInt32.le_of_lt hlt)
      have hne := sub_ne_zero_of_lt hlt
      simp only [hline, if_neg hne, ih hafter hrest]
    · have hline : saturatingAdd entry.line (entry.line - entry.line) = entry.line :=
        saturatingAdd_sub (UInt32.le_refl _)
      simp only [UInt32.sub_self, if_true] at hline ⊢
      simp only [hline, saturatingAdd_sub hle, ih hafter hrest]

theorem decode_ofEntries {entries : List Entry} (h : Entry.Ordered entries) :
    (ofEntries entries).decode = entries :=
  decodeFrom_ofEntriesFrom (fun entry _ => entry.from_zero) h

theorem map_category_decodeFrom (line column : UInt32) (stream : TokenStream) :
    (decodeFrom line column stream).map (·.category) = stream.map (·.category) := by
  induction stream generalizing line column with
  | nil => rfl
  | cons token rest ih => rw [decodeFrom, List.map_cons, List.map_cons, ih]

theorem length_decode (stream : TokenStream) : stream.decode.length = stream.length := by
  have h := congrArg List.length (map_category_decodeFrom 0 0 stream)
  rwa [List.length_map, List.length_map] at h

end TokenStream

namespace Token

theorem toNat_length_of_lt {token : Token}
    (hfits : token.column.toNat + Text.unitCount token.text.toList < 2 ^ 32) :
    token.length.toNat = Text.unitCount token.text.toList :=
  Text.toNat_width_of_lt (Nat.lt_of_le_of_lt (Nat.le_add_left _ _) hfits)

theorem disorderAfter?_eq_none {previous : Token} {tokens : List Token} (index : Nat)
    (h : (previous :: tokens).Pairwise fun first second => second.follows first = true) :
    disorderAfter? previous index tokens = none := by
  induction tokens generalizing previous index with
  | nil => rfl
  | cons token rest ih =>
    obtain ⟨hfirst, hrest⟩ := List.pairwise_cons.1 h
    rw [disorderAfter?, if_pos (hfirst token List.mem_cons_self)]
    exact ih (index + 1) hrest

theorem disorder?_eq_none {tokens : List Token}
    (h : tokens.Pairwise fun first second => second.follows first = true) :
    disorder? tokens = none := by
  cases tokens with
  | nil => rfl
  | cons token rest => exact disorderAfter?_eq_none 1 h

theorem follows_iff {token previous : Token} :
    token.follows previous = true ↔
      previous.line < token.line ∨
        (previous.line = token.line ∧ previous.column < token.column ∧
          previous.endColumn ≤ token.column) := by
  simp only [follows, Bool.or_eq_true, Bool.and_eq_true, decide_eq_true_eq, and_assoc]

theorem follows_trans {first second third : Token} (hsecond : second.follows first = true)
    (hthird : third.follows second = true) : third.follows first = true := by
  rw [follows_iff] at *
  rcases hsecond with hline | ⟨hline, hcolumn, hend⟩
  · rcases hthird with hnext | ⟨hnext, -, -⟩
    · exact .inl (UInt32.lt_trans hline hnext)
    · exact .inl (hnext ▸ hline)
  · rcases hthird with hnext | ⟨hnext, hlater, -⟩
    · exact .inl (hline ▸ hnext)
    · exact .inr ⟨hline.trans hnext, UInt32.lt_trans hcolumn hlater,
        UInt32.le_trans hend (UInt32.le_of_lt hlater)⟩

theorem pairwise_of_disorderAfter?_eq_none {previous : Token} {tokens : List Token} {index : Nat}
    (h : disorderAfter? previous index tokens = none) :
    (previous :: tokens).Pairwise fun first second => second.follows first = true := by
  induction tokens generalizing previous index with
  | nil => exact List.pairwise_singleton _ _
  | cons token rest ih =>
    rw [disorderAfter?] at h
    split at h
    · next hfollows =>
      -- Only neighbours are compared; the others follow each other by transitivity.
      have hrest := ih h
      refine List.pairwise_cons.2 ⟨?_, hrest⟩
      intro later hlater
      rcases List.mem_cons.1 hlater with rfl | hlater
      · exact hfollows
      · exact follows_trans hfollows ((List.pairwise_cons.1 hrest).1 later hlater)
    · cases h

theorem disorder?_eq_none_iff {tokens : List Token} :
    disorder? tokens = none ↔
      tokens.Pairwise fun first second => second.follows first = true := by
  refine ⟨?_, disorder?_eq_none⟩
  intro h
  cases tokens with
  | nil => exact .nil
  | cons token rest => exact pairwise_of_disorderAfter?_eq_none h

theorem ordered_entries {tokens : List Token} (policy : Policy)
    (h : tokens.Pairwise fun first second => second.follows first = true) :
    Entry.Ordered (tokens.filterMap (Token.entry? policy)) := by
  refine List.pairwise_filterMap.2 (h.imp ?_)
  intro first second hfollows entry hentry other hother
  obtain ⟨-, -, rfl⟩ := Option.map_eq_some_iff.1 hentry
  obtain ⟨-, -, rfl⟩ := Option.map_eq_some_iff.1 hother
  rcases follows_iff.1 hfollows with hline | ⟨hline, hcolumn, -⟩
  · exact .inl hline
  · exact .inr ⟨hline, UInt32.le_of_lt hcolumn⟩

end Token

namespace TokenStream

theorem encode_eq_ok_iff {policy : Policy} {tokens : List Token} {stream : TokenStream} :
    encode policy tokens = .ok stream ↔
      (tokens.Pairwise fun first second => second.follows first = true) ∧
        ofEntries (tokens.filterMap (Token.entry? policy)) = stream := by
  rw [← Token.disorder?_eq_none_iff, encode]
  cases Token.disorder? tokens with
  | none => simp
  | some disorder => simp

theorem exists_encode_eq_ok {tokens : List Token} (policy : Policy)
    (h : tokens.Pairwise fun first second => second.follows first = true) :
    ∃ stream, encode policy tokens = .ok stream ∧
      stream.decode = tokens.filterMap (Token.entry? policy) := by
  refine ⟨ofEntries (tokens.filterMap (Token.entry? policy)), ?_, ?_⟩
  · rw [encode, Token.disorder?_eq_none h]
  · exact decode_ofEntries (Token.ordered_entries policy h)

end TokenStream

end CirHighlight
