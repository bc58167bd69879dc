import CirHighlight.Proofs.Lexer.Boundary
import CirHighlight.Proofs.Lexer.Cursor

namespace CirHighlight

namespace Search

def slashByte : UInt8 := 0x2F

/-- A pass of the search for a comment. It goes on after a literal or a byte, and ends with the code
and the comment at two slashes, or with the whole line at its end. -/
def pass (line : String) (index : Nat) : Option (Nat ⊕ String × Option String) :=
  let bytes := line.toUTF8.data.toList
  if index < bytes.length then do
    let byte ← bytes[index]?
    if byte = Literal.quoteByte then
      let stop ← Literal.endByte? line index
      return .inl stop
    else if byte = slashByte ∧ bytes[index + 1]? = some slashByte then
      let code ← Text.slice? line 0 index
      let comment ← Text.slice? line index line.utf8ByteSize
      return .inr (code, some comment)
    else return .inl (index + 1)
  else some (.inr (line, none))

def split (line : String) : String × Option String :=
  (String.ofList (Comment.code line.toList), (Comment.comment? line.toList).map String.ofList)

theorem head?_bytes_eq_slash {text : List Char} :
    (Text.bytes text).head? = some slashByte ↔ text.head? = some '/' := by
  cases text with
  | nil => simp
  | cons c rest =>
    rw [Text.bytes_cons]
    rcases Text.utf8EncodeChar_cases c with
      ⟨-, byte, heq, hcode⟩ | ⟨hsize, first, more, heq, hlarge⟩
    · rw [heq, List.singleton_append, List.head?_cons, List.head?_cons, Option.some.injEq,
        Option.some.injEq]
      exact Text.byte_eq_iff hcode slashByte
    · rw [heq, List.cons_append, List.head?_cons, List.head?_cons, Option.some.injEq,
        Option.some.injEq]
      constructor
      · rintro rfl
        exact absurd (hlarge _ List.mem_cons_self) (by decide)
      · rintro rfl
        exact (hsize rfl).elim

theorem pass_of_drop {line : String} {index : Nat} {byte : UInt8} {rest : List UInt8}
    (h : (Text.bytes line.toList).drop index = byte :: rest) :
    pass line index =
      if byte = Literal.quoteByte then (Literal.endByte? line index).map .inl
      else if byte = slashByte ∧ rest.head? = some slashByte then
        (Text.slice? line 0 index).bind fun code =>
          (Text.slice? line index line.utf8ByteSize).map fun comment => .inr (code, some comment)
      else some (.inl (index + 1)) := by
  have hlt : index < (Text.bytes line.toList).length := by
    by_contra hge
    rw [List.drop_eq_nil_of_le (Nat.not_lt.1 hge)] at h
    cases h
  have hbyte : (Text.bytes line.toList)[index]? = some byte := by
    rw [← Nat.add_zero index, ← List.getElem?_drop, h]
    rfl
  have hnext : (Text.bytes line.toList)[index + 1]? = rest.head? := by
    rw [← List.getElem?_drop, h, List.getElem?_cons_succ, List.head?_eq_getElem?]
  simp only [pass, Text.toList_toUTF8, if_pos hlt, hbyte, hnext, Option.bind_eq_bind,
    Option.bind_some, Option.pure_def]
  split
  · cases Literal.endByte? line index <;> rfl
  · split
    · cases Text.slice? line 0 index with
      | none => rfl
      | some code => cases Text.slice? line index line.utf8ByteSize <;> rfl
    · rfl

theorem pass_of_le {line : String} {index : Nat} {byte : UInt8} {rest : List UInt8}
    (h : (Text.bytes line.toList).drop index = byte :: rest) (hlarge : 0x80 ≤ byte) :
    pass line index = some (.inl (index + 1)) := by
  have hne {other : UInt8} (hother : ¬ 0x80 ≤ other) : byte ≠ other := by
    rintro rfl
    exact hother hlarge
  rw [pass_of_drop h, if_neg (hne (by decide)), if_neg fun hboth => hne (by decide) hboth.1]

section Place

variable {line : String} {front after : List Char} (hline : line.toList = front ++ after)
include hline

theorem drop_bytes : (Text.bytes line.toList).drop (Text.byteSize front) = Text.bytes after := by
  rw [hline, Text.bytes_append]
  exact List.drop_left' (Text.length_bytes front)

theorem split_of_codeLength (hcode : Comment.codeLength .code line.toList = front.length) :
    split line =
      (String.ofList front, if after = [] then none else some (String.ofList after)) := by
  rw [split, Comment.code, Comment.comment?, hcode, hline, List.take_left, List.drop_left]
  cases after <;> rfl

theorem pass_end (hafter : after = []) :
    pass line (Text.byteSize front) = some (.inr (line, none)) := by
  have hend : ¬ Text.byteSize front < (Text.bytes line.toList).length := by
    rw [hline, hafter, List.append_nil, Text.length_bytes]
    exact Nat.lt_irrefl _
  simp only [pass, Text.toList_toUTF8, if_neg hend]

theorem pass_slashes (hafter : Comment.Starts after) :
    pass line (Text.byteSize front) =
      some (.inr (String.ofList front, some (String.ofList after))) := by
  obtain ⟨rest, rfl⟩ := hafter
  have hdrop : (Text.bytes line.toList).drop (Text.byteSize front) =
      slashByte :: Text.bytes ('/' :: rest) := drop_bytes hline
  have hquote : slashByte ≠ Literal.quoteByte := by decide
  rw [pass_of_drop hdrop, if_neg hquote, if_pos ⟨rfl, head?_bytes_eq_slash.2 rfl⟩,
    Text.slice?_from_start hline, Text.slice?_to_end hline]
  rfl

theorem pass_literal {rest : List Char} (hafter : after = '"' :: rest) :
    pass line (Text.byteSize front) =
      some (.inl (Text.byteSize (front ++ '"' :: rest.take (Literal.closingChars 0 rest)))) := by
  subst hafter
  have hdrop : (Text.bytes line.toList).drop (Text.byteSize front) =
      Literal.quoteByte :: Text.bytes rest := drop_bytes hline
  rw [pass_of_drop hdrop, if_pos rfl, Literal.endByte?_append hline]
  rfl

theorem pass_char {c : Char} {rest : List Char} (hafter : after = c :: rest) (hquote : c ≠ '"')
    (hnot : ¬ Comment.Starts (c :: rest)) :
    pass line (Text.byteSize front) = some (.inl (Text.byteSize front + 1)) := by
  have hdrop := drop_bytes hline
  rw [hafter, Text.bytes_cons] at hdrop
  rw [Comment.starts_cons_iff] at hnot
  rcases Text.utf8EncodeChar_cases c with
    ⟨-, byte, heq, hcode⟩ | ⟨-, first, more, heq, hlarge⟩
  · rw [heq, List.singleton_append] at hdrop
    rw [pass_of_drop hdrop, if_neg (mt (Text.byte_eq_iff hcode Literal.quoteByte).1 hquote), if_neg]
    rintro ⟨hslash, hhead⟩
    exact hnot ⟨(Text.byte_eq_iff hcode slashByte).1 hslash, head?_bytes_eq_slash.1 hhead⟩
  · rw [heq, List.cons_append] at hdrop
    exact pass_of_le hdrop (hlarge first List.mem_cons_self)

end Place

/-- The search stands behind a part of the line, or inside the last character of that part, of which
some bytes are still to come. What is left is code as far as the code of the line reaches. -/
def Searching (line : String) (index : Nat) : Prop :=
  ∃ front after pending, line.toList = front ++ after ∧
    index + pending.length = Text.byteSize front ∧
    (Text.bytes line.toList).drop index = pending ++ Text.bytes after ∧
    (∀ byte ∈ pending, 0x80 ≤ byte) ∧
    Comment.codeLength .code line.toList = front.length + Comment.codeLength .code after

variable {line : String} {index : Nat}

theorem Searching.le_size (h : Searching line index) : index ≤ line.utf8ByteSize := by
  obtain ⟨front, after, pending, hline, hindex, -⟩ := h
  rw [Text.utf8ByteSize_eq, hline, Text.byteSize_append]
  omega

theorem Searching.behind {front after : List Char} (hline : line.toList = front ++ after)
    (hcode : Comment.codeLength .code line.toList =
      front.length + Comment.codeLength .code after) :
    Searching line (Text.byteSize front) :=
  ⟨front, after, [], hline, rfl, drop_bytes hline, by simp, hcode⟩

theorem Searching.inside {front rest : List Char} {c : Char}
    (hline : line.toList = front ++ c :: rest)
    (hcode : Comment.codeLength .code line.toList =
      front.length + Comment.codeLength .code (c :: rest))
    (hquote : c ≠ '"') (hnot : ¬ Comment.Starts (c :: rest)) :
    Searching line (Text.byteSize front + 1) := by
  have hdrop := drop_bytes hline
  have hsize := String.length_utf8EncodeChar c
  obtain ⟨byte, more, heq, hmore⟩ : ∃ byte more, String.utf8EncodeChar c = byte :: more ∧
      ∀ other ∈ more, 0x80 ≤ other := by
    rcases Text.utf8EncodeChar_cases c with ⟨-, byte, heq, -⟩ | ⟨-, first, more, heq, hlarge⟩
    · exact ⟨byte, [], heq, by simp⟩
    · exact ⟨first, more, heq, (List.forall_mem_cons.1 hlarge).2⟩
  rw [Text.bytes_cons, heq, List.cons_append] at hdrop
  rw [heq, List.length_cons] at hsize
  refine ⟨front ++ [c], rest, more, ?_, ?_, ?_, hmore, ?_⟩
  · rw [hline, List.append_assoc, List.singleton_append]
  · rw [Text.byteSize_append, Text.byteSize_cons, ← hsize, Text.byteSize_nil]
    omega
  · rw [← List.tail_drop, hdrop]
    rfl
  · rw [hcode, Comment.codeLength, if_neg hquote, if_neg (mt Comment.starts_cons_iff.2 hnot),
      List.length_append, List.length_singleton]
    omega

theorem Searching.behind_literal {front rest : List Char}
    (hline : line.toList = front ++ '"' :: rest)
    (hcode : Comment.codeLength .code line.toList =
      front.length + Comment.codeLength .code ('"' :: rest)) :
    Searching line (Text.byteSize (front ++ '"' :: rest.take (Literal.closingChars 0 rest))) := by
  have hparts : line.toList = (front ++ '"' :: rest.take (Literal.closingChars 0 rest)) ++
      rest.drop (Literal.closingChars 0 rest) := by
    rw [List.append_assoc, List.cons_append, List.take_append_drop, hline]
  apply Searching.behind hparts
  rw [hcode, Comment.codeLength, if_pos rfl, Comment.codeLength_literal, List.length_append,
    List.length_cons, List.length_take_of_le (Literal.closingChars_le 0 rest)]
  omega

/-- A pass ends the search between two characters, with the code and the comment of the line, or
leads further on. -/
theorem Searching.pass_cases (h : Searching line index) :
    (Text.IsBoundary line index ∧ pass line index = some (.inr (split line))) ∨
      ∃ next, pass line index = some (.inl next) ∧ Searching line next ∧ index < next := by
  obtain ⟨front, after, pending, hline, hindex, hdrop, hpending, hcode⟩ := h
  cases pending with
  | cons byte pending =>
    -- Inside a character the search goes on by one byte, whatever that byte is.
    obtain ⟨hlarge, hpending⟩ := List.forall_mem_cons.1 hpending
    refine .inr ⟨index + 1, pass_of_le hdrop hlarge, ?_, Nat.lt_succ_self index⟩
    refine ⟨front, after, pending, hline, ?_, ?_, hpending, hcode⟩
    · rw [List.length_cons] at hindex
      omega
    · rw [← List.tail_drop, hdrop]
      rfl
  | nil =>
    obtain rfl : index = Text.byteSize front := hindex
    cases after with
    | nil =>
      refine .inl ⟨Text.isBoundary_of_append hline, ?_⟩
      rw [pass_end hline rfl, split_of_codeLength hline hcode, if_pos rfl]
      rw [List.append_nil] at hline
      rw [← hline, String.ofList_toList]
    | cons c rest =>
      by_cases hstarts : Comment.Starts (c :: rest)
      · refine .inl ⟨Text.isBoundary_of_append hline, ?_⟩
        rw [Comment.codeLength_of_starts hstarts] at hcode
        rw [pass_slashes hline hstarts, split_of_codeLength hline hcode,
          if_neg (List.cons_ne_nil c rest)]
      · by_cases hquote : c = '"'
        · subst hquote
          refine .inr ⟨_, pass_literal hline rfl, .behind_literal hline hcode, ?_⟩
          rw [Text.byteSize_append]
          exact Nat.lt_add_of_pos_right (Text.byteSize_pos_iff.2 (List.cons_ne_nil _ _))
        · exact .inr ⟨_, pass_char hline rfl hquote hstarts, .inside hline hcode hquote hstarts,
            Nat.lt_succ_self _⟩

theorem advances (line : String) :
    Loop.Advances (pass line) id line.utf8ByteSize (split line) (Searching line) := by
  intro index hsearching
  rcases hsearching.pass_cases with ⟨-, hends⟩ | ⟨next, hleads, hnext, hlt⟩
  · exact .inl hends
  · exact .inr ⟨next, hleads, hnext, hlt, hnext.le_size⟩

theorem slices_of_pass {code comment : String}
    (h : pass line index = some (.inr (code, some comment))) :
    Text.slice? line 0 index = some code ∧
      Text.slice? line index line.utf8ByteSize = some comment := by
  simp only [pass] at h
  split at h
  · obtain ⟨byte, -, h⟩ := Option.bind_eq_some_iff.1 h
    split at h
    · obtain ⟨stop, -, h⟩ := Option.bind_eq_some_iff.1 h
      cases h
    · split at h
      · obtain ⟨found, hcode, h⟩ := Option.bind_eq_some_iff.1 h
        obtain ⟨rest, hcomment, h⟩ := Option.bind_eq_some_iff.1 h
        cases h
        exact ⟨hcode, hcomment⟩
      · cases h
  · cases h

/-- What is found where the search stands. It is in the line, perhaps inside a character, and a pass
ends the search or leads further on. Where it ends with a comment it is between two characters. -/
structure Sound (line : String) (index : Nat) : Prop where
  le_size : index ≤ line.utf8ByteSize
  passes : pass line index = some (.inr (split line)) ∨
    ∃ next, pass line index = some (.inl next) ∧ index < next ∧ next ≤ line.utf8ByteSize
  boundary : ∀ code comment, pass line index = some (.inr (code, some comment)) →
    Text.IsBoundary line index ∧ Text.slice? line 0 index = some code ∧
      Text.slice? line index line.utf8ByteSize = some comment

theorem Searching.sound (h : Searching line index) : Sound line index := by
  refine ⟨h.le_size, ?_, ?_⟩
  · rcases h.pass_cases with ⟨-, hends⟩ | ⟨next, hleads, hnext, hlt⟩
    · exact .inl hends
    · exact .inr ⟨next, hleads, hlt, hnext.le_size⟩
  · intro code comment hpass
    refine ⟨?_, slices_of_pass hpass⟩
    rcases h.pass_cases with ⟨hboundary, -⟩ | ⟨next, hleads, -⟩
    · exact hboundary
    · cases hleads.symm.trans hpass

end Search

namespace Lexer

/-- Wherever the scanner of a line comes to, no slice fails, and so the scanner ends, with the
tokens of the line. The same holds of the search for a comment, which ends with the code and the
comment. -/
theorem loops_advance_between_characters (lexicon : Lexicon) (number : UInt32) (line : String) :
    (∀ cursor, Loop.Reaches (Cursor.pass lexicon number line) {} cursor →
      cursor.Sound lexicon number line) ∧
    Loop.Returns (Cursor.pass lexicon number line) {}
      (Lexeme.scanLine lexicon number line.toList) ∧
    (∀ index, Loop.Reaches (Search.pass line) 0 index → Search.Sound line index) ∧
    Loop.Returns (Search.pass line) 0 (Search.split line) := by
  have hreading : Cursor.Reading lexicon number line {} := ⟨[], line.toList, rfl, rfl, rfl⟩
  have hline : line.toList = [] ++ line.toList := rfl
  have hsearching : Search.Searching line 0 := .behind hline (Nat.zero_add _).symm
  have hscan := Cursor.advances lexicon number line
  have hsearch := Search.advances line
  refine ⟨?_, hscan.returns hreading, ?_, hsearch.returns hsearching⟩
  · intro cursor hreaches
    exact (hscan.of_reaches hreading hreaches).sound
  · intro index hreaches
    exact (hsearch.of_reaches hsearching hreaches).sound

/-- The search comes to the inside of the first character and ends before the slashes behind the
literal, and the scanner comes to an operation. -/
theorem loops_advance_between_characters_wide :
    let line := "é cir.f \"é//\" // c"
    Loop.Reaches (Search.pass line) 0 1 ∧ ¬ Text.IsBoundary line 1 ∧ Search.Sound line 1 ∧
      Loop.Returns (Search.pass line) 0 ("é cir.f \"é//\" ", some "// c") ∧
      Loop.Reaches (Cursor.pass .builtin 7 line) {} ⟨3, 2, []⟩ ∧
      Cursor.Sound .builtin 7 line ⟨3, 2, []⟩ ∧
      Loop.Returns (Cursor.pass .builtin 7 line) {}
        [⟨7, 2, "cir", some .namespaceName, .empty⟩, ⟨7, 6, "f", some .function, .empty⟩,
          ⟨7, 8, "\"é//\"", some .string, .empty⟩, ⟨7, 17, "c", none, .empty⟩] := by
  intro line
  obtain ⟨hcursor, hscan, hindex, hsearch⟩ := loops_advance_between_characters .builtin 7 line
  have hinside : Loop.Reaches (Search.pass line) 0 1 := by
    have hfirst : Search.pass line 0 = some (.inl 1) := by decide +kernel
    exact .single hfirst
  have hoperation : Loop.Reaches (Cursor.pass .builtin 7 line) {} ⟨3, 2, []⟩ := by
    have hfirst : Cursor.pass .builtin 7 line {} = some (.inl ⟨2, 1, []⟩) := by decide +kernel
    have hsecond : Cursor.pass .builtin 7 line ⟨2, 1, []⟩ = some (.inl ⟨3, 2, []⟩) := by
      decide +kernel
    exact .tail (.single hfirst) hsecond
  have hsplit : Search.split line = ("é cir.f \"é//\" ", some "// c") := by decide
  have htokens : Lexeme.scanLine .builtin 7 line.toList =
      [⟨7, 2, "cir", some .namespaceName, .empty⟩, ⟨7, 6, "f", some .function, .empty⟩,
        ⟨7, 8, "\"é//\"", some .string, .empty⟩, ⟨7, 17, "c", none, .empty⟩] := by
    decide +kernel
  rw [hsplit] at hsearch
  rw [htokens] at hscan
  exact ⟨hinside, by decide +kernel, hindex 1 hinside, hsearch, hoperation,
    hcursor _ hoperation, hscan⟩

end Lexer

end CirHighlight
