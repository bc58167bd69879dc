import CirHighlight.Proofs.Lexeme.Grammar
import CirHighlight.Proofs.Text.Bytes

/-!
The rules on the bytes of a text. They look at bytes, tell how many of them they read and cut the
text at byte indices, which fails out of the text and inside a character. It never does: each rule
has an answer, and that is the size of what the rule for characters reads.
-/

namespace CirHighlight

/-- What a rule reads at the start of a text, told by its size in bytes. -/
inductive Extent where
  | single (size : Nat) (category : Option Category)
  | operation (size : Nat)
deriving DecidableEq

def Extent.size : Extent → Nat
  | .single size _ => size
  | .operation size => size

def Lexeme.extent : Lexeme → Extent
  | .gap c => .single c.utf8Size none
  | .single text category => .single (Text.byteSize text) category
  | .operation name => .operation (Text.byteSize (Lexeme.operation name).chars)

@[simp]
theorem Lexeme.size_extent (piece : Lexeme) : piece.extent.size = Text.byteSize piece.chars := by
  cases piece with
  | gap c => rfl
  | single text category => rfl
  | operation name => rfl

/-- A rule on the bytes of a text. There is no answer where a slice or an index fails. -/
abbrev ByteRule := Lexicon → String → Option (Option Extent)

namespace ByteRule

/-- How many bytes at the start of a text pass a test of characters. -/
def sizeWhile (test : Char → Bool) (text : String) : Nat :=
  (text.toUTF8.data.toList.takeWhile fun byte => test (Char.ofUInt8 byte)).length

def wordSize (text : String) : Nat :=
  sizeWhile Rule.isWordChar text

def strip? (start : List Char) (text : String) : Option String :=
  (Rule.strip? start text.toList).map String.ofList

def qualifiedSize? (qualifier : List Char) (text : String) : Option Nat :=
  match strip? qualifier text with
  | none => none
  | some rest =>
    if 0 < wordSize rest then some (Text.byteSize qualifier + wordSize rest) else none

/-- The size of the word at the start of a text, together with the first of the qualifiers that
stands before it. -/
def qualifiedSize (qualifiers : List (List Char)) (text : String) : Nat :=
  (qualifiers.findSome? (qualifiedSize? · text)).getD (wordSize text)

/-- A mark of one byte and a body after it, unless the body is empty. -/
def marked (bodySize : Nat) (category : Category) : Option Extent :=
  if 0 < bodySize then some (.single (1 + bodySize) (some category)) else none

def type : ByteRule := fun _ text =>
  match strip? ['!'] text with
  | none => some none
  | some body =>
    some (marked (qualifiedSize [Rule.cirQualifier, Rule.llvmQualifier] body) .typeName)

def string : ByteRule := fun _ text =>
  if text.toList.head? = some '"' then do
    let size ← Literal.endByte? text 0
    return some (.single size (some .string))
  else some none

def number : ByteRule := fun _ text =>
  let size := sizeWhile Char.isDigit text
  some (if 0 < size then some (.single size (some .number)) else none)

def operation : ByteRule := fun _ text =>
  match strip? Rule.cirQualifier text with
  | none => some none
  | some rest =>
    let size := wordSize rest
    some (if 0 < size then some (.operation (Text.byteSize Rule.cirQualifier + size)) else none)

def sigil : ByteRule := fun _ text =>
  match text.toUTF8.data.toList.head? with
  | none => some none
  | some byte =>
    match Rule.sigilCategory? (Char.ofUInt8 byte) with
    | none => some none
    | some category => do
      let body ← Text.slice? text 1 text.utf8ByteSize
      return marked (qualifiedSize [Rule.cirQualifier] body) category

def bareWord : ByteRule := fun lexicon text =>
  let size := wordSize text
  if 0 < size then do
    let word ← Text.slice? text 0 size
    return some (.single size (lexicon.classify word))
  else some none

def all : List ByteRule :=
  [type, string, number, operation, sigil, bareWord]

end ByteRule

namespace Literal

theorem closing_append {α : Type} [DecidableEq α] {quote escape : α} {x : α} {more : List α}
    (h : ∀ y ∈ x :: more, y ≠ quote ∧ y ≠ escape) (run : Nat) (rest : List α) :
    closing quote escape run (x :: more ++ rest) =
      (x :: more).length + closing quote escape 0 rest := by
  induction more generalizing x run with
  | nil =>
    obtain ⟨⟨hquote, hescape⟩, -⟩ := List.forall_mem_cons.1 h
    rw [List.singleton_append, closing, if_neg hescape, if_neg fun hclose => hquote hclose.1]
    exact Nat.add_comm _ _
  | cons y more ih =>
    obtain ⟨⟨hquote, hescape⟩, hmore⟩ := List.forall_mem_cons.1 h
    rw [List.cons_append, closing, if_neg hescape, if_neg fun hclose => hquote hclose.1, ih hmore,
      List.length_cons (a := x)]
    omega

theorem closing_bytes (run : Nat) (text : List Char) :
    closing quoteByte escapeByte run (Text.bytes text) =
      Text.byteSize (text.take (closingChars run text)) := by
  unfold closingChars
  induction text generalizing run with
  | nil => rfl
  | cons c text ih =>
    rw [Text.bytes_cons]
    rcases Text.utf8EncodeChar_cases c with
      ⟨hsize, byte, heq, hcode⟩ | ⟨hsize, first, more, heq, hlarge⟩
    · have hescape : byte = escapeByte ↔ c = '\\' := Text.byte_eq_iff hcode escapeByte
      have hquote : byte = quoteByte ↔ c = '"' := Text.byte_eq_iff hcode quoteByte
      rw [heq, List.singleton_append, closing, closing]
      simp only [hescape, hquote]
      split
      · rw [List.take_succ_cons, Text.byteSize_cons, hsize, ih, Nat.add_comm]
      · split
        · rw [List.take_succ_cons, Text.byteSize_cons, hsize]
          rfl
        · rw [List.take_succ_cons, Text.byteSize_cons, hsize, ih, Nat.add_comm]
    · -- All bytes of `c` are passed over together, as `c` is.
      have hplain : ∀ byte ∈ first :: more, byte ≠ quoteByte ∧ byte ≠ escapeByte := by
        intro byte hbyte
        constructor
        · rintro rfl
          exact absurd (hlarge _ hbyte) (by decide)
        · rintro rfl
          exact absurd (hlarge _ hbyte) (by decide)
      have hescape : c ≠ '\\' := by
        rintro rfl
        exact hsize rfl
      have hquote : c ≠ '"' := by
        rintro rfl
        exact hsize rfl
      rw [heq, closing_append hplain, ← heq, String.length_utf8EncodeChar, ih, closing,
        if_neg hescape, if_neg fun hclose => hquote hclose.1, List.take_succ_cons,
        Text.byteSize_cons]

theorem endByte?_append {line : String} {before rest : List Char}
    (h : line.toList = before ++ '"' :: rest) :
    endByte? line (Text.byteSize before) =
      some (Text.byteSize (before ++ '"' :: rest.take (closingChars 0 rest))) := by
  have hlength : Text.byteSize before < (Text.bytes line.toList).length := by
    rw [Text.length_bytes, h, Text.byteSize_append, Text.byteSize_cons]
    exact Nat.lt_add_of_pos_right (Nat.add_pos_left (Char.utf8Size_pos _) _)
  have hrest : (Text.bytes line.toList).drop (Text.byteSize before + 1) = Text.bytes rest := by
    rw [h, ← List.singleton_append, ← List.append_assoc, Text.bytes_append]
    apply List.drop_left'
    rw [Text.length_bytes, Text.byteSize_append]
    rfl
  simp only [endByte?, Text.toList_toUTF8, if_pos hlength, hrest, closing_bytes]
  rw [Text.byteSize_append, Text.byteSize_cons, Nat.add_assoc]
  rfl

end Literal

namespace ByteRule

/-- A rule on bytes answers for every text, with the extent of what a rule for characters reads. -/
def Measures (measured : ByteRule) (rule : Rule) : Prop :=
  ∀ lexicon text, measured lexicon text = some ((rule lexicon text.toList).map Lexeme.extent)

theorem sizeWhile_eq {test : Char → Bool} (htest : ∀ c, test c = true → c.utf8Size = 1)
    (text : String) : sizeWhile test text = Text.byteSize (text.toList.takeWhile test) := by
  rw [sizeWhile, Text.toList_toUTF8, Text.length_takeWhile_bytes htest]

theorem utf8Size_of_le {c last : Char} (hle : c ≤ last) (hlast : last.val ≤ 127) :
    c.utf8Size = 1 :=
  Char.utf8Size_eq_one_iff.2 (UInt32.le_trans hle hlast)

theorem utf8Size_of_isDigit {c : Char} (h : c.isDigit = true) : c.utf8Size = 1 :=
  utf8Size_of_le ((Grammar.digit_iff c).1 h).2 (by decide)

theorem utf8Size_of_isWordChar {c : Char} (h : Rule.isWordChar c = true) : c.utf8Size = 1 := by
  rcases (Grammar.wordChar_iff c).1 h with ⟨-, hle⟩ | ⟨-, hle⟩ | ⟨-, hle⟩ | rfl
  · exact utf8Size_of_le hle (by decide)
  · exact utf8Size_of_le hle (by decide)
  · exact utf8Size_of_le hle (by decide)
  · rfl

theorem wordSize_eq (text : String) : wordSize text = Text.byteSize (Rule.word text.toList) :=
  sizeWhile_eq (fun _ => utf8Size_of_isWordChar) text

theorem qualifiedSize?_eq (qualifier : List Char) (text : String) :
    qualifiedSize? qualifier text =
      (Rule.qualified? qualifier text.toList).map Text.byteSize := by
  unfold qualifiedSize? strip? Rule.qualified?
  cases Rule.strip? qualifier text.toList with
  | none => rfl
  | some rest =>
    simp only [Option.map_some, wordSize_eq, String.toList_ofList, Text.byteSize_pos_iff]
    by_cases hword : Rule.word rest = []
    · simp [hword]
    · simp [hword]

theorem qualifiedSize_eq (qualifiers : List (List Char)) (text : String) :
    qualifiedSize qualifiers text =
      Text.byteSize (Rule.qualifiedWord qualifiers text.toList) := by
  have hfind : qualifiers.findSome? (qualifiedSize? · text) =
      (qualifiers.findSome? (Rule.qualified? · text.toList)).map Text.byteSize := by
    simp only [List.map_findSome?, qualifiedSize?_eq]
    rfl
  rw [qualifiedSize, Rule.qualifiedWord, hfind, wordSize_eq, Option.getD_map]

theorem marked_eq {mark : Char} (hmark : mark.utf8Size = 1) (body : List Char)
    (category : Category) :
    marked (Text.byteSize body) category =
      (Rule.marked mark body category).map Lexeme.extent := by
  unfold marked Rule.marked
  cases body with
  | nil => rfl
  | cons c body =>
    rw [if_pos (Text.byteSize_pos_iff.2 (List.cons_ne_nil c body)), ← hmark]
    rfl

theorem measures_type : Measures type Rule.type := by
  intro lexicon text
  unfold type strip?
  cases htext : text.toList with
  | nil => rfl
  | cons c rest =>
    by_cases hc : c = '!'
    · subst hc
      have hmark : '!'.utf8Size = 1 := rfl
      have hstrip : Rule.strip? ['!'] ('!' :: rest) = some rest := rfl
      simp only [hstrip, Option.map_some, qualifiedSize_eq, String.toList_ofList]
      rw [marked_eq hmark, Rule.type]
    · have hstrip : Rule.strip? ['!'] (c :: rest) = none := by
        rw [Rule.strip?, if_neg]
        intro hprefix
        exact hc (List.cons_prefix_cons.1 (List.isPrefixOf_iff_prefix.1 hprefix)).1.symm
      rw [hstrip, Rule.type_eq_none hc]
      rfl

theorem measures_string : Measures string Rule.string := by
  intro lexicon text
  unfold string
  cases htext : text.toList with
  | nil => rfl
  | cons c rest =>
    by_cases hc : c = '"'
    · subst hc
      have hopen : text.toList = [] ++ '"' :: rest := htext
      have hend := Literal.endByte?_append hopen
      rw [Text.byteSize_nil] at hend
      rw [if_pos (List.head?_cons), hend]
      rfl
    · have hhead : (c :: rest).head? ≠ some '"' := fun hhead => hc (Option.some.inj hhead)
      rw [if_neg hhead, Rule.string_eq_none hc]
      rfl

theorem measures_number : Measures number Rule.number := by
  intro lexicon text
  simp only [number, Rule.number, sizeWhile_eq fun _ => utf8Size_of_isDigit,
    Text.byteSize_pos_iff]
  by_cases hdigits : text.toList.takeWhile Char.isDigit = []
  · simp [hdigits]
  · simp [hdigits, Lexeme.extent]

theorem measures_operation : Measures operation Rule.operation := by
  intro lexicon text
  simp only [operation, strip?, Rule.operation]
  cases Rule.strip? Rule.cirQualifier text.toList with
  | none => rfl
  | some rest =>
    simp only [Option.map_some, wordSize_eq, String.toList_ofList, Text.byteSize_pos_iff,
      ← Text.byteSize_append]
    by_cases hword : Rule.word rest = []
    · simp [hword]
    · simp only [List.isEmpty_iff, hword, ne_eq, not_false_eq_true, if_true, if_false]
      rfl

theorem measures_sigil : Measures sigil Rule.sigil := by
  intro lexicon text
  unfold sigil
  rw [Text.toList_toUTF8]
  cases htext : text.toList with
  | nil => rfl
  | cons c rest =>
    rw [Text.bytes_cons]
    rcases Text.utf8EncodeChar_cases c with
      ⟨hsize, byte, heq, hcode⟩ | ⟨hsize, first, more, heq, hlarge⟩
    · simp only [heq, List.singleton_append, List.head?_cons, hcode, Rule.sigil]
      cases Rule.sigilCategory? c with
      | none => rfl
      | some category =>
        have hbody : Text.slice? text (Text.byteSize [c]) text.utf8ByteSize =
            some (String.ofList rest) := Text.slice?_to_end htext
        have hone : Text.byteSize [c] = 1 := hsize
        rw [hone] at hbody
        simp only [hbody, Option.bind_eq_bind, Option.bind_some, Option.pure_def, qualifiedSize_eq,
          String.toList_ofList, marked_eq hsize]
    · have hnone {d : Char} (hd : d.utf8Size ≠ 1) : Rule.sigilCategory? d = none := by
        unfold Rule.sigilCategory?
        split
        · exact (hd rfl).elim
        · exact (hd rfl).elim
        · exact (hd rfl).elim
        · rfl
      have hfirst := Text.utf8Size_ofUInt8_ne_one (hlarge first List.mem_cons_self)
      simp only [heq, List.cons_append, List.head?_cons, hnone hfirst, Rule.sigil, hnone hsize]
      rfl

theorem measures_bareWord : Measures bareWord Rule.bareWord := by
  intro lexicon text
  simp only [bareWord, Rule.bareWord, wordSize_eq, Text.byteSize_pos_iff]
  obtain ⟨rest, hrest⟩ := Rule.word_isPrefix text.toList
  rw [Text.slice?_from_start hrest.symm]
  by_cases hword : Rule.word text.toList = []
  · simp [hword]
  · simp [hword, Lexeme.extent]

theorem forall₂_measures : List.Forall₂ Measures all Rule.all :=
  .cons measures_type <| .cons measures_string <| .cons measures_number <|
    .cons measures_operation <| .cons measures_sigil <| .cons measures_bareWord .nil

theorem exists_measures_of_mem {measured : List ByteRule} {rules : List Rule}
    (h : List.Forall₂ Measures measured rules) {byteRule : ByteRule} (hmem : byteRule ∈ measured) :
    ∃ rule ∈ rules, Measures byteRule rule := by
  induction h with
  | nil => cases hmem
  | cons hmeasures _ ih =>
    rcases List.mem_cons.1 hmem with rfl | hmem
    · exact ⟨_, List.mem_cons_self, hmeasures⟩
    · obtain ⟨rule, hrule, hfound⟩ := ih hmem
      exact ⟨rule, List.mem_cons_of_mem _ hrule, hfound⟩

theorem findSomeM?_eq {measured : List ByteRule} {rules : List Rule}
    (h : List.Forall₂ Measures measured rules) (lexicon : Lexicon) (text : String) :
    measured.findSomeM? (· lexicon text) =
      some ((rules.findSome? (· lexicon text.toList)).map Lexeme.extent) := by
  induction h with
  | nil => rfl
  | @cons _ rule _ _ hmeasures _ ih =>
    rw [List.findSomeM?_cons, List.findSome?_cons, hmeasures lexicon text, ih]
    cases rule lexicon text.toList with
    | none => rfl
    | some piece => rfl

end ByteRule

namespace Lexeme

theorem byteSize_operation (name : List Char) :
    Text.byteSize (operation name).chars = 4 + Text.byteSize name := by
  have hparts : (operation name).chars = Rule.cirQualifier ++ name := rfl
  rw [hparts, Text.byteSize_append]
  rfl

theorem slice?_operation {text : String} {name after : List Char}
    (h : text.toList = (operation name).chars ++ after) :
    Text.slice? text 0 3 = some (String.ofList operationNamespace) ∧
      Text.slice? text 4 (Text.byteSize (operation name).chars) = some (String.ofList name) := by
  constructor
  · have hspace : text.toList = operationNamespace ++ ('.' :: name ++ after) := h
    exact Text.slice?_from_start hspace
  · have hname : text.toList = Rule.cirQualifier ++ (name ++ after) := h
    rw [byteSize_operation]
    exact Text.slice?_eq_some hname

end Lexeme

namespace Extent

/-- The tokens of what a rule reads at the start of a text. There are none where a slice fails. -/
def tokens? (line column : UInt32) (text : String) : Extent → Option (List Token)
  | .single size category => do
    let word ← Text.slice? text 0 size
    return [{ line, column, text := word, category }]
  | .operation size => do
    let space ← Text.slice? text 0 3
    let name ← Text.slice? text 4 size
    return [{ line, column, text := space, category := some .namespaceName },
      { line, column := column + 4, text := name, category := some .function }]

theorem tokens?_extent {piece : Lexeme} (hgives : piece.GivesTokens) {text : String}
    {after : List Char} (h : text.toList = piece.chars ++ after) (line column : UInt32) :
    piece.extent.tokens? line column text = some (piece.tokens line column) := by
  cases piece with
  | gap c => cases hgives
  | single word category =>
    have hword : Text.slice? text 0 (Text.byteSize word) = some (String.ofList word) :=
      Text.slice?_from_start h
    rw [Lexeme.extent, tokens?, hword]
    rfl
  | operation name =>
    obtain ⟨hspace, hname⟩ := Lexeme.slice?_operation h
    rw [Lexeme.extent, tokens?, hspace, hname]
    rfl

/-- An extent that lies in a text: it is not empty and ends between two characters. That of an
operation is longer than the qualifier, and has two parts that are not empty. -/
structure Fits (extent : Extent) (text : String) : Prop where
  one_le : 1 ≤ extent.size
  le_size : extent.size ≤ text.utf8ByteSize
  boundary : Text.IsBoundary text extent.size
  parts : ∀ size, extent = .operation size → 4 < size ∧
    ∃ space name, Text.slice? text 0 3 = some space ∧ Text.slice? text 4 size = some name ∧
      space ≠ "" ∧ name ≠ ""

theorem fits_extent {piece : Lexeme} (hgives : piece.GivesTokens) {text : String}
    (h : piece.chars <+: text.toList) : piece.extent.Fits text := by
  obtain ⟨after, hafter⟩ := h
  have hsize := piece.size_extent
  refine ⟨?_, ?_, ?_, ?_⟩
  · rw [hsize]
    exact Text.byteSize_pos_iff.2 hgives.chars_ne_nil
  · rw [hsize, Text.utf8ByteSize_eq, ← hafter, Text.byteSize_append]
    exact Nat.le_add_right _ _
  · rw [hsize]
    exact Text.isBoundary_of_append hafter.symm
  · intro size hoperation
    cases piece with
    | gap c => cases hgives
    | single word category => cases hoperation
    | operation name =>
      obtain ⟨hspace, hname⟩ := Lexeme.slice?_operation hafter.symm
      cases hoperation
      have hpos := Text.byteSize_pos_iff.2 hgives
      refine ⟨?_, _, _, hspace, hname, by decide, ?_⟩
      · rw [Lexeme.byteSize_operation]
        omega
      · intro hempty
        exact hgives (String.ofList_eq_empty_iff.1 hempty)

end Extent

theorem ByteRule.exists_fits {byteRule : ByteRule} (h : byteRule ∈ all) (lexicon : Lexicon)
    (text : String) :
    ∃ found, byteRule lexicon text = some found ∧ ∀ extent ∈ found, extent.Fits text := by
  obtain ⟨rule, hrule, hmeasures⟩ := exists_measures_of_mem forall₂_measures h
  refine ⟨_, hmeasures lexicon text, ?_⟩
  intro extent hextent
  obtain ⟨piece, hpiece, rfl⟩ := Option.map_eq_some_iff.1 hextent
  obtain ⟨hgives, hstart⟩ := Rule.readsStart_of_mem_all hrule lexicon text.toList piece hpiece
  exact Extent.fits_extent hgives hstart

end CirHighlight
