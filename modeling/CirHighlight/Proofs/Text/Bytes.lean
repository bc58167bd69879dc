import CirHighlight.Proofs.Text.Width

namespace CirHighlight.Text

def bytes (text : List Char) : List UInt8 :=
  text.flatMap String.utf8EncodeChar

@[simp]
theorem bytes_nil : bytes [] = [] := rfl

@[simp]
theorem bytes_cons (c : Char) (text : List Char) :
    bytes (c :: text) = String.utf8EncodeChar c ++ bytes text := rfl

@[simp]
theorem bytes_append (left right : List Char) : bytes (left ++ right) = bytes left ++ bytes right :=
  List.flatMap_append

@[simp]
theorem length_bytes (text : List Char) : (bytes text).length = byteSize text := by
  induction text with
  | nil => rfl
  | cons c text ih =>
    rw [bytes_cons, List.length_append, String.length_utf8EncodeChar, ih, byteSize_cons]

theorem toList_toUTF8 (text : String) : text.toUTF8.data.toList = bytes text.toList := by
  obtain ⟨chars, rfl⟩ := String.exists_eq_ofList text
  rw [String.toUTF8_eq_toByteArray, String.toByteArray_ofList, String.toList_ofList]
  exact List.toList_data_toByteArray

theorem ofUInt8_toUInt8 {c : Char} (h : c.utf8Size = 1) : Char.ofUInt8 c.val.toUInt8 = c := by
  have hle := UInt32.le_iff_toNat_le.1 (Char.utf8Size_eq_one_iff.1 h)
  have hlast : (127 : UInt32).toNat = 127 := rfl
  apply Char.ext
  apply UInt32.toNat_inj.1
  change c.val.toUInt8.toUInt32.toNat = c.val.toNat
  rw [UInt8.toNat_toUInt32, UInt32.toNat_toUInt8]
  omega

theorem ofUInt8_inj {byte other : UInt8} (h : Char.ofUInt8 byte = Char.ofUInt8 other) :
    byte = other := by
  have hcode : byte.toUInt32.toNat = other.toUInt32.toNat := congrArg (·.val.toNat) h
  rw [UInt8.toNat_toUInt32, UInt8.toNat_toUInt32] at hcode
  exact UInt8.toNat_inj.1 hcode

theorem byte_eq_iff {c : Char} {byte : UInt8} (h : Char.ofUInt8 byte = c) (other : UInt8) :
    byte = other ↔ c = Char.ofUInt8 other := by
  constructor
  · rintro rfl
    exact h.symm
  · intro hother
    exact ofUInt8_inj (h.trans hother)

theorem utf8Size_ofUInt8_ne_one {byte : UInt8} (h : 0x80 ≤ byte) :
    (Char.ofUInt8 byte).utf8Size ≠ 1 := by
  intro hsize
  have hcode : byte.toUInt32.toNat ≤ 127 :=
    UInt32.le_iff_toNat_le.1 (Char.utf8Size_eq_one_iff.1 hsize)
  have hlarge : 128 ≤ byte.toNat := UInt8.le_iff_toNat_le.1 h
  rw [UInt8.toNat_toUInt32] at hcode
  omega

theorem le_of_mem_utf8EncodeChar {c : Char} (h : c.utf8Size ≠ 1) {byte : UInt8}
    (hbyte : byte ∈ String.utf8EncodeChar c) : 0x80 ≤ byte := by
  have hlarge : ¬ c.val.toNat ≤ 0x7f := by
    intro hle
    exact h (Char.utf8Size_eq_one_iff.2 (UInt32.le_iff_toNat_le.2 hle))
  have hbound {n : Nat} (hn : 0x80 ≤ n ∧ n < 0x100) : 0x80 ≤ UInt8.ofNat n := by
    rw [UInt8.le_iff_toNat_le, UInt8.toNat_ofNat', Nat.mod_eq_of_lt hn.2]
    exact hn.1
  simp only [String.utf8EncodeChar, if_neg hlarge] at hbyte
  split at hbyte
  · simp only [List.mem_cons, List.not_mem_nil, or_false] at hbyte
    rcases hbyte with rfl | rfl <;> exact hbound (by omega)
  · split at hbyte
    · simp only [List.mem_cons, List.not_mem_nil, or_false] at hbyte
      rcases hbyte with rfl | rfl | rfl <;> exact hbound (by omega)
    · simp only [List.mem_cons, List.not_mem_nil, or_false] at hbyte
      rcases hbyte with rfl | rfl | rfl | rfl <;> exact hbound (by omega)

theorem utf8EncodeChar_cases (c : Char) :
    (c.utf8Size = 1 ∧ ∃ byte, String.utf8EncodeChar c = [byte] ∧ Char.ofUInt8 byte = c) ∨
      (c.utf8Size ≠ 1 ∧ ∃ first more, String.utf8EncodeChar c = first :: more ∧
        ∀ byte ∈ first :: more, 0x80 ≤ byte) := by
  by_cases hsize : c.utf8Size = 1
  · exact .inl ⟨hsize, _, String.utf8EncodeChar_eq_singleton hsize, ofUInt8_toUInt8 hsize⟩
  · obtain ⟨first, more, heq⟩ :=
      List.exists_cons_of_ne_nil (String.utf8EncodeChar_ne_nil (c := c))
    refine .inr ⟨hsize, first, more, heq, ?_⟩
    intro byte hbyte
    rw [← heq] at hbyte
    exact le_of_mem_utf8EncodeChar hsize hbyte

theorem length_takeWhile_bytes {test : Char → Bool}
    (htest : ∀ c, test c = true → c.utf8Size = 1) (text : List Char) :
    ((bytes text).takeWhile fun byte => test (Char.ofUInt8 byte)).length =
      byteSize (text.takeWhile test) := by
  induction text with
  | nil => rfl
  | cons c text ih =>
    rw [bytes_cons, List.takeWhile_cons]
    rcases utf8EncodeChar_cases c with ⟨hsize, byte, heq, hcode⟩ | ⟨hsize, first, more, heq, hlarge⟩
    · rw [heq, List.singleton_append, List.takeWhile_cons, hcode]
      cases test c with
      | false => rfl
      | true =>
        rw [if_pos rfl, if_pos rfl, List.length_cons, ih, byteSize_cons, hsize, Nat.add_comm]
    · have hfirst : ¬ test (Char.ofUInt8 first) = true :=
        mt (htest _) (utf8Size_ofUInt8_ne_one (hlarge first List.mem_cons_self))
      rw [heq, List.cons_append, List.takeWhile_cons, if_neg hfirst, if_neg (mt (htest c) hsize)]
      rfl

theorem size_utf8Encode (text : List Char) : text.utf8Encode.size = byteSize text := by
  induction text with
  | nil => rfl
  | cons c text ih =>
    rw [List.utf8Encode_cons, ByteArray.size_append, ih, List.utf8Encode_singleton,
      List.size_toByteArray, String.length_utf8EncodeChar, byteSize_cons]

theorem extract_toUTF8 {text : String} {before middle after : List Char}
    (h : text.toList = before ++ (middle ++ after)) :
    text.toUTF8.extract (byteSize before) (byteSize before + byteSize middle) =
      (String.ofList middle).toUTF8 := by
  have hbytes : text.toUTF8 = before.utf8Encode ++ (middle.utf8Encode ++ after.utf8Encode) := by
    rw [← String.ofList_toList (s := text), h, String.toUTF8_eq_toByteArray,
      String.toByteArray_ofList, List.utf8Encode_append, List.utf8Encode_append]
  have hmiddle := ByteArray.extract_append_size_add (a := before.utf8Encode)
    (b := middle.utf8Encode ++ after.utf8Encode) (i := 0) (j := middle.utf8Encode.size)
  rw [size_utf8Encode, size_utf8Encode, Nat.add_zero, ← size_utf8Encode middle,
    ByteArray.extract_append_eq_left rfl, size_utf8Encode] at hmiddle
  rw [hbytes, hmiddle, String.toUTF8_eq_toByteArray, String.toByteArray_ofList]

theorem utf8ByteSize_ofList (text : List Char) :
    (String.ofList text).utf8ByteSize = byteSize text := by
  rw [← size_utf8Encode, ← String.toByteArray_ofList]
  rfl

theorem utf8ByteSize_eq (text : String) : text.utf8ByteSize = byteSize text.toList := by
  rw [← utf8ByteSize_ofList, String.ofList_toList]

/-- A place between two characters of a text, as a byte index. -/
def IsBoundary (text : String) (index : Nat) : Prop :=
  String.Pos.Raw.IsValid text ⟨index⟩

instance (text : String) (index : Nat) : Decidable (IsBoundary text index) :=
  inferInstanceAs (Decidable (String.Pos.Raw.IsValid text ⟨index⟩))

theorem isBoundary_of_append {text : String} {before after : List Char}
    (h : text.toList = before ++ after) : IsBoundary text (byteSize before) := by
  have htext : text = String.ofList before ++ String.ofList after := by
    rw [← String.ofList_append, ← h, String.ofList_toList]
  exact String.Pos.Raw.isValid_iff_exists_append.2
    ⟨String.ofList before, String.ofList after, htext,
      congrArg String.Pos.Raw.mk (utf8ByteSize_ofList before).symm⟩

theorem exists_pos {text : String} {before after : List Char} (h : text.toList = before ++ after) :
    ∃ place : text.Pos, place.offset.byteIdx = byteSize before ∧
      String.extract text.startPos place = String.ofList before ∧
      String.extract place text.endPos = String.ofList after := by
  refine ⟨⟨⟨byteSize before⟩, isBoundary_of_append h⟩, rfl, ?_, ?_⟩
  · have hbefore : text.toList = [] ++ (before ++ after) := h
    have hbytes := extract_toUTF8 hbefore
    rw [byteSize_nil, Nat.zero_add] at hbytes
    rw [← String.toByteArray_inj, String.toByteArray_extract]
    exact hbytes
  · have hafter : text.toList = before ++ (after ++ []) := by rw [h, List.append_nil]
    have hend : text.utf8ByteSize = byteSize before + byteSize after := by
      rw [utf8ByteSize_eq, h, byteSize_append]
    have hbytes := extract_toUTF8 hafter
    rw [← hend] at hbytes
    rw [← String.toByteArray_inj, String.toByteArray_extract]
    exact hbytes

/-- The part of a text between two byte indices. There is none where an index is out of the text or
inside a character, or the second comes before the first. -/
def slice? (text : String) (start stop : Nat) : Option String :=
  if h : IsBoundary text start ∧ IsBoundary text stop ∧ start ≤ stop then
    some (String.extract (s := text) ⟨⟨start⟩, h.1⟩ ⟨⟨stop⟩, h.2.1⟩)
  else none

theorem slice?_eq_some {text : String} {before middle after : List Char}
    (h : text.toList = before ++ (middle ++ after)) :
    slice? text (byteSize before) (byteSize before + byteSize middle) =
      some (String.ofList middle) := by
  have hstart : IsBoundary text (byteSize before) := isBoundary_of_append h
  have hstop : IsBoundary text (byteSize before + byteSize middle) := by
    rw [← byteSize_append]
    apply isBoundary_of_append
    rw [h, List.append_assoc]
  rw [slice?, dif_pos ⟨hstart, hstop, Nat.le_add_right _ _⟩, Option.some.injEq,
    ← String.toByteArray_inj, String.toByteArray_extract]
  exact extract_toUTF8 h

theorem slice?_to_end {text : String} {before after : List Char}
    (h : text.toList = before ++ after) :
    slice? text (byteSize before) text.utf8ByteSize = some (String.ofList after) := by
  have hafter : text.toList = before ++ (after ++ []) := by rw [h, List.append_nil]
  rw [utf8ByteSize_eq, h, byteSize_append]
  exact slice?_eq_some hafter

theorem slice?_from_start {text : String} {before after : List Char}
    (h : text.toList = before ++ after) :
    slice? text 0 (byteSize before) = some (String.ofList before) := by
  have hbefore : text.toList = [] ++ (before ++ after) := h
  have hslice := slice?_eq_some hbefore
  rwa [byteSize_nil, Nat.zero_add] at hslice

end CirHighlight.Text
