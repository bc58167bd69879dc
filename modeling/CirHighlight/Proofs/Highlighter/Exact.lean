import CirHighlight.Proofs.Document.Clamping
import CirHighlight.Proofs.Highlighter.Stream
import CirHighlight.Proofs.TokenStream.Exact

namespace CirHighlight

namespace Exact

/-- How many characters of a line are needed to reach a column, with units counted without
bound. -/
def charactersTo (column counted : Nat) : List Char → Nat
  | [] => 0
  | c :: rest =>
    if column ≤ counted then 0 else charactersTo column (counted + (Text.units c).toNat) rest + 1

def index (line column : Nat) (text : List Char) : Nat :=
  match Position.lineStart? line text with
  | none => text.length
  | some start => start + charactersTo column 0 (Position.lineContent (text.drop start))

def offset (line column : Nat) (text : String) : Nat :=
  Text.byteSize (text.toList.take (index line column text.toList))

end Exact

namespace Text

theorem byteSize_drop_le (n : Nat) (text : List Char) :
    byteSize (text.drop n) ≤ byteSize text := by
  have hsum := byteSize_append (text.take n) (text.drop n)
  rw [List.take_append_drop] at hsum
  omega

end Text

namespace Position

theorem unitCount_lineContent_le (text : List Char) :
    Text.unitCount (lineContent text) ≤ Text.byteSize text := by
  have hprefix : lineContent text <+: text :=
    (Text.stripReturn_isPrefix _).trans (List.takeWhile_prefix _)
  exact Nat.le_trans (Text.unitCount_le_byteSize _) (Text.byteSize_le_of_isPrefix hprefix)

theorem charactersTo_exact (column : UInt32) {counted : UInt32} {line : List Char}
    (hfits : counted.toNat + Text.unitCount line < 2 ^ 32) :
    charactersTo column counted line =
      Exact.charactersTo column.toNat counted.toNat line := by
  induction line generalizing counted with
  | nil => rfl
  | cons c rest ih =>
    rw [Text.unitCount_cons, ← Nat.add_assoc] at hfits
    have hnext := Text.toNat_add_units (Nat.lt_of_le_of_lt (Nat.le_add_right _ _) hfits)
    rw [← hnext] at hfits
    simp only [charactersTo, Exact.charactersTo, UInt32.le_iff_toNat_le, ih hfits, hnext]

theorem offset_exact (position : Position) {text : String}
    (hsize : Text.byteSize text.toList < 2 ^ 32) :
    position.offset text = Exact.offset position.line.toNat position.character.toNat text := by
  suffices hindex : position.index text.toList =
      Exact.index position.line.toNat position.character.toNat text.toList by
    rw [offset, Exact.offset, hindex]
  rw [index, Exact.index]
  cases lineStart? position.line.toNat text.toList with
  | none => rfl
  | some start =>
    have hcontent := unitCount_lineContent_le (text.toList.drop start)
    have hdrop := Text.byteSize_drop_le start text.toList
    have hfits : (0 : UInt32).toNat + Text.unitCount (lineContent (text.toList.drop start)) <
        2 ^ 32 := by
      rw [UInt32.toNat_zero]
      omega
    exact congrArg (start + ·) (charactersTo_exact position.character hfits)

end Position

namespace Lexer

variable {text : String} (hsize : Text.byteSize text.toList < 2 ^ 32)
include hsize

theorem fits_of_mem_lex {lexer : Lexer} {token : Token} (hmem : token ∈ lexer.lex text) :
    token.Fits :=
  endColumn_lt_of_mem_lex hsize hmem

theorem toNat_number_and_width {n : Nat} {line : List Char}
    (hline : (Text.lines text.toList)[n]? = some line) :
    (UInt32.ofNat n).toNat = n ∧
      ∀ front, front <+: line → (Text.width front).toNat = Text.unitCount front := by
  obtain ⟨hlt, -⟩ := List.getElem?_eq_some_iff.1 hline
  have hlines := Text.length_lines_le text.toList
  have hwidth := unitCount_lt_of_mem_lines hsize (List.mem_of_getElem? hline)
  refine ⟨UInt32.toNat_ofNat_of_lt' (by change n < 2 ^ 32; omega), ?_⟩
  intro front hfront
  have hle := Text.unitCount_le_of_isPrefix hfront
  exact Text.toNat_width_of_lt (by omega)

end Lexer

namespace Highlighter

theorem exists_highlight_exact (highlighter : Highlighter) {text : String}
    (hsize : Text.byteSize text.toList < 2 ^ 32) :
    ∃ stream, highlighter.highlight text = .ok stream ∧
      Exact.encode? highlighter.policy (Exact.lex highlighter.lexer text) =
        some (stream.map Relative.exact) ∧
      TokenStream.SumsFit 0 0 stream ∧
      stream.decode.map Entry.exact = Exact.decode (stream.map Relative.exact) := by
  have hfits : ∀ token ∈ highlighter.lexer.lex text, token.Fits := by
    intro token hmem
    exact Lexer.fits_of_mem_lex hsize hmem
  have hfollows := pairwise_follows_lex hsize highlighter.lexer
  have hordered := Token.ordered_entries highlighter.policy hfollows
  obtain ⟨hstream, hsums⟩ :=
    TokenStream.ofEntriesFrom_exact (fun entry _ => entry.from_zero) hordered
  refine ⟨_, TokenStream.encode_eq_ok_iff.2 ⟨hfollows, rfl⟩, ?_, hsums, ?_⟩
  · rw [Exact.encode?, ← Lexer.map_exact_lex highlighter.lexer hsize,
      if_pos (Token.inOrder_map_exact hfits hfollows), ← Token.map_exact_filterMap_entry? hfits]
    exact hstream
  · exact TokenStream.map_exact_decodeFrom hsums

/-- For every document below 2 ^ 32 bytes, the numbers of the lines and the widths along them, the
tokens with their lengths and ends, the stream and the offsets of positions are the same in 32 bits
and without bound. Decoding the stream never saturates. -/
theorem arithmetic_exact (highlighter : Highlighter) {text : String}
    (hsize : Text.byteSize text.toList < 2 ^ 32) :
    (∀ (n : Nat) (line : List Char), (Text.lines text.toList)[n]? = some line →
        (UInt32.ofNat n).toNat = n ∧
          ∀ front, front <+: line → (Text.width front).toNat = Text.unitCount front) ∧
      (highlighter.lexer.lex text).map Token.exact = Exact.lex highlighter.lexer text ∧
      (∀ token ∈ highlighter.lexer.lex text,
        token.length.toNat = token.exact.length ∧
          token.endColumn.toNat = token.exact.endColumn) ∧
      (∃ stream, highlighter.highlight text = .ok stream ∧
        Exact.encode? highlighter.policy (Exact.lex highlighter.lexer text) =
          some (stream.map Relative.exact) ∧
        TokenStream.SumsFit 0 0 stream ∧
        stream.decode.map Entry.exact = Exact.decode (stream.map Relative.exact)) ∧
      ∀ position : Position,
        position.offset text =
          Exact.offset position.line.toNat position.character.toNat text := by
  refine ⟨?_, Lexer.map_exact_lex highlighter.lexer hsize, ?_, ?_, ?_⟩
  · intro n line hline
    exact Lexer.toNat_number_and_width hsize hline
  · intro token hmem
    have hfits := Lexer.fits_of_mem_lex hsize hmem
    exact ⟨hfits.length_exact.symm, hfits.endColumn_exact.symm⟩
  · exact exists_highlight_exact highlighter hsize
  · intro position
    exact position.offset_exact hsize

/-- An operation, a literal with a character of two units, a comment and a second line. -/
theorem arithmetic_exact_second_line :
    Text.byteSize "cir.f \"😀\" // c\n  x %0".toList < 2 ^ 32 ∧
      (∃ stream, ({} : Highlighter).highlight "cir.f \"😀\" // c\n  x %0" = .ok stream ∧
        stream.map Relative.exact =
          [⟨0, 0, 3, 8, 0⟩, ⟨0, 4, 1, 1, 0⟩, ⟨0, 2, 4, 9, 0⟩, ⟨0, 5, 4, 4, 0⟩, ⟨1, 4, 2, 2, 0⟩] ∧
        stream.decode.map Entry.exact =
          [⟨0, 0, 3, 8, 0⟩, ⟨0, 4, 1, 1, 0⟩, ⟨0, 6, 4, 9, 0⟩, ⟨0, 11, 4, 4, 0⟩, ⟨1, 4, 2, 2, 0⟩]) ∧
      Position.offset ⟨0, 9⟩ "cir.f \"😀\" // c\n  x %0" = 11 := by
  have hsize : Text.byteSize "cir.f \"😀\" // c\n  x %0".toList < 2 ^ 32 := by decide
  obtain ⟨-, -, -, ⟨stream, hstream, hexact, -, hdecode⟩, hoffset⟩ := arithmetic_exact {} hsize
  have hencode : Exact.encode? .omit (Exact.lex {} "cir.f \"😀\" // c\n  x %0") =
      some [⟨0, 0, 3, 8, 0⟩, ⟨0, 4, 1, 1, 0⟩, ⟨0, 2, 4, 9, 0⟩, ⟨0, 5, 4, 4, 0⟩,
        ⟨1, 4, 2, 2, 0⟩] := by
    decide +kernel
  obtain hrelative := Option.some.inj (hexact.symm.trans hencode)
  refine ⟨hsize, ⟨stream, hstream, hrelative, ?_⟩, (hoffset _).trans (by decide)⟩
  rw [hdecode, hrelative]
  rfl

end Highlighter

end CirHighlight
