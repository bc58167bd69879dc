import Mathlib.Data.List.Basic
import CirHighlight.Highlighter
import CirHighlight.Proofs.Lexer.Tiling
import CirHighlight.Proofs.TokenStream.Encode

namespace CirHighlight

namespace Token

theorem Before.follows {first second : Token} (h : first.Before second)
    (hne : first.text.toList ≠ [])
    (hfits : first.column.toNat + Text.unitCount first.text.toList < 2 ^ 32) :
    second.follows first = true := by
  simp only [Token.follows, Bool.or_eq_true, Bool.and_eq_true, decide_eq_true_eq]
  rcases h with hline | ⟨hline, hcolumn⟩
  · exact .inl hline
  · have hpos := Text.unitCount_pos hne
    have hend : first.endColumn.toNat =
        first.column.toNat + Text.unitCount first.text.toList :=
      Text.toNat_add_width hfits
    refine .inr ⟨⟨hline, UInt32.lt_iff_toNat_lt.2 ?_⟩, UInt32.le_iff_toNat_le.2 ?_⟩
    · omega
    · omega

end Token

namespace Entry

/-- The entry of a token that is emitted under a category. -/
def ofRow : Token × Category → Entry
  | (token, category) =>
    { line := token.line, column := token.column, length := token.length,
      category := category.index, modifiers := 0 }

end Entry

namespace Highlighter

section Document

variable {text : String} (hsize : Text.byteSize text.toList < 2 ^ 32)
include hsize

theorem pairwise_follows_lex (lexer : Lexer) :
    (lexer.lex text).Pairwise fun first second => second.follows first = true := by
  refine (Lexer.pairwise_lex hsize lexer).imp_of_mem ?_
  intro first second hfirst hsecond hbefore
  exact hbefore.follows (Lexer.text_ne_nil_of_mem_lex hsize hfirst)
    (Lexer.endColumn_lt_of_mem_lex hsize hfirst)

theorem filterMap_entry?_lex (highlighter : Highlighter) :
    (highlighter.lexer.lex text).filterMap (Token.entry? highlighter.policy) =
      (highlighter.emitted text).map Entry.ofRow := by
  rw [emitted, List.map_filterMap]
  refine List.filterMap_congr fun token hmem => ?_
  rw [Token.entry?, Lexer.modifiers_of_mem_lex hsize hmem, Option.map_map]
  rfl

theorem exists_highlight_eq_ok (highlighter : Highlighter) :
    ∃ stream, highlighter.highlight text = .ok stream ∧
      stream.decode = (highlighter.emitted text).map Entry.ofRow := by
  rw [← filterMap_entry?_lex hsize]
  exact TokenStream.exists_encode_eq_ok _ (pairwise_follows_lex hsize highlighter.lexer)

theorem length_integers_le {highlighter : Highlighter} {stream : TokenStream}
    (h : highlighter.highlight text = .ok stream) :
    stream.integers.length ≤ 5 * Text.byteSize text.toList := by
  obtain ⟨found, hfound, hdecode⟩ := exists_highlight_eq_ok hsize highlighter
  obtain rfl : found = stream := by
    rw [hfound] at h
    exact Except.ok.inj h
  have hrows := congrArg List.length hdecode
  rw [TokenStream.length_decode, List.length_map] at hrows
  rw [TokenStream.length_integers, TokenStream.tokenWidth, hrows]
  refine Nat.mul_le_mul_left 5 ?_
  calc
    (highlighter.emitted text).length ≤ (highlighter.lexer.lex text).length :=
      List.length_filterMap_le _ _
    _ ≤ Text.byteSize text.toList := Lexer.length_lex_le hsize highlighter.lexer

theorem length_of_mem_emitted {highlighter : Highlighter} {row : Token × Category}
    (hmem : row ∈ highlighter.emitted text) :
    row.1.length.toNat = Text.unitCount row.1.text.toList := by
  obtain ⟨token, htoken, hrow⟩ := List.mem_filterMap.1 hmem
  obtain ⟨category, -, rfl⟩ := Option.map_eq_some_iff.1 hrow
  exact Token.toNat_length_of_lt (Lexer.endColumn_lt_of_mem_lex hsize htoken)

theorem newline_not_mem_of_mem_emitted {highlighter : Highlighter} {row : Token × Category}
    (hmem : row ∈ highlighter.emitted text) : '\n' ∉ row.1.text.toList := by
  obtain ⟨token, htoken, hrow⟩ := List.mem_filterMap.1 hmem
  obtain ⟨category, -, rfl⟩ := Option.map_eq_some_iff.1 hrow
  exact Lexer.newline_not_mem_of_mem_lex hsize htoken

end Document

theorem category_lt_of_decode {stream : TokenStream} {rows : List (Token × Category)}
    (h : stream.decode = rows.map Entry.ofRow) {relative : Relative} (hmem : relative ∈ stream) :
    relative.category.toNat < Category.legend.length := by
  have hcategory : relative.category ∈ stream.decode.map (·.category) := by
    rw [TokenStream.decode, TokenStream.map_category_decodeFrom]
    exact List.mem_map_of_mem hmem
  rw [h, List.map_map] at hcategory
  obtain ⟨⟨token, category⟩, -, hindex⟩ := List.mem_map.1 hcategory
  rw [← hindex]
  exact category.index_lt_length_legend

end Highlighter

end CirHighlight
