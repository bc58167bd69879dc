import CirHighlight.Proofs.Lexeme.Rule
import CirHighlight.Proofs.Lexeme.Tiling

namespace CirHighlight

namespace Rule

theorem skipped_dot (rest : List Char) : Skipped '.' rest := by
  refine ⟨by decide, by decide, ?_⟩
  intro hmark
  exact absurd hmark (by decide)

end Rule

namespace Lexeme

theorem first_cases (lexicon : Lexicon) (c : Char) (rest : List Char) :
    (first Rule.all lexicon c rest = .gap c ∧ Rule.Skipped c rest) ∨
      ((first Rule.all lexicon c rest).GivesTokens ∧
        (first Rule.all lexicon c rest).chars <+: c :: rest) := by
  unfold first
  cases h : Rule.all.findSome? (· lexicon (c :: rest)) with
  | none =>
    left
    exact ⟨rfl, Rule.skipped_of_all (List.findSome?_eq_none_iff.1 h)⟩
  | some piece =>
    right
    obtain ⟨rule, hmem, hreads⟩ := List.exists_of_findSome?_eq_some h
    exact Rule.readsStart_of_mem_all hmem lexicon (c :: rest) piece hreads

theorem chars_append_drop {piece : Lexeme} {c : Char} {rest : List Char} (hne : piece.chars ≠ [])
    (h : piece.chars <+: c :: rest) :
    piece.chars ++ rest.drop (piece.chars.length - 1) = c :: rest := by
  obtain ⟨tail, htail⟩ := h
  cases hchars : piece.chars with
  | nil => exact (hne hchars).elim
  | cons d chars =>
    rw [hchars] at htail
    obtain ⟨rfl, rfl⟩ := List.cons.inj htail
    simp

theorem unitCount_operation (name : List Char) :
    Text.unitCount (operation name).chars = 4 + Text.unitCount name := by
  rw [chars, Text.unitCount_append, Text.unitCount_cons, ← Nat.add_assoc]
  rfl

theorem toNat_column_name {column : UInt32} {name : List Char}
    (hfits : column.toNat + Text.unitCount (operation name).chars < 2 ^ 32) :
    (column + 4).toNat = column.toNat + 4 := by
  rw [unitCount_operation] at hfits
  rw [UInt32.toNat_add]
  exact Nat.mod_eq_of_lt (Nat.lt_of_le_of_lt (by simp) hfits)

theorem GivesTokens.tiled {piece : Lexeme} (h : piece.GivesTokens) (line : UInt32)
    {column : UInt32} {rest : List Char} {tokens : List Token}
    (hfits : column.toNat + Text.unitCount piece.chars < 2 ^ 32)
    (hrest : Tiled Rule.Skipped (column.toNat + Text.unitCount piece.chars) rest tokens) :
    Tiled Rule.Skipped column.toNat (piece.chars ++ rest) (piece.tokens line column ++ tokens) := by
  cases piece with
  | gap c => cases h
  | single text category => exact .place line category h hrest
  | operation name =>
    have hcolumn := toNat_column_name hfits
    rw [unitCount_operation, ← Nat.add_assoc, ← hcolumn] at hrest
    have hname := Tiled.place line (some .function) h hrest
    rw [hcolumn] at hname
    rw [chars, List.append_assoc]
    exact .place line _ (List.cons_ne_nil _ _) (.gap (Rule.skipped_dot _) hname)

theorem tiled_place_scan (lexicon : Lexicon) (line : UInt32) {column : UInt32} {text : List Char}
    (hfits : column.toNat + Text.unitCount text < 2 ^ 32) :
    Tiled Rule.Skipped column.toNat text (place line column (scan lexicon text)) := by
  unfold scan
  fun_induction scanWith Rule.all lexicon text generalizing column with
  | case1 => exact .nil
  | case2 c rest piece =>
    rename_i ih
    rw [place]
    rcases first_cases lexicon c rest with ⟨hgap, hskipped⟩ | ⟨hgives, hstart⟩
    · simp only [piece, hgap] at ih ⊢
      rw [Text.unitCount_cons, ← Nat.add_assoc] at hfits
      have hcolumn : (column + Text.width (gap c).chars).toNat =
          column.toNat + (Text.units c).toNat :=
        Text.toNat_add_width (Nat.lt_of_le_of_lt (Nat.le_add_right _ _) hfits)
      refine .gap hskipped ?_
      rw [← hcolumn] at hfits ⊢
      exact ih hfits
    · have htext := chars_append_drop hgives.chars_ne_nil hstart
      rw [← htext, Text.unitCount_append, ← Nat.add_assoc] at hfits
      have hpiece := Nat.lt_of_le_of_lt (Nat.le_add_right _ _) hfits
      have hcolumn := Text.toNat_add_width hpiece
      rw [← htext]
      refine hgives.tiled line hpiece ?_
      rw [← hcolumn] at hfits ⊢
      exact ih hfits

theorem tiled_scanLine (lexicon : Lexicon) (line : UInt32) {text : List Char}
    (hfits : Text.unitCount text < 2 ^ 32) :
    Tiled Rule.Skipped 0 text (scanLine lexicon line text) := by
  have hzero : (0 : UInt32).toNat + Text.unitCount text < 2 ^ 32 := by
    rwa [UInt32.toNat_zero, Nat.zero_add]
  exact tiled_place_scan lexicon line hzero

theorem of_mem_tokens {line column : UInt32} {piece : Lexeme} {token : Token}
    (h : token ∈ piece.tokens line column) : token.line = line ∧ token.modifiers = .empty := by
  cases piece with
  | gap c => cases h
  | single text category =>
    rw [List.mem_singleton.1 h]
    exact ⟨rfl, rfl⟩
  | operation name =>
    rcases List.mem_cons.1 h with rfl | h
    · exact ⟨rfl, rfl⟩
    · rw [List.mem_singleton.1 h]
      exact ⟨rfl, rfl⟩

theorem of_mem_place {line column : UInt32} {pieces : List Lexeme} {token : Token}
    (h : token ∈ place line column pieces) : token.line = line ∧ token.modifiers = .empty := by
  induction pieces generalizing column with
  | nil => cases h
  | cons piece rest ih =>
    rcases List.mem_append.1 h with h | h
    · exact of_mem_tokens h
    · exact ih h

end Lexeme

end CirHighlight
