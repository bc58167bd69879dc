import Mathlib.Algebra.Ring.Nat
import CirHighlight.Text.Width

namespace CirHighlight.Text

def unitCount : List Char → Nat
  | [] => 0
  | c :: text => (units c).toNat + unitCount text

@[simp]
theorem unitCount_nil : unitCount [] = 0 := rfl

@[simp]
theorem unitCount_cons (c : Char) (text : List Char) :
    unitCount (c :: text) = (units c).toNat + unitCount text := rfl

@[simp]
theorem unitCount_append (left right : List Char) :
    unitCount (left ++ right) = unitCount left + unitCount right := by
  induction left with
  | nil => simp
  | cons c left ih => simp [ih, Nat.add_assoc]

theorem unitCount_le_of_isPrefix {front text : List Char} (h : front <+: text) :
    unitCount front ≤ unitCount text := by
  obtain ⟨rest, rfl⟩ := h
  rw [unitCount_append]
  exact Nat.le_add_right _ _

theorem byteSize_le_of_isPrefix {front text : List Char} (h : front <+: text) :
    byteSize front ≤ byteSize text := by
  obtain ⟨rest, rfl⟩ := h
  rw [byteSize_append]
  exact Nat.le_add_right _ _

theorem byteSize_pos_iff {text : List Char} : 0 < byteSize text ↔ text ≠ [] := by
  cases text with
  | nil => simp
  | cons c text =>
    have hpos := c.utf8Size_pos
    simp only [byteSize_cons, ne_eq, List.cons_ne_nil, not_false_eq_true, iff_true]
    omega

theorem unitCount_replicate {c : Char} (h : units c = 1) (n : Nat) :
    unitCount (List.replicate n c) = n := by
  induction n with
  | zero => rfl
  | succ n ih =>
    rw [List.replicate_succ, unitCount_cons, h, ih]
    exact Nat.add_comm 1 n

theorem units_pos (c : Char) : 0 < (units c).toNat := by
  unfold units
  split <;> decide

theorem units_le_utf8Size (c : Char) : (units c).toNat ≤ c.utf8Size := by
  unfold units
  split
  · exact c.utf8Size_pos
  · next h =>
    have hpos := c.utf8Size_pos
    have hone : c.utf8Size ≠ 1 := by
      intro hsize
      exact h (UInt32.le_trans (Char.utf8Size_eq_one_iff.1 hsize) (by decide))
    have htwo : (2 : UInt32).toNat = 2 := rfl
    omega

theorem unitCount_le_byteSize (text : List Char) : unitCount text ≤ byteSize text := by
  induction text with
  | nil => exact Nat.le_refl _
  | cons c text ih => exact Nat.add_le_add (units_le_utf8Size c) ih

theorem length_le_unitCount (text : List Char) : text.length ≤ unitCount text := by
  induction text with
  | nil => exact Nat.le_refl _
  | cons c text ih =>
    have := units_pos c
    simp only [List.length_cons, unitCount_cons]
    omega

theorem length_le_byteSize (text : List Char) : text.length ≤ byteSize text :=
  Nat.le_trans (length_le_unitCount text) (unitCount_le_byteSize text)

theorem count_le_byteSize (c : Char) (text : List Char) : text.count c ≤ byteSize text :=
  Nat.le_trans List.count_le_length (length_le_byteSize text)

theorem unitCount_pos {text : List Char} (h : text ≠ []) : 0 < unitCount text :=
  Nat.lt_of_lt_of_le (List.length_pos_iff.2 h) (length_le_unitCount text)

theorem toNat_width (text : List Char) : (width text).toNat = unitCount text % 2 ^ 32 := by
  induction text with
  | nil => rfl
  | cons c text ih =>
    rw [width_cons, unitCount_cons, UInt32.toNat_add, ih]
    omega

theorem toNat_width_of_lt {text : List Char} (h : unitCount text < 2 ^ 32) :
    (width text).toNat = unitCount text := by
  rw [toNat_width, Nat.mod_eq_of_lt h]

theorem toNat_add_units {counted : UInt32} {c : Char}
    (h : counted.toNat + (units c).toNat < 2 ^ 32) :
    (counted + units c).toNat = counted.toNat + (units c).toNat := by
  rw [UInt32.toNat_add, Nat.mod_eq_of_lt h]

theorem toNat_add_width {column : UInt32} {text : List Char}
    (h : column.toNat + unitCount text < 2 ^ 32) :
    (column + width text).toNat = column.toNat + unitCount text := by
  rw [UInt32.toNat_add, toNat_width_of_lt (by omega), Nat.mod_eq_of_lt h]

end CirHighlight.Text
