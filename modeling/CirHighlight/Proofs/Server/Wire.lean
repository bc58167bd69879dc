import Mathlib.Algebra.Ring.Nat
import CirHighlight.Proofs.TokenStream.Edit
import CirHighlight.Server.Wire

namespace CirHighlight

namespace TokenStream

theorem length_integers_mod (stream : TokenStream) : stream.integers.length % 5 = 0 := by
  rw [length_integers, tokenWidth]
  omega

theorem integers_ofIntegers {data : List UInt32} (h : data.length % 5 = 0) :
    integers (ofIntegers data) = data := by
  fun_induction ofIntegers data with
  | case1 deltaLine deltaStart length category modifiers rest ih =>
    have hrest : rest.length % 5 = 0 := by
      simp only [List.length_cons] at h
      omega
    have hcons : integers (⟨deltaLine, deltaStart, length, category, modifiers⟩ :: ofIntegers rest) =
        deltaLine :: deltaStart :: length :: category :: modifiers ::
          integers (ofIntegers rest) := rfl
    rw [hcons, ih hrest]
  | case2 data hshort =>
    match data, hshort, h with
    | [], _, _ => rfl
    | [_], _, h | [_, _], _, h | [_, _, _], _, h | [_, _, _, _], _, h => cases h
    | a :: b :: c :: d :: e :: rest, hshort, _ => exact (hshort a b c d e rest rfl).elim

end TokenStream

namespace WireEdit

theorem toEdit_ofEdit {edit : Edit} (hstart : edit.start < 2 ^ 32)
    (hcount : edit.deleteCount < 2 ^ 32) (hdata : edit.data.length % 5 = 0) :
    toEdit (ofEdit edit) = edit := by
  obtain ⟨start, deleteCount, data⟩ := edit
  have hs : start.toUInt32.toNat = start := by
    rw [UInt32.toNat_ofNat']
    exact Nat.mod_eq_of_lt hstart
  have hc : deleteCount.toUInt32.toNat = deleteCount := by
    rw [UInt32.toNat_ofNat']
    exact Nat.mod_eq_of_lt hcount
  have hd : TokenStream.integers ((if data.isEmpty then none
      else some (TokenStream.ofIntegers data)).getD []) = data := by
    cases data with
    | nil => rfl
    | cons x data => exact TokenStream.integers_ofIntegers hdata
  simp only [toEdit, ofEdit, hs, hc, hd]

theorem apply_toEdit_ofEdit (before after : TokenStream) (h : before.integers.length < 2 ^ 32) :
    Edit.apply before.integers
      (((Edit.diffTokens before.integers after.integers).map ofEdit).map toEdit) =
      after.integers := by
  have hread : ((Edit.diffTokens before.integers after.integers).map ofEdit).map toEdit =
      Edit.diffTokens before.integers after.integers := by
    rw [List.map_map]
    refine (List.map_congr_left (g := id) ?_).trans (List.map_id _)
    intro edit hedit
    obtain ⟨hle, -, -, hdata⟩ :=
      Edit.mem_diffTokens before.length_integers_mod after.length_integers_mod hedit
    exact toEdit_ofEdit (by omega) (by omega) hdata
  rw [hread]
  exact Edit.apply_diffTokens before.integers after.integers

end WireEdit

end CirHighlight
