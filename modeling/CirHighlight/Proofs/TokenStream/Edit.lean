import CirHighlight.TokenStream.Edit

namespace CirHighlight.Edit

variable {α : Type} [DecidableEq α]

theorem common_le_left (xs ys : List α) : common xs ys ≤ xs.length := by
  fun_induction common xs ys with
  | case1 xs y ys ih => exact Nat.succ_le_succ ih
  | case2 => exact Nat.zero_le _
  | case3 => exact Nat.zero_le _

theorem common_le_right (xs ys : List α) : common xs ys ≤ ys.length := by
  fun_induction common xs ys with
  | case1 xs y ys ih => exact Nat.succ_le_succ ih
  | case2 => exact Nat.zero_le _
  | case3 => exact Nat.zero_le _

theorem take_eq_take_of_le_common {xs ys : List α} {n : Nat} (h : n ≤ common xs ys) :
    xs.take n = ys.take n := by
  fun_induction common xs ys generalizing n with
  | case1 xs y ys ih =>
    cases n with
    | zero => rfl
    | succ n => rw [List.take_succ_cons, List.take_succ_cons, ih (Nat.le_of_succ_le_succ h)]
  | case2 =>
    cases Nat.le_zero.1 h
    rfl
  | case3 =>
    cases Nat.le_zero.1 h
    rfl

theorem drop_eq_drop_of_le_common_reverse {xs ys : List α} {n : Nat}
    (h : n ≤ common xs.reverse ys.reverse) :
    xs.drop (xs.length - n) = ys.drop (ys.length - n) := by
  have he := take_eq_take_of_le_common h
  rw [List.take_reverse, List.take_reverse] at he
  exact List.reverse_inj.1 he

theorem alignDown_le (stride n : Nat) : alignDown stride n ≤ n :=
  Nat.sub_le _ _

theorem alignDown_mod (stride n : Nat) : alignDown stride n % stride = 0 :=
  Nat.sub_mod_eq_zero_of_mod_eq (Nat.mod_mod n stride).symm

theorem applyTo_middle (front old new back : List UInt32) :
    applyTo ⟨front.length, old.length, new⟩ (front ++ old ++ back) = front ++ new ++ back := by
  have hstop : min (front.length + old.length) (front ++ old ++ back).length =
      (front ++ old).length := by
    simp only [List.length_append]
    omega
  have hstart : min front.length (front ++ old).length = front.length := by
    simp only [List.length_append]
    omega
  simp only [applyTo, hstop, hstart, List.drop_left]
  rw [List.append_assoc front old, List.take_left]

@[simp]
theorem between_self (stride : Nat) (data : List UInt32) : between stride data data = [] := by
  simp [between]

/-- Two lists that differ are cut into a common front, a middle that the edit replaces and a
common back. Front and back are whole strides long. -/
theorem between_of_ne (stride : Nat) {before after : List UInt32} (h : before ≠ after) :
    ∃ front old new back, before = front ++ old ++ back ∧ after = front ++ new ++ back ∧
      front.length % stride = 0 ∧ back.length % stride = 0 ∧
      between stride before after = [⟨front.length, old.length, new⟩] := by
  let start := alignDown stride (common before after)
  let kept := alignDown stride (common (before.drop start).reverse (after.drop start).reverse)
  have hstart : start ≤ common before after := alignDown_le _ _
  have hkept : kept ≤ common (before.drop start).reverse (after.drop start).reverse :=
    alignDown_le _ _
  have hl := common_le_left before after
  have hr := common_le_right before after
  have hkl := common_le_left (before.drop start).reverse (after.drop start).reverse
  have hkr := common_le_right (before.drop start).reverse (after.drop start).reverse
  simp only [List.length_reverse, List.length_drop] at hkl hkr
  have hfront : after.take start = before.take start :=
    (take_eq_take_of_le_common hstart).symm
  have hback : after.drop (after.length - kept) = before.drop (before.length - kept) := by
    have he := drop_eq_drop_of_le_common_reverse hkept
    simp only [List.drop_drop, List.length_drop] at he
    rw [show start + (before.length - start - kept) = before.length - kept by omega,
      show start + (after.length - start - kept) = after.length - kept by omega] at he
    exact he.symm
  have hsplit (data : List UInt32) (stop : Nat) (hle : start ≤ stop) :
      data = data.take start ++ (data.take stop).drop start ++ data.drop stop := by
    have htake : data.take start = (data.take stop).take start := by
      rw [List.take_take, Nat.min_eq_left hle]
    rw [htake, List.take_append_drop, List.take_append_drop]
  refine ⟨before.take start, (before.take (before.length - kept)).drop start,
    (after.take (after.length - kept)).drop start, before.drop (before.length - kept),
    hsplit before _ (by omega), ?_, ?_, ?_, ?_⟩
  · rw [← hfront, ← hback]
    exact hsplit after _ (by omega)
  · rw [List.length_take, Nat.min_eq_left (by omega)]
    exact alignDown_mod _ _
  · rw [List.length_drop, show before.length - (before.length - kept) = kept by omega]
    exact alignDown_mod _ _
  · have hlen : (before.take start).length = start := by
      rw [List.length_take]
      omega
    have hold : ((before.take (before.length - kept)).drop start).length =
        before.length - kept - start := by
      rw [List.length_drop, List.length_take]
      omega
    rw [hlen, hold]
    simp only [between, if_neg h]
    rfl

theorem apply_between (stride : Nat) (before after : List UInt32) :
    apply before (between stride before after) = after := by
  by_cases h : before = after
  · subst h
    simp [apply]
  · obtain ⟨front, old, new, back, hb, ha, -, -, he⟩ := between_of_ne stride h
    rw [he, hb, ha]
    exact applyTo_middle front old new back

theorem apply_diffTokens (before after : List UInt32) :
    apply before (diffTokens before after) = after :=
  apply_between 5 before after

/-- Between lists of whole tokens, an edit names places inside the first list and replaces whole
tokens by whole tokens. -/
theorem mem_diffTokens {before after : List UInt32} (hb : before.length % 5 = 0)
    (ha : after.length % 5 = 0) {edit : Edit} (h : edit ∈ diffTokens before after) :
    edit.start + edit.deleteCount ≤ before.length ∧ edit.start % 5 = 0 ∧
      edit.deleteCount % 5 = 0 ∧ edit.data.length % 5 = 0 := by
  by_cases hne : before = after
  · subst hne
    simp [diffTokens] at h
  · obtain ⟨front, old, new, back, rfl, rfl, hf, hk, he⟩ := between_of_ne 5 hne
    rw [diffTokens, he, List.mem_singleton] at h
    subst h
    simp only [List.length_append] at hb ha ⊢
    omega

end CirHighlight.Edit
