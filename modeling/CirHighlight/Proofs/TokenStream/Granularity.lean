import CirHighlight.Proofs.TokenStream.Difference

namespace CirHighlight.Edit

section Common

variable {α : Type} [DecidableEq α]

theorem common_take (xs ys : List α) (m n : Nat) :
    common (xs.take m) (ys.take n) = min (common xs ys) (min m n) := by
  fun_induction common xs ys generalizing m n with
  | case1 xs y ys ih =>
    cases m with
    | zero => simp [common]
    | succ m =>
      cases n with
      | zero => simp [common]
      | succ n =>
        rw [List.take_succ_cons, List.take_succ_cons, common, if_pos rfl, ih]
        omega
  | case2 x xs y ys hne =>
    rw [Nat.zero_min]
    cases m with
    | zero => rfl
    | succ m =>
      cases n with
      | zero => simp [common]
      | succ n => rw [List.take_succ_cons, List.take_succ_cons, common, if_neg hne]
  | case3 xs ys hnil =>
    rw [Nat.zero_min]
    cases xs with
    | nil => simp [common]
    | cons x xs =>
      cases ys with
      | nil => simp [common]
      | cons y ys => exact (hnil x xs y ys rfl rfl).elim

theorem common_drop_reverse (xs ys : List α) (start : Nat) :
    common (xs.drop start).reverse (ys.drop start).reverse =
      min (common xs.reverse ys.reverse) (min xs.length ys.length - start) := by
  rw [List.reverse_drop, List.reverse_drop, common_take]
  omega

end Common

theorem lt_alignDown_add {stride : Nat} (h : 0 < stride) (n : Nat) :
    n < alignDown stride n + stride := by
  have hmod := Nat.mod_lt n h
  unfold alignDown
  omega

theorem alignDown_one (n : Nat) : alignDown 1 n = n := by
  rw [alignDown, Nat.mod_one, Nat.sub_zero]

theorem exists_between_eq (stride : Nat) {before after : List UInt32} (h : before ≠ after) :
    ∃ edit kept, between stride before after = [edit] ∧
      edit.start = alignDown stride (common before after) ∧
      kept = alignDown stride (min (common before.reverse after.reverse)
        (min before.length after.length - edit.start)) ∧
      edit.start + edit.deleteCount + kept = before.length ∧
      edit.start + edit.data.length + kept = after.length := by
  have hstart := alignDown_le stride (common before after)
  have hleft := common_le_left before after
  have hright := common_le_right before after
  refine ⟨_, _, if_neg h, rfl, rfl, ?_, ?_⟩
  all_goals
    simp only [common_drop_reverse, List.length_drop, List.length_take]
    have hkept := alignDown_le stride (min (common before.reverse after.reverse)
      (min before.length after.length - alignDown stride (common before after)))
    omega

/-- The edit in whole strides starts before the edit between single elements by less than a stride.
It deletes and inserts the same number of elements more, which is less than two strides. -/
theorem exists_between_near_diff {stride : Nat} (hstride : 0 < stride) {before after : List UInt32}
    (h : before ≠ after) :
    ∃ coarse fine, between stride before after = [coarse] ∧ diff before after = [fine] ∧
      coarse.start ≤ fine.start ∧ fine.start < coarse.start + stride ∧
      ∃ extra, extra + 2 ≤ 2 * stride ∧ coarse.deleteCount = fine.deleteCount + extra ∧
        coarse.data.length = fine.data.length + extra := by
  obtain ⟨coarse, kept, hcoarse, hstart, hkept, hdeleted, hinserted⟩ := exists_between_eq stride h
  obtain ⟨fine, keptFine, hfine, hstartFine, hkeptFine, hdeletedFine, hinsertedFine⟩ :=
    exists_between_eq 1 h
  rw [alignDown_one] at hstartFine hkeptFine
  refine ⟨coarse, fine, hcoarse, hfine, ?_⟩
  have hstartLe := alignDown_le stride (common before after)
  have hstartLt := lt_alignDown_add hstride (common before after)
  rw [← hstart, ← hstartFine] at hstartLe hstartLt
  have hkeptLe := alignDown_le stride (min (common before.reverse after.reverse)
    (min before.length after.length - coarse.start))
  have hkeptLt := lt_alignDown_add hstride (min (common before.reverse after.reverse)
    (min before.length after.length - coarse.start))
  rw [← hkept] at hkeptLe hkeptLt
  -- What both edits keep, start and end together, is bounded by the shorter list alone where the
  -- two compete, and by the common start and the common end where they do not.
  have hroom : fine.start ≤ min before.length after.length := by
    have hleft := common_le_left before after
    have hright := common_le_right before after
    omega
  have hless : coarse.start + kept ≤ fine.start + keptFine := by omega
  have hmore : fine.start + keptFine + 2 ≤ coarse.start + kept + 2 * stride := by omega
  refine ⟨hstartLe, hstartLt, fine.start + keptFine - (coarse.start + kept), ?_, ?_, ?_⟩
  · omega
  · omega
  · omega

/-- The edit in whole tokens is missing exactly when the edit between single integers is. Otherwise
it starts at most four integers earlier, and deletes and inserts the same number of integers more,
at most eight. It need not reach as far as the other one. -/
theorem diffTokens_near_diff :
    (∀ before after : List UInt32,
      (diffTokens before after = [] ↔ diff before after = []) ∧
        (diff before after ≠ [] →
          ∃ coarse fine, diffTokens before after = [coarse] ∧ diff before after = [fine] ∧
            coarse.start ≤ fine.start ∧ fine.start - coarse.start ≤ 4 ∧
            ∃ extra ≤ 8, coarse.deleteCount = fine.deleteCount + extra ∧
              coarse.data.length = fine.data.length + extra)) ∧
      ∃ before after coarse fine, before.length % 5 = 0 ∧ after.length % 5 = 0 ∧
        diffTokens before after = [coarse] ∧ diff before after = [fine] ∧
        coarse.start + coarse.deleteCount < fine.start + fine.deleteCount := by
  constructor
  · intro before after
    by_cases hsame : before = after
    · subst hsame
      rw [diffTokens, diff, between_self, between_self]
      exact ⟨Iff.rfl, fun hne => (hne rfl).elim⟩
    · obtain ⟨coarse, fine, hcoarse, hfine, hle, hlt, extra, hextra, hdeleted, hinserted⟩ :=
        exists_between_near_diff (show 0 < 5 by decide) hsame
      rw [diffTokens, hcoarse, hfine]
      refine ⟨iff_of_false (List.cons_ne_nil _ _) (List.cons_ne_nil _ _), ?_⟩
      intro _
      exact ⟨coarse, fine, rfl, rfl, hle, by omega, extra, by omega, hdeleted, hinserted⟩
  · exact ⟨[1, 2, 9, 9, 9, 1, 2, 3, 4, 5], [1, 2, 3, 4, 5], ⟨0, 5, []⟩, ⟨2, 5, []⟩, by decide⟩

/-- The common start ends inside one token and the common end inside another, so that the edit grows
by four integers at both ends. -/
theorem diffTokens_near_diff_both_ends :
    let before : List UInt32 := [0, 1, 1, 0, 0, 7, 1, 1, 0, 0]
    let after : List UInt32 := [0, 1, 1, 0, 2, 3, 1, 1, 0, 0]
    diff before after ≠ [] ∧ diffTokens before after = [⟨0, 10, after⟩] ∧
      diff before after = [⟨4, 2, [2, 3]⟩] ∧
      ∃ coarse fine, diffTokens before after = [coarse] ∧ diff before after = [fine] ∧
        coarse.start ≤ fine.start ∧ fine.start - coarse.start ≤ 4 ∧
        ∃ extra ≤ 8, coarse.deleteCount = fine.deleteCount + extra ∧
          coarse.data.length = fine.data.length + extra := by
  intro before after
  have hdiff : diff before after = [⟨4, 2, [2, 3]⟩] := by decide
  have hne : diff before after ≠ [] := by
    rw [hdiff]
    exact List.cons_ne_nil _ _
  exact ⟨hne, by decide, hdiff, (diffTokens_near_diff.1 before after).2 hne⟩

end CirHighlight.Edit
