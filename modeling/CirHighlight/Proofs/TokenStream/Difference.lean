import CirHighlight.Proofs.TokenStream.Edit

namespace CirHighlight.Edit

section Checked

variable {α : Type}

/-- The difference of two numbers, unless the second is above the first. -/
def minus? (a b : Nat) : Option Nat :=
  if b ≤ a then some (a - b) else none

/-- The part of a list from one index to another, unless they are out of order or beyond the
list. -/
def slice? (data : List α) (start stop : Nat) : Option (List α) :=
  if start ≤ stop ∧ stop ≤ data.length then some ((data.take stop).drop start) else none

theorem minus?_eq_some {a b : Nat} (h : b ≤ a) : minus? a b = some (a - b) :=
  if_pos h

theorem slice?_eq_some {data : List α} {start stop : Nat} (hstart : start ≤ stop)
    (hstop : stop ≤ data.length) : slice? data start stop = some ((data.take stop).drop start) :=
  if_pos ⟨hstart, hstop⟩

theorem slice?_to_end {data : List α} {start : Nat} (h : start ≤ data.length) :
    slice? data start data.length = some (data.drop start) := by
  rw [slice?_eq_some h (Nat.le_refl _), List.take_length]

/-- The edits between two lists, computed with checks: there are none where a subtraction or a
slice would leave its range. -/
def checkedBetween (stride : Nat) (before after : List UInt32) : Option (List Edit) :=
  let shared := common before after
  if shared = before.length ∧ shared = after.length then some []
  else do
    let start ← minus? shared (shared % stride)
    let beforeRest ← slice? before start before.length
    let afterRest ← slice? after start after.length
    let shared := common beforeRest.reverse afterRest.reverse
    let kept ← minus? shared (shared % stride)
    let beforeEnd ← minus? before.length kept
    let afterEnd ← minus? after.length kept
    let deleteCount ← minus? beforeEnd start
    let data ← slice? after start afterEnd
    return [{ start, deleteCount, data }]

variable [DecidableEq α]

theorem common_self (xs : List α) : common xs xs = xs.length := by
  induction xs with
  | nil => rfl
  | cons x xs ih => rw [common, if_pos rfl, ih, List.length_cons]

theorem common_eq_lengths_iff {xs ys : List α} :
    common xs ys = xs.length ∧ common xs ys = ys.length ↔ xs = ys := by
  constructor
  · rintro ⟨hx, hy⟩
    have htake := take_eq_take_of_le_common (Nat.le_refl (common xs ys))
    rw [hx, List.take_length, ← hx, hy, List.take_length] at htake
    exact htake
  · rintro rfl
    exact ⟨common_self xs, common_self xs⟩

end Checked

theorem checkedBetween_eq_some (stride : Nat) (before after : List UInt32) :
    checkedBetween stride before after = some (between stride before after) := by
  unfold checkedBetween between
  by_cases hsame : before = after
  · rw [if_pos (common_eq_lengths_iff.2 hsame), if_pos hsame]
  rw [if_neg (mt common_eq_lengths_iff.1 hsame), if_neg hsame]
  simp only [Option.bind_eq_bind]
  have hstart := alignDown_le stride (common before after)
  have hleft := common_le_left before after
  have hright := common_le_right before after
  rw [minus?_eq_some (Nat.mod_le _ _), Option.bind_some, ← alignDown]
  generalize alignDown stride (common before after) = start at hstart
  rw [slice?_to_end (by omega), Option.bind_some, slice?_to_end (by omega), Option.bind_some]
  -- The common end is looked for after `start`, so it is not longer than what is left there.
  have hkept := alignDown_le stride (common (before.drop start).reverse (after.drop start).reverse)
  have hkeptLeft := common_le_left (before.drop start).reverse (after.drop start).reverse
  have hkeptRight := common_le_right (before.drop start).reverse (after.drop start).reverse
  rw [List.length_reverse, List.length_drop] at hkeptLeft hkeptRight
  rw [minus?_eq_some (Nat.mod_le _ _), Option.bind_some, ← alignDown]
  generalize alignDown stride (common (before.drop start).reverse (after.drop start).reverse) =
    kept at hkept
  rw [minus?_eq_some (by omega), Option.bind_some, minus?_eq_some (by omega), Option.bind_some,
    minus?_eq_some (by omega), Option.bind_some, slice?_eq_some (by omega) (by omega)]
  rfl

/-- Edits, one at most, that turn one list into another. They lie inside the first list, replace
whole strides by whole strides and are computed within all ranges. -/
structure Connects (stride : Nat) (before after : List UInt32) (edits : List Edit) : Prop where
  applied : apply before edits = after
  atMostOne : edits.length ≤ 1
  none_iff : edits = [] ↔ before = after
  inside : ∀ edit ∈ edits, edit.start + edit.deleteCount ≤ before.length
  aligned : ∀ edit ∈ edits, edit.start % stride = 0 ∧ edit.deleteCount % stride = 0 ∧
    edit.data.length % stride = 0
  inRange : checkedBetween stride before after = some edits

theorem connects_between {stride : Nat} {before after : List UInt32}
    (hb : before.length % stride = 0) (ha : after.length % stride = 0) :
    Connects stride before after (between stride before after) := by
  by_cases hsame : before = after
  · subst hsame
    have hrange := checkedBetween_eq_some stride before before
    rw [between_self] at hrange ⊢
    exact ⟨rfl, Nat.zero_le 1, by simp, by simp, by simp, hrange⟩
  · have happlied := apply_between stride before after
    have hrange := checkedBetween_eq_some stride before after
    obtain ⟨front, old, new, back, rfl, rfl, hfront, hback, hedit⟩ := between_of_ne stride hsame
    rw [hedit] at happlied hrange ⊢
    refine ⟨happlied, Nat.le_refl 1, by simpa using hsame, ?_, ?_, hrange⟩
    · intro edit hmem
      rw [List.mem_singleton.1 hmem, List.length_append, List.length_append]
      exact Nat.le_add_right _ _
    · intro edit hmem
      rw [List.mem_singleton.1 hmem]
      have hmiddle {middle : List UInt32} (h : (front ++ middle ++ back).length % stride = 0) :
          middle.length % stride = 0 := by
        rw [List.length_append, List.length_append] at h
        have hdvd := (Nat.dvd_add_iff_left (Nat.dvd_of_mod_eq_zero hback)).2
          (Nat.dvd_of_mod_eq_zero h)
        exact Nat.mod_eq_zero_of_dvd
          ((Nat.dvd_add_iff_right (Nat.dvd_of_mod_eq_zero hfront)).2 hdvd)
      exact ⟨hfront, hmiddle hb, hmiddle ha⟩

/-- The edits between any two lists connect them, and those between lists of whole tokens do so
in whole tokens. -/
theorem diff_connects (before after : List UInt32) :
    Connects 1 before after (diff before after) ∧
      (before.length % 5 = 0 → after.length % 5 = 0 →
        Connects 5 before after (diffTokens before after)) := by
  constructor
  · exact connects_between (Nat.mod_one _) (Nat.mod_one _)
  · intro hb ha
    exact connects_between hb ha

/-- Equal tokens on both sides of the change, so that the common start and the common end compete
for them. -/
theorem diff_connects_repeated :
    ([0, 1, 1, 0, 0] : List UInt32).length % 5 = 0 ∧
      ([0, 1, 1, 0, 0, 0, 1, 1, 0, 0] : List UInt32).length % 5 = 0 ∧
      Connects 5 [0, 1, 1, 0, 0] [0, 1, 1, 0, 0, 0, 1, 1, 0, 0] [⟨5, 0, [0, 1, 1, 0, 0]⟩] := by
  have hbefore : ([0, 1, 1, 0, 0] : List UInt32).length % 5 = 0 := by decide
  have hafter : ([0, 1, 1, 0, 0, 0, 1, 1, 0, 0] : List UInt32).length % 5 = 0 := by decide
  have hedits : diffTokens [0, 1, 1, 0, 0] [0, 1, 1, 0, 0, 0, 1, 1, 0, 0] =
      [⟨5, 0, [0, 1, 1, 0, 0]⟩] := by decide
  have hconnects := (diff_connects _ _).2 hbefore hafter
  rw [hedits] at hconnects
  exact ⟨hbefore, hafter, hconnects⟩

end CirHighlight.Edit
