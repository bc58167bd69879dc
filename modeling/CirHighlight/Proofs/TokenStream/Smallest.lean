import CirHighlight.Proofs.TokenStream.Confined
import CirHighlight.Proofs.TokenStream.Difference

namespace CirHighlight.Edit

/-- An edit inside a list that turns it into another list. -/
structure Turns (before after : List UInt32) (edit : Edit) : Prop where
  inside : edit.start + edit.deleteCount ≤ before.length
  applied : apply before [edit] = after

/-- An edit that deletes as little and inserts as little as any other with the same property. -/
structure Smallest (Allowed : Edit → Prop) (edit : Edit) : Prop where
  allowed : Allowed edit
  deleteCount_le {other : Edit} (h : Allowed other) : edit.deleteCount ≤ other.deleteCount
  length_data_le {other : Edit} (h : Allowed other) : edit.data.length ≤ other.data.length

theorem Turns.exists_parts {before after : List UInt32} {edit : Edit}
    (h : edit.Turns before after) :
    ∃ front old back, before = front ++ (old ++ back) ∧ after = front ++ (edit.data ++ back) ∧
      front.length = edit.start ∧ old.length = edit.deleteCount := by
  obtain ⟨hinside, happlied⟩ := h
  have hstart : (before.take edit.start).length = edit.start := by
    rw [List.length_take]
    omega
  have hold : ((before.drop edit.start).take edit.deleteCount).length = edit.deleteCount := by
    rw [List.length_take, List.length_drop]
    omega
  have hbefore : before = before.take edit.start ++
      ((before.drop edit.start).take edit.deleteCount ++
        before.drop (edit.start + edit.deleteCount)) := by
    rw [← List.drop_drop, List.take_append_drop, List.take_append_drop]
  refine ⟨_, _, _, hbefore, ?_, hstart, hold⟩
  rw [← happlied]
  change applyTo edit before = _
  simp only [applyTo, Nat.min_eq_left hinside, Nat.min_eq_left (Nat.le_add_right _ _),
    List.append_assoc]

theorem min_mod_eq_zero {stride m n : Nat} (hm : m % stride = 0) (hn : n % stride = 0) :
    min m n % stride = 0 := by
  rcases Nat.le_total m n with hle | hle
  · rwa [Nat.min_eq_left hle]
  · rwa [Nat.min_eq_right hle]

theorem le_common_drop_reverse {before after back : List UInt32} (hbefore : back <:+ before)
    (hafter : back <:+ after) {start kept : Nat} (hkept : kept ≤ back.length)
    (hroomBefore : start + kept ≤ before.length) (hroomAfter : start + kept ≤ after.length) :
    kept ≤ common (before.drop start).reverse (after.drop start).reverse := by
  have hlength : (back.drop (back.length - kept)).length = kept := by
    rw [List.length_drop, Nat.sub_sub_self hkept]
  have hshared {data : List UInt32} (hsuffix : back <:+ data) (hroom : start + kept ≤ data.length) :
      back.drop (back.length - kept) <:+ data.drop start := by
    apply List.suffix_of_suffix_length_le ((List.drop_suffix _ _).trans hsuffix)
      (List.drop_suffix start data)
    rw [hlength, List.length_drop]
    omega
  have hle := length_le_common_reverse (hshared hbefore hroomBefore) (hshared hafter hroomAfter)
  rwa [hlength] at hle

/-- The edit between two lists replaces no more than what lies between any common front and any
common back of whole strides. -/
theorem mem_between_le_middle {stride : Nat} {front old new back : List UInt32}
    (hfront : front.length % stride = 0) (hback : back.length % stride = 0)
    (hbefore : (front ++ (old ++ back)).length % stride = 0)
    (hafter : (front ++ (new ++ back)).length % stride = 0) {edit : Edit}
    (hmem : edit ∈ between stride (front ++ (old ++ back)) (front ++ (new ++ back))) :
    edit.deleteCount ≤ old.length ∧ edit.data.length ≤ new.length := by
  have hstart := le_alignDown hfront
    (length_le_common (List.prefix_append front (old ++ back))
      (List.prefix_append front (new ++ back)))
  have hbackOld : back <:+ front ++ (old ++ back) :=
    (List.suffix_append old back).trans (List.suffix_append front _)
  have hbackNew : back <:+ front ++ (new ++ back) :=
    (List.suffix_append new back).trans (List.suffix_append front _)
  have hold : (front ++ (old ++ back)).length = front.length + old.length + back.length := by
    rw [List.length_append, List.length_append, Nat.add_assoc]
  have hnew : (front ++ (new ++ back)).length = front.length + new.length + back.length := by
    rw [List.length_append, List.length_append, Nat.add_assoc]
  unfold between at hmem
  split at hmem
  · cases hmem
  generalize front ++ (old ++ back) = before at *
  generalize front ++ (new ++ back) = after at *
  have hwhole := alignDown_mod stride (common before after)
  have hcommon := alignDown_le stride (common before after)
  have hleft := common_le_left before after
  have hright := common_le_right before after
  generalize alignDown stride (common before after) = start at *
  -- The back may reach over the start of the edit, and then only its end is still common.
  let room := min before.length after.length - start
  have hroom : room % stride = 0 :=
    Nat.sub_mod_eq_zero_of_mod_eq ((min_mod_eq_zero hbefore hafter).trans hwhole.symm)
  have hkept := le_alignDown (min_mod_eq_zero hback hroom)
    (le_common_drop_reverse hbackOld hbackNew (Nat.min_le_left back.length room)
      (show start + min back.length room ≤ before.length by omega)
      (show start + min back.length room ≤ after.length by omega))
  rw [List.mem_singleton.1 hmem]
  simp only [List.length_drop, List.length_take]
  omega

theorem smallest_between {stride : Nat} {before after : List UInt32} (hne : before ≠ after)
    (hbefore : before.length % stride = 0) (hafter : after.length % stride = 0) :
    ∃ edit, between stride before after = [edit] ∧
      edit.Smallest fun other => other.Turns before after ∧
        other.start % stride = 0 ∧ other.deleteCount % stride = 0 := by
  have hconnects := connects_between hbefore hafter
  obtain ⟨front, old, new, back, -, -, -, -, hedit⟩ := between_of_ne stride hne
  have hmem : ⟨front.length, old.length, new⟩ ∈ between stride before after := by
    rw [hedit]
    exact List.mem_cons_self
  have hallowed : Turns before after ⟨front.length, old.length, new⟩ := by
    refine ⟨hconnects.inside _ hmem, ?_⟩
    rw [← hedit]
    exact hconnects.applied
  have hleast {other : Edit} (hturns : other.Turns before after)
      (hstart : other.start % stride = 0) (hcount : other.deleteCount % stride = 0) :
      old.length ≤ other.deleteCount ∧ new.length ≤ other.data.length := by
    obtain ⟨first, middle, last, rfl, rfl, hfirst, hmiddle⟩ := hturns.exists_parts
    rw [← hfirst] at hstart
    rw [← hmiddle] at hcount ⊢
    have hlast : last.length % stride = 0 := by
      rw [List.length_append, List.length_append] at hbefore
      have hrest := (Nat.dvd_add_iff_right (Nat.dvd_of_mod_eq_zero hstart)).2
        (Nat.dvd_of_mod_eq_zero hbefore)
      exact Nat.mod_eq_zero_of_dvd
        ((Nat.dvd_add_iff_right (Nat.dvd_of_mod_eq_zero hcount)).2 hrest)
    exact mem_between_le_middle hstart hlast hbefore hafter hmem
  obtain ⟨hstart, hcount, -⟩ := hconnects.aligned _ hmem
  refine ⟨_, hedit, ⟨hallowed, hstart, hcount⟩, ?_, ?_⟩
  · rintro other ⟨hturns, hstart, hcount⟩
    exact (hleast hturns hstart hcount).1
  · rintro other ⟨hturns, hstart, hcount⟩
    exact (hleast hturns hstart hcount).2

/-- Lists that differ have an edit between them, which is the smallest that turns one into the
other; and if both are whole tokens, the edit in whole tokens is the smallest such edit. -/
theorem diff_smallest {before after : List UInt32} (hne : before ≠ after) :
    (∃ edit, diff before after = [edit] ∧ edit.Smallest (Turns before after)) ∧
      (before.length % 5 = 0 → after.length % 5 = 0 →
        ∃ edit, diffTokens before after = [edit] ∧
          edit.Smallest fun other => other.Turns before after ∧
            other.start % 5 = 0 ∧ other.deleteCount % 5 = 0) := by
  constructor
  · obtain ⟨edit, hedit, hsmallest⟩ :=
      smallest_between hne (Nat.mod_one before.length) (Nat.mod_one after.length)
    refine ⟨edit, hedit, hsmallest.allowed.1, ?_, ?_⟩
    · intro other hturns
      exact hsmallest.deleteCount_le ⟨hturns, Nat.mod_one _, Nat.mod_one _⟩
    · intro other hturns
      exact hsmallest.length_data_le ⟨hturns, Nat.mod_one _, Nat.mod_one _⟩
  · intro hbefore hafter
    exact smallest_between hne hbefore hafter

/-- A token is repeated, so that edits at other places do the same, and the token is inserted where
the common start has used up all that could be common at the end. -/
theorem diff_smallest_repeated :
    let before : List UInt32 := [0, 1, 1, 0, 0]
    let after : List UInt32 := [0, 1, 1, 0, 0, 0, 1, 1, 0, 0]
    before ≠ after ∧ before.length % 5 = 0 ∧ after.length % 5 = 0 ∧
      Turns before after ⟨0, 0, [0, 1, 1, 0, 0]⟩ ∧
      Smallest (Turns before after) ⟨5, 0, [0, 1, 1, 0, 0]⟩ ∧
      Smallest (fun other => other.Turns before after ∧
        other.start % 5 = 0 ∧ other.deleteCount % 5 = 0) ⟨5, 0, [0, 1, 1, 0, 0]⟩ := by
  intro before after
  have hne : before ≠ after := by decide
  have hbefore : before.length % 5 = 0 := by decide
  have hafter : after.length % 5 = 0 := by decide
  have hdiff : diff before after = [⟨5, 0, [0, 1, 1, 0, 0]⟩] := by decide
  have htokens : diffTokens before after = [⟨5, 0, [0, 1, 1, 0, 0]⟩] := by decide
  obtain ⟨⟨edit, hedit, hsmallest⟩, hwhole⟩ := diff_smallest hne
  obtain ⟨token, htoken, hsmallestToken⟩ := hwhole hbefore hafter
  rw [hdiff] at hedit
  rw [htokens] at htoken
  cases hedit
  cases htoken
  exact ⟨hne, hbefore, hafter, ⟨by decide, by decide⟩, hsmallest, hsmallestToken⟩

end CirHighlight.Edit
