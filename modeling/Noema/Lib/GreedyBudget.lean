import Mathlib.Algebra.BigOperators.Group.List.Basic
import Mathlib.Algebra.Order.BigOperators.Group.List
import Mathlib.Algebra.Order.Group.Defs
import Mathlib.Data.List.Nodup

/-!
# Taking what fits

A walk over ranked items takes each one that costs no more than what is left of a budget,
until it has taken as many as it may.  An item that is left out did not fit after those
before it (`left_out`).
-/
namespace GreedyBudget

variable {α K : Type*} [AddCommGroup K] [LinearOrder K]

/-- What has been taken, and what is left of the budget. -/
def walk (cost : α → K) (limit : Int) : List α → List α → K → List α × K
  | [], taken, left => (taken, left)
  | item :: rest, taken, left =>
    if limit ≤ taken.length then (taken, left)
    else if left < cost item then walk cost limit rest taken left
    else walk cost limit rest (taken ++ [item]) (left - cost item)

variable {cost : α → K} {limit : Int} {items taken : List α} {left : K}

theorem walk_cons (item : α) : walk cost limit (item :: items) taken left =
    if limit ≤ taken.length then (taken, left)
    else if left < cost item then walk cost limit items taken left
    else walk cost limit items (taken ++ [item]) (left - cost item) := rfl

/-- After the limit is reached nothing is taken. -/
theorem walk_of_full (h : limit ≤ taken.length) : walk cost limit items taken left = (taken, left) := by
  cases items with
  | nil => rfl
  | cons item rest => rw [walk_cons, if_pos h]

/-- A walk goes on where it was. -/
theorem walk_append {before after : List α} : walk cost limit (before ++ after) taken left =
    walk cost limit after (walk cost limit before taken left).1
      (walk cost limit before taken left).2 := by
  induction before generalizing taken left with
  | nil => rfl
  | cons item before ih =>
    rw [List.cons_append, walk_cons, walk_cons]
    split_ifs with hfull hcost
    · exact (walk_of_full hfull).symm
    · exact ih
    · exact ih

/-- **What a walk takes**: some of the items, in their order, at their cost. -/
theorem walk_taken (cost : α → K) (limit : Int) (items taken : List α) (left : K) :
    ∃ more, more.Sublist items ∧ (walk cost limit items taken left).1 = taken ++ more ∧
      (walk cost limit items taken left).2 = left - (more.map cost).sum := by
  induction items generalizing taken left with
  | nil => exact ⟨[], .slnil, (List.append_nil _).symm, by
    rw [List.map_nil, List.sum_nil, sub_zero]
    rfl⟩
  | cons item items ih =>
    rw [walk_cons]
    split_ifs with hfull hcost
    · exact ⟨[], List.nil_sublist _, (List.append_nil _).symm, by simp⟩
    · obtain ⟨more, hsub, htaken, hleft⟩ := ih taken left
      exact ⟨more, hsub.cons item, htaken, hleft⟩
    · obtain ⟨more, hsub, htaken, hleft⟩ := ih (taken ++ [item]) (left - cost item)
      refine ⟨item :: more, hsub.cons_cons item, ?_, ?_⟩
      · rw [htaken, List.append_assoc]
        rfl
      · rw [hleft, List.map_cons, List.sum_cons, sub_sub]

theorem walk_length_le (h : (taken.length : Int) ≤ limit) :
    ((walk cost limit items taken left).1.length : Int) ≤ limit := by
  induction items generalizing taken left with
  | nil => exact h
  | cons item items ih =>
    rw [walk_cons]
    split_ifs with hfull hcost
    · exact h
    · exact ih h
    · refine ih ?_
      rw [List.length_append, List.length_singleton]
      omega

theorem walk_left_nonneg [IsOrderedAddMonoid K] (h : 0 ≤ left) :
    0 ≤ (walk cost limit items taken left).2 := by
  induction items generalizing taken left with
  | nil => exact h
  | cons item items ih =>
    rw [walk_cons]
    split_ifs with hfull hcost
    · exact h
    · exact ih h
    · exact ih (sub_nonneg.mpr (not_lt.mp hcost))

/-- **An item that is left out did not fit** what was left after the items before it. -/
theorem left_out {before after : List α} {item : α}
    (h : item ∉ (walk cost limit (before ++ item :: after) taken left).1) :
    limit ≤ (walk cost limit before taken left).1.length ∨
      (walk cost limit before taken left).2 < cost item := by
  rw [walk_append, walk_cons] at h
  split_ifs at h with hfull hcost
  · exact .inl hfull
  · exact .inr hcost
  · obtain ⟨more, -, htaken, -⟩ := walk_taken cost limit after
      ((walk cost limit before taken left).1 ++ [item])
      ((walk cost limit before taken left).2 - cost item)
    rw [htaken] at h
    exact absurd (List.mem_append_left _ (List.mem_append_right _ List.mem_cons_self)) h

/-! ## By their keys -/

variable {κ : Type*} [DecidableEq κ] {key : α → κ}

/-- What is taken from items with distinct keys is found by its keys. -/
theorem filter_key_eq (hsub : taken.Sublist items) (hkeys : (items.map key).Nodup) :
    (items.filter fun item => key item ∈ taken.map key) = taken := by
  induction hsub with
  | slnil => rfl
  | @cons rest items item hsub ih =>
    have hout : key item ∉ rest.map key := fun hmem =>
      (List.nodup_cons.mp hkeys).1 ((hsub.map key).subset hmem)
    rw [List.filter_cons_of_neg (by simpa using hout)]
    exact ih (List.nodup_cons.mp hkeys).2
  | @cons_cons rest items item hsub ih =>
    have hrest : ∀ other ∈ items,
        decide (key other ∈ (item :: rest).map key) = decide (key other ∈ rest.map key) := by
      intro other hother
      have hne : key other ≠ key item := fun heq =>
        (List.nodup_cons.mp hkeys).1 (heq ▸ List.mem_map_of_mem hother)
      simp [hne]
    rw [List.filter_cons_of_pos (by simp), List.filter_congr hrest]
    exact congrArg _ (ih (List.nodup_cons.mp hkeys).2)

/-- The items before one are taken as if they were all. -/
theorem filter_before (key : α → κ) {before after : List α}
    (hkeys : ((before ++ after).map key).Nodup) :
    (before.filter fun item =>
      key item ∈ ((walk cost limit (before ++ after) [] left).1.map key)) =
      (walk cost limit before [] left).1 := by
  obtain ⟨taken, hsub, htaken, -⟩ := walk_taken cost limit before [] left
  obtain ⟨more, hmore, hall, -⟩ := walk_taken cost limit after
    (walk cost limit before [] left).1 (walk cost limit before [] left).2
  rw [List.nil_append] at htaken
  rw [walk_append, hall, htaken]
  rw [List.map_append, List.nodup_append] at hkeys
  have hbefore : ∀ item ∈ before,
      decide (key item ∈ (taken ++ more).map key) = decide (key item ∈ taken.map key) := by
    intro item hitem
    have hout : key item ∉ more.map key := fun hmem =>
      hkeys.2.2 _ (List.mem_map_of_mem hitem) _ ((hmore.map key).subset hmem) rfl
    rw [decide_eq_decide, List.map_append, List.mem_append, or_iff_left hout]
  rw [List.filter_congr hbefore]
  exact filter_key_eq hsub hkeys.1

end GreedyBudget
