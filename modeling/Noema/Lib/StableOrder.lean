import Mathlib.Data.List.Sort

/-!
# Stable sorting

Where an element stands after a stable sort: what is sorted without it stands around it in
the same order, and what comes after it is greater or came after it before.
-/
namespace StableOrder

variable {α : Type*} {r : α → α → Prop} [DecidableRel r]

/-- Inserting another element moves nothing over `a`. -/
theorem orderedInsert_split [IsTrans α r] (b a : α) {xs ys : List α}
    (h : (xs ++ a :: ys).Pairwise r) :
    ∃ xs' ys', (xs ++ a :: ys).orderedInsert r b = xs' ++ a :: ys' ∧
      (xs ++ ys).orderedInsert r b = xs' ++ ys' ∧ ∀ y ∈ ys', y ∈ ys ∨ ¬ r y a := by
  induction xs with
  | nil =>
    rw [List.nil_append] at h
    obtain ⟨hhead, -⟩ := List.pairwise_cons.mp h
    by_cases hba : r b a
    · refine ⟨[b], ys, List.orderedInsert_cons_of_le _ _ hba, ?_, fun y hy => .inl hy⟩
      cases ys with
      | nil => rfl
      | cons y ys =>
        exact List.orderedInsert_cons_of_le _ _ (IsTrans.trans _ _ _ hba (hhead y List.mem_cons_self))
    · refine ⟨[], ys.orderedInsert r b, List.orderedInsert_of_not_le _ _ hba, rfl, ?_⟩
      intro y hy
      rcases (List.mem_orderedInsert r).mp hy with rfl | hy
      · exact .inr hba
      · exact .inl hy
  | cons x xs ih =>
    by_cases hbx : r b x
    · exact ⟨b :: x :: xs, ys, List.orderedInsert_cons_of_le _ _ hbx,
        List.orderedInsert_cons_of_le _ _ hbx, fun y hy => .inl hy⟩
    · obtain ⟨xs', ys', heq, heq', hys⟩ := ih (List.pairwise_cons.mp h).2
      refine ⟨x :: xs', ys', ?_, ?_, hys⟩
      · exact (List.orderedInsert_of_not_le _ _ hbx).trans (congrArg _ heq)
      · exact (List.orderedInsert_of_not_le _ _ hbx).trans (congrArg _ heq')

/-- **Where an element stands after a sort.** -/
theorem insertionSort_split [Std.Total r] [IsTrans α r] (before after : List α) (a : α) :
    ∃ xs ys, (before ++ a :: after).insertionSort r = xs ++ a :: ys ∧
      (before ++ after).insertionSort r = xs ++ ys ∧ ∀ y ∈ ys, y ∈ after ∨ ¬ r y a := by
  induction before with
  | nil =>
    refine ⟨_, _, List.orderedInsert_eq_take_drop r a _, ?_, fun y hy => .inl ?_⟩
    · exact (List.takeWhile_append_dropWhile).symm
    · exact (List.mem_insertionSort r).mp ((List.dropWhile_sublist _).subset hy)
  | cons b before ih =>
    obtain ⟨xs, ys, heq, heq', hys⟩ := ih
    have hsorted := List.pairwise_insertionSort r (before ++ a :: after)
    rw [heq] at hsorted
    obtain ⟨xs', ys', hins, hins', hys'⟩ := orderedInsert_split b a hsorted
    refine ⟨xs', ys', ?_, ?_, ?_⟩
    · exact (congrArg (List.orderedInsert r b) heq).trans hins
    · exact (congrArg (List.orderedInsert r b) heq').trans hins'
    · intro y hy
      rcases hys' y hy with hold | hgreater
      · exact hys y hold
      · exact .inr hgreater

/-- **Elements that the order tells apart are sorted the same whatever order they come in.** -/
theorem insertionSort_eq_of_perm [Std.Total r] [IsTrans α r] {xs ys : List α}
    (hdistinct : ∀ a ∈ ys, ∀ b ∈ ys, r a b → r b a → a = b) (h : xs.Perm ys) :
    xs.insertionSort r = ys.insertionSort r := by
  have hperm : (xs.insertionSort r).Perm (ys.insertionSort r) :=
    (List.perm_insertionSort r xs).trans (h.trans (List.perm_insertionSort r ys).symm)
  refine hperm.eq_of_pairwise (fun a b ha hb hab hba => ?_)
    (List.pairwise_insertionSort r xs) (List.pairwise_insertionSort r ys)
  have ha : a ∈ ys := h.subset ((List.mem_insertionSort r).mp ha)
  have hb : b ∈ ys := (List.mem_insertionSort r).mp hb
  exact hdistinct a ha b hb hab hba

end StableOrder
