import Mathlib.Algebra.BigOperators.Group.List.Basic
import Mathlib.Algebra.Order.Field.Rat
import Mathlib.Tactic.Linarith

/-!
# Numbers between zero and one

Products of factors between zero and one stay there, and get no greater with more factors.
-/

/-- A number between zero and one. -/
def InUnit (q : ℚ) : Prop := 0 ≤ q ∧ q ≤ 1

theorem InUnit.one : InUnit 1 := ⟨zero_le_one, le_rfl⟩

theorem InUnit.mul {a b : ℚ} (ha : InUnit a) (hb : InUnit b) : InUnit (a * b) :=
  ⟨mul_nonneg ha.1 hb.1, mul_le_one₀ ha.2 hb.1 hb.2⟩

theorem InUnit.one_sub {a : ℚ} (h : InUnit a) : InUnit (1 - a) :=
  ⟨sub_nonneg.mpr h.2, sub_le_self 1 h.1⟩

/-- How far a number falls short of another one, at most all of it. -/
theorem InUnit.max_one_sub {a : ℚ} (h : 0 ≤ a) : InUnit (max 0 (1 - a)) :=
  ⟨le_max_left _ _, max_le zero_le_one (sub_le_self 1 h)⟩

theorem inUnit_prod {l : List ℚ} (h : ∀ a ∈ l, InUnit a) : InUnit l.prod := by
  induction l with
  | nil => exact InUnit.one
  | cons a l ih =>
    rw [List.prod_cons]
    exact (h a List.mem_cons_self).mul (ih fun b hb => h b (List.mem_cons_of_mem _ hb))

/-- More factors make a product no greater. -/
theorem prod_le_of_subperm {l l' : List ℚ} (hsub : l.Subperm l') (h : ∀ a ∈ l', InUnit a) :
    l'.prod ≤ l.prod := by
  obtain ⟨k, hperm, hsub⟩ := hsub
  rw [← hperm.prod_eq]
  clear hperm
  induction hsub with
  | slnil => exact le_rfl
  | cons a hsub ih =>
    have htail := fun b hb => h b (List.mem_cons_of_mem a hb)
    rw [List.prod_cons]
    exact (mul_le_of_le_one_left (inUnit_prod htail).1 (h a List.mem_cons_self).2).trans (ih htail)
  | cons_cons a hsub ih =>
    have htail := fun b hb => h b (List.mem_cons_of_mem a hb)
    rw [List.prod_cons, List.prod_cons]
    exact mul_le_mul_of_nonneg_left (ih htail) (h a List.mem_cons_self).1

/-- Fewer and greater factors make a product no less. -/
theorem prod_le_of_sublist {α : Type} {l l' : List α} {f g : α → ℚ} (hsub : l'.Sublist l)
    (hle : ∀ x, f x ≤ g x) (hf : ∀ x, InUnit (f x)) (hg : ∀ x, InUnit (g x)) :
    (l.map f).prod ≤ (l'.map g).prod := by
  induction hsub with
  | slnil => exact le_rfl
  | @cons l' l a hsub ih =>
    rw [List.map_cons, List.prod_cons]
    have hrest : InUnit (l.map f).prod := inUnit_prod (by simpa using fun x _ => hf x)
    exact (mul_le_of_le_one_left hrest.1 (hf a).2).trans ih
  | @cons_cons l' l a hsub ih =>
    rw [List.map_cons, List.prod_cons, List.map_cons, List.prod_cons]
    have hrest : InUnit (l.map f).prod := inUnit_prod (by simpa using fun x _ => hf x)
    exact mul_le_mul (hle a) ih hrest.1 (hg a).1
