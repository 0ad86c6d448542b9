import Mathlib.Data.List.Perm.Basic

/-!
# Pools of tasks

The tasks of a cooperative scheduler, by their number: a step replaces one of
them, a new one is added at the end, and none is ever removed.  `All P pool` says
that every task meets `P`, which may depend on its number and on anything the
tasks share; the rules say what a step has to keep.
-/
namespace TaskPool

variable {α : Type*}

/-- Every task of the pool meets `P`. -/
def All (P : Nat → α → Prop) (pool : List α) : Prop := ∀ i a, pool[i]? = some a → P i a

/-- The task stored after `i` was replaced. -/
theorem get_set {pool : List α} {i j : Nat} {a b : α} (h : (pool.set i a)[j]? = some b) :
    (j = i ∧ b = a) ∨ (j ≠ i ∧ pool[j]? = some b) := by
  by_cases hij : j = i
  · subst hij
    have hlt : j < pool.length := by
      have := (List.getElem?_eq_some_iff.mp h).1
      rwa [List.length_set] at this
    rw [List.getElem?_set_self hlt] at h
    exact Or.inl ⟨rfl, (Option.some.inj h).symm⟩
  · rw [List.getElem?_set_ne (fun he => hij he.symm)] at h
    exact Or.inr ⟨hij, h⟩

theorem get_set_self {pool : List α} {i : Nat} {a b : α} (h : pool[i]? = some b) :
    (pool.set i a)[i]? = some a :=
  List.getElem?_set_self (List.getElem?_eq_some_iff.mp h).1

theorem get_set_ne {pool : List α} {i j : Nat} {a b : α} (hne : j ≠ i) (h : pool[j]? = some b) :
    (pool.set i a)[j]? = some b := by
  rwa [List.getElem?_set_ne fun he => hne he.symm]

/-- The task stored after one was added. -/
theorem get_append {pool : List α} {j : Nat} {a b : α} (h : (pool ++ [a])[j]? = some b) :
    (j = pool.length ∧ b = a) ∨ pool[j]? = some b := by
  by_cases hlt : j < pool.length
  · rw [List.getElem?_append_left hlt] at h
    exact Or.inr h
  · rw [List.getElem?_append_right (Nat.le_of_not_lt hlt)] at h
    obtain ⟨hj, hb⟩ := List.getElem?_eq_some_iff.mp h
    rw [List.length_singleton] at hj
    refine Or.inl ⟨by omega, ?_⟩
    rw [← hb, List.getElem_singleton]

theorem get_append_left {pool : List α} {j : Nat} {a b : α} (h : pool[j]? = some b) :
    (pool ++ [a])[j]? = some b := by
  rw [List.getElem?_append_left (List.getElem?_eq_some_iff.mp h).1]
  exact h

/-- **A step of one task**: it has to end as `P'` wants it, and the other tasks may
not notice. -/
theorem All.set {P P' : Nat → α → Prop} {pool : List α} (h : All P pool) {i : Nat} {a : α}
    (ha : P' i a) (hothers : ∀ j b, j ≠ i → pool[j]? = some b → P j b → P' j b) :
    All P' (pool.set i a) := by
  intro j b hb
  rcases get_set hb with ⟨rfl, rfl⟩ | ⟨hne, hb⟩
  · exact ha
  · exact hothers j b hne hb (h j b hb)

/-- **A new task.** -/
theorem All.append {P P' : Nat → α → Prop} {pool : List α} (h : All P pool) {a : α}
    (ha : P' pool.length a) (hothers : ∀ j b, pool[j]? = some b → P j b → P' j b) :
    All P' (pool ++ [a]) := by
  intro j b hb
  rcases get_append hb with ⟨rfl, rfl⟩ | hb
  · exact ha
  · exact hothers j b hb (h j b hb)

theorem All.imp {P P' : Nat → α → Prop} {pool : List α} (h : All P pool)
    (himp : ∀ j b, pool[j]? = some b → P j b → P' j b) : All P' pool :=
  fun j b hb => himp j b hb (h j b hb)

/-- **Counting over a step**: up to their order the other tasks are the same before
and after it. -/
theorem perm_set {pool : List α} {i : Nat} {a : α} (h : pool[i]? = some a) :
    ∃ others, pool.Perm (a :: others) ∧ ∀ b, (pool.set i b).Perm (b :: others) := by
  obtain ⟨hlt, rfl⟩ := List.getElem?_eq_some_iff.mp h
  exact ⟨pool.eraseIdx i, (List.getElem_cons_eraseIdx_perm hlt).symm,
    fun b => List.set_perm_cons_eraseIdx hlt b⟩

end TaskPool
