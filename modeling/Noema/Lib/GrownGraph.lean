import Mathlib.Logic.Function.Basic

/-!
# Graphs that grow over known nodes

A graph is given by the successors of its known nodes.  If every node was added over
successors that were known by then, the graph has no cycle: its nodes have ranks, bounded
by their number, that fall along every edge.
-/
namespace GrownGraph

variable {α : Type*}

/-- The nodes have ranks of at most `n`, which fall along every edge. -/
def Ranks (next : α → Option (List α)) (n : Nat) (rank : α → Nat) : Prop :=
  (∀ x, rank x ≤ n) ∧
    ∀ x ys, next x = some ys → ∀ y ∈ ys, (next y).isSome = true ∧ rank y < rank x

/-- There are such ranks. -/
def Ranked (next : α → Option (List α)) (n : Nat) : Prop := ∃ rank, Ranks next n rank

theorem ranked_none (n : Nat) : Ranked (fun _ : α => none) n := by
  refine ⟨fun _ => 0, fun _ => Nat.zero_le n, ?_⟩
  intro x ys h
  cases h

variable [DecidableEq α] {next : α → Option (List α)} {n : Nat} {x : α} {ys : List α}

/-- **A new node over known successors gets a rank above all others.** -/
theorem Ranked.update (h : Ranked next n) (hx : next x = none)
    (hys : ∀ y ∈ ys, (next y).isSome = true) :
    Ranked (Function.update next x (some ys)) (n + 1) := by
  obtain ⟨rank, hbound, hedge⟩ := h
  -- A known node is not the new one.
  have hold : ∀ y, (next y).isSome = true → y ≠ x := by
    rintro y hy rfl
    rw [hx] at hy
    cases hy
  have hrank : ∀ y, (next y).isSome = true → Function.update rank x (n + 1) y = rank y :=
    fun y hy => Function.update_of_ne (hold y hy) _ _
  have hknown : ∀ y, (next y).isSome = true →
      (Function.update next x (some ys) y).isSome = true := by
    intro y hy
    rw [Function.update_of_ne (hold y hy)]
    exact hy
  refine ⟨Function.update rank x (n + 1), ?_, ?_⟩
  · intro y
    by_cases hyx : y = x
    · subst hyx
      exact Nat.le_of_eq (Function.update_self y (n + 1) rank)
    · rw [Function.update_of_ne hyx]
      exact Nat.le_succ_of_le (hbound y)
  · intro z zs hz y hy
    by_cases hzx : z = x
    · subst hzx
      rw [Function.update_self] at hz
      cases hz
      have hsome := hys y hy
      rw [Function.update_self, hrank y hsome]
      exact ⟨hknown y hsome, Nat.lt_succ_of_le (hbound y)⟩
    · rw [Function.update_of_ne hzx] at hz
      obtain ⟨hsome, hlt⟩ := hedge z zs hz y hy
      rw [Function.update_of_ne hzx, hrank y hsome]
      exact ⟨hknown y hsome, hlt⟩

end GrownGraph
