import Mathlib.Data.List.Basic

/-!
# Properties of a growing history

A history is a list that only grows at its end.  `Each P history` says that every
entry meets `P` together with the entries before it, so it is a property of the
moments at which entries were made; one entry at a time is all there is to check.
-/
namespace History

variable {α : Type*} {P : List α → α → Prop}

/-- Every entry meets `P` at the moment it is made. -/
def Each (P : List α → α → Prop) (history : List α) : Prop :=
  ∀ before entry after, history = before ++ entry :: after → P before entry

theorem Each.nil : Each P [] := fun _ _ _ h => by simp at h

/-- **One more entry.** -/
theorem Each.snoc {history : List α} (h : Each P history) {entry : α} (hentry : P history entry) :
    Each P (history ++ [entry]) := by
  intro before other after heq
  rcases List.eq_nil_or_concat' after with rfl | ⟨init, last, rfl⟩
  · obtain ⟨rfl, hlast⟩ := List.append_inj' heq rfl
    cases hlast
    exact hentry
  · rw [← List.cons_append, ← List.append_assoc] at heq
    exact h before other init (List.append_inj' heq rfl).1

/-- An entry of the history was made at some moment. -/
theorem Each.of_mem {history : List α} (h : Each P history) {entry : α} (hmem : entry ∈ history) :
    ∃ before after, history = before ++ entry :: after ∧ P before entry := by
  obtain ⟨before, after, rfl⟩ := List.append_of_mem hmem
  exact ⟨before, after, rfl, h before entry after rfl⟩

end History
