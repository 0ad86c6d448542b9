import Mathlib.Data.Int.Order.Basic

/-!
# Bounded queues and priority queues

A queue with a `maxsize` is full when it holds that many items; a `maxsize` that is
not positive means no bound.  A priority queue keeps its items in the order they
are taken: the more urgent first, and first come, first served among equals.
-/
namespace AsyncQueue

variable {α : Type*}

def Full (maxsize : Int) (queue : List α) : Prop := 0 < maxsize ∧ maxsize ≤ queue.length

instance (maxsize : Int) (queue : List α) : Decidable (Full maxsize queue) :=
  inferInstanceAs (Decidable (_ ∧ _))

theorem not_full_nil (maxsize : Int) : ¬ Full maxsize ([] : List α) := by
  rintro ⟨hpos, hlength⟩
  rw [List.length_nil] at hlength
  omega

theorem not_full_of_unbounded {maxsize : Int} (h : maxsize ≤ 0) (queue : List α) :
    ¬ Full maxsize queue :=
  fun hfull => absurd hfull.1 (by omega)

/-- Put an item behind all that are at least as urgent. -/
def putPriority (priority : α → Int) (item : α) : List α → List α
  | [] => [item]
  | first :: rest =>
    if priority first < priority item then item :: first :: rest
    else first :: putPriority priority item rest

@[simp] theorem putPriority_length (priority : α → Int) (item : α) (queue : List α) :
    (putPriority priority item queue).length = queue.length + 1 := by
  induction queue with
  | nil => rfl
  | cons first rest ih =>
    unfold putPriority
    split
    · rfl
    · simp [ih]

end AsyncQueue
