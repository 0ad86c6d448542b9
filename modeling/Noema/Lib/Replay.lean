import Mathlib.Data.List.Basic

/-!
# Replaying a log through a projection

A projection folds the entries of a log into a state by a step that may fail; a
failing step may leave any state behind, and the replay stops there.  A log
*replays* from a state if no step fails.
-/
namespace Replay

variable {S E X : Type*} (project : S → E → S × Option X)

/-- Project the entries in order, up to the first failure. -/
def replay : S → List E → S × Option X
  | s, [] => (s, none)
  | s, e :: es =>
    match project s e with
    | (s', none) => replay s' es
    | (s', some failure) => (s', some failure)

/-- No entry fails. -/
def Replays (s : S) (es : List E) : Prop := (replay project s es).2 = none

variable {project}

theorem replay_cons (s : S) (e : E) (es : List E) : replay project s (e :: es) =
    match project s e with
    | (s', none) => replay project s' es
    | (s', some failure) => (s', some failure) := rfl

theorem replay_nil (s : S) : replay project s [] = (s, none) := rfl

theorem replay_append {s : S} {es fs : List E} (h : Replays project s es) :
    replay project s (es ++ fs) = replay project (replay project s es).1 fs := by
  induction es generalizing s with
  | nil => rfl
  | cons e es ih =>
    rcases hs : project s e with ⟨s', failure⟩
    cases failure with
    | none =>
      simp only [Replays, replay_cons, List.cons_append, hs] at h ⊢
      exact ih h
    | some x =>
      simp only [Replays, replay_cons, hs] at h
      cases h

theorem replay_snoc {s : S} {es : List E} {e : E} (h : Replays project s es) :
    replay project s (es ++ [e]) = project (replay project s es).1 e := by
  rw [replay_append h, replay_cons]
  split <;> simp only [replay_nil, *]

/-- A log that replays still does after one more entry exactly if that entry is projected. -/
theorem replays_snoc {s : S} {es : List E} {e : E} (h : Replays project s es) :
    Replays project s (es ++ [e]) ↔ (project (replay project s es).1 e).2 = none := by
  rw [Replays, replay_snoc h]

/-- A failure on the way is final. -/
theorem replays_of_append {s : S} {es fs : List E} (h : Replays project s (es ++ fs)) :
    Replays project s es := by
  induction es generalizing s with
  | nil => rfl
  | cons e es ih =>
    rcases hs : project s e with ⟨s', failure⟩
    cases failure with
    | none =>
      simp only [Replays, replay_cons, List.cons_append, hs] at h ⊢
      exact ih h
    | some x =>
      simp only [Replays, replay_cons, List.cons_append, hs] at h
      cases h

/-- **Replay respects a bisimulation of states**: what the projection cannot see
of a state does not matter. -/
theorem replay_rel {R : S → S → Prop}
    (hstep : ∀ s t e, R s t → R (project s e).1 (project t e).1 ∧
      (project s e).2 = (project t e).2) {s t : S} (es : List E) (h : R s t) :
    R (replay project s es).1 (replay project t es).1 ∧
      (replay project s es).2 = (replay project t es).2 := by
  induction es generalizing s t with
  | nil => exact ⟨h, rfl⟩
  | cons e es ih =>
    obtain ⟨hrel, hfail⟩ := hstep s t e h
    rcases hs : project s e with ⟨s', failure⟩
    rcases ht : project t e with ⟨t', failure'⟩
    rw [hs, ht] at hrel hfail
    obtain rfl : failure = failure' := hfail
    cases failure with
    | none => simpa only [replay_cons, hs, ht] using ih hrel
    | some x => simpa only [replay_cons, hs, ht, and_true] using hrel

end Replay
