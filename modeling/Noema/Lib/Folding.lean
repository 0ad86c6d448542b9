import Mathlib.Data.List.Basic
import Mathlib.Data.List.Induction

/-!
# Folding a log through a step that may refuse

A projection folds the entries of a log by a step that may refuse an entry; a log is
accepted if no entry is refused.  What holds at the start and is kept by every accepted
entry holds at the end (`run_induction`), and a property that an entry keeps exactly if it
meets a condition holds at the end exactly if every entry met it (`run_iff`).
-/
namespace Folding

variable {S E X : Type*} (step : S → E → Except X S)

/-- The state after some entries, up to the first that is refused. -/
def run : S → List E → Except X S
  | s, [] => .ok s
  | s, e :: es =>
    match step s e with
    | .ok s' => run s' es
    | .error refusal => .error refusal

variable {step} {s t : S} {es fs : List E}

theorem run_cons {e : E} :
    run step s (e :: es) = .ok t ↔ ∃ u, step s e = .ok u ∧ run step u es = .ok t := by
  rw [run]
  cases h : step s e with
  | ok u => simp
  | error refusal => simp

/-- An accepted log is accepted up to any entry, and from there on. -/
theorem run_append :
    run step s (es ++ fs) = .ok t ↔ ∃ u, run step s es = .ok u ∧ run step u fs = .ok t := by
  induction es generalizing s with
  | nil =>
    constructor
    · exact fun h => ⟨s, rfl, h⟩
    · rintro ⟨u, hs, h⟩
      cases hs
      exact h
  | cons e es ih =>
    rw [List.cons_append, run_cons]
    constructor
    · rintro ⟨u, hu, h⟩
      obtain ⟨v, hv, h⟩ := ih.mp h
      exact ⟨v, run_cons.mpr ⟨u, hu, hv⟩, h⟩
    · rintro ⟨v, hv, h⟩
      obtain ⟨u, hu, hv⟩ := run_cons.mp hv
      exact ⟨u, hu, ih.mpr ⟨v, hv, h⟩⟩

theorem run_snoc {e : E} :
    run step s (es ++ [e]) = .ok t ↔ ∃ u, run step s es = .ok u ∧ step u e = .ok t := by
  rw [run_append]
  refine exists_congr fun u => and_congr_right fun _ => ?_
  rw [run_cons]
  constructor
  · rintro ⟨v, hv, h⟩
    cases h
    exact hv
  · exact fun h => ⟨t, h, rfl⟩

/-- **What every accepted entry keeps holds at the end of an accepted log.** -/
theorem run_induction {I : List E → S → Prop} (hstart : I [] s)
    (hstep : ∀ es e t u, run step s es = .ok t → I es t → step t e = .ok u → I (es ++ [e]) u)
    (h : run step s es = .ok t) : I es t := by
  induction es using List.reverseRecOn generalizing t with
  | nil =>
    cases h
    exact hstart
  | append_singleton es e ih =>
    obtain ⟨u, hu, hlast⟩ := run_snoc.mp h
    exact hstep es e u t hu (ih hu) hlast

/-- The entry of every moment meets the condition, in the state it found. -/
def Every (step : S → E → Except X S) (s : S) (Q : S → E → Prop) (es : List E) : Prop :=
  ∀ before e after u, es = before ++ e :: after → run step s before = .ok u → Q u e

theorem every_nil {Q : S → E → Prop} : Every step s Q [] := by
  intro before e after u h
  simp at h

theorem Every.init {Q : S → E → Prop} {e : E} (h : Every step s Q (es ++ [e])) :
    Every step s Q es := by
  intro before other after u heq hu
  exact h before other (after ++ [e]) u (by rw [heq, List.append_assoc]; rfl) hu

theorem every_snoc {Q : S → E → Prop} {e : E} (h : run step s es = .ok t) :
    Every step s Q (es ++ [e]) ↔ Every step s Q es ∧ Q t e := by
  constructor
  · intro hall
    exact ⟨hall.init, hall es e [] t rfl h⟩
  · rintro ⟨hall, hlast⟩ before other after u heq hu
    rcases List.eq_nil_or_concat' after with rfl | ⟨init, last, rfl⟩
    · obtain ⟨rfl, hsame⟩ := List.append_inj' heq rfl
      cases hsame
      rw [h] at hu
      cases hu
      exact hlast
    · rw [← List.cons_append, ← List.append_assoc] at heq
      exact hall before other init u (List.append_inj' heq rfl).1 hu

theorem every_single {Q : S → E → Prop} {e : E} : Every step s Q [e] ↔ Q s e := by
  have hstart : run step s [] = .ok s := rfl
  rw [← List.nil_append [e], every_snoc hstart]
  exact and_iff_right every_nil

/-- **A property that an accepted entry keeps exactly if it meets a condition** holds at
the end of an accepted log exactly if every entry met the condition. -/
theorem run_iff {P : S → Prop} {Q : S → E → Prop} (hstart : P s)
    (hstep : ∀ es e t u, run step s es = .ok t → step t e = .ok u → (P u ↔ P t ∧ Q t e))
    (h : run step s es = .ok t) : P t ↔ Every step s Q es := by
  refine run_induction (I := fun es t => P t ↔ Every step s Q es) ?_ ?_ h
  · exact iff_of_true hstart every_nil
  · intro es e t u ht ih hu
    rw [hstep es e t u ht hu, ih, every_snoc ht]

end Folding
