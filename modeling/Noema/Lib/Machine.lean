import Mathlib.Data.List.Basic
import Mathlib.Data.List.Induction

/-!
# Labelled machines and their runs

A machine is a partial step function `step : S → L → Option S`: the label carries
everything the environment chooses (who is scheduled, what a call returns, where a
crash falls), and `none` says that the label is not enabled in the state.  A `Run`
is a finite sequence of enabled steps, each of which meets a side condition
`ok : S → L → Prop` on the state before it and on its label; `ok := Free` gives
every run of the machine.

`Run.invariant` is the induction every safety proof uses, `Run.decides` the one for a
side condition that is exact; `Run.of_exec` turns an evaluation into a run.
-/
namespace Machine

variable {S L : Type*} {step : S → L → Option S} {ok : S → L → Prop} {s₀ : S}

/-- A run from `s₀` by the labels `ls`, every step of which meets `ok`. -/
inductive Run (step : S → L → Option S) (ok : S → L → Prop) (s₀ : S) : List L → S → Prop
  | start : Run step ok s₀ [] s₀
  | next {ls s l s'} : Run step ok s₀ ls s → ok s l → step s l = some s' →
      Run step ok s₀ (ls ++ [l]) s'

/-- No side condition: every enabled step is allowed. -/
def Free (_ : S) (_ : L) : Prop := True

instance : ∀ (s : S) (l : L), Decidable (Free s l) := fun _ _ => inferInstanceAs (Decidable True)

namespace Run

/-- **Invariants.**  What holds at the start and is kept by every allowed step
holds after every run. -/
theorem invariant {I : S → Prop} {ls : List L} {s : S} (h : Run step ok s₀ ls s) (hinit : I s₀)
    (hstep : ∀ s l s', I s → ok s l → step s l = some s' → I s') : I s := by
  induction h with
  | start => exact hinit
  | next _ hok hs ih => exact hstep _ _ _ ih hok hs

/-- A run under a stronger side condition is a run under a weaker one. -/
theorem mono {ok' : S → L → Prop} {ls : List L} {s : S} (h : Run step ok s₀ ls s)
    (himp : ∀ s l, ok s l → ok' s l) : Run step ok' s₀ ls s := by
  induction h with
  | start => exact .start
  | next _ hok hs ih => exact .next ih (himp _ _ hok) hs

/-- A run whose labels all meet `P` is a run under the side condition with `P`. -/
theorem restrict {P : L → Prop} {ls : List L} {s : S} (h : Run step ok s₀ ls s)
    (hlabels : ∀ l ∈ ls, P l) : Run step (fun s l => ok s l ∧ P l) s₀ ls s := by
  induction h with
  | start => exact .start
  | next _ hok hs ih =>
    exact .next (ih fun l hl => hlabels l (List.mem_append_left _ hl))
      ⟨hok, hlabels _ (by simp)⟩ hs

/-- Runs compose. -/
theorem trans {ls ms : List L} {s t : S} (h : Run step ok s₀ ls s) (k : Run step ok s ms t) :
    Run step ok s₀ (ls ++ ms) t := by
  induction k with
  | start => simpa using h
  | next _ hok hs ih => rw [← List.append_assoc]; exact .next ih hok hs

/-- The last step of a run. -/
theorem last {ls : List L} {l : L} {s' : S} (h : Run step ok s₀ (ls ++ [l]) s') :
    ∃ s, Run step ok s₀ ls s ∧ ok s l ∧ step s l = some s' := by
  generalize hms : ls ++ [l] = ms at h
  cases h with
  | start => simp at hms
  | next h hok hs =>
    obtain ⟨rfl, hl⟩ := List.append_inj' hms rfl
    cases hl
    exact ⟨_, h, hok, hs⟩

/-- A run passes a state after its first labels. -/
theorem before {ls ms : List L} {t : S} (h : Run step ok s₀ (ls ++ ms) t) :
    ∃ s, Run step ok s₀ ls s := by
  induction ms using List.reverseRecOn generalizing t with
  | nil => exact ⟨t, by simpa using h⟩
  | append_singleton ms l ih =>
    rw [← List.append_assoc] at h
    obtain ⟨u, h, -, -⟩ := h.last
    exact ih h

/-- The labels determine where a run ends. -/
theorem unique {ok' : S → L → Prop} {ls : List L} {s t : S} (h : Run step ok s₀ ls s)
    (k : Run step ok' s₀ ls t) : s = t := by
  induction h generalizing t with
  | start =>
    generalize hms : ([] : List L) = ms at k
    cases k with
    | start => rfl
    | next => simp at hms
  | next _ _ hs ih =>
    obtain ⟨u, k, -, hs'⟩ := k.last
    rw [← ih k, hs] at hs'
    exact Option.some.inj hs'

end Run

/-- Every enabled step is allowed. -/
theorem Run.free {ls : List L} {s : S} (h : Run step ok s₀ ls s) : Run step Free s₀ ls s :=
  h.mono fun _ _ _ => trivial

/-- **A condition that decides.**  If allowed steps keep `I`, any other step leads
from `I` to `J`, and nothing leads out of `J`, then `I` holds after the runs all of
whose steps are allowed, and `J` after all others. -/
theorem Run.decides {I J : S → Prop} {ls : List L} {s : S} (h : Run step Free s₀ ls s)
    (hinit : I s₀)
    (hstep : ∀ s l s', I s → step s l = some s' → (ok s l → I s') ∧ (¬ ok s l → J s'))
    (hstays : ∀ s l s', J s → step s l = some s' → J s') :
    Run step ok s₀ ls s ∧ I s ∨ ¬ Run step ok s₀ ls s ∧ J s := by
  induction h with
  | start => exact Or.inl ⟨.start, hinit⟩
  | @next ls s l s' h _ hs ih =>
    rcases ih with ⟨hallowed, hI⟩ | ⟨hnot, hJ⟩
    · obtain ⟨hkeep, hleave⟩ := hstep s l s' hI hs
      by_cases hok : ok s l
      · exact Or.inl ⟨hallowed.next hok hs, hkeep hok⟩
      · refine Or.inr ⟨fun k => ?_, hleave hok⟩
        obtain ⟨u, k, hok', -⟩ := k.last
        rw [k.unique h] at hok'
        exact hok hok'
    · refine Or.inr ⟨fun k => ?_, hstays s l s' hJ hs⟩
      obtain ⟨u, k, -, -⟩ := k.last
      rw [k.unique h] at k
      exact hnot k

/-- A state that some run leads to. -/
def Reaches (step : S → L → Option S) (s t : S) : Prop := ∃ ls, Run step Free s ls t

namespace Reaches

theorem refl (s : S) : Reaches step s s := ⟨[], .start⟩

theorem single {s t : S} {l : L} (h : step s l = some t) : Reaches step s t :=
  ⟨[l], .next .start trivial h⟩

theorem trans {s t u : S} (h : Reaches step s t) (k : Reaches step t u) : Reaches step s u := by
  obtain ⟨ls, h⟩ := h
  obtain ⟨ms, k⟩ := k
  exact ⟨ls ++ ms, h.trans k⟩

end Reaches

/-- Evaluate the labels in order, stopping at the first one that is not enabled or
does not meet the side condition. -/
def exec (step : S → L → Option S) (ok : S → L → Prop) [∀ s l, Decidable (ok s l)] :
    S → List L → Option S
  | s, [] => some s
  | s, l :: ls => if ok s l then (step s l).bind fun s' => exec step ok s' ls else none

/-- An evaluation that ends is a run. -/
theorem Run.of_exec [∀ s l, Decidable (ok s l)] {ls : List L} {s t : S}
    (h : exec step ok s ls = some t) : Run step ok s ls t := by
  induction ls generalizing s with
  | nil =>
    obtain rfl : s = t := Option.some.inj h
    exact .start
  | cons l ls ih =>
    simp only [exec] at h
    split at h
    · rename_i hok
      obtain ⟨s', hs, ht⟩ := Option.bind_eq_some_iff.mp h
      exact (Run.next .start hok hs).trans (ih ht)
    · cases h

end Machine
