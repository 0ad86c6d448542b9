import Mathlib.Order.Basic
import Noema.Lib.Folding
import Noema.Lib.KeyedTable

/-!
# Logs that are delivered more than once

A projection that keeps the entries it has applied, by their keys, skips one that comes
again.  However often and however late the entries of a log are delivered again, the result
is that of the log (`run_redelivered`); and the entries that are kept are a log of their
own, which leads to the same result (`run_kept`) and goes up (`kept_pairwise`).
-/
namespace Redelivery

open Folding

variable {S E X K N : Type*} [DecidableEq K] [LinearOrder N] {key : E → K}

/-- A log as it is delivered at least once: an entry comes again only after it came. -/
inductive Redelivered : List E → List E → Prop
  | nil : Redelivered [] []
  | deliver {log delivered} (h : Redelivered log delivered) (e : E) :
      Redelivered (log ++ [e]) (delivered ++ [e])
  | again {log delivered e} (h : Redelivered log delivered) (hmem : e ∈ log) :
      Redelivered log (delivered ++ [e])

/-- What a step does about the entries that it keeps: one with a known key has to be the
same as the one that is kept, and is skipped; any other comes later than all before it, and
is kept. -/
structure Remembers (step : S → E → Except X S) (kept : S → KeyedTable key)
    (Same : E → E → Prop) (place : E → Option N) (last : S → N) : Prop where
  known {s t : S} {d e : E} (h : (kept s).find (key e) = some d) :
    step s e = .ok t ↔ Same d e ∧ t = s
  fresh {s t : S} {e : E} (h : (kept s).find (key e) = none) (hstep : step s e = .ok t) :
    kept t = (kept s).put e
  placed {s t : S} {e : E} (h : (kept s).find (key e) = none) (hstep : step s e = .ok t) :
    ∃ n, place e = some n ∧ last s < n ∧ last t = n

variable {step : S → E → Except X S} {kept : S → KeyedTable key} {Same : E → E → Prop}
  {place : E → Option N} {last : S → N} {s t : S} {log delivered : List E}

namespace Remembers

theorem rows_of_fresh (hr : Remembers step kept Same place last) {e : E}
    (h : (kept s).find (key e) = none) (hstep : step s e = .ok t) :
    (kept t).rows = (kept s).rows ++ [e] := by
  rw [hr.fresh h hstep]
  exact KeyedTable.put_rows_of_new (KeyedTable.not_mem_keys_of_find h)

/-- Every entry of an accepted log is kept, or one that is the same. -/
theorem kept_of_mem (hr : Remembers step kept Same place last) (hrefl : ∀ e ∈ log, Same e e)
    (h : run step s log = .ok t) :
    ∀ e ∈ log, ∃ d, (kept t).find (key e) = some d ∧ Same d e := by
  induction log using List.reverseRecOn generalizing t with
  | nil => exact fun e he => absurd he List.not_mem_nil
  | append_singleton log e ih =>
    obtain ⟨u, hu, hlast⟩ := run_snoc.mp h
    have hbefore := ih (fun d hd => hrefl d (List.mem_append_left _ hd)) hu
    intro d hd
    cases hfind : (kept u).find (key e) with
    | some known =>
      obtain ⟨hsame, rfl⟩ := (hr.known hfind).mp hlast
      rcases List.mem_append.mp hd with hold | hnew
      · exact hbefore d hold
      · obtain rfl := List.mem_singleton.mp hnew
        exact ⟨known, hfind, hsame⟩
    | none =>
      rw [hr.fresh hfind hlast, KeyedTable.find_put]
      rcases List.mem_append.mp hd with hold | hnew
      · obtain ⟨known, hknown, hsame⟩ := hbefore d hold
        have hne : key e ≠ key d := by
          intro heq
          rw [heq, hknown] at hfind
          cases hfind
        rw [if_neg hne]
        exact ⟨known, hknown, hsame⟩
      · obtain rfl := List.mem_singleton.mp hnew
        rw [if_pos rfl]
        exact ⟨d, rfl, hrefl d hd⟩

/-- **Entries that come again change nothing.** -/
theorem run_redelivered (hr : Remembers step kept Same place last)
    (hdelivered : Redelivered log delivered) (hrefl : ∀ e ∈ log, Same e e) :
    run step s delivered = .ok t ↔ run step s log = .ok t := by
  induction hdelivered generalizing t with
  | nil => exact Iff.rfl
  | deliver h e ih =>
    have hbefore := fun u => ih (t := u) fun d hd => hrefl d (List.mem_append_left _ hd)
    rw [run_snoc, run_snoc]
    exact exists_congr fun u => and_congr_left fun _ => hbefore u
  | again h hmem ih =>
    rw [run_snoc]
    constructor
    · rintro ⟨u, hu, hstep⟩
      have hu := (ih hrefl).mp hu
      -- The entry came before, so its key is known and the step is the identity.
      obtain ⟨d, hknown, -⟩ := hr.kept_of_mem hrefl hu _ hmem
      obtain ⟨-, rfl⟩ := (hr.known hknown).mp hstep
      exact hu
    · intro ht
      obtain ⟨d, hknown, hsame⟩ := hr.kept_of_mem hrefl ht _ hmem
      exact ⟨t, (ih hrefl).mpr ht, (hr.known hknown).mpr ⟨hsame, rfl⟩⟩

/-- **The entries that are kept lead to the same result**, and are some of the log's. -/
theorem run_kept (hr : Remembers step kept Same place last) (hstart : (kept s).rows = [])
    (h : run step s log = .ok t) :
    run step s (kept t).rows = .ok t ∧ (kept t).rows.Sublist log := by
  refine run_induction (I := fun log t => run step s (kept t).rows = .ok t ∧
    (kept t).rows.Sublist log) ?_ ?_ h
  · rw [hstart]
    exact ⟨rfl, List.Sublist.refl _⟩
  · rintro log e u v - ⟨hrows, hsub⟩ hstep
    cases hfind : (kept u).find (key e) with
    | some known =>
      obtain ⟨-, rfl⟩ := (hr.known hfind).mp hstep
      exact ⟨hrows, hsub.trans (List.sublist_append_left _ _)⟩
    | none =>
      -- A kept entry is appended, so the step follows the run of the rows before it.
      rw [hr.rows_of_fresh hfind hstep]
      exact ⟨run_snoc.mpr ⟨u, hrows, hstep⟩, hsub.append (List.Sublist.refl _)⟩

/-- **The entries that are kept go up.** -/
theorem kept_pairwise (hr : Remembers step kept Same place last) (hstart : (kept s).rows = [])
    (h : run step s log = .ok t) :
    (kept t).rows.Pairwise fun d e => ∀ m ∈ place d, ∀ n ∈ place e, m < n := by
  -- The invariant that carries it: no kept entry lies beyond the last place.
  have hall : (∀ d ∈ (kept t).rows, ∀ m ∈ place d, m ≤ last t) ∧
      (kept t).rows.Pairwise fun d e => ∀ m ∈ place d, ∀ n ∈ place e, m < n := by
    refine run_induction (I := fun _ t => (∀ d ∈ (kept t).rows, ∀ m ∈ place d, m ≤ last t) ∧
      (kept t).rows.Pairwise fun d e => ∀ m ∈ place d, ∀ n ∈ place e, m < n) ?_ ?_ h
    · rw [hstart]
      exact ⟨fun d hd => absurd hd List.not_mem_nil, .nil⟩
    · rintro log e u v - ⟨hlast, hup⟩ hstep
      cases hfind : (kept u).find (key e) with
      | some known =>
        obtain ⟨-, rfl⟩ := (hr.known hfind).mp hstep
        exact ⟨hlast, hup⟩
      | none =>
        obtain ⟨n, hplace, hless, hnew⟩ := hr.placed hfind hstep
        have hbelow : ∀ d ∈ (kept u).rows, ∀ m ∈ place d, m < n := fun d hd m hm =>
          (hlast d hd m hm).trans_lt hless
        rw [hr.rows_of_fresh hfind hstep, hnew]
        refine ⟨fun d hd m hm => ?_,
          List.pairwise_append.mpr ⟨hup, List.pairwise_singleton _ _, ?_⟩⟩
        · rcases List.mem_append.mp hd with hold | hadded
          · exact (hbelow d hold m hm).le
          · obtain rfl := List.mem_singleton.mp hadded
            rw [hplace] at hm
            exact (Option.some.inj hm).ge
        · intro d hd other hother m hm k hk
          obtain rfl := List.mem_singleton.mp hother
          rw [hplace] at hk
          obtain rfl := Option.some.inj hk
          exact hbelow d hd m hm
  exact hall.2

end Remembers

end Redelivery
