import Mathlib.Data.Set.Finite.Lemmas
import Mathlib.Data.Set.Finite.List

/-!
# A line divided by its items

Each item starts somewhere and has any number of ends.  The line is divided if an item ends
only at the start of a later one, and not after the next one.  Then the item that covers a
place is the latest one that starts at or before it (`covers_iff`).  An item that ends where
the next one starts and that ends the one before it, divides the line further (`insert`).
-/
namespace DividedLine

variable {ι T : Type*} [LinearOrder T]

structure Divided (items : List ι) (start : ι → T) (ends : ι → T → Prop) : Prop where
  apart : ∀ i ∈ items, ∀ j ∈ items, start i = start j → i = j
  after : ∀ i ∈ items, ∀ e, ends i e → start i < e
  met : ∀ i ∈ items, ∀ e, ends i e → ∃ j ∈ items, start j = e
  ended : ∀ i ∈ items, ∀ j ∈ items, start i < start j → ∃ e, ends i e ∧ e ≤ start j

/-- An item has started at a place, and has not ended. -/
def Covers (start : ι → T) (ends : ι → T → Prop) (i : ι) (t : T) : Prop :=
  start i ≤ t ∧ ∀ e, ends i e → t < e

/-- An item is the latest that starts before a place. -/
def Before (items : List ι) (start : ι → T) (i : ι) (t : T) : Prop :=
  i ∈ items ∧ start i < t ∧ ∀ j ∈ items, start j < t → start j ≤ start i

/-- An item is the first that starts after a place. -/
def After (items : List ι) (start : ι → T) (i : ι) (t : T) : Prop :=
  i ∈ items ∧ t < start i ∧ ∀ j ∈ items, t < start j → start i ≤ start j

variable {items : List ι} {start : ι → T} {ends ends' : ι → T → Prop} {i x : ι} {t : T}

/-- **The item that covers a place is the latest that has started.** -/
theorem covers_iff (h : Divided items start ends) (hi : i ∈ items) :
    Covers start ends i t ↔
      start i ≤ t ∧ ∀ j ∈ items, start j ≤ t → start j ≤ start i := by
  constructor
  · rintro ⟨hstart, hends⟩
    refine ⟨hstart, fun j hj hjt => ?_⟩
    by_contra hlater
    obtain ⟨e, he, hle⟩ := h.ended i hi j hj (not_le.mp hlater)
    exact absurd (hends e he) (not_lt.mpr (hle.trans hjt))
  · rintro ⟨hstart, hlatest⟩
    refine ⟨hstart, fun e he => ?_⟩
    by_contra hpast
    obtain ⟨j, hj, rfl⟩ := h.met i hi e he
    exact absurd (h.after i hi _ he) (not_lt.mpr (hlatest j hj (not_lt.mp hpast)))

/-- Two items that cover a place are the same. -/
theorem covers_unique (h : Divided items start ends) {j : ι} (hi : i ∈ items) (hj : j ∈ items)
    (hcovers : Covers start ends i t) (hcovers' : Covers start ends j t) : i = j := by
  have hlatest := (covers_iff h hi).mp hcovers
  have hlatest' := (covers_iff h hj).mp hcovers'
  exact h.apart i hi j hj (le_antisymm (hlatest'.2 i hi hlatest.1) (hlatest.2 j hj hlatest'.1))

/-- An item covers the place where it starts. -/
theorem covers_start (h : Divided items start ends) (hi : i ∈ items) :
    Covers start ends i (start i) :=
  ⟨le_rfl, h.after i hi⟩

/-- Away from the starts, an item that has started and has no end before the place is the
latest before it. -/
theorem before_iff (h : Divided items start ends) (hi : i ∈ items)
    (hnew : ∀ j ∈ items, start j ≠ t) :
    start i < t ∧ (∀ e, ends i e → t ≤ e) ↔ Before items start i t := by
  have hne : ∀ j ∈ items, start j ≤ t → start j < t := fun j hj hle => hle.lt_of_ne (hnew j hj)
  constructor
  · rintro ⟨hstart, hends⟩
    have hcovers : Covers start ends i t := by
      refine ⟨hstart.le, fun e he => (hends e he).lt_of_ne ?_⟩
      obtain ⟨j, hj, rfl⟩ := h.met i hi e he
      exact (hnew j hj).symm
    exact ⟨hi, hstart, fun j hj hjt => ((covers_iff h hi).mp hcovers).2 j hj hjt.le⟩
  · rintro ⟨-, hstart, hlatest⟩
    have hcovers := (covers_iff h hi).mpr
      ⟨hstart.le, fun j hj hjt => hlatest j hj (hne j hj hjt)⟩
    exact ⟨hstart, fun e he => (hcovers.2 e he).le⟩

theorem before_unique (h : Divided items start ends) {j : ι} (hi : Before items start i t)
    (hj : Before items start j t) : i = j :=
  h.apart i hi.1 j hj.1 (le_antisymm (hj.2.2 i hi.1 hi.2.1) (hi.2.2 j hj.1 hj.2.1))

/-- Some item is the latest that has started, if one has. -/
theorem exists_latest (hsome : ∃ i ∈ items, start i ≤ t) :
    ∃ i ∈ items, start i ≤ t ∧ ∀ j ∈ items, start j ≤ t → start j ≤ start i := by
  have hfinite : {i | i ∈ items ∧ start i ≤ t}.Finite :=
    (List.finite_toSet items).subset fun i hi => hi.1
  obtain ⟨i, ⟨hi, hit⟩, hlatest⟩ := Set.exists_max_image _ start hfinite hsome
  exact ⟨i, hi, hit, fun j hj hjt => hlatest j ⟨hj, hjt⟩⟩

/-- Some item is the first that starts later, if one does. -/
theorem exists_after (hsome : ∃ i ∈ items, t < start i) : ∃ i, After items start i t := by
  have hfinite : {i | i ∈ items ∧ t < start i}.Finite :=
    (List.finite_toSet items).subset fun i hi => hi.1
  obtain ⟨i, ⟨hi, hit⟩, hfirst⟩ := Set.exists_min_image _ start hfinite hsome
  exact ⟨i, hi, hit, fun j hj hjt => hfirst j ⟨hj, hjt⟩⟩

/-- **Dividing further.**  A new item ends where the next one starts, and the one before it
ends where the new one starts. -/
theorem Divided.insert (h : Divided items start ends) (hnew : ∀ i ∈ items, start i ≠ start x)
    (hends : ∀ i ∈ items, ∀ e, ends' i e ↔
      ends i e ∨ Before items start i (start x) ∧ e = start x)
    (hx : ∀ e, ends' x e ↔ ∃ j, After items start j (start x) ∧ start j = e) :
    Divided (items ++ [x]) start ends' where
  apart := by
    intro i hi j hj heq
    rw [List.mem_append, List.mem_singleton] at hi hj
    rcases hi with hi | rfl <;> rcases hj with hj | rfl
    · exact h.apart i hi j hj heq
    · exact absurd heq (hnew i hi)
    · exact absurd heq.symm (hnew j hj)
    · rfl
  after := by
    intro i hi e he
    rw [List.mem_append, List.mem_singleton] at hi
    rcases hi with hi | rfl
    · rcases (hends i hi e).mp he with he | ⟨hbefore, rfl⟩
      · exact h.after i hi e he
      · exact hbefore.2.1
    · obtain ⟨j, hafter, rfl⟩ := (hx e).mp he
      exact hafter.2.1
  met := by
    intro i hi e he
    rw [List.mem_append, List.mem_singleton] at hi
    rcases hi with hi | rfl
    · rcases (hends i hi e).mp he with he | ⟨-, rfl⟩
      · obtain ⟨j, hj, hstart⟩ := h.met i hi e he
        exact ⟨j, List.mem_append_left _ hj, hstart⟩
      · exact ⟨x, List.mem_append_right _ List.mem_cons_self, rfl⟩
    · obtain ⟨j, hafter, hstart⟩ := (hx e).mp he
      exact ⟨j, List.mem_append_left _ hafter.1, hstart⟩
  ended := by
    intro i hi j hj hlt
    rw [List.mem_append, List.mem_singleton] at hi hj
    rcases hi with hi | rfl <;> rcases hj with hj | rfl
    · obtain ⟨e, he, hle⟩ := h.ended i hi j hj hlt
      exact ⟨e, (hends i hi e).mpr (.inl he), hle⟩
    · -- The item before the new one is ended by it, and so is any earlier one.
      by_cases hbefore : Before items start i (start j)
      · exact ⟨start j, (hends i hi _).mpr (.inr ⟨hbefore, rfl⟩), le_rfl⟩
      · have hbetween : ∃ k ∈ items, start k < start j ∧ start i < start k := by
          by_contra hnone
          refine hbefore ⟨hi, hlt, fun k hk hkt => not_lt.mp fun hik => hnone ⟨k, hk, hkt, hik⟩⟩
        obtain ⟨k, hk, hkt, hik⟩ := hbetween
        obtain ⟨e, he, hle⟩ := h.ended i hi k hk hik
        exact ⟨e, (hends i hi e).mpr (.inl he), hle.trans hkt.le⟩
    · -- The new item ends at the start of the first one after it.
      obtain ⟨k, hk, hkt, hfirst⟩ := exists_after ⟨j, hj, hlt⟩
      exact ⟨start k, (hx _).mpr ⟨k, ⟨hk, hkt, hfirst⟩, rfl⟩, hfirst j hj hlt⟩
    · exact absurd hlt (lt_irrefl _)

end DividedLine
