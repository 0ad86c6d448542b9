import Mathlib.Data.List.Sort
import Mathlib.Order.Basic

/-!
# Logs ordered by a rank

The entries of a log carry distinct ranks and are kept in the order of their
ranks, whatever the order in which they arrive.  Two logs with the same entries
are equal (`ext_mem`), and an entry that ranks above all others goes to the end
(`insert_above`).
-/

/-- Entries in strictly increasing order of `rank`. -/
structure OrderedLog {α : Type*} (rank : α → Nat) where
  entries : List α
  ordered : entries.Pairwise fun a b => rank a < rank b

namespace OrderedLog

variable {α : Type*} {rank : α → Nat}

/-- The log without entries. -/
def empty : OrderedLog rank := ⟨[], .nil⟩

/-- The highest rank, zero if there is no entry. -/
def latest (l : OrderedLog rank) : Nat := (l.entries.getLast?.map rank).getD 0

theorem ext_entries {l m : OrderedLog rank} (h : l.entries = m.entries) : l = m := by
  cases l; cases m; cases h; rfl

/-- **Two logs with the same entries are the same log.** -/
theorem ext_mem {l m : OrderedLog rank} (h : ∀ a, a ∈ l.entries ↔ a ∈ m.entries) : l = m := by
  have : Std.Irrefl fun a b : α => rank a < rank b := ⟨fun a => Nat.lt_irrefl _⟩
  have : Std.Antisymm fun a b : α => rank a < rank b :=
    ⟨fun a b hab hba => absurd hab (Nat.lt_asymm hba)⟩
  exact ext_entries (l.ordered.eq_of_mem_iff m.ordered h)

/-- An entry is known by its rank. -/
theorem eq_of_rank {l : OrderedLog rank} {a b : α} (ha : a ∈ l.entries) (hb : b ∈ l.entries)
    (h : rank a = rank b) : a = b := by
  have hnodup : (l.entries.map rank).Nodup :=
    List.pairwise_map.mpr (l.ordered.imp fun hab => Nat.ne_of_lt hab)
  exact List.inj_on_of_nodup_map hnodup ha hb h

/-- Put an entry of a new rank in its place. -/
def insert (l : OrderedLog rank) (a : α) (h : ∀ b ∈ l.entries, rank b ≠ rank a) :
    OrderedLog rank where
  entries := l.entries.filter (fun b => rank b < rank a) ++
    a :: l.entries.filter (fun b => rank a < rank b)
  ordered := by
    refine List.pairwise_append.mpr ⟨l.ordered.sublist List.filter_sublist,
      List.pairwise_cons.mpr ⟨?_, l.ordered.sublist List.filter_sublist⟩, ?_⟩
    · intro b hb
      exact of_decide_eq_true (List.mem_filter.mp hb).2
    · intro b hb c hc
      have hba := of_decide_eq_true (List.mem_filter.mp hb).2
      rcases List.mem_cons.mp hc with rfl | hc
      · exact hba
      · exact Nat.lt_trans hba (of_decide_eq_true (List.mem_filter.mp hc).2)

theorem mem_insert {l : OrderedLog rank} {a : α} {h : ∀ b ∈ l.entries, rank b ≠ rank a} {b : α} :
    b ∈ (l.insert a h).entries ↔ b = a ∨ b ∈ l.entries := by
  simp only [insert, List.mem_append, List.mem_cons, List.mem_filter, decide_eq_true_eq]
  constructor
  · rintro (⟨hb, -⟩ | rfl | ⟨hb, -⟩)
    · exact Or.inr hb
    · exact Or.inl rfl
    · exact Or.inr hb
  · rintro (rfl | hb)
    · exact Or.inr (Or.inl rfl)
    · rcases Nat.lt_or_gt_of_ne (h b hb) with hlt | hgt
      · exact Or.inl ⟨hb, hlt⟩
      · exact Or.inr (Or.inr ⟨hb, hgt⟩)

/-- Nothing is lost by the insertion. -/
theorem insert_perm (l : OrderedLog rank) (a : α) (h : ∀ b ∈ l.entries, rank b ≠ rank a) :
    List.Perm (l.insert a h).entries (a :: l.entries) := by
  have hsplit : l.entries.filter (fun b => rank a < rank b) =
      l.entries.filter (fun b => !decide (rank b < rank a)) := by
    refine List.filter_congr fun b hb => ?_
    have := h b hb
    by_cases hlt : rank b < rank a
    · simp [hlt, Nat.le_of_lt hlt]
    · have : rank a < rank b := by omega
      simp [hlt, this]
  show List.Perm (l.entries.filter (fun b => rank b < rank a) ++
    a :: l.entries.filter (fun b => rank a < rank b)) (a :: l.entries)
  rw [hsplit]
  exact List.perm_middle.trans ((List.filter_append_perm _ _).cons a)

/-- An entry above all others goes to the end. -/
theorem insert_above {l : OrderedLog rank} {a : α} {h : ∀ b ∈ l.entries, rank b ≠ rank a}
    (habove : ∀ b ∈ l.entries, rank b < rank a) :
    (l.insert a h).entries = l.entries ++ [a] := by
  have hall : l.entries.filter (fun b => rank b < rank a) = l.entries :=
    List.filter_eq_self.mpr fun b hb => decide_eq_true (habove b hb)
  have hnone : l.entries.filter (fun b => rank a < rank b) = [] :=
    List.filter_eq_nil_iff.mpr fun b hb hgt =>
      absurd (habove b hb) (Nat.lt_asymm (of_decide_eq_true hgt))
  show l.entries.filter (fun b => rank b < rank a) ++
    a :: l.entries.filter (fun b => rank a < rank b) = l.entries ++ [a]
  rw [hall, hnone]

/-- No entry ranks above the latest. -/
theorem rank_le_latest {l : OrderedLog rank} {a : α} (h : a ∈ l.entries) : rank a ≤ l.latest := by
  obtain ⟨entries, ordered⟩ := l
  rcases List.eq_nil_or_concat' entries with rfl | ⟨init, last, rfl⟩
  · cases h
  · rw [List.mem_append, List.mem_singleton] at h
    simp only [latest, List.getLast?_concat, Option.map_some, Option.getD_some]
    rcases h with h | rfl
    · exact Nat.le_of_lt ((List.pairwise_append.mp ordered).2.2 a h last (by simp))
    · exact Nat.le_refl _

theorem latest_insert_above {l : OrderedLog rank} {a : α} {h : ∀ b ∈ l.entries, rank b ≠ rank a}
    (habove : ∀ b ∈ l.entries, rank b < rank a) : (l.insert a h).latest = rank a := by
  rw [latest, insert_above habove, List.getLast?_concat]
  rfl

end OrderedLog
