import Mathlib.Logic.Relation
import Mathlib.Order.WellFoundedSet

/-!
# Topological orders

`r m n` says that `m` comes before `n`.  A loop that visits ready nodes, one at a time,
keeps a `Frontier`: what it has visited is in a legal order, and ready is whatever could be
visited next.  When nothing is ready any more, all nodes are visited exactly if the
relation has no cycle (`Frontier.all_iff`).
-/
namespace TopologicalOrder

variable {α : Type*} {r : α → α → Prop}

/-- Nothing comes before itself. -/
def Acyclic (r : α → α → Prop) : Prop := ∀ n, ¬ Relation.TransGen r n n

/-- Every node stands after whatever comes before it. -/
inductive Legal (r : α → α → Prop) : List α → Prop
  | nil : Legal r []
  | visit {order : List α} {n : α} :
      Legal r order → (∀ m, r m n → m ∈ order) → Legal r (order ++ [n])

/-- **A node in a legal order has no infinite past.** -/
theorem Legal.acc {order : List α} (h : Legal r order) : ∀ n ∈ order, Acc r n := by
  induction h with
  | nil =>
    intro n hn
    exact absurd hn List.not_mem_nil
  | visit hlegal hbefore ih =>
    intro n hn
    rcases List.mem_append.mp hn with hold | hnew
    · exact ih n hold
    · obtain rfl := List.mem_singleton.mp hnew
      exact Acc.intro n fun m hm => ih m (hbefore m hm)

theorem acyclic_of_acc (h : ∀ n, Acc r n) : Acyclic r := by
  have hwell : WellFounded (Relation.TransGen r) := (WellFounded.intro h).transGen
  exact fun n => hwell.irrefl.irrefl n

/-- **Without a cycle, some member of a finite set comes after no other member.** -/
theorem Acyclic.exists_first (h : Acyclic r) {left : List α} {n : α} (hn : n ∈ left) :
    ∃ first ∈ left, ∀ m ∈ left, ¬ r m first := by
  have horder : IsStrictOrder α (Relation.TransGen r) :=
    { irrefl := h, trans := fun _ _ _ => Relation.TransGen.trans }
  have hwell := (List.finite_toSet left).wellFoundedOn (r := Relation.TransGen r)
  obtain ⟨⟨first, hfirst⟩, -, hmin⟩ := hwell.has_min Set.univ ⟨⟨n, hn⟩, trivial⟩
  exact ⟨first, hfirst, fun m hm hbefore => hmin ⟨m, hm⟩ trivial (.single hbefore)⟩

/-! ## Relations that grow -/

theorem Acyclic.mono {s : α → α → Prop} (h : Acyclic s) (hsub : ∀ m n, r m n → s m n) :
    Acyclic r :=
  fun n hn => h n (Relation.TransGen.mono hsub n n hn)

/-- A way in the grown relation is an old way, or goes over the new edge. -/
theorem transGen_edge {a b m n : α}
    (h : Relation.TransGen (fun m n => r m n ∨ (m = a ∧ n = b)) m n) :
    Relation.TransGen r m n ∨ (Relation.ReflTransGen r m a ∧ Relation.ReflTransGen r b n) := by
  induction h with
  | single hstep =>
    rcases hstep with hold | ⟨rfl, rfl⟩
    · exact .inl (.single hold)
    · exact .inr ⟨.refl, .refl⟩
  | tail _ hstep ih =>
    rcases hstep with hold | ⟨rfl, rfl⟩
    · rcases ih with ih | ⟨hstart, hend⟩
      · exact .inl (ih.tail hold)
      · exact .inr ⟨hstart, hend.tail hold⟩
    · rcases ih with ih | ⟨hstart, -⟩
      · exact .inr ⟨ih.to_reflTransGen, .refl⟩
      · exact .inr ⟨hstart, .refl⟩

/-- **A new edge closes a cycle exactly if its end leads to its start.** -/
theorem acyclic_edge_iff {a b : α} :
    Acyclic (fun m n => r m n ∨ (m = a ∧ n = b)) ↔ Acyclic r ∧ ¬ Relation.ReflTransGen r b a := by
  constructor
  · intro h
    refine ⟨h.mono fun _ _ => .inl, fun hback => ?_⟩
    refine h a (Relation.TransGen.head' (.inr ⟨rfl, rfl⟩) ?_)
    exact Relation.ReflTransGen.mono (fun _ _ h => Or.inl h) _ _ hback
  · rintro ⟨h, hback⟩ n hn
    rcases transGen_edge hn with hold | ⟨hstart, hend⟩
    · exact h n hold
    · exact hback (hend.trans hstart)

/-! ## The loop -/

/-- What holds between two rounds. -/
structure Frontier (r : α → α → Prop) (nodes visited ready : List α) : Prop where
  legal : Legal r visited
  known : ∀ n ∈ visited, n ∈ nodes
  distinct : (visited ++ ready).Nodup
  ready_iff : ∀ n, n ∈ ready ↔ n ∈ nodes ∧ n ∉ visited ∧ ∀ m, r m n → m ∈ visited

variable {nodes visited ready released : List α} {n : α}

/-- At first the nodes are ready that come after nothing. -/
theorem Frontier.start (hdistinct : ready.Nodup)
    (hready : ∀ n, n ∈ ready ↔ n ∈ nodes ∧ ∀ m, ¬ r m n) : Frontier r nodes [] ready where
  legal := .nil
  known := by simp
  distinct := hdistinct
  ready_iff := by simpa using hready

theorem Frontier.not_ready (h : Frontier r nodes visited (n :: ready)) : n ∉ ready := by
  have hdistinct := (List.nodup_append.mp h.distinct).2.1
  exact (List.nodup_cons.mp hdistinct).1

/-- **A round visits a ready node and makes those ready that waited for nothing else.** -/
theorem Frontier.visit (h : Frontier r nodes visited (n :: ready))
    (hknown : ∀ x, r n x → x ∈ nodes) (hdistinct : (visited ++ [n] ++ released).Nodup)
    (hreleased : ∀ x, x ∈ released ↔ x ∈ ready ∨
      (r n x ∧ x ∉ visited ++ [n] ∧ ∀ m, r m x → m ∈ visited ++ [n])) :
    Frontier r nodes (visited ++ [n]) released := by
  obtain ⟨hn, -, hbefore⟩ := (h.ready_iff n).mp (List.mem_cons_self ..)
  refine ⟨.visit h.legal hbefore, ?_, hdistinct, ?_⟩
  · intro x hx
    rcases List.mem_append.mp hx with hold | hnew
    · exact h.known x hold
    · obtain rfl := List.mem_singleton.mp hnew
      exact hn
  · intro x
    rw [hreleased]
    constructor
    · rintro (hx | ⟨hafter, hx⟩)
      · obtain ⟨hnode, hvisited, hall⟩ := (h.ready_iff x).mp (List.mem_cons_of_mem _ hx)
        refine ⟨hnode, ?_, fun m hm => List.mem_append_left _ (hall m hm)⟩
        rw [List.mem_append, List.mem_singleton, not_or]
        exact ⟨hvisited, fun hxn => h.not_ready (hxn ▸ hx)⟩
      · exact ⟨hknown x hafter, hx⟩
    · rintro ⟨hnode, hvisited, hall⟩
      by_cases hafter : r n x
      · exact .inr ⟨hafter, hvisited, hall⟩
      -- Not waiting for `n`, the node was ready before.
      · rw [List.mem_append, List.mem_singleton, not_or] at hvisited
        have hall' : ∀ m, r m x → m ∈ visited := by
          intro m hm
          rcases List.mem_append.mp (hall m hm) with hold | hnew
          · exact hold
          · exact absurd (List.mem_singleton.mp hnew ▸ hm) hafter
        have hx := (h.ready_iff x).mpr ⟨hnode, hvisited.1, hall'⟩
        exact .inl ((List.mem_cons.mp hx).resolve_left hvisited.2)

/-- **With nothing ready, all nodes are visited exactly if there is no cycle.** -/
theorem Frontier.all_iff (h : Frontier r nodes visited [])
    (hnodes : ∀ m n, r m n → m ∈ nodes ∧ n ∈ nodes) :
    (∀ n ∈ nodes, n ∈ visited) ↔ Acyclic r := by
  classical
  constructor
  · intro hall
    refine acyclic_of_acc fun n => Acc.intro n fun m hm => ?_
    exact h.legal.acc m (hall m (hnodes m n hm).1)
  · intro hacyclic n hn
    by_contra hleft
    have hsome : n ∈ nodes.filter (· ∉ visited) := by simpa using ⟨hn, hleft⟩
    obtain ⟨first, hfirst, hmin⟩ := hacyclic.exists_first hsome
    obtain ⟨hnode, hvisited⟩ : first ∈ nodes ∧ first ∉ visited := by simpa using hfirst
    refine absurd ((h.ready_iff first).mpr ⟨hnode, hvisited, ?_⟩) List.not_mem_nil
    intro m hm
    by_contra hunvisited
    exact hmin m (by simpa using ⟨(hnodes m first hm).1, hunvisited⟩) hm

/-- The same, by counting. -/
theorem Frontier.length_iff (h : Frontier r nodes visited []) (hdistinct : nodes.Nodup)
    (hnodes : ∀ m n, r m n → m ∈ nodes ∧ n ∈ nodes) :
    visited.length = nodes.length ↔ Acyclic r := by
  rw [← h.all_iff hnodes]
  have hvisited : visited.Nodup := by simpa using h.distinct
  have hsub : visited.Subperm nodes := List.subperm_of_subset hvisited h.known
  constructor
  · intro hlength n hn
    exact (hsub.perm_of_length_le (Nat.le_of_eq hlength.symm)).mem_iff.mpr hn
  · intro hall
    exact Nat.le_antisymm hsub.length_le (List.subperm_of_subset hdistinct hall).length_le

end TopologicalOrder
