import Noema.Lib.TopologicalOrder
import Noema.StrategicProjection
import Noema.WorkSafety

/-!
# What the dependency checks accept

Both sorting loops keep a frontier of what they have visited: `PlanValidator.validate` over
the predecessors not yet visited, `_require_dag` over dependencies it removes as it goes.
So both accept exactly what has no cycle, and the sets of ancestors, filled in the order of
the visits, are the transitive closure.
-/
namespace Noema

open TopologicalOrder

namespace PlanValidator

/-! ## The plan's loop -/

variable {dependencies : List WorkDependency} {nodeIds : List String}

theorem mem_successorsOf {nodeId successorId : String} :
    successorId ∈ successorsOf dependencies nodeId ↔
      DependsOn dependencies nodeId successorId := by
  simp only [successorsOf, DependsOn, List.mem_map, List.mem_filter, decide_eq_true_eq]
  constructor
  · rintro ⟨dependency, ⟨hmem, hpredecessor⟩, hsuccessor⟩
    exact ⟨dependency, hmem, hpredecessor, hsuccessor⟩
  · rintro ⟨dependency, hmem, hpredecessor, hsuccessor⟩
    exact ⟨dependency, ⟨hmem, hpredecessor⟩, hsuccessor⟩

/-- The inner loop discards the visited node from the predecessors of each successor. -/
theorem Sorting.foldl_release_remaining (nodeId x : String) :
    ∀ (successors : List String) (s : Sorting), successors.Nodup →
    (successors.foldl (Sorting.release nodeId) s).remaining x =
      if x ∈ successors then (s.remaining x).filter (· ≠ nodeId) else s.remaining x := by
  intro successors
  induction successors with
  | nil => simp
  | cons successorId successors ih =>
    intro s hdistinct
    obtain ⟨hnew, hrest⟩ := List.nodup_cons.mp hdistinct
    rw [List.foldl_cons, ih _ hrest]
    by_cases hx : x = successorId
    · subst hx
      simp [hnew, release]
    · simp [hx, release]

/-- It makes the successors ready that are left without predecessors. -/
theorem Sorting.foldl_release_ready (nodeId x : String) :
    ∀ (successors : List String) (s : Sorting), successors.Nodup →
    (x ∈ (successors.foldl (Sorting.release nodeId) s).ready ↔ x ∈ s.ready ∨
      (x ∈ successors ∧ (s.remaining x).filter (· ≠ nodeId) = [] ∧ x ∉ s.visited)) := by
  intro successors
  induction successors with
  | nil => simp
  | cons successorId successors ih =>
    intro s hdistinct
    obtain ⟨hnew, hrest⟩ := List.nodup_cons.mp hdistinct
    have hready : x ∈ (s.release nodeId successorId).ready ↔ x ∈ s.ready ∨
        (x = successorId ∧ (s.remaining x).filter (· ≠ nodeId) = [] ∧ x ∉ s.visited) := by
      unfold release
      dsimp only
      split
      · rename_i hleft
        rw [List.mem_insertionSort, List.mem_append, List.mem_singleton]
        constructor
        · rintro (hold | rfl)
          · exact .inl hold
          · exact .inr ⟨rfl, hleft.1, hleft.2.1⟩
        · rintro (hold | ⟨rfl, -⟩)
          · exact .inl hold
          · exact .inr rfl
      · rename_i hleft
        constructor
        · exact .inl
        · rintro (hold | ⟨rfl, hnone, hvisited⟩)
          · exact hold
          · by_contra hready
            exact hleft ⟨hnone, hvisited, hready⟩
    rw [List.foldl_cons, ih _ hrest, hready, or_assoc]
    refine or_congr_right ?_
    by_cases hx : x = successorId
    · subst hx
      simp [hnew, release]
    · simp [hx, release]

/-- What the outer loop keeps. -/
structure Sorting.Kept (dependencies : List WorkDependency) (nodeIds : List String) (s : Sorting) :
    Prop where
  frontier : Frontier (DependsOn dependencies) nodeIds s.visited s.ready
  remaining : ∀ x, s.remaining x =
    (predecessorsOf dependencies x).filter (· ∉ s.visited)

theorem filter_unvisited_nil {visited : List String} {x : String} :
    (predecessorsOf dependencies x).filter (· ∉ visited) = [] ↔
      ∀ m, DependsOn dependencies m x → m ∈ visited := by
  simp [List.filter_eq_nil_iff, mem_predecessorsOf]

/-- **A round of the outer loop keeps it.** -/
theorem Sorting.Kept.visit {s : Sorting} {nodeId : String} {ready : List String}
    (h : s.Kept dependencies nodeIds) (hready : s.ready = nodeId :: ready)
    (hknown : ∀ dependency ∈ dependencies, dependency.successorId ∈ nodeIds) :
    (s.visit dependencies nodeId ready).Kept dependencies nodeIds := by
  have hfrontier := hready ▸ h.frontier
  have hdistinct : (sortedSet (successorsOf dependencies nodeId)).Nodup :=
    (List.perm_insertionSort _ _).nodup_iff.mpr (List.nodup_dedup _)
  have hsuccessor : ∀ x, x ∈ sortedSet (successorsOf dependencies nodeId) ↔
      DependsOn dependencies nodeId x := by
    intro x
    rw [sortedSet, List.mem_insertionSort, List.mem_dedup, mem_successorsOf]
  -- What is left once the node is discarded as well.
  have hleft : ∀ x, (s.remaining x).filter (· ≠ nodeId) =
      (predecessorsOf dependencies x).filter (· ∉ s.visited ++ [nodeId]) := by
    intro x
    rw [h.remaining, List.filter_filter]
    refine List.filter_congr fun m _ => ?_
    simp [and_comm]
  have hnodup := (visit_distinct ⟨h.frontier.distinct, fun n hn =>
    (List.mem_append.mp hn).elim (h.frontier.known n) fun hn =>
      ((h.frontier.ready_iff n).mp hn).1⟩ hready hknown).nodup
  have hvisited : (s.visit dependencies nodeId ready).visited = s.visited ++ [nodeId] :=
    visit_visited s nodeId ready
  constructor
  · rw [hvisited]
    refine hfrontier.visit ?_ (hvisited ▸ hnodup) ?_
    · rintro x ⟨dependency, hmem, -, rfl⟩
      exact hknown dependency hmem
    · intro x
      rw [Sorting.visit, foldl_release_ready nodeId x _ _ hdistinct, hsuccessor]
      dsimp only
      rw [hleft, filter_unvisited_nil]
      exact or_congr_right (and_congr_right fun _ => and_comm)
  · intro x
    rw [hvisited, Sorting.visit, foldl_release_remaining nodeId x _ _ hdistinct]
    dsimp only
    rw [hleft, h.remaining]
    split
    · rfl
    · rename_i hafter
      refine List.filter_congr fun m hm => ?_
      have hne : m ≠ nodeId := by
        rintro rfl
        exact hafter ((hsuccessor x).mpr (mem_predecessorsOf.mp hm))
      simp [hne]

theorem Sorting.Kept.run (hknown : ∀ dependency ∈ dependencies,
    dependency.successorId ∈ nodeIds) : ∀ (fuel : Nat) {s : Sorting}, s.Kept dependencies nodeIds →
    (Sorting.run dependencies fuel s).Kept dependencies nodeIds := by
  intro fuel
  induction fuel with
  | zero => exact fun h => h
  | succ fuel ih =>
    intro s h
    rw [Sorting.run]
    split
    · exact h
    · rename_i nodeId ready hready
      exact ih (h.visit hready hknown)

theorem sortingStart_kept (dependencies : List WorkDependency) (hdistinct : nodeIds.Nodup) :
    (sortingStart dependencies nodeIds).Kept dependencies nodeIds := by
  refine ⟨.start ?_ ?_, ?_⟩
  · exact (List.perm_insertionSort _ _).nodup_iff.mpr (hdistinct.filter _)
  · intro n
    simp [sortingStart, List.eq_nil_iff_forall_not_mem, mem_predecessorsOf]
  · simp [sortingStart]

/-- **The visits are a legal order, and nothing is ready after them.** -/
theorem visitOrder_frontier (hdistinct : nodeIds.Nodup)
    (hknown : ∀ dependency ∈ dependencies, dependency.successorId ∈ nodeIds) :
    Frontier (DependsOn dependencies) nodeIds (visitOrder dependencies nodeIds) [] := by
  have hkept := (sortingStart_kept dependencies hdistinct).run hknown
    nodeIds.length
  rw [visitOrder, ← sorted_done hdistinct hknown]
  exact hkept.frontier

/-! ## The plan's ancestors -/

/-- A node takes over a predecessor and its ancestors. -/
def takeOver (nodeId : String) (ancestors : String → List String) (predecessorId : String) :
    String → List String :=
  Function.update ancestors nodeId (ancestors nodeId ++ predecessorId :: ancestors predecessorId)

theorem mem_takeOver {ancestors : String → List String} {nodeId predecessorId x m : String}
    (h : m ∈ ancestors x) : m ∈ takeOver nodeId ancestors predecessorId x := by
  unfold takeOver
  by_cases hx : x = nodeId
  · subst hx
    rw [Function.update_self]
    exact List.mem_append_left _ h
  · rw [Function.update_of_ne hx]
    exact h

theorem mem_foldl_takeOver {nodeId x m : String} : ∀ (predecessors : List String)
    {ancestors : String → List String}, m ∈ ancestors x →
    m ∈ predecessors.foldl (takeOver nodeId) ancestors x := by
  intro predecessors
  induction predecessors with
  | nil => exact fun h => h
  | cons predecessorId predecessors ih => exact fun h => ih (mem_takeOver h)

/-- A node gets its predecessors and what these had. -/
theorem foldl_takeOver_of_mem {nodeId p m : String} : ∀ {predecessors : List String}
    {ancestors : String → List String}, p ∈ predecessors → (m = p ∨ m ∈ ancestors p) →
    m ∈ predecessors.foldl (takeOver nodeId) ancestors nodeId := by
  intro predecessors
  induction predecessors with
  | nil =>
    intro ancestors hp
    exact absurd hp List.not_mem_nil
  | cons predecessorId predecessors ih =>
    intro ancestors hp hm
    rw [List.foldl_cons]
    rcases List.mem_cons.mp hp with rfl | hrest
    · apply mem_foldl_takeOver
      rw [takeOver, Function.update_self, List.mem_append, List.mem_cons]
      exact .inr hm
    · exact ih hrest (hm.imp_right mem_takeOver)

/-- **In the order of the visits, the ancestors are the transitive closure.** -/
theorem mem_ancestorsOf {order : List String} (h : Legal (DependsOn dependencies) order)
    {n m : String} (hn : n ∈ order) :
    m ∈ ancestorsOf dependencies order n ↔ Reaches dependencies m n := by
  refine ⟨ancestorsOf_reach order n m, ?_⟩
  induction h generalizing n m with
  | nil => exact absurd hn List.not_mem_nil
  | @visit order nodeId hlegal hbefore ih =>
    intro hreach
    have hsnoc : ancestorsOf dependencies (order ++ [nodeId]) =
        addAncestors dependencies (ancestorsOf dependencies order) nodeId := List.foldl_concat ..
    rw [hsnoc]
    by_cases hold : n ∈ order
    · exact mem_foldl_takeOver _ (ih hold hreach)
    · obtain rfl := List.mem_singleton.mp ((List.mem_append.mp hn).resolve_left hold)
      -- The last step of the way comes from a node that was visited before.
      cases hreach with
      | single hdirect =>
        exact foldl_takeOver_of_mem (mem_predecessorsOf.mpr hdirect) (.inl rfl)
      | tail hreach hlast =>
        have hancestor := ih (hbefore _ hlast) hreach
        exact foldl_takeOver_of_mem (mem_predecessorsOf.mpr hlast) (.inr hancestor)

/-! ## What a plan must satisfy -/

/-- The checks of a proposal's cursors, times, versions, criteria and capabilities. -/
structure Eligible (proposal : PlanProposal) (workOrder : WorkOrder) (admission : PlanAdmission) :
    Prop where
  order : proposal.workOrderId = workOrder.workOrderId
  created : workOrder.createdAt.instant ≤ proposal.proposedAt.instant
  proposed : proposal.proposedAt.instant ≤ admission.acceptedAt.instant
  cut : proposal.basedOnEventCursor = admission.causalEventCursor
  head : admission.causalEventCursor ≤ admission.acceptanceEventCursor
  canonical : ∀ event ∈ admission.interveningEvents, event.sequence.isSome = true
  increasing : admission.sequences.Pairwise (· < ·)
  window : ∀ sequence ∈ admission.sequences,
    admission.causalEventCursor < sequence ∧ sequence ≤ admission.acceptanceEventCursor
  observed : admission.observedHead = admission.acceptanceEventCursor
  version : proposal.basedOnGraphVersion = admission.currentGraphVersion
  fresh : admission.staleEvents proposal = []
  criteria : ∀ criterion ∈ workOrder.successCriteria, criterion ∈ proposal.doneConditions
  capabilities : unknownCapabilities proposal admission.availableCapabilityTypes = []

/-- The dependencies name nodes of the plan. -/
def Known (proposal : PlanProposal) : Prop :=
  ∀ dependency ∈ proposal.dependencies,
    dependency.predecessorId ∈ proposal.nodes.map (·.nodeId) ∧
      dependency.successorId ∈ proposal.nodes.map (·.nodeId)

/-- The graph of a plan is legal. -/
structure LegalGraph (proposal : PlanProposal) : Prop where
  nodes : (proposal.nodes.map (·.nodeId)).Nodup
  dependencies : (proposal.dependencies.map PlanProposal.dependencyKey).Nodup
  known : Known proposal
  acyclic : Acyclic (DependsOn proposal.dependencies)
  targets : ∀ node ∈ proposal.nodes, ∀ targetId ∈ node.verificationOf,
    Reaches proposal.dependencies targetId node.nodeId

variable {proposal : PlanProposal}

theorem unknownDependencies_nil : unknownDependencies proposal = [] ↔ Known proposal := by
  simp only [unknownDependencies, Known, List.filter_eq_nil_iff, List.mem_flatMap,
    List.mem_cons, List.not_mem_nil, or_false, decide_eq_true_eq, not_not]
  constructor
  · intro h dependency hmem
    exact ⟨h _ ⟨dependency, hmem, .inl rfl⟩, h _ ⟨dependency, hmem, .inr rfl⟩⟩
  · rintro h nodeId ⟨dependency, hmem, rfl | rfl⟩
    · exact (h dependency hmem).1
    · exact (h dependency hmem).2

/-- **A proposal's visits are a legal order.** -/
theorem visited_frontier (hdistinct : (proposal.nodes.map (·.nodeId)).Nodup)
    (hknown : Known proposal) :
    Frontier (DependsOn proposal.dependencies) (proposal.nodes.map (·.nodeId))
      (visited proposal) [] :=
  visitOrder_frontier hdistinct fun dependency hmem => (hknown dependency hmem).2

/-- **All nodes are visited exactly if the dependencies have no cycle.** -/
theorem visited_length (hdistinct : (proposal.nodes.map (·.nodeId)).Nodup)
    (hknown : Known proposal) :
    (visited proposal).length = proposal.nodes.length ↔
      Acyclic (DependsOn proposal.dependencies) := by
  have hcount := (visited_frontier hdistinct hknown).length_iff hdistinct ?_
  · rwa [List.length_map] at hcount
  · rintro m n ⟨dependency, hmem, rfl, rfl⟩
    exact hknown dependency hmem

/-- **The ancestors of a legal plan's node are all that reach it.** -/
theorem mem_ancestors (hdistinct : (proposal.nodes.map (·.nodeId)).Nodup)
    (hknown : Known proposal) (hacyclic : Acyclic (DependsOn proposal.dependencies))
    {node : WorkNode} (hnode : node ∈ proposal.nodes) (ancestorId : String) :
    ancestorId ∈ ancestorsOf proposal.dependencies (visited proposal) node.nodeId ↔
      Reaches proposal.dependencies ancestorId node.nodeId := by
  have hfrontier := visited_frontier hdistinct hknown
  refine mem_ancestorsOf hfrontier.legal ?_
  refine (hfrontier.all_iff ?_).mpr hacyclic _ (List.mem_map_of_mem hnode)
  rintro m n ⟨dependency, hmem, rfl, rfl⟩
  exact hknown dependency hmem

theorem missingTargets_nil {node : WorkNode} :
    missingTargets proposal node = [] ↔ ∀ targetId ∈ node.verificationOf,
      targetId ∈ ancestorsOf proposal.dependencies (visited proposal) node.nodeId := by
  simp [missingTargets, List.filter_eq_nil_iff]

/-- **What the validator checks of the dependencies is that the graph is legal.** -/
theorem admits_iff {workOrder : WorkOrder} {admission : PlanAdmission} :
    Admits proposal workOrder admission ↔
      Eligible proposal workOrder admission ∧ LegalGraph proposal := by
  constructor
  · intro h
    have hknown := unknownDependencies_nil.mp h.known
    refine ⟨⟨h.order, h.created, h.proposed, h.cut, h.head, h.canonical, h.increasing, h.window,
      h.observed, h.version, h.fresh, h.criteria, h.capabilities⟩, h.nodes, h.dependencies,
      hknown, (visited_length h.nodes hknown).mp h.acyclic, ?_⟩
    exact fun node hnode targetId htarget => h.targets_reach hnode htarget
  · rintro ⟨h, hgraph⟩
    refine ⟨h.order, h.created, h.proposed, h.cut, h.head, h.canonical, h.increasing, h.window,
      h.observed, h.version, h.fresh, h.criteria, hgraph.nodes, hgraph.dependencies,
      unknownDependencies_nil.mpr hgraph.known, h.capabilities,
      (visited_length hgraph.nodes hgraph.known).mpr hgraph.acyclic, ?_⟩
    intro node hnode
    refine missingTargets_nil.mpr fun targetId htarget => ?_
    exact (mem_ancestors hgraph.nodes hgraph.known hgraph.acyclic hnode targetId).mpr
      (hgraph.targets node hnode targetId htarget)

end PlanValidator

/-! ## The roadmap's loop -/

namespace StrategicProjection

/-- An entry lists what comes before its key. -/
def Precedes (entries : List (String × List String)) (m n : String) : Prop :=
  ∃ entry ∈ entries, entry.1 = n ∧ m ∈ entry.2

theorem release_entries (nodeId : String) (visited : List String) :
    ∀ (entries : List (String × List String)) (ready : List String),
    (release nodeId visited entries ready).1 =
      entries.map fun entry => (entry.1, entry.2.erase nodeId) := by
  intro entries
  induction entries with
  | nil => exact fun ready => rfl
  | cons entry entries ih =>
    intro ready
    exact congrArg (_ :: ·) (ih _)

/-- The keys become ready that the visit leaves without predecessors. -/
theorem mem_release (nodeId x : String) (visited : List String) :
    ∀ (entries : List (String × List String)) (ready : List String),
    x ∈ (release nodeId visited entries ready).2 ↔ x ∈ ready ∨
      ∃ entry ∈ entries, entry.1 = x ∧ nodeId ∈ entry.2 ∧ entry.2.erase nodeId = [] ∧
        x ∉ visited := by
  intro entries
  induction entries with
  | nil => simp [release]
  | cons entry entries ih =>
    intro ready
    obtain ⟨successor, predecessors⟩ := entry
    rw [release, List.exists_mem_cons_iff, ← or_assoc]
    dsimp only
    rw [ih]
    refine or_congr_left ?_
    split
    · rename_i h
      rw [List.mem_insertionSort, List.mem_append, List.mem_singleton]
      refine or_congr_right ⟨?_, fun h => h.1.symm⟩
      rintro rfl
      exact ⟨rfl, h.1, h.2.1, h.2.2.1⟩
    · rename_i h
      constructor
      · exact .inl
      · rintro (hold | ⟨rfl, hmem, hnone, hvisited⟩)
        · exact hold
        · by_contra hready
          exact h ⟨hmem, hnone, hvisited, hready⟩

theorem release_nodup (nodeId : String) {visited : List String} :
    ∀ (entries : List (String × List String)) {ready : List String}, (visited ++ ready).Nodup →
    (visited ++ (release nodeId visited entries ready).2).Nodup := by
  intro entries
  induction entries with
  | nil => exact fun h => h
  | cons entry entries ih =>
    intro ready h
    obtain ⟨successor, predecessors⟩ := entry
    rw [release]
    dsimp only
    refine ih ?_
    split
    · rename_i hnew
      have hperm := List.perm_insertionSort (· ≤ ·) (ready ++ [successor])
      rw [(hperm.append_left visited).nodup_iff, ← List.append_assoc, List.nodup_append]
      refine ⟨h, List.nodup_singleton _, ?_⟩
      rintro a ha b hb rfl
      obtain rfl := List.mem_singleton.mp hb
      exact (List.mem_append.mp ha).elim hnew.2.2.1 hnew.2.2.2
    · exact h

/-- The dependencies on nodes not yet visited. -/
def unvisited (entries : List (String × List String)) (visited : List String) :
    List (String × List String) :=
  entries.map fun entry => (entry.1, entry.2.filter (· ∉ visited))

variable {entries : List (String × List String)} {visited ready : List String} {nodeId : String}

/-- A round removes the visited node from the dependencies. -/
theorem release_unvisited (hdistinct : ∀ entry ∈ entries, entry.2.Nodup) :
    (release nodeId (visited ++ [nodeId]) (unvisited entries visited) ready).1 =
      unvisited entries (visited ++ [nodeId]) := by
  rw [release_entries, unvisited, unvisited, List.map_map]
  refine List.map_congr_left fun entry hentry => ?_
  have hrest := (hdistinct entry hentry).filter (· ∉ visited)
  simp only [Function.comp_apply, Prod.mk.injEq, true_and]
  rw [hrest.erase_eq_filter, List.filter_filter]
  refine List.filter_congr fun m _ => ?_
  by_cases hm : m = nodeId
  · simp [hm]
  · simp [hm, bne]

/-- **A round keeps the frontier.** -/
theorem release_frontier (hkeys : (entries.map Prod.fst).Nodup)
    (hdistinct : ∀ entry ∈ entries, entry.2.Nodup)
    (h : Frontier (Precedes entries) (entries.map Prod.fst) visited (nodeId :: ready)) :
    Frontier (Precedes entries) (entries.map Prod.fst) (visited ++ [nodeId])
      (release nodeId (visited ++ [nodeId]) (unvisited entries visited) ready).2 := by
  have hvisited : nodeId ∉ visited := ((h.ready_iff nodeId).mp (List.mem_cons_self ..)).2.1
  refine h.visit ?_ ?_ ?_
  · rintro x ⟨entry, hentry, rfl, -⟩
    exact List.mem_map_of_mem hentry
  · refine release_nodup nodeId _ ?_
    simpa using h.distinct
  · intro x
    rw [mem_release]
    refine or_congr_right ?_
    constructor
    · rintro ⟨entry', hentry', rfl, hmem, hnone, hnew⟩
      obtain ⟨entry, hentry, rfl⟩ := List.mem_map.mp hentry'
      refine ⟨⟨entry, hentry, rfl, (List.mem_filter.mp hmem).1⟩, hnew, ?_⟩
      rintro m ⟨other, hother, hkey, hm⟩
      -- Keys are distinct, so there is one entry for the successor.
      obtain rfl := List.inj_on_of_nodup_map hkeys hother hentry hkey
      rw [((hdistinct other hother).filter _).erase_eq_filter, List.filter_filter,
        List.filter_eq_nil_iff] at hnone
      have hm := hnone m hm
      simp only [bne_iff_ne, decide_eq_true_eq, Bool.and_eq_true, not_and, not_not] at hm
      rw [List.mem_append, List.mem_singleton]
      by_cases hmn : m = nodeId
      · exact .inr hmn
      · exact .inl (hm hmn)
    · rintro ⟨⟨entry, hentry, rfl, hmem⟩, hnew, hall⟩
      refine ⟨_, List.mem_map_of_mem hentry, rfl, ?_, ?_, hnew⟩
      · simpa using ⟨hmem, hvisited⟩
      · rw [((hdistinct entry hentry).filter _).erase_eq_filter, List.filter_filter,
          List.filter_eq_nil_iff]
        intro m hm
        have hm := hall m ⟨entry, hentry, rfl, hm⟩
        rw [List.mem_append, List.mem_singleton] at hm
        simp only [bne_iff_ne, decide_eq_true_eq, Bool.and_eq_true, not_and, not_not]
        exact fun hne => hm.resolve_right hne

/-- At first the keys without predecessors are ready. -/
theorem mem_ready (hkeys : (entries.map Prod.fst).Nodup) (n : String) :
    n ∈ ((entries.filter fun entry => entry.2.isEmpty).map Prod.fst).insertionSort (· ≤ ·) ↔
      n ∈ entries.map Prod.fst ∧ ∀ m, ¬ Precedes entries m n := by
  rw [List.mem_insertionSort]
  constructor
  · intro h
    obtain ⟨entry, hentry, rfl⟩ := List.mem_map.mp h
    obtain ⟨hmem, hnone⟩ := List.mem_filter.mp hentry
    refine ⟨List.mem_map_of_mem hmem, ?_⟩
    rintro m ⟨other, hother, hkey, hm⟩
    obtain rfl := List.inj_on_of_nodup_map hkeys hother hmem hkey
    rw [List.isEmpty_iff.mp hnone] at hm
    cases hm
  · rintro ⟨h, hfirst⟩
    obtain ⟨entry, hentry, rfl⟩ := List.mem_map.mp h
    refine List.mem_map_of_mem (List.mem_filter.mpr ⟨hentry, ?_⟩)
    rw [List.isEmpty_iff, List.eq_nil_iff_forall_not_mem]
    exact fun m hm => hfirst m ⟨entry, hentry, rfl, hm⟩

/-- **There are passes enough, and nothing is ready after them.** -/
theorem visitReady_frontier (hkeys : (entries.map Prod.fst).Nodup)
    (hdistinct : ∀ entry ∈ entries, entry.2.Nodup) : ∀ (passes : Nat) {visited ready : List String},
    Frontier (Precedes entries) (entries.map Prod.fst) visited ready →
    entries.length ≤ visited.length + passes →
    Frontier (Precedes entries) (entries.map Prod.fst)
      (visitReady passes (unvisited entries visited) ready visited) [] := by
  intro passes
  induction passes with
  | zero =>
    intro visited ready h hlength
    have hsub : visited ++ ready ⊆ entries.map Prod.fst := by
      intro n hn
      exact (List.mem_append.mp hn).elim (h.known n) fun hn => ((h.ready_iff n).mp hn).1
    have hle := (List.subperm_of_subset h.distinct hsub).length_le
    rw [List.length_append, List.length_map] at hle
    obtain rfl := List.length_eq_zero_iff.mp (show ready.length = 0 by omega)
    exact h
  | succ passes ih =>
    intro visited ready h hlength
    cases ready with
    | nil => exact h
    | cons nodeId ready =>
      rw [visitReady]
      dsimp only
      rw [release_unvisited hdistinct]
      refine ih (release_frontier hkeys hdistinct h) ?_
      rw [List.length_append, List.length_singleton]
      omega

/-- What an outcome approximately depends on comes before it. -/
def ComesBefore (revision : RoadmapRevision) (m n : String) : Prop :=
  ∃ node ∈ revision.outcomeNodes, node.nodeId = n ∧ m ∈ node.approximateDependencies

theorem requireUnique_nodup {values : List String} {name : String} {required : Bool}
    (h : requireUnique values name required = .ok ()) : values.Nodup := by
  unfold requireUnique at h
  split_ifs at h with _ _ hdistinct
  exact hdistinct

theorem nodeIds_nodup (revision : RoadmapRevision) : revision.nodeIds.Nodup := by
  have h := revision.checked
  unfold RoadmapContent.check at h
  obtain ⟨_, -, h⟩ := bind_eq_ok h
  obtain ⟨_, -, h⟩ := bind_eq_ok h
  obtain ⟨_, -, h⟩ := bind_eq_ok h
  obtain ⟨_, -, h⟩ := bind_eq_ok h
  obtain ⟨_, -, h⟩ := bind_eq_ok h
  obtain ⟨_, -, h⟩ := bind_eq_ok h
  obtain ⟨_, -, h⟩ := bind_eq_ok h
  obtain ⟨_, -, h⟩ := bind_eq_ok h
  obtain ⟨_, -, h⟩ := bind_eq_ok h
  obtain ⟨_, hunique, -⟩ := bind_eq_ok h
  exact requireUnique_nodup hunique

theorem approximateDependencies_nodup (node : OutcomeNode) :
    node.approximateDependencies.Nodup := by
  have h := node.checked
  unfold NodeContent.check at h
  obtain ⟨_, -, h⟩ := bind_eq_ok h
  obtain ⟨_, -, h⟩ := bind_eq_ok h
  obtain ⟨_, -, h⟩ := bind_eq_ok h
  obtain ⟨_, hunique, -⟩ := bind_eq_ok h
  exact requireUnique_nodup hunique

/-- **A roadmap passes exactly if its approximate dependencies have no cycle.** -/
theorem requireDag_iff {revision : RoadmapRevision}
    (hknown : ∀ node ∈ revision.outcomeNodes, ∀ dependency ∈ node.approximateDependencies,
      dependency ∈ revision.nodeIds) :
    requireDag revision = .ok () ↔ Acyclic (ComesBefore revision) := by
  let entries := revision.outcomeNodes.map fun node =>
    (node.nodeId, node.approximateDependencies)
  let ready := ((entries.filter fun entry => entry.2.isEmpty).map Prod.fst).insertionSort (· ≤ ·)
  have hnodeIds : entries.map Prod.fst = revision.nodeIds := by
    simp [entries, RoadmapRevision.nodeIds]
  have hkeys : (entries.map Prod.fst).Nodup := hnodeIds ▸ nodeIds_nodup revision
  have hdistinct : ∀ entry ∈ entries, entry.2.Nodup := by
    intro entry hentry
    obtain ⟨node, -, rfl⟩ := List.mem_map.mp hentry
    exact approximateDependencies_nodup node
  have hprecedes : Precedes entries = ComesBefore revision := by
    funext m n
    simp [Precedes, ComesBefore, entries]
  have hstart : Frontier (Precedes entries) (entries.map Prod.fst) [] ready := by
    refine .start ?_ ?_
    · refine (List.perm_insertionSort _ _).nodup_iff.mpr (hkeys.sublist ?_)
      exact List.filter_sublist.map _
    · intro n
      exact mem_ready hkeys n
  have hfrontier := visitReady_frontier hkeys hdistinct entries.length hstart (by simp)
  have hall : unvisited entries [] = entries := by simp [unvisited]
  rw [hall] at hfrontier
  have hcount := hfrontier.length_iff hkeys ?_
  · rw [List.length_map, List.length_map] at hcount
    rw [← hprecedes, ← hcount, requireDag, refuse_iff]
    simp only [ready, entries, List.length_map, ne_eq, Classical.not_not]
  · rw [hprecedes, hnodeIds]
    rintro m n ⟨node, hnode, rfl, hm⟩
    exact ⟨hknown node hnode m hm, List.mem_map_of_mem hnode⟩

end StrategicProjection

open WorkProjection (reviewIds reviewOrder firstPlan)

def roadmapAuthority : IntentAuthority where
  authorityId := "authority"
  principalId := "ada"
  scope := .user
  allowedGoalKinds := [.userAuthored]
  goalRefs := []
  provenanceRef := "origin"
  checked := by decide +kernel

def outcome (nodeId : String) (approximateDependencies : List String) : NodeContent where
  nodeId
  description := "outcome"
  successCriteria := ["seen"]
  approximateDependencies
  assumptionRefs := []
  confidence := .finite 1

/-- A roadmap of two outcomes, one of which waits for the other. -/
def shippingRoadmap : RoadmapRevision where
  roadmapId := "shipping"
  version := 1
  governingGoalRevisionIds := ["goal"]
  outcomeNodes :=
    [⟨outcome "ship" ["build"], by decide +kernel⟩, ⟨outcome "build" [], by decide +kernel⟩]
  assumptions := []
  confidence := .finite 1
  successCriteria := ["shipped"]
  resourceEnvelope := []
  intentAuthority := roadmapAuthority
  basedOnEventCursor := 0
  author := "ada"
  revisionReason := "first"
  recordedAt := .utc 0
  supersedesRevisionId := none
  revisionId := "roadmap-revision:shipping:1"
  checked := by decide +kernel

/-- The plan of the two steps is accepted right at its causal cut. -/
def firstAdmission : PlanAdmission where
  causalEventCursor := 7
  acceptanceEventCursor := 7
  currentGraphVersion := 0
  availableCapabilityTypes := ["code"]
  interveningEvents := []
  acceptedAt := .utc 2

end Noema
