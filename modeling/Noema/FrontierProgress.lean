import Noema.DependencyValidation
import Noema.WorkMatching

/-!
# The frontier of an accepted graph

An accepted graph has distinct nodes, dependencies among them without a cycle, and an
order that was recorded (`rebuild_legal`).  So `ReadyFrontier.derive` answers, puts every
node into exactly one of its lists, and some node is ready unless all nodes are completed
or something is leased or waits for coverage (`frontier_progress`).
-/
namespace Noema
open WorkProjection TopologicalOrder

/-! ## Accepted graphs -/

/-- What acceptance leaves of a graph and its order. -/
structure LegalWork (p : WorkProjection) (graph : WorkGraph) : Prop where
  nodes : (graph.nodes.map (·.nodeId)).Nodup
  known : ∀ dependency ∈ graph.dependencies,
    dependency.predecessorId ∈ graph.nodes.map (·.nodeId) ∧
      dependency.successorId ∈ graph.nodes.map (·.nodeId)
  acyclic : Acyclic (DependsOn graph.dependencies)
  order : (p.orders.find graph.workOrderId).isSome = true

variable {ids : WorkIds} {floats : FloatProduct} {p q : WorkProjection} {graph : WorkGraph}
  {coverage : Option AwarenessCoverage} {history : List WorkEvent} {event : WorkEvent}
  {sequence : Nat}

/-- An accepted graph is that of a legal proposal. -/
theorem legalWork_of_fits {proposal : PlanProposal} {order : WorkOrder} {available : List String}
    (h : GraphFits ids p event sequence graph proposal order available) : LegalWork p graph := by
  obtain ⟨hadmits, hgraph⟩ := PlanValidator.validate_ok.mp h.valid
  have hlegal := (PlanValidator.admits_iff.mp hadmits).2
  have hnodes : graph.nodes = proposal.nodes := by rw [hgraph]; rfl
  have hdependencies : graph.dependencies = proposal.dependencies := by rw [hgraph]; rfl
  constructor
  · rw [hnodes]
    exact hlegal.nodes
  · rw [hnodes, hdependencies]
    exact hlegal.known
  · rw [hdependencies]
    exact hlegal.acyclic
  · rw [h.findOrder]
    rfl

/-- The orders stay. -/
theorem LegalWork.mono (h : LegalWork p graph)
    (horders : ∀ id, (p.orders.find id).isSome = true → (q.orders.find id).isSome = true) :
    LegalWork q graph :=
  ⟨h.nodes, h.known, h.acyclic, horders _ h.order⟩

/-- **Every graph of an accepted history is legal.** -/
theorem rebuild_legal (h : rebuild ids floats history = .ok p) :
    ∀ graph ∈ p.graphs.rows, LegalWork p graph := by
  refine rebuild_induction (I := fun _ p => ∀ graph ∈ p.graphs.rows, LegalWork p graph)
    (fun _ h => (nomatch h)) (fun _ _ _ _ ih _ => ih) ?_ h
  intro _ event q q' sequence _ ih _ _ _ hrecorded
  cases hrecorded with
  | proposal | presence | manifest | estimate | lease | expiration | completion | invalidation
  | other => exact fun graph hgraph => (ih graph hgraph).mono fun _ h => h
  | @order order _ _ _ =>
    refine fun graph hgraph => (ih graph hgraph).mono fun id hid => ?_
    show ((q.orders.put order).find id).isSome = true
    rw [KeyedTable.find_put]
    split
    · rfl
    · exact hid
  | @graph graph proposal order available _ hfits =>
    intro other hother
    rcases KeyedTable.mem_put.mp hother with rfl | ⟨hold, -⟩
    · exact (legalWork_of_fits hfits).mono fun _ h => h
    · exact (ih other hold).mono fun _ h => h

/-! ## Requirements -/

/-- The coverage meets a prerequisite. -/
def Met (coverage : Option AwarenessCoverage) (prerequisite : ActionPrerequisite) : Prop :=
  ∃ known, coverage = some known ∧ OrientationBarrier.satisfies prerequisite known = true

namespace ReadyFrontier

theorem met_stricter {current value : ActionPrerequisite}
    (hsource : current.sourceId = value.sourceId) :
    Met coverage (stricter current value) ↔ Met coverage current ∧ Met coverage value := by
  cases coverage with
  | none => simp [Met]
  | some known =>
    simp only [Met, Option.some.injEq, exists_eq_left', OrientationBarrier.satisfies, stricter,
      hsource]
    cases known.get value.sourceId with
    | none => simp
    | some entry =>
      simp only [Option.any_some, Bool.and_eq_true, decide_eq_true_eq, max_le_iff]
      tauto

/-- A node's prerequisite is merged into the requirement on its source. -/
def merge (requirements : KeyedTable ActionPrerequisite.sourceId) (value : ActionPrerequisite) :
    KeyedTable ActionPrerequisite.sourceId :=
  requirements.put (match requirements.find value.sourceId with
    | none => value
    | some current => stricter current value)

/-- **Merging asks for both.** -/
theorem met_merge (requirements : KeyedTable ActionPrerequisite.sourceId)
    (value : ActionPrerequisite) :
    (∀ requirement ∈ (merge requirements value).rows, Met coverage requirement) ↔
      (∀ requirement ∈ requirements.rows, Met coverage requirement) ∧ Met coverage value := by
  unfold merge
  split
  · rename_i hnone
    rw [KeyedTable.put_rows_of_new (KeyedTable.not_mem_keys_of_find hnone)]
    simp only [List.mem_append, List.mem_singleton, or_imp, forall_and, forall_eq]
  · rename_i current hfind
    have hsource := KeyedTable.find_key hfind
    constructor
    · intro h
      have hboth := (met_stricter hsource).mp (h _ (KeyedTable.mem_put.mpr (.inl rfl)))
      refine ⟨fun requirement hmem => ?_, hboth.2⟩
      by_cases hkey : requirement.sourceId = value.sourceId
      · have hsame := KeyedTable.find_of_mem hmem
        rw [hkey, hfind] at hsame
        cases hsame
        exact hboth.1
      · exact h requirement (KeyedTable.mem_put.mpr (.inr ⟨hmem, hkey⟩))
    · rintro ⟨hall, hvalue⟩ requirement hmem
      rcases KeyedTable.mem_put.mp hmem with rfl | ⟨hold, -⟩
      · exact (met_stricter hsource).mpr ⟨hall current (KeyedTable.mem_of_find hfind), hvalue⟩
      · exact hall requirement hold

theorem met_foldl (values : List ActionPrerequisite) :
    ∀ requirements : KeyedTable ActionPrerequisite.sourceId,
    (∀ requirement ∈ (values.foldl merge requirements).rows, Met coverage requirement) ↔
      (∀ requirement ∈ requirements.rows, Met coverage requirement) ∧
        ∀ value ∈ values, Met coverage value := by
  induction values with
  | nil => simp
  | cons value values ih =>
    intro requirements
    rw [List.foldl_cons, ih, met_merge, List.forall_mem_cons, and_assoc]

/-- **The merged requirements are met exactly if those of the order and the node are.** -/
theorem met_requirementsBySource (order : WorkOrder) (node : WorkNode) :
    (∀ requirement ∈ (requirementsBySource order node).rows, Met coverage requirement) ↔
      ∀ value ∈ order.epistemicPrerequisites ++ node.epistemicPrerequisites,
        Met coverage value := by
  have hstart : KeyedTable.ofList order.epistemicPrerequisites =
      ⟨order.epistemicPrerequisites, order.prerequisites⟩ :=
    KeyedTable.ofList_rows ⟨order.epistemicPrerequisites, order.prerequisites⟩
  rw [List.forall_mem_append]
  refine (met_foldl node.epistemicPrerequisites (.ofList order.epistemicPrerequisites)).trans ?_
  rw [hstart]

theorem epistemicallyBlocked_iff {requirements : List ActionPrerequisite} :
    epistemicallyBlocked requirements coverage = false ↔
      ∀ requirement ∈ requirements, Met coverage requirement := by
  cases coverage with
  | none => simp [epistemicallyBlocked, Met, List.eq_nil_iff_forall_not_mem]
  | some known =>
    simp only [epistemicallyBlocked, Met, OrientationBarrier.wouldBlock, Option.all_some,
      Option.some.injEq, exists_eq_left', Bool.and_eq_false_iff, decide_eq_false_iff_not,
      List.any_eq_false, Bool.not_eq_true', Bool.not_eq_false, Classical.not_not]
    constructor
    · rintro (rfl | h)
      · exact fun _ h => (nomatch h)
      · exact h
    · exact .inr

/-- The coverage meets the prerequisites of the order and the node. -/
def AllMet (coverage : Option AwarenessCoverage) (order : WorkOrder) (node : WorkNode) : Prop :=
  ∀ value ∈ order.epistemicPrerequisites ++ node.epistemicPrerequisites, Met coverage value

theorem not_blocked_iff {order : WorkOrder} {node : WorkNode} :
    epistemicallyBlocked (requirementsBySource order node).sorted coverage = false ↔
      AllMet coverage order node := by
  rw [epistemicallyBlocked_iff, AllMet, ← met_requirementsBySource]
  exact forall_congr' fun requirement => by rw [KeyedTable.mem_sorted]

/-! ## The lists -/

/-- The node is not completed, and nobody has it. -/
def Free (p : WorkProjection) (graph : WorkGraph) (node : WorkNode) : Prop :=
  p.completed graph.graphId node.nodeId = false ∧
    p.activeLeaseForNode graph.graphId node.nodeId = none

/-- What comes directly before the node is completed. -/
def Unblocked (p : WorkProjection) (graph : WorkGraph) (node : WorkNode) : Prop :=
  ∀ predecessorId ∈ graph.predecessors node.nodeId,
    p.completed graph.graphId predecessorId = true

/-- A frontier has every node of the graph in one list, by its state. -/
structure Partitions (frontier : ReadyFrontier) (p : WorkProjection) (graph : WorkGraph)
    (order : WorkOrder) (coverage : Option AwarenessCoverage) : Prop where
  distinct : (graph.nodes.map (·.nodeId)).Nodup
  all : (frontier.completed ++ frontier.leased ++ frontier.ready.map (·.nodeId) ++
    frontier.dependencyBlocked ++ frontier.epistemicBlocked).Perm (graph.nodes.map (·.nodeId))
  completed : ∀ node ∈ graph.nodes, node.nodeId ∈ frontier.completed ↔
    p.completed graph.graphId node.nodeId = true
  leased : ∀ node ∈ graph.nodes, node.nodeId ∈ frontier.leased ↔
    p.completed graph.graphId node.nodeId = false ∧
      (p.activeLeaseForNode graph.graphId node.nodeId).isSome = true
  dependencyBlocked : ∀ node ∈ graph.nodes, node.nodeId ∈ frontier.dependencyBlocked ↔
    Free p graph node ∧ ¬ Unblocked p graph node
  epistemicBlocked : ∀ node ∈ graph.nodes, node.nodeId ∈ frontier.epistemicBlocked ↔
    Free p graph node ∧ Unblocked p graph node ∧ ¬ AllMet coverage order node
  ready : ∀ node, node ∈ frontier.ready ↔ node ∈ graph.nodes ∧ Free p graph node ∧
    Unblocked p graph node ∧ AllMet coverage order node

variable {order : WorkOrder} {node : WorkNode}

theorem unblocked_iff : Unblocked p graph node ↔ ((graph.predecessors node.nodeId).any
    fun predecessorId => !p.completed graph.graphId predecessorId) = false := by
  simp [Unblocked, List.any_eq_false]

/-- What each status says of a node. -/
theorem nodeStatus_iff (status : NodeStatus) : nodeStatus graph p order coverage node = status ↔
    match status with
    | .completed => p.completed graph.graphId node.nodeId = true
    | .leased => p.completed graph.graphId node.nodeId = false ∧
        (p.activeLeaseForNode graph.graphId node.nodeId).isSome = true
    | .dependencyBlocked => Free p graph node ∧ ¬ Unblocked p graph node
    | .epistemicBlocked =>
      Free p graph node ∧ Unblocked p graph node ∧ ¬ AllMet coverage order node
    | .ready => Free p graph node ∧ Unblocked p graph node ∧ AllMet coverage order node := by
  rw [unblocked_iff, ← not_blocked_iff]
  unfold nodeStatus Free
  cases p.completed graph.graphId node.nodeId with
  | true => cases status <;> simp
  | false =>
    cases p.activeLeaseForNode graph.graphId node.nodeId with
    | some lease => cases status <;> simp
    | none =>
      cases (graph.predecessors node.nodeId).any fun predecessorId =>
          !p.completed graph.graphId predecessorId with
      | true => cases status <;> simp
      | false =>
        cases epistemicallyBlocked (requirementsBySource order node).sorted coverage <;>
          cases status <;> simp

/-- The nodes of a status. -/
def withStatus (graph : WorkGraph) (p : WorkProjection) (order : WorkOrder)
    (coverage : Option AwarenessCoverage) (status : NodeStatus) : List WorkNode :=
  graph.nodes.filter fun node => nodeStatus graph p order coverage node = status

theorem count_status (f : WorkNode → NodeStatus) (nodes : List WorkNode) (node : WorkNode)
    (status : NodeStatus) : (nodes.filter (f · = status)).count node =
      if f node = status then nodes.count node else 0 := by
  split
  · rename_i hstatus
    exact List.count_filter (by simpa using hstatus)
  · rename_i hstatus
    rw [List.count_eq_zero, List.mem_filter, not_and, decide_eq_true_eq]
    exact fun _ => hstatus

/-- **Sorting by status loses nothing.** -/
theorem filter_statuses_perm (f : WorkNode → NodeStatus) (nodes : List WorkNode) :
    (nodes.filter (f · = .completed) ++ nodes.filter (f · = .leased) ++
      nodes.filter (f · = .ready) ++ nodes.filter (f · = .dependencyBlocked) ++
      nodes.filter (f · = .epistemicBlocked)).Perm nodes := by
  rw [List.perm_iff_count]
  intro node
  simp only [List.count_append, count_status]
  cases f node <;> simp

/-- A node of the graph is in the list of its status. -/
theorem mem_withStatus (hdistinct : (graph.nodes.map (·.nodeId)).Nodup) {status : NodeStatus}
    (hnode : node ∈ graph.nodes) :
    node.nodeId ∈ (withStatus graph p order coverage status).map (·.nodeId) ↔
      nodeStatus graph p order coverage node = status := by
  constructor
  · intro h
    obtain ⟨other, hother, hid⟩ := List.mem_map.mp h
    obtain ⟨hmem, hstatus⟩ := List.mem_filter.mp hother
    obtain rfl := List.inj_on_of_nodup_map hdistinct hmem hnode hid
    exact of_decide_eq_true hstatus
  · intro hstatus
    exact List.mem_map_of_mem (List.mem_filter.mpr ⟨hnode, decide_eq_true hstatus⟩)

/-- The frontier of an active graph. -/
def frontierOf (graph : WorkGraph) (p : WorkProjection) (order : WorkOrder)
    (coverage : Option AwarenessCoverage) : ReadyFrontier where
  graphId := graph.graphId
  ready := withStatus graph p order coverage .ready
  dependencyBlocked := (withStatus graph p order coverage .dependencyBlocked).map (·.nodeId)
  epistemicBlocked := (withStatus graph p order coverage .epistemicBlocked).map (·.nodeId)
  leased := (withStatus graph p order coverage .leased).map (·.nodeId)
  completed := (withStatus graph p order coverage .completed).map (·.nodeId)
  invalidated := false

theorem derive_active (hactive : p.graphIsActive graph.graphId = true)
    (horder : p.orders.find graph.workOrderId = some order) :
    derive graph p coverage = .ok (frontierOf graph p order coverage) := by
  unfold derive
  rw [if_pos hactive, horder]
  rfl

/-- **The lists are a partition of the nodes.** -/
theorem frontierOf_partitions (hdistinct : (graph.nodes.map (·.nodeId)).Nodup) :
    (frontierOf graph p order coverage).Partitions p graph order coverage where
  distinct := hdistinct
  all := by
    have hperm := filter_statuses_perm (nodeStatus graph p order coverage) graph.nodes
    have hids := hperm.map (·.nodeId)
    simp only [List.map_append] at hids
    exact hids
  completed _ hnode := (mem_withStatus hdistinct hnode).trans (nodeStatus_iff .completed)
  leased _ hnode := (mem_withStatus hdistinct hnode).trans (nodeStatus_iff .leased)
  dependencyBlocked _ hnode :=
    (mem_withStatus hdistinct hnode).trans (nodeStatus_iff .dependencyBlocked)
  epistemicBlocked _ hnode :=
    (mem_withStatus hdistinct hnode).trans (nodeStatus_iff .epistemicBlocked)
  ready _ := List.mem_filter.trans (and_congr_right fun _ =>
    decide_eq_true_iff.trans (nodeStatus_iff .ready))

/-- **Of the nodes that are not completed, one waits for nothing that is not.** -/
theorem exists_unblocked (h : LegalWork p graph)
    (hopen : ∃ node ∈ graph.nodes, p.completed graph.graphId node.nodeId = false) :
    ∃ node ∈ graph.nodes, p.completed graph.graphId node.nodeId = false ∧
      Unblocked p graph node := by
  obtain ⟨node, hnode, hincomplete⟩ := hopen
  let left := (graph.nodes.map (·.nodeId)).filter fun nodeId =>
    !p.completed graph.graphId nodeId
  have hleft : node.nodeId ∈ left := by
    refine List.mem_filter.mpr ⟨List.mem_map_of_mem hnode, ?_⟩
    rw [hincomplete]
    rfl
  obtain ⟨firstId, hfirst, hmin⟩ := h.acyclic.exists_first hleft
  obtain ⟨hmem, hfirst⟩ := List.mem_filter.mp hfirst
  obtain ⟨first, hnode', rfl⟩ := List.mem_map.mp hmem
  refine ⟨first, hnode', by simpa using hfirst, fun predecessorId hpredecessor => ?_⟩
  by_contra hnot
  obtain ⟨dependency, hdependency, rfl⟩ := List.mem_map.mp hpredecessor
  obtain ⟨hdependency, hsuccessor⟩ := List.mem_filter.mp hdependency
  refine hmin dependency.predecessorId (List.mem_filter.mpr ⟨(h.known _ hdependency).1, ?_⟩)
    ⟨dependency, hdependency, rfl, of_decide_eq_true hsuccessor⟩
  simpa using hnot

/-- **A frontier with open nodes, without leases and without nodes that wait for coverage
has a ready node.** -/
theorem Partitions.progress {frontier : ReadyFrontier}
    (h : frontier.Partitions p graph order coverage) (hlegal : LegalWork p graph)
    (hopen : ∃ node ∈ graph.nodes, p.completed graph.graphId node.nodeId = false)
    (hleased : frontier.leased = []) (hepistemic : frontier.epistemicBlocked = []) :
    frontier.ready ≠ [] := by
  obtain ⟨node, hnode, hincomplete, hunblocked⟩ := exists_unblocked hlegal hopen
  have hfree : Free p graph node := by
    refine ⟨hincomplete, Option.not_isSome_iff_eq_none.mp fun hlease => ?_⟩
    have hmem := (h.leased node hnode).mpr ⟨hincomplete, hlease⟩
    rw [hleased] at hmem
    cases hmem
  have hmet : AllMet coverage order node := by
    by_contra hnot
    have hmem := (h.epistemicBlocked node hnode).mpr ⟨hfree, hunblocked, hnot⟩
    rw [hepistemic] at hmem
    cases hmem
  exact List.ne_nil_of_mem ((h.ready node).mpr ⟨hnode, hfree, hunblocked, hmet⟩)

end ReadyFrontier

/-- **The frontier of an active graph.**  It exists, it is a partition of the graph's nodes
by their states, and it has a ready node if some node is open while none is leased and none
waits for coverage. -/
theorem frontier_progress (h : rebuild ids floats history = .ok p)
    (hgraph : p.graphs.find graph.graphId = some graph)
    (hactive : p.graphIsActive graph.graphId = true) (coverage : Option AwarenessCoverage) :
    ∃ frontier order, ReadyFrontier.derive graph p coverage = .ok frontier ∧
      p.orders.find graph.workOrderId = some order ∧
      frontier.Partitions p graph order coverage ∧
      ((∃ node ∈ graph.nodes, p.completed graph.graphId node.nodeId = false) →
        frontier.leased = [] → frontier.epistemicBlocked = [] → frontier.ready ≠ []) := by
  have hlegal := rebuild_legal h graph (KeyedTable.mem_of_find hgraph)
  obtain ⟨order, horder⟩ := Option.isSome_iff_exists.mp hlegal.order
  have hpartitions : (ReadyFrontier.frontierOf graph p order coverage).Partitions p graph order
      coverage := ReadyFrontier.frontierOf_partitions hlegal.nodes
  exact ⟨_, order, ReadyFrontier.derive_active hactive horder, horder, hpartitions,
    hpartitions.progress hlegal⟩

/-! ### An example -/

/-- The history up to the acceptance of the plan. -/
def acceptedPlan : List WorkEvent := reviewHistory.take 9

/-- Once the plan is accepted, its first node is ready. -/
theorem acceptedPlan_progress : ∃ frontier,
    ReadyFrontier.derive firstGraph (rebuilt reviewIds exactProduct acceptedPlan) none =
      .ok frontier ∧ frontier.ready ≠ [] := by
  have hp := rebuild_rebuilt (show (rebuild reviewIds exactProduct acceptedPlan).isOk = true by
    decide +kernel)
  have hgraph : (rebuilt reviewIds exactProduct acceptedPlan).graphs.find firstGraph.graphId =
      some firstGraph := by
    decide +kernel
  have hactive : (rebuilt reviewIds exactProduct acceptedPlan).graphIsActive firstGraph.graphId =
      true := by
    decide +kernel
  have hopen : ∃ node ∈ firstGraph.nodes, (rebuilt reviewIds exactProduct acceptedPlan).completed
      firstGraph.graphId node.nodeId = false := by
    decide +kernel
  have hidle : ((ReadyFrontier.derive firstGraph (rebuilt reviewIds exactProduct acceptedPlan)
      none).toOption.all fun frontier =>
        frontier.leased = [] ∧ frontier.epistemicBlocked = []) = true := by
    decide +kernel
  obtain ⟨frontier, -, hderive, -, -, hprogress⟩ := frontier_progress hp hgraph hactive none
  rw [hderive] at hidle
  obtain ⟨hleased, hepistemic⟩ := of_decide_eq_true hidle
  exact ⟨frontier, hderive, hprogress hopen hleased hepistemic⟩

end Noema
