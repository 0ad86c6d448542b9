import Mathlib.Data.List.Dedup
import Mathlib.Logic.Function.Basic
import Mathlib.Logic.Relation
import Noema.WorkModels

/-!
# Plan validation

`PlanValidator.validate` admits a proposal at a head of the log: the events between the
proposal's causal cut and the head are given to it, and none of them may be a replan
condition.  It sorts the nodes topologically and collects each node's ancestors on the
way.  An admitted proposal becomes the work graph of the next version
(`validate_ok`), and a verification node's targets reach it through dependencies
(`Admits.targets_reach`).
-/
namespace Noema

/-- `m` is a direct predecessor of `n`. -/
def DependsOn (dependencies : List WorkDependency) (m n : String) : Prop :=
  ∃ dependency ∈ dependencies, dependency.predecessorId = m ∧ dependency.successorId = n

/-- `m` reaches `n` through dependencies. -/
def Reaches (dependencies : List WorkDependency) : String → String → Prop :=
  Relation.TransGen (DependsOn dependencies)

/-- `str` of a list of texts without quotes. -/
def pyList (values : List String) : String :=
  "[" ++ ", ".intercalate (values.map fun value => "'" ++ value ++ "'") ++ "]"

/-- `sorted` of a set. -/
def sortedSet (values : List String) : List String := values.dedup.insertionSort (· ≤ ·)

/-! ## The topological order -/

namespace PlanValidator

variable (dependencies : List WorkDependency)

def predecessorsOf (nodeId : String) : List String :=
  (dependencies.filter fun dependency => dependency.successorId = nodeId).map (·.predecessorId)

def successorsOf (nodeId : String) : List String :=
  (dependencies.filter fun dependency => dependency.predecessorId = nodeId).map (·.successorId)

/-- The variables of the loop; `remaining` are the predecessors not yet visited. -/
structure Sorting where
  ready : List String
  visited : List String
  remaining : String → List String

/-- The body of the inner loop. -/
def Sorting.release (nodeId : String) (s : Sorting) (successorId : String) : Sorting :=
  let left := (s.remaining successorId).filter (· ≠ nodeId)
  { s with
    remaining := Function.update s.remaining successorId left
    ready :=
      if left = [] ∧ successorId ∉ s.visited ∧ successorId ∉ s.ready then
        (s.ready ++ [successorId]).insertionSort (· ≤ ·)
      else s.ready }

/-- The body of the outer loop, on the first ready node. -/
def Sorting.visit (s : Sorting) (nodeId : String) (ready : List String) : Sorting :=
  (sortedSet (successorsOf dependencies nodeId)).foldl (Sorting.release nodeId)
    { s with ready, visited := s.visited ++ [nodeId] }

/-- `while ready`. -/
def Sorting.run : Nat → Sorting → Sorting
  | 0, s => s
  | fuel + 1, s =>
    match s.ready with
    | [] => s
    | nodeId :: ready => Sorting.run fuel (s.visit dependencies nodeId ready)

/-- The nodes without predecessors are ready. -/
def sortingStart (nodeIds : List String) : Sorting where
  ready := (nodeIds.filter fun nodeId => predecessorsOf dependencies nodeId = []).insertionSort
    (· ≤ ·)
  visited := []
  remaining := predecessorsOf dependencies

/-- `visited`, at the end of the loop.  Every round visits a node for the first time, so
there are no more rounds than nodes (`sorted_done`). -/
def visitOrder (nodeIds : List String) : List String :=
  (Sorting.run dependencies nodeIds.length (sortingStart dependencies nodeIds)).visited

/-- The nodes that are visited, are to be visited and occur once. -/
structure Sorting.Distinct (nodeIds : List String) (s : Sorting) : Prop where
  nodup : (s.visited ++ s.ready).Nodup
  subset : s.visited ++ s.ready ⊆ nodeIds

variable {dependencies} {nodeIds : List String}

theorem Sorting.release_distinct {s : Sorting} (h : s.Distinct nodeIds) (nodeId : String)
    {successorId : String} (hmem : successorId ∈ nodeIds) :
    (s.release nodeId successorId).Distinct nodeIds := by
  unfold release
  dsimp only
  split
  · rename_i hnew
    obtain ⟨-, hvisited, hready⟩ := hnew
    have hperm := List.perm_insertionSort (· ≤ ·) (s.ready ++ [successorId])
    have hall : (s.visited ++ (s.ready ++ [successorId]).insertionSort (· ≤ ·)).Perm
        ((s.visited ++ s.ready) ++ [successorId]) := by
      rw [List.append_assoc]
      exact hperm.append_left s.visited
    constructor
    · rw [hall.nodup_iff, List.nodup_append]
      refine ⟨h.nodup, List.nodup_singleton _, ?_⟩
      intro a ha b hb hab
      rw [List.mem_singleton] at hb
      subst hab hb
      exact (List.mem_append.mp ha).elim hvisited hready
    · intro a ha
      rcases List.mem_append.mp (hall.subset ha) with hold | hnew
      · exact h.subset hold
      · rw [List.mem_singleton.mp hnew]
        exact hmem
  · exact ⟨h.nodup, h.subset⟩

theorem successorsOf_subset (hknown : ∀ dependency ∈ dependencies,
    dependency.successorId ∈ nodeIds) (nodeId : String) :
    successorsOf dependencies nodeId ⊆ nodeIds := by
  intro successorId h
  obtain ⟨dependency, hmem, rfl⟩ := List.mem_map.mp h
  exact hknown dependency (List.mem_filter.mp hmem).1

theorem Sorting.visit_distinct {s : Sorting} {nodeId : String} {ready : List String}
    (h : s.Distinct nodeIds) (hready : s.ready = nodeId :: ready)
    (hknown : ∀ dependency ∈ dependencies, dependency.successorId ∈ nodeIds) :
    (s.visit dependencies nodeId ready).Distinct nodeIds := by
  have hsuccessors : ∀ successorId ∈ sortedSet (successorsOf dependencies nodeId),
      successorId ∈ nodeIds := by
    intro successorId hmem
    have hmem := (List.mem_insertionSort _).mp hmem
    exact successorsOf_subset hknown nodeId (List.mem_dedup.mp hmem)
  have hstart : Sorting.Distinct nodeIds
      { s with ready, visited := s.visited ++ [nodeId] } := by
    constructor
    · simpa [hready] using h.nodup
    · simpa [hready] using h.subset
  unfold visit
  generalize ({ s with ready, visited := s.visited ++ [nodeId] } : Sorting) = s₀ at hstart
  generalize sortedSet (successorsOf dependencies nodeId) = successors at hsuccessors
  induction successors generalizing s₀ with
  | nil => exact hstart
  | cons successorId successors ih =>
    have hstep := release_distinct hstart nodeId (hsuccessors successorId (List.mem_cons_self ..))
    exact ih _ hstep fun other hother => hsuccessors other (List.mem_cons_of_mem _ hother)

theorem Sorting.foldl_release_visited (nodeId : String) :
    ∀ (successors : List String) (s : Sorting),
    (successors.foldl (Sorting.release nodeId) s).visited = s.visited := by
  intro successors
  induction successors with
  | nil => exact fun s => rfl
  | cons successorId successors ih => exact fun s => (ih _).trans rfl

theorem Sorting.visit_visited (s : Sorting) (nodeId : String) (ready : List String) :
    (s.visit dependencies nodeId ready).visited = s.visited ++ [nodeId] :=
  foldl_release_visited nodeId _ _

theorem Sorting.run_done (hknown : ∀ dependency ∈ dependencies,
    dependency.successorId ∈ nodeIds) : ∀ (fuel : Nat) (s : Sorting), s.Distinct nodeIds →
    nodeIds.length ≤ s.visited.length + fuel →
    (Sorting.run dependencies fuel s).ready = [] := by
  intro fuel
  induction fuel with
  | zero =>
    intro s h hlength
    have hle := (List.subperm_of_subset h.nodup h.subset).length_le
    rw [List.length_append] at hle
    exact List.length_eq_zero_iff.mp (show s.ready.length = 0 by omega)
  | succ fuel ih =>
    intro s h hlength
    rw [run]
    split
    · rename_i hready
      exact hready
    · rename_i nodeId ready hready
      refine ih _ (visit_distinct h hready hknown) ?_
      rw [visit_visited, List.length_append, List.length_singleton]
      omega

/-- **The loop comes to its end.** -/
theorem sorted_done (hdistinct : nodeIds.Nodup)
    (hknown : ∀ dependency ∈ dependencies, dependency.successorId ∈ nodeIds) :
    (Sorting.run dependencies nodeIds.length (sortingStart dependencies nodeIds)).ready = [] := by
  refine Sorting.run_done hknown _ _ ?_ (by simp [sortingStart])
  constructor
  · rw [sortingStart, List.nil_append]
    exact (List.perm_insertionSort _ _).nodup_iff.mpr (hdistinct.filter _)
  · intro nodeId h
    rw [sortingStart, List.nil_append, List.mem_insertionSort] at h
    exact (List.mem_filter.mp h).1

/-! ## Ancestors -/

variable (dependencies) in
/-- The body of the loop over `visited`. -/
def addAncestors (ancestors : String → List String) (nodeId : String) : String → List String :=
  (predecessorsOf dependencies nodeId).foldl (fun ancestors predecessorId =>
    Function.update ancestors nodeId
      (ancestors nodeId ++ predecessorId :: ancestors predecessorId)) ancestors

variable (dependencies) in
/-- `ancestors`. -/
def ancestorsOf (visited : List String) : String → List String :=
  visited.foldl (addAncestors dependencies) fun _ => []

/-- Every ancestor reaches its node. -/
def AncestorsReach (dependencies : List WorkDependency) (ancestors : String → List String) : Prop :=
  ∀ nodeId, ∀ ancestorId ∈ ancestors nodeId, Reaches dependencies ancestorId nodeId

theorem mem_predecessorsOf {nodeId predecessorId : String} :
    predecessorId ∈ predecessorsOf dependencies nodeId ↔
      DependsOn dependencies predecessorId nodeId := by
  simp only [predecessorsOf, DependsOn, List.mem_map, List.mem_filter, decide_eq_true_eq]
  constructor
  · rintro ⟨dependency, ⟨hmem, hsuccessor⟩, hpredecessor⟩
    exact ⟨dependency, hmem, hpredecessor, hsuccessor⟩
  · rintro ⟨dependency, hmem, hpredecessor, hsuccessor⟩
    exact ⟨dependency, ⟨hmem, hsuccessor⟩, hpredecessor⟩

theorem update_ancestors {ancestors : String → List String} {nodeId predecessorId : String}
    (h : AncestorsReach dependencies ancestors)
    (hdepends : DependsOn dependencies predecessorId nodeId) :
    AncestorsReach dependencies (Function.update ancestors nodeId
      (ancestors nodeId ++ predecessorId :: ancestors predecessorId)) := by
  intro other ancestorId hmem
  by_cases hother : other = nodeId
  · subst hother
    rw [Function.update_self, List.mem_append, List.mem_cons] at hmem
    rcases hmem with hold | rfl | habove
    · exact h other ancestorId hold
    · exact Relation.TransGen.single hdepends
    · exact (h predecessorId ancestorId habove).tail hdepends
  · rw [Function.update_of_ne hother] at hmem
    exact h other ancestorId hmem

theorem addAncestors_reach {ancestors : String → List String}
    (h : AncestorsReach dependencies ancestors) (nodeId : String) :
    AncestorsReach dependencies (addAncestors dependencies ancestors nodeId) := by
  have hpredecessors : ∀ predecessorId ∈ predecessorsOf dependencies nodeId,
      DependsOn dependencies predecessorId nodeId := fun _ hmem => mem_predecessorsOf.mp hmem
  unfold addAncestors
  generalize predecessorsOf dependencies nodeId = predecessors at hpredecessors
  induction predecessors generalizing ancestors with
  | nil => exact h
  | cons predecessorId predecessors ih =>
    have hstep := update_ancestors h (hpredecessors predecessorId (List.mem_cons_self ..))
    exact ih hstep fun other hother => hpredecessors other (List.mem_cons_of_mem _ hother)

/-- **What the validator takes for an ancestor reaches the node.** -/
theorem ancestorsOf_reach (visited : List String) :
    AncestorsReach dependencies (ancestorsOf dependencies visited) := by
  have hstart : AncestorsReach dependencies fun _ => [] := fun _ _ h => nomatch h
  unfold ancestorsOf
  generalize (fun _ => [] : String → List String) = ancestors at hstart
  induction visited generalizing ancestors with
  | nil => exact hstart
  | cons nodeId visited ih => exact ih _ (addAncestors_reach hstart nodeId)

end PlanValidator

/-! ## Validation -/

/-- `WorkGraph.create`. -/
def WorkGraph.create (ids : WorkIds) (proposal : PlanProposal) (version : Nat) (validatorId : String)
    (acceptedAt : Datetime) (hversion : 0 < version) (hvalidator : blank validatorId = false) :
    WorkGraph :=
  let content : GraphContent :=
    { workOrderId := proposal.workOrderId, proposalId := proposal.proposalId, version
      basedOnEventCursor := proposal.basedOnEventCursor, nodes := proposal.nodes
      dependencies := proposal.dependencies, doneConditions := proposal.doneConditions
      replanEventTypes := proposal.replanEventTypes, validatorId, acceptedAt }
  { content with
    graphId := canonicalId ids content
    nonblank := ⟨blank_append (by decide), proposal.nonblank.2.2, proposal.nonblank.1, hvalidator⟩
    version_pos := hversion
    nodes_ne := proposal.nodes_ne
    done := proposal.done
    replan := proposal.replan }

/-- `PlanValidator`. -/
structure PlanValidator where
  validatorId : String
  nonblank : blank validatorId = false

/-- What `validate` is told about the log and the clock. -/
structure PlanAdmission where
  causalEventCursor : Nat
  acceptanceEventCursor : Nat
  currentGraphVersion : Nat
  availableCapabilityTypes : List String
  interveningEvents : List WorkEvent
  acceptedAt : Datetime

namespace PlanAdmission

variable (admission : PlanAdmission)

/-- `canonical_sequences`. -/
def sequences : List Nat := admission.interveningEvents.filterMap (·.sequence)

/-- `observed_head`. -/
def observedHead : Nat := admission.sequences.getLast?.getD admission.causalEventCursor

/-- `stale_events`. -/
def staleEvents (proposal : PlanProposal) : List WorkEvent :=
  admission.interveningEvents.filter fun event =>
    event.type.text ∈ proposal.replanEventTypes ∧
      proposal.basedOnEventCursor < event.sequence.getD 0

end PlanAdmission

namespace PlanValidator

/-- `node_id for dependency in … if node_id not in nodes_by_id`. -/
def unknownDependencies (proposal : PlanProposal) : List String :=
  (proposal.dependencies.flatMap fun dependency =>
    [dependency.predecessorId, dependency.successorId]).filter fun nodeId =>
      nodeId ∉ proposal.nodes.map (·.nodeId)

def unknownCapabilities (proposal : PlanProposal) (available : List String) : List String :=
  (proposal.nodes.flatMap (·.requiredCapabilities)).filter fun capability =>
    capability ∉ available

/-- `visited`, for a proposal. -/
def visited (proposal : PlanProposal) : List String :=
  visitOrder proposal.dependencies (proposal.nodes.map (·.nodeId))

/-- `missing_targets`. -/
def missingTargets (proposal : PlanProposal) (node : WorkNode) : List String :=
  node.verificationOf.filter fun targetId =>
    targetId ∉ ancestorsOf proposal.dependencies (visited proposal) node.nodeId

/-- The check of the verification targets, on one node. -/
def checkTargets (proposal : PlanProposal) (node : WorkNode) : Except PyError Unit :=
  require (missingTargets proposal node = [])
    s!"verification node {node.nodeId} must depend on its targets: {
      pyList (sortedSet (missingTargets proposal node))}"

/-- `validate`.  The sequences are strictly increasing exactly if they equal the sorted
tuple of their set. -/
def validate (ids : WorkIds) (validator : PlanValidator) (proposal : PlanProposal)
    (workOrder : WorkOrder) (admission : PlanAdmission) : Except PyError WorkGraph := do
  require (proposal.workOrderId = workOrder.workOrderId)
    "plan proposal targets a different work order"
  require (workOrder.createdAt.instant ≤ proposal.proposedAt.instant)
    "plan proposal cannot precede its work order"
  require (proposal.proposedAt.instant ≤ admission.acceptedAt.instant)
    "plan acceptance cannot precede its proposal"
  require (proposal.basedOnEventCursor = admission.causalEventCursor)
    "plan proposal does not match the captured causal event cursor"
  require (admission.causalEventCursor ≤ admission.acceptanceEventCursor)
    "plan acceptance head cannot precede the planning cut"
  require (∀ event ∈ admission.interveningEvents, event.sequence.isSome)
    "plan admission requires canonical intervening events"
  require (admission.sequences.Pairwise (· < ·))
    "plan admission events must be unique and canonically ordered"
  require (∀ sequence ∈ admission.sequences,
      admission.causalEventCursor < sequence ∧ sequence ≤ admission.acceptanceEventCursor)
    "plan admission events fall outside the planning window"
  require (admission.observedHead = admission.acceptanceEventCursor)
    "plan admission events do not reach the acceptance head"
  require (proposal.basedOnGraphVersion = admission.currentGraphVersion)
    "plan proposal does not match the current graph version"
  require (admission.staleEvents proposal = [])
    s!"plan proposal is stale at admission due to intervening events: {
      pyList ((admission.staleEvents proposal).map WorkEvent.id)}"
  require (∀ criterion ∈ workOrder.successCriteria, criterion ∈ proposal.doneConditions)
    "plan done conditions do not cover work-order success criteria"
  require (proposal.nodes.map (·.nodeId)).Nodup "plan node ids must be unique"
  require (proposal.dependencies.map PlanProposal.dependencyKey).Nodup
    "plan dependencies must be unique"
  require (unknownDependencies proposal = [])
    s!"plan dependencies reference unknown nodes: {pyList (sortedSet (unknownDependencies proposal))}"
  require (unknownCapabilities proposal admission.availableCapabilityTypes = [])
    s!"plan requires unavailable capability types: {
      pyList (sortedSet (unknownCapabilities proposal admission.availableCapabilityTypes))}"
  require ((visited proposal).length = proposal.nodes.length)
    "plan dependencies must form a directed acyclic graph"
  proposal.nodes.forM (checkTargets proposal)
  return WorkGraph.create ids proposal (admission.currentGraphVersion + 1) validator.validatorId
    admission.acceptedAt (Nat.succ_pos _) validator.nonblank

/-- What `validate` checks. -/
structure Admits (proposal : PlanProposal) (workOrder : WorkOrder) (admission : PlanAdmission) :
    Prop where
  order : proposal.workOrderId = workOrder.workOrderId
  created : workOrder.createdAt.instant ≤ proposal.proposedAt.instant
  proposed : proposal.proposedAt.instant ≤ admission.acceptedAt.instant
  cut : proposal.basedOnEventCursor = admission.causalEventCursor
  head : admission.causalEventCursor ≤ admission.acceptanceEventCursor
  canonical : ∀ event ∈ admission.interveningEvents, event.sequence.isSome = true
  increasing : admission.sequences.Pairwise (· < ·)
  window : ∀ sequence ∈ admission.sequences,
    admission.causalEventCursor < sequence ∧ sequence ≤ admission.acceptanceEventCursor
  observed : admission.observedHead = admission.acceptanceEventCursor
  version : proposal.basedOnGraphVersion = admission.currentGraphVersion
  fresh : admission.staleEvents proposal = []
  criteria : ∀ criterion ∈ workOrder.successCriteria, criterion ∈ proposal.doneConditions
  nodes : (proposal.nodes.map (·.nodeId)).Nodup
  dependencies : (proposal.dependencies.map PlanProposal.dependencyKey).Nodup
  known : unknownDependencies proposal = []
  capabilities : unknownCapabilities proposal admission.availableCapabilityTypes = []
  acyclic : (visited proposal).length = proposal.nodes.length
  targets : ∀ node ∈ proposal.nodes, missingTargets proposal node = []

theorem forM_require_ok {α : Type} {condition : α → Prop} [DecidablePred condition]
    {message : α → String} : ∀ {items : List α} {u : Unit},
    (items.forM fun item => require (condition item) (message item)) = .ok u ↔
      ∀ item ∈ items, condition item := by
  intro items
  induction items with
  | nil => exact fun {u} => ⟨fun _ _ h => (nomatch h), fun _ => rfl⟩
  | cons item items ih =>
    intro u
    show (require (condition item) (message item) >>= fun _ =>
      items.forM fun item => require (condition item) (message item)) = .ok u ↔ _
    rw [require_bind_ok, List.forall_mem_cons]
    exact and_congr_right fun _ => ih

/-- **A proposal is admitted exactly if it meets every check, and becomes the graph of
the next version.** -/
theorem validate_ok {ids : WorkIds} {validator : PlanValidator} {proposal : PlanProposal}
    {workOrder : WorkOrder} {admission : PlanAdmission} {graph : WorkGraph} :
    validator.validate ids proposal workOrder admission = .ok graph ↔
      Admits proposal workOrder admission ∧
      graph = WorkGraph.create ids proposal (admission.currentGraphVersion + 1)
        validator.validatorId admission.acceptedAt (Nat.succ_pos _) validator.nonblank := by
  unfold validate
  simp only [require_bind_ok]
  rw [bind_ok_iff]
  constructor
  · rintro ⟨h₁, h₂, h₃, h₄, h₅, h₆, h₇, h₈, h₉, h₁₀, h₁₁, h₁₂, h₁₃, h₁₄, h₁₅, h₁₆, h₁₇, _, htargets, heq⟩
    cases heq
    exact ⟨⟨h₁, h₂, h₃, h₄, h₅, h₆, h₇, h₈, h₉, h₁₀, h₁₁, h₁₂, h₁₃, h₁₄, h₁₅, h₁₆, h₁₇,
      forM_require_ok.mp htargets⟩, rfl⟩
  · rintro ⟨h, rfl⟩
    exact ⟨h.order, h.created, h.proposed, h.cut, h.head, h.canonical, h.increasing, h.window,
      h.observed, h.version, h.fresh, h.criteria, h.nodes, h.dependencies, h.known,
      h.capabilities, h.acyclic, (), forM_require_ok.mpr h.targets, rfl⟩

/-- **The targets of a verification node reach it.** -/
theorem Admits.targets_reach {proposal : PlanProposal} {workOrder : WorkOrder}
    {admission : PlanAdmission} (h : Admits proposal workOrder admission) {node : WorkNode}
    (hnode : node ∈ proposal.nodes) {targetId : String} (htarget : targetId ∈ node.verificationOf) :
    Reaches proposal.dependencies targetId node.nodeId := by
  have hmissing := List.filter_eq_nil_iff.mp (h.targets node hnode) targetId htarget
  have hancestor : targetId ∈ ancestorsOf proposal.dependencies (visited proposal) node.nodeId := by
    simpa using hmissing
  exact ancestorsOf_reach _ node.nodeId targetId hancestor

end PlanValidator

end Noema
