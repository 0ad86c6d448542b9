import Noema.IntentSchemas
import Noema.Lib.Folding

/-!
# The strategic projection

`StrategicProjection` folds the canonical events, in the order of their sequences, into
the histories of goals, roadmaps and commitments, the outcome roles and assistance
envelopes, the observed external work and the proposed and admitted work orders.  Native
events are validated against what was projected before them; a legacy event is read as a
revision of its goal or commitment, whatever that is.

What an `apply` that raises leaves behind is not modelled: a rebuild ends there.
-/
namespace Noema

/-- `d.setdefault(key, []).append(value)`. -/
def Dict.push {α : Type} (d : Dict (List α)) (key : String) (value : α) : Dict (List α) :=
  d.put (key, (d.get? key).getD [] ++ [value])

/-- `d.get(key, ())`. -/
def Dict.listOf {α : Type} (d : Dict (List α)) (key : String) : List α := (d.get? key).getD []

/-- The text of a tuple of texts. -/
def tupleText : List String → String
  | [value] => s!"('{value}',)"
  | values => "(" ++ ", ".intercalate (values.map fun value => s!"'{value}'") ++ ")"

/-- The text of the sorted list of a set of texts. -/
def sortedText (values : List String) : String :=
  let sorted := values.dedup.insertionSort (· ≤ ·)
  "[" ++ ", ".intercalate (sorted.map fun value => s!"'{value}'") ++ "]"

/-- Goals that only their origin's principal may rewrite. -/
def GoalKind.governing : GoalKind → Bool
  | .userAuthored | .constitutional => true
  | _ => false

/-- `derived_kinds`. -/
def GoalKind.derived : GoalKind → Bool
  | .delegated | .instrumental | .epistemic | .maintenance | .exploratory => true
  | .constitutional | .userAuthored | .legacyUnclassified => false

/-- `_TERMINAL_GOAL_STATUSES`. -/
def GoalStatus.terminal : GoalStatus → Bool
  | .completed | .failed | .cancelled => true
  | .proposed | .active | .blocked => false

/-- `_LIVE_GOAL_STATUSES`. -/
def GoalStatus.live : GoalStatus → Bool
  | .active | .blocked => true
  | .proposed | .completed | .failed | .cancelled => false

/-- `StrategicProjection`. -/
structure StrategicProjection where
  events : KeyedTable Event.id
  lastSequence : Nat
  goalRevisions : KeyedTable GoalRevision.revisionId
  goalHistoryIds : Dict (List String)
  currentGoalRevisionIds : Dict String
  roadmapRevisions : KeyedTable RoadmapRevision.revisionId
  roadmapHistoryIds : Dict (List String)
  currentRoadmapRevisionIds : Dict String
  commitments : KeyedTable Commitment.id
  commitmentVersions : Dict (List Commitment)
  commitmentTransitions : Dict (List CommitmentTransition)
  roles : KeyedTable OutcomeRoleAssignment.assignmentId
  assistance : KeyedTable AssistanceEnvelope.envelopeId
  externalHistory : Dict (List ExternalWorkstream)
  externalCurrent : Dict ExternalWorkstream
  workProposals : KeyedTable WorkOrderProposal.proposalId
  admittedWorkOrders : KeyedTable WorkOrder.workOrderId
  workGraphIds : List String

namespace StrategicProjection

/-- `_reset`. -/
def empty : StrategicProjection where
  events := .empty
  lastSequence := 0
  goalRevisions := .empty
  goalHistoryIds := .empty
  currentGoalRevisionIds := .empty
  roadmapRevisions := .empty
  roadmapHistoryIds := .empty
  currentRoadmapRevisionIds := .empty
  commitments := .empty
  commitmentVersions := .empty
  commitmentTransitions := .empty
  roles := .empty
  assistance := .empty
  externalHistory := .empty
  externalCurrent := .empty
  workProposals := .empty
  admittedWorkOrders := .empty
  workGraphIds := []

variable (p : StrategicProjection)

/-- `current_goal_revision`. -/
def currentGoalRevision (goalId : String) : Option GoalRevision :=
  match p.currentGoalRevisionIds.get? goalId with
  | none | some "" => none
  | some revisionId => p.goalRevisions.find revisionId

/-- `goal_history`. -/
def goalHistory (goalId : String) : List GoalRevision :=
  (p.goalHistoryIds.listOf goalId).filterMap p.goalRevisions.find

/-- `current_roadmap_revision`. -/
def currentRoadmapRevision (roadmapId : String) : Option RoadmapRevision :=
  match p.currentRoadmapRevisionIds.get? roadmapId with
  | none | some "" => none
  | some revisionId => p.roadmapRevisions.find revisionId

/-- `roadmap_history`. -/
def roadmapHistory (roadmapId : String) : List RoadmapRevision :=
  (p.roadmapHistoryIds.listOf roadmapId).filterMap p.roadmapRevisions.find

/-- `commitment_history`. -/
def commitmentHistory (commitmentId : String) : List Commitment :=
  p.commitmentVersions.listOf commitmentId

/-- The version after the current one, if there is one. -/
def versionAfter : Option Int → Int
  | some version => version + 1
  | none => 1

/-! ## Goals -/

/-- The checks that depend on the kind of the goal. -/
def validateGoalKind (revision : GoalRevision) : Except PyError Unit := do
  let authority := revision.intentAuthority
  if revision.kind = .userAuthored then
    refuse (revision.origin.kind ≠ .user)
      "user-authored goals require authenticated user provenance"
    refuse (authority.scope ≠ .user ∧ authority.scope ≠ .constitutional)
      "user-authored goals require user intent authority"
  else if revision.kind = .constitutional then
    refuse (revision.origin.kind ≠ .constitutional)
      "constitutional goals require authenticated constitutional provenance"
    refuse (authority.scope ≠ .constitutional)
      "constitutional goals require constitutional intent authority"
  if revision.kind.derived then
    refuse (revision.governingGoalRefs = []) "derived goal requires explicit governing goal lineage"
    refuse (revision.goalId ∈ revision.governingGoalRefs) "derived goal cannot govern itself"
    let missing := revision.governingGoalRefs.filter fun ref => (p.currentGoalRevision ref).isNone
    refuse (missing ≠ []) s!"derived goal references unknown governing goals: {tupleText missing}"
    refuse (authority.scope = .delegated ∧ authority.goalRefs = [])
      "delegated intent authority requires an explicit goal scope"
    refuse (authority.goalRefs ≠ [] ∧
        ∃ ref ∈ revision.governingGoalRefs, ref ∉ authority.goalRefs)
      "derived goal lineage exceeds delegated intent scope"
  else
    refuse (revision.governingGoalRefs ≠ [])
      "governing goals cannot themselves have derived-goal lineage"
    refuse (authority.goalRefs ≠ [] ∧ revision.goalId ∉ authority.goalRefs)
      "intent authority does not cover this governing goal"

/-- The checks against the revision before. -/
def validateGoalLineage (revision current : GoalRevision) : Except PyError Unit := do
  refuse (revision.kind ≠ current.kind ∨ revision.origin ≠ current.origin ∨
      revision.owner ≠ current.owner ∨ revision.governingGoalRefs ≠ current.governingGoalRefs)
    "goal revision cannot change semantic lineage in place"
  refuse (current.kind.governing = true ∧
      revision.intentAuthority.principalId ≠ current.origin.principalId)
    "delegated authority cannot rewrite a governing goal"

/-- `validate_goal_revision_structure`. -/
def validateGoalRevisionStructure (revision : GoalRevision) : Except PyError Unit := do
  let current := p.currentGoalRevision revision.goalId
  let authority := revision.intentAuthority
  refuse (revision.version ≠ versionAfter (current.map (·.version)))
    "goal revision version is not the next version"
  refuse (revision.supersedesRevisionId ≠ current.map (·.revisionId))
    "goal revision must supersede the current revision"
  refuse (revision.kind = .legacyUnclassified)
    "native admission cannot manufacture legacy goal provenance"
  refuse (authority.scope = .propose)
    "proposal-only intent authority cannot admit a goal revision"
  refuse (authority.principalId ≠ revision.origin.principalId ∨
      authority.provenanceRef ≠ revision.origin.provenanceId)
    "goal origin and intent authority belong to different principals"
  refuse (revision.owner ≠ revision.origin.principalId)
    "goal owner must match authenticated origin principal"
  refuse (revision.author ≠ authority.principalId)
    "goal revision author does not hold the supplied intent authority"
  refuse (revision.kind ∉ authority.allowedGoalKinds)
    "intent authority does not cover the goal kind"
  match current with
  | some current => validateGoalLineage revision current
  | none => pure ()
  p.validateGoalKind revision

/-! ## Roadmaps -/

/-- A successor whose predecessor `nodeId` has been visited: the dependency is removed,
and a successor without others becomes ready. -/
def release (nodeId : String) (visited : List String) :
    List (String × List String) → List String → List (String × List String) × List String
  | [], ready => ([], ready)
  | (successor, predecessors) :: rest, ready =>
    let remaining := predecessors.erase nodeId
    let ready :=
      if nodeId ∈ predecessors ∧ remaining = [] ∧ successor ∉ visited ∧ successor ∉ ready then
        (ready ++ [successor]).insertionSort (· ≤ ·)
      else ready
    let (rest, ready) := release nodeId visited rest ready
    ((successor, remaining) :: rest, ready)

/-- The loop of `_require_dag`.  A node is ready at most once, so there are at most as
many passes as nodes. -/
def visitReady : Nat → List (String × List String) → List String → List String → List String
  | 0, _, _, visited => visited
  | _ + 1, _, [], visited => visited
  | passes + 1, dependencies, nodeId :: ready, visited =>
    let visited := visited ++ [nodeId]
    let (dependencies, ready) := release nodeId visited dependencies ready
    visitReady passes dependencies ready visited

/-- `_require_dag`. -/
def requireDag (revision : RoadmapRevision) : Except PyError Unit :=
  let dependencies := revision.outcomeNodes.map fun node =>
    (node.nodeId, node.approximateDependencies)
  let ready := ((dependencies.filter fun entry => entry.2.isEmpty).map Prod.fst).insertionSort
    (· ≤ ·)
  refuse ((visitReady dependencies.length dependencies ready []).length ≠ dependencies.length)
    "roadmap approximate dependencies must form a DAG"

/-- `validate_roadmap_revision_structure`. -/
def validateRoadmapRevisionStructure (revision : RoadmapRevision) : Except PyError Unit := do
  let current := p.currentRoadmapRevision revision.roadmapId
  let authority := revision.intentAuthority
  refuse (revision.version ≠ versionAfter (current.map (·.version)))
    "roadmap revision version is not the next version"
  refuse (revision.supersedesRevisionId ≠ current.map (·.revisionId))
    "roadmap revision must supersede the current revision"
  refuse (authority.scope = .propose)
    "proposal-only intent authority cannot admit a roadmap revision"
  refuse (revision.author ≠ authority.principalId)
    "roadmap author lacks the supplied intent authority"
  let missing := revision.governingGoalRevisionIds.filter fun revisionId =>
    (p.goalRevisions.find revisionId).isNone
  refuse (missing ≠ []) s!"roadmap references unknown goal revisions: {tupleText missing}"
  let goals := revision.governingGoalRevisionIds.filterMap p.goalRevisions.find
  refuse (∃ goal ∈ goals, p.currentGoalRevision goal.goalId ≠ some goal)
    "roadmap requires current governing goal revisions"
  refuse (∃ goal ∈ goals, goal.status.terminal = true)
    "roadmap requires non-terminal governing goals"
  if authority.goalRefs ≠ [] then
    refuse (∃ goal ∈ goals, goal.goalId ∉ authority.goalRefs)
      "roadmap intent authority does not cover its governing goals"
  else
    refuse (∃ goal ∈ goals, goal.owner ≠ authority.principalId)
      "roadmap author does not own its governing goals"
  let unknownDependencies := (revision.outcomeNodes.flatMap (·.approximateDependencies)).filter
    fun dependency => dependency ∉ revision.nodeIds
  refuse (unknownDependencies ≠ [])
    s!"roadmap dependencies reference unknown outcomes: {sortedText unknownDependencies}"
  let unknownAssumptions := (revision.outcomeNodes.flatMap (·.assumptionRefs)).filter
    fun assumption => assumption ∉ revision.assumptions
  refuse (unknownAssumptions ≠ [])
    s!"roadmap outcomes reference unknown assumptions: {sortedText unknownAssumptions}"
  requireDag revision

/-- `_require_current_roadmap`. -/
def requireCurrentRoadmap (revisionId : String) : Except PyError RoadmapRevision :=
  match p.roadmapRevisions.find revisionId with
  | none => .error (.valueError "strategic reference uses an unknown roadmap revision")
  | some revision =>
    if p.currentRoadmapRevision revision.roadmapId ≠ some revision then
      .error (.valueError "strategic reference uses a stale roadmap revision")
    else .ok revision

/-- `_require_current_goals`. -/
def requireCurrentGoals (revision : RoadmapRevision) : Except PyError Unit :=
  refuse (∃ revisionId ∈ revision.governingGoalRevisionIds,
      (p.goalRevisions.find revisionId).all fun goal =>
        p.currentGoalRevision goal.goalId ≠ some goal)
    "strategic reference uses stale governing intent"

/-- `_require_live_goals`. -/
def requireLiveGoals (revision : RoadmapRevision) : Except PyError Unit := do
  p.requireCurrentGoals revision
  refuse (∃ revisionId ∈ revision.governingGoalRevisionIds,
      (p.goalRevisions.find revisionId).all fun goal => !goal.status.live)
    "strategic execution requires ACTIVE or BLOCKED governing goals"

/-! ## Roles and assistance -/

/-- `_resolve_outcome`. -/
def resolveOutcome (outcomeRef : String) : Except PyError Unit :=
  match outcomeRef.toList.span (· ≠ '#') with
  | (_, []) => .error (.valueError "outcome role assignment requires canonical roadmap outcome")
  | (revisionId, _ :: nodeId) =>
    match p.roadmapRevisions.find (String.ofList revisionId) with
    | none => .error (.valueError "outcome role assignment requires canonical roadmap outcome")
    | some revision =>
      refuse (String.ofList nodeId ∉ revision.nodeIds)
        "outcome role assignment references unknown outcome node"

/-- `validate_roles_structure`. -/
def validateRolesStructure (assignment : OutcomeRoleAssignment) : Except PyError Unit :=
  p.resolveOutcome assignment.outcomeRef

/-- `validate_assistance_structure`. -/
def validateAssistanceStructure (envelope : AssistanceEnvelope) : Except PyError Unit :=
  refuse (p.roles.find envelope.roleAssignmentId = none)
    "assistance envelope must reference canonical outcome roles"

/-- The envelope of an id, if there is one. -/
def envelopeOf (envelopeId : Option String) : Option AssistanceEnvelope :=
  match envelopeId with
  | none | some "" => none
  | some envelopeId => p.assistance.find envelopeId

/-! ## Commitments -/

/-- `validate_commitment_structure`. -/
def validateCommitmentStructure (value : Commitment) (authority : IntentAuthority) :
    Except PyError Unit := do
  requireText value.id "commitment id"
  requireText value.description "commitment description"
  requireText value.owner "commitment owner"
  requireBounded value.priority "commitment priority"
  requireAmount value.attentionCost "commitment attention cost must be finite and non-negative"
  requireAmount value.socialCostOfFailure
    "commitment social cost of failure must be finite and non-negative"
  refuse (value.updatedAt.instant < value.createdAt.instant)
    "commitment updated_at cannot precede created_at"
  refuse (authority.scope = .propose) "proposal-only intent authority cannot admit a commitment"
  refuse (value.owner ≠ authority.principalId) "commitment owner lacks supplied intent authority"
  refuse (authority.goalRefs ≠ [] ∧ ∃ ref ∈ value.governingGoalRefs, ref ∉ authority.goalRefs)
    "commitment intent authority does not cover governing goals"
  refuse (p.commitments.find value.id ≠ none) "commitment identity already exists"
  refuse (value.status ≠ .proposed ∧ value.status ≠ .accepted ∧ value.status ≠ .active)
    "new commitment has an invalid lifecycle state"
  refuse (value.closureReason ≠ none) "open commitment cannot have a closure reason"
  refuse (value.governingGoalRefs = []) "strategic commitment requires governing goal refs"
  match value.roadmapRevisionId, value.outcomeNodeId with
  | some roadmapRevisionId, some outcomeNodeId =>
    let roadmap ← p.requireCurrentRoadmap roadmapRevisionId
    p.requireLiveGoals roadmap
    refuse (outcomeNodeId ∉ roadmap.nodeIds) "commitment references an unknown roadmap outcome"
    let expectedGoals := (roadmap.governingGoalRevisionIds.filterMap p.goalRevisions.find).map
      (·.goalId)
    refuse ((∃ ref ∈ value.governingGoalRefs, ref ∉ expectedGoals) ∨
        ∃ ref ∈ expectedGoals, ref ∉ value.governingGoalRefs)
      "commitment governing goals differ from its roadmap"
    match value.roleAssignmentId with
    | none => .error (.valueError "commitment requires independent outcome role assignment")
    | some roleAssignmentId =>
      match (p.roles.find roleAssignmentId).filter fun roles =>
          roles.outcomeRef = roadmap.revisionId ++ "#" ++ outcomeNodeId with
      | none =>
        .error (.valueError "commitment role assignment does not target its outcome")
      | some roles =>
        let envelope := p.envelopeOf value.assistanceEnvelopeId
        refuse (value.assistanceEnvelopeId ≠ none ∧
            envelope.all fun envelope => envelope.roleAssignmentId ≠ roles.assignmentId)
          "commitment assistance does not reference its outcome roles"
        refuse (roles.executor.locus ≠ .agent ∧ envelope = none)
          "human or external execution requires an assistance envelope"
  | _, _ =>
    .error (.valueError "roadmap-derived commitment requires roadmap outcome provenance")

/-- `allowed`: the transitions of the lifecycle. -/
def allowedTransitions : CommitmentStatus → List CommitmentStatus
  | .proposed => [.accepted]
  | .accepted => [.active, .suspended, .closed]
  | .active => [.suspended, .closed]
  | .suspended => [.active, .closed]
  | _ => []

/-- The checks on what a reactivation remaps. -/
def validateReactivation (transition : CommitmentTransition) (current : Commitment) :
    Except PyError Unit :=
  match transition.reactivationRoadmapRevisionId, transition.reactivationRoleAssignmentId,
      transition.reorientationEvidenceRefs with
  | some revisionId, some roleId, _ :: _ => do
    let prior := match current.roadmapRevisionId with
      | none | some "" => none
      | some priorId => p.roadmapRevisions.find priorId
    let revision ← p.requireCurrentRoadmap revisionId
    p.requireLiveGoals revision
    refuse (prior.all fun prior =>
        revision.roadmapId ≠ prior.roadmapId ∨ revision.version ≤ prior.version)
      "reactivation roadmap revision is not newer than suspension"
    refuse (current.outcomeNodeId.all fun outcomeNodeId => outcomeNodeId ∉ revision.nodeIds)
      "reactivation outcome no longer exists in current roadmap"
    let expected := revision.revisionId ++ "#" ++ current.outcomeNodeId.getD "None"
    match (p.roles.find roleId).filter fun roles => roles.outcomeRef = expected with
    | none => .error (.valueError "reactivation roles do not target the current roadmap outcome")
    | some roles =>
      let envelope := p.envelopeOf transition.reactivationAssistanceEnvelopeId
      refuse (transition.reactivationAssistanceEnvelopeId ≠ none ∧
          envelope.all fun envelope => envelope.roleAssignmentId ≠ roleId)
        "reactivation assistance does not target remapped roles"
      refuse (roles.executor.locus ≠ .agent ∧ envelope = none)
        "reactivation requires assistance for human or external work"
  | _, _, _ =>
    .error (.valueError
      "reactivation requires current roadmap, remapped roles, and current evidence")

/-- `is_reactivation`. -/
def isReactivation (transition : CommitmentTransition) (current : Commitment) : Bool :=
  current.status = .suspended && transition.toState = .active

/-- `validate_transition_structure`, for the commitment it is about. -/
def validateTransitionOf (transition : CommitmentTransition) (authority : IntentAuthority)
    (current : Commitment) : Except PyError Unit := do
  refuse (current.owner ≠ authority.principalId)
    "commitment transition authority does not own the obligation"
  refuse (authority.goalRefs ≠ [] ∧ ∃ ref ∈ current.governingGoalRefs, ref ∉ authority.goalRefs)
    "commitment transition authority does not cover governing goals"
  refuse (current.status = .closed) "closed commitment history cannot mutate"
  refuse (transition.fromState ≠ current.status) "commitment transition starts from stale state"
  refuse (transition.toState ∉ allowedTransitions current.status)
    "illegal commitment lifecycle transition"
  refuse (transition.toState = .closed ∧ transition.closureReason = none)
    "closed commitment requires a closure reason"
  refuse (transition.toState ≠ .closed ∧ transition.closureReason ≠ none)
    "non-closed commitment cannot have a closure reason"
  if isReactivation transition current then p.validateReactivation transition current
  else
    refuse (transition.reactivationRoadmapRevisionId ≠ none ∨
        transition.reactivationRoleAssignmentId ≠ none ∨
        transition.reactivationAssistanceEnvelopeId ≠ none ∨
        transition.reorientationEvidenceRefs ≠ [])
      "reactivation remapping belongs only on suspended-to-active"
  if (transition.toState = .accepted ∨ transition.toState = .active) ∧
      isReactivation transition current = false then
    match current.roadmapRevisionId with
    | none => .error (.valueError "commitment activation lacks roadmap provenance")
    | some roadmapRevisionId =>
      let roadmap ← p.requireCurrentRoadmap roadmapRevisionId
      p.requireLiveGoals roadmap

/-- `validate_transition_structure`. -/
def validateTransitionStructure (transition : CommitmentTransition) (authority : IntentAuthority) :
    Except PyError Unit := do
  refuse (authority.scope = .propose)
    "proposal-only intent authority cannot transition a commitment"
  refuse (transition.author ≠ authority.principalId)
    "commitment transition author lacks the supplied authority"
  match p.commitments.find transition.commitmentId with
  | none => .error (.valueError "unknown commitment")
  | some current => p.validateTransitionOf transition authority current

/-! ## External work and proposals -/

/-- `validate_external_structure`. -/
def validateExternalStructure (value : ExternalWorkstream) : Except PyError Unit := do
  refuse ("work-graph:".toList <+: value.observedRoadmapRef.toList ∨
      value.observedRoadmapRef ∈ p.workGraphIds)
    "external roadmap cannot reuse a Noema work graph id"
  let missing := value.supportCommitmentRefs.filter fun ref => (p.commitments.find ref).isNone
  refuse (missing ≠ []) s!"external support references unknown commitments: {tupleText missing}"

/-- `work_eligibility`. -/
def workEligibility (commitment : Commitment) (at' : Datetime) : Option WorkProposalEligibility :=
  if commitment.status = .active then some .active
  else if commitment.status ≠ .accepted then none
  else if commitment.activationDueAt.any fun due => due.instant ≤ at'.instant then
    some .activationDue
  else if commitment.leadTimeEvidenceRefs ≠ [] then some .prerequisiteLeadTime
  else none

/-- `intervention_rank`. -/
def interventionRank : InterventionLevel → Nat
  | .prepare => 0
  | .propose => 1
  | .coExecute => 2
  | .act => 3

/-- `_validate_work_assistance`. -/
def validateWorkAssistance (proposal : WorkOrderProposal) (commitment : Commitment) :
    Except PyError Unit :=
  match commitment.roleAssignmentId with
  | none => .error (.valueError "commitment-derived work requires outcome roles")
  | some roleAssignmentId =>
    match p.roles.find roleAssignmentId with
    | none => .error (.valueError "commitment-derived work references unknown outcome roles")
    | some roles =>
      match p.envelopeOf commitment.assistanceEnvelopeId with
      | none => refuse (roles.executor.locus ≠ .agent)
          "human or external execution requires bounded assistance"
      | some envelope => do
        refuse (interventionRank envelope.maximumIntervention <
            interventionRank proposal.intervention)
          "work proposal exceeds the assistance intervention limit"
        refuse (∃ support ∈ proposal.declaredAgentSupport,
            support ∉ envelope.permittedAgentSupport)
          "work proposal declares support outside the assistance envelope"
        refuse (proposal.intervention = .act ∧ envelope.identityBound = true ∧
            (roles.executor.locus = .user ∨ roles.executor.locus = .shared))
          "agent cannot act for user or shared identity-bound execution"

/-- `validate_work_proposal_structure`. -/
def validateWorkProposalStructure (proposal : WorkOrderProposal) (at' : Datetime) :
    Except PyError Unit := do
  match p.commitments.find proposal.commitmentId with
  | none => .error (.valueError "work proposal requires a canonical commitment")
  | some commitment =>
    refuse (commitment.roadmapRevisionId ≠ some proposal.roadmapRevisionId)
      "work proposal roadmap provenance differs from commitment"
    refuse (commitment.outcomeNodeId ≠ some proposal.outcomeNodeId)
      "work proposal outcome provenance differs from commitment"
    let roadmap ← p.requireCurrentRoadmap proposal.roadmapRevisionId
    p.requireLiveGoals roadmap
    refuse (proposal.outcomeNodeId ∉ roadmap.nodeIds)
      "work proposal references an unknown current roadmap outcome"
    refuse (workEligibility commitment at' ≠ some proposal.eligibility)
      "commitment is not eligible for automatic work proposal"
    refuse (∃ ref ∈ ["commitment:" ++ commitment.id,
        "roadmap-revision:" ++ proposal.roadmapRevisionId,
        "outcome-node:" ++ proposal.outcomeNodeId], ref ∉ proposal.workOrder.createdFrom)
      "roadmap-derived work lacks commitment provenance"
    refuse ((∃ ref ∈ proposal.workOrder.governingGoalRefs, ref ∉ commitment.governingGoalRefs) ∨
        ∃ ref ∈ commitment.governingGoalRefs, ref ∉ proposal.workOrder.governingGoalRefs)
      "work proposal governing goals differ from commitment"
    p.validateWorkAssistance proposal commitment
    let pending := (p.workProposals.rows.filter fun value =>
      (p.admittedWorkOrders.find value.workOrder.workOrderId).isNone).length
    refuse (proposal.portfolioSignals.wip ≠ pending)
      "work proposal WIP input differs from canonical pending work"
    refuse (proposal.wipLimit ≤ pending) "deterministic strategic WIP limit reached"

/-- `validate_work_admission_structure`. -/
def validateWorkAdmissionStructure (proposal : WorkOrderProposal) : Except PyError Unit := do
  match (p.commitments.find proposal.commitmentId).filter fun commitment =>
      commitment.status = .active with
  | none => .error (.valueError "commitment-derived execution requires ACTIVE commitment")
  | some commitment =>
    let roadmap ← p.requireCurrentRoadmap proposal.roadmapRevisionId
    p.requireLiveGoals roadmap
    p.validateWorkAssistance proposal commitment

/-! ## Recording -/

/-- `_record_immutable`. -/
def recordImmutable {α : Type} [DecidableEq α] {key : α → String} (values : KeyedTable key)
    (value : α) (label : String) : Except PyError (KeyedTable key) :=
  match values.insertOnce value with
  | some values => .ok values
  | none => .error (.valueError s!"{label} changed in place: {key value}")

/-- The sequence of an event that is applied. -/
def sequenceOf (event : Event) : Nat := event.sequence.getD 0

/-- `_record_goal_revision`. -/
def recordGoalRevision (revision : GoalRevision) (event : Event) :
    Except PyError StrategicProjection := do
  let subjectMatches := event.subject = some revision.goalId ∨
    (isLegacyIntentEvent event = true ∧ event.subject = none)
  refuse (¬ subjectMatches ∨ event.timestamp.instant ≠ revision.recordedAt.instant)
    "goal revision event envelope is inconsistent"
  let current := p.currentGoalRevision revision.goalId
  refuse (revision.version ≠ versionAfter (current.map (·.version)) ∨
      revision.supersedesRevisionId ≠ current.map (·.revisionId))
    "goal revision does not extend immutable history"
  refuse ((sequenceOf event : Int) ≤ revision.basedOnEventCursor)
    "goal revision cursor must precede its canonical event"
  let goalRevisions ← recordImmutable p.goalRevisions revision "goal revision"
  return { p with
    goalRevisions
    goalHistoryIds := p.goalHistoryIds.push revision.goalId revision.revisionId
    currentGoalRevisionIds := p.currentGoalRevisionIds.put (revision.goalId, revision.revisionId) }

/-- `_record_roadmap_revision`. -/
def recordRoadmapRevision (revision : RoadmapRevision) (event : Event) :
    Except PyError StrategicProjection := do
  refuse (event.subject ≠ some revision.roadmapId ∨
      event.timestamp.instant ≠ revision.recordedAt.instant)
    "roadmap revision event envelope is inconsistent"
  let current := p.currentRoadmapRevision revision.roadmapId
  refuse (revision.version ≠ versionAfter (current.map (·.version)) ∨
      revision.supersedesRevisionId ≠ current.map (·.revisionId))
    "roadmap revision does not extend immutable history"
  refuse ((sequenceOf event : Int) ≤ revision.basedOnEventCursor)
    "roadmap revision cursor must precede its canonical event"
  let roadmapRevisions ← recordImmutable p.roadmapRevisions revision "roadmap revision"
  return { p with
    roadmapRevisions
    roadmapHistoryIds := p.roadmapHistoryIds.push revision.roadmapId revision.revisionId
    currentRoadmapRevisionIds :=
      p.currentRoadmapRevisionIds.put (revision.roadmapId, revision.revisionId) }

/-- A commitment as it is now, after its versions so far. -/
def putCommitment (value : Commitment) : StrategicProjection :=
  { p with
    commitments := p.commitments.put value
    commitmentVersions := p.commitmentVersions.push value.id value }

/-- `_record_commitment`. -/
def recordCommitment (value : Commitment) (event : Event) : Except PyError StrategicProjection := do
  refuse (event.subject ≠ some value.id ∨ event.timestamp.instant ≠ value.createdAt.instant)
    "commitment event envelope is inconsistent"
  refuse ((p.commitments.find value.id).any fun existing => existing ≠ value)
    s!"commitment identity changed: {value.id}"
  return p.putCommitment value

/-- The commitment after a transition. -/
def transitioned (current : Commitment) (transition : CommitmentTransition) : Commitment :=
  { current with
    status := transition.toState
    closureReason := transition.closureReason
    roadmapRevisionId :=
      (transition.reactivationRoadmapRevisionId.filter (· ≠ "")).or current.roadmapRevisionId
    roleAssignmentId :=
      (transition.reactivationRoleAssignmentId.filter (· ≠ "")).or current.roleAssignmentId
    assistanceEnvelopeId :=
      if transition.reactivationRoadmapRevisionId ≠ none then
        transition.reactivationAssistanceEnvelopeId
      else current.assistanceEnvelopeId
    updatedAt := transition.transitionedAt }

/-- `_record_transition`. -/
def recordTransition (transition : CommitmentTransition) (event : Event) :
    Except PyError StrategicProjection :=
  match p.commitments.find transition.commitmentId with
  | none => .error (.valueError "commitment transition references unknown commitment")
  | some current => do
    refuse (event.subject ≠ some current.id ∨
        event.timestamp.instant ≠ transition.transitionedAt.instant)
      "commitment transition event envelope is inconsistent"
    refuse (current.status ≠ transition.fromState)
      "commitment transition does not start at current state"
    let p := p.putCommitment (transitioned current transition)
    return { p with
      commitmentTransitions := p.commitmentTransitions.push current.id transition }

/-! ## Legacy events -/

variable (b : IntentBuiltins)

/-- The origin of the goal, or of a legacy goal that is new. -/
def legacyOrigin (current : Option GoalRevision) (context : Payload) :
    Except PyError OriginProvenance :=
  match current with
  | some current => .ok current.origin
  | none => do OriginProvenance.fromDict b (← itemMapping context "origin")

/-- The authority of the goal, or of a legacy goal that is new. -/
def legacyAuthority (current : Option GoalRevision) (context : Payload) :
    Except PyError IntentAuthority :=
  match current with
  | some current => .ok current.intentAuthority
  | none => do IntentAuthority.fromDict b (← itemMapping context "intent_authority")

/-- What a legacy event says of its goal. -/
structure GoalReading where
  description : String
  priority : PyFloat
  utility : PyFloat
  successCriteria : List String
  owner : String
  status : GoalStatus
  deadline : Option Datetime

/-- Read off the payload; what is left out is as it was. -/
def readGoal (event : Event) (current : Option GoalRevision) : Except PyError GoalReading := do
  let payload := event.payload
  let description ← textOr b.toBuiltins payload "description"
    ((current.map (·.description)).getD "")
  let priority ← floatOr b.toBuiltins payload "priority"
    ((current.map (·.priority)).getD (.finite (1 / 2)))
  let utility ← floatOr b.toBuiltins payload "utility"
    ((current.map (·.utility)).getD (.finite 1))
  let successCriteria ← textsOr b.toBuiltins payload "success_criteria"
    ((current.map (·.successCriteria)).getD [])
  let owner ← textOr b.toBuiltins payload "owner" ((current.map (·.owner)).getD event.source)
  let status ← goalStatusOr b.toBuiltins payload ((current.map (·.status)).getD .active)
  let deadline ← datetimeOr b.toBuiltins payload "deadline" (current.bind (·.deadline))
  return { description, priority, utility, successCriteria, owner, status, deadline }

/-- The content of the revision. -/
def legacyContent (event : Event) (goalId : String) (current : Option GoalRevision)
    (origin : OriginProvenance) (intentAuthority : IntentAuthority) (reading : GoalReading) :
    GoalContent where
  goalId
  version := versionAfter (current.map (·.version))
  description := reading.description
  priority := reading.priority
  utility := reading.utility
  successCriteria := reading.successCriteria
  owner := reading.owner
  status := reading.status
  deadline := reading.deadline
  kind := (current.map (·.kind)).getD .legacyUnclassified
  governingGoalRefs := (current.map (·.governingGoalRefs)).getD []
  origin
  intentAuthority
  basedOnEventCursor := p.lastSequence
  author := event.source
  revisionReason := s!"deterministic migration of {event.type}"
  recordedAt := event.timestamp
  supersedesRevisionId := current.map (·.revisionId)

/-- The revision that `_apply_legacy_goal` makes of a legacy event. -/
def legacyGoalRevision (event : Event) (goalId : String) (current : Option GoalRevision)
    (context : Payload) : Except PyError GoalRevision := do
  let origin ← legacyOrigin b current context
  let intentAuthority ← legacyAuthority b current context
  let reading ← readGoal b event current
  GoalRevision.create b (p.legacyContent event goalId current origin intentAuthority reading)

/-- `_apply_legacy_goal`. -/
def applyLegacyGoal (event : Event) (operation : String) (context : Payload) :
    Except PyError (StrategicProjection × Bool) := do
  let goalId ← textOrElse b.toBuiltins event.payload "id" event.subjectOrId
  let current := p.currentGoalRevision goalId
  if operation = "patch" ∧ current = none then return (p, false)
  else
    let revision ← p.legacyGoalRevision b event goalId current context
    return (← p.recordGoalRevision revision event, true)

/-- The closure reason of a payload, or the one there is. -/
def closureReasonOr (payload : Payload) (default : Option CommitmentClosureReason) :
    Except PyError (Option CommitmentClosureReason) :=
  match Dict.get? payload "closure_reason" with
  | some value => commitmentClosureReason b.toBuiltins value
  | none => .ok default

/-- The commitment after a legacy event. -/
def patchedCommitment (event : Event) (current : Commitment) : Except PyError Commitment := do
  let payload := event.payload
  let status ← commitmentStatusOr b.toBuiltins payload current.status
  let closureReason ← closureReasonOr b payload current.closureReason
  let description ← textOr b.toBuiltins payload "description" current.description
  let owner ← textOr b.toBuiltins payload "owner" current.owner
  let priority ← floatOr b.toBuiltins payload "priority" current.priority
  let deadline ← datetimeOr b.toBuiltins payload "deadline" current.deadline
  let attentionCost ← floatOr b.toBuiltins payload "attention_cost" current.attentionCost
  let socialCostOfFailure ←
    floatOr b.toBuiltins payload "social_cost_of_failure" current.socialCostOfFailure
  return { current with
    description, owner, priority, status, deadline
    terminal := boolOr payload "terminal" current.terminal
    attentionCost, socialCostOfFailure, closureReason
    updatedAt := event.timestamp }

/-- The transition that a legacy event is recorded as, if it changes the status. -/
def recordLegacyTransition (event : Event) (commitmentId : String) (current updated : Commitment) :
    Except PyError StrategicProjection :=
  if updated.status = current.status then .ok p
  else do
    let transition ← CommitmentTransition.create b
      { commitmentId
        fromState := current.status
        toState := updated.status
        closureReason := updated.closureReason
        basedOnEventCursor := p.lastSequence
        author := event.source
        reason := s!"deterministic migration of {event.type}"
        transitionedAt := event.timestamp }
    return { p with
      commitmentTransitions := p.commitmentTransitions.push commitmentId transition }

/-- `_apply_legacy_commitment`. -/
def applyLegacyCommitment (event : Event) (operation : String) :
    Except PyError (StrategicProjection × Bool) := do
  let commitmentId ← textOrElse b.toBuiltins event.payload "id" event.subjectOrId
  match p.commitments.find commitmentId with
  | none =>
    if operation ≠ "create" then return (p, false)
    else
      let value ← commitmentFromDict b event.payload commitmentId event.timestamp event.timestamp
      return (p.putCommitment value, true)
  | some current =>
    let updated ← patchedCommitment b event current
    let p ← (p.putCommitment updated).recordLegacyTransition b event commitmentId current updated
    return (p, true)

/-- `_apply_legacy`. -/
def applyLegacy (event : Event) : Except PyError (StrategicProjection × Bool) := do
  let context ← legacyContext event
  let operation ← itemText b.toBuiltins context "operation"
  if "goal.".toList <+: event.type.toList then p.applyLegacyGoal b event operation context
  else if "commitment.".toList <+: event.type.toList then p.applyLegacyCommitment b event operation
  else return (p, false)

/-! ## Applying events -/

/-- `_event_intent_authority`. -/
def eventIntentAuthority (event : Event) : Except PyError IntentAuthority :=
  match event.metadata.get "intent_authority" with
  | .obj fields => IntentAuthority.fromDict b (.ofList fields)
  | _ => .error (.valueError "strategic event lacks an intent-authority admission receipt")

/-- `_validate_native_envelope`. -/
def validateNativeEnvelope (event : Event) (expectedId subject : String) (timestamp : Datetime)
    (basedOnEventCursor : Option Int) : Except PyError Unit := do
  refuse (event.id ≠ expectedId ∨ event.subject ≠ some subject ∨
      event.timestamp.instant ≠ timestamp.instant)
    "strategic event envelope is inconsistent"
  let validatedCursor := event.metadata.get "validated_at_event_cursor"
  refuse (validatedCursor.equalsInt p.lastSequence = false)
    "strategic event lacks exact-head admission evidence"
  refuse (basedOnEventCursor.any fun cursor => !validatedCursor.equalsInt cursor)
    "strategic event cursor differs from admitted content"

/-- `GOAL_REVISION_RECORDED_EVENT`. -/
def applyGoalRevision (event : Event) : Except PyError StrategicProjection := do
  let revision ← GoalRevision.fromDict b event.payload
  p.validateNativeEnvelope event ("goal-revision-recorded:" ++ revision.revisionId)
    revision.goalId revision.recordedAt (some revision.basedOnEventCursor)
  p.validateGoalRevisionStructure revision
  p.recordGoalRevision revision event

/-- `ROADMAP_REVISION_RECORDED_EVENT`. -/
def applyRoadmapRevision (event : Event) : Except PyError StrategicProjection := do
  let revision ← RoadmapRevision.fromDict b event.payload
  p.validateNativeEnvelope event ("roadmap-revision-recorded:" ++ revision.revisionId)
    revision.roadmapId revision.recordedAt (some revision.basedOnEventCursor)
  p.validateRoadmapRevisionStructure revision
  p.recordRoadmapRevision revision event

/-- `COMMITMENT_RECORDED_EVENT`. -/
def applyCommitment (event : Event) : Except PyError StrategicProjection := do
  let id ← itemText b.toBuiltins event.payload "id"
  let createdAt ← requiredDatetime b event.payload "created_at"
  let updatedAt ← requiredDatetime b event.payload "updated_at"
  let commitment ← commitmentFromDict b event.payload id createdAt updatedAt
  p.validateNativeEnvelope event ("commitment-recorded:" ++ commitment.id) commitment.id
    commitment.createdAt none
  p.validateCommitmentStructure commitment (← eventIntentAuthority b event)
  p.recordCommitment commitment event

/-- `COMMITMENT_TRANSITIONED_EVENT`. -/
def applyTransition (event : Event) : Except PyError StrategicProjection := do
  let transition ← CommitmentTransition.fromDict b event.payload
  p.validateNativeEnvelope event ("commitment-transitioned:" ++ transition.transitionId)
    transition.commitmentId transition.transitionedAt (some transition.basedOnEventCursor)
  p.validateTransitionStructure transition (← eventIntentAuthority b event)
  p.recordTransition transition event

/-- `OUTCOME_ROLES_RECORDED_EVENT`. -/
def applyRoles (event : Event) : Except PyError StrategicProjection := do
  let assignment ← OutcomeRoleAssignment.fromDict b event.payload
  p.validateNativeEnvelope event ("outcome-roles-recorded:" ++ assignment.assignmentId)
    assignment.outcomeRef assignment.recordedAt none
  p.validateRolesStructure assignment
  return { p with roles := ← recordImmutable p.roles assignment "outcome roles" }

/-- `ASSISTANCE_ENVELOPE_RECORDED_EVENT`. -/
def applyAssistance (event : Event) : Except PyError StrategicProjection := do
  let envelope ← AssistanceEnvelope.fromDict b event.payload
  p.validateNativeEnvelope event ("assistance-envelope-recorded:" ++ envelope.envelopeId)
    envelope.roleAssignmentId envelope.recordedAt none
  p.validateAssistanceStructure envelope
  return { p with assistance := ← recordImmutable p.assistance envelope "assistance" }

/-- `EXTERNAL_WORKSTREAM_OBSERVED_EVENT`. -/
def applyExternal (event : Event) : Except PyError StrategicProjection := do
  let observation ← ExternalWorkstream.fromDict b event.payload
  p.validateNativeEnvelope event ("external-workstream-observed:" ++ observation.observationId)
    observation.workstreamId observation.recordedAt none
  p.validateExternalStructure observation
  let history := p.externalHistory.listOf observation.workstreamId
  refuse (history.getLast?.any fun last => observation.recordedAt.instant < last.recordedAt.instant)
    "external workstream knowledge time cannot regress"
  refuse (∃ item ∈ history, item.observationId = observation.observationId)
    "external observation id changed"
  return { p with
    externalHistory := p.externalHistory.push observation.workstreamId observation
    externalCurrent := p.externalCurrent.put (observation.workstreamId, observation) }

/-- `WORK_ORDER_PROPOSED_EVENT`. -/
def applyWorkProposal (event : Event) : Except PyError StrategicProjection := do
  let proposal ← WorkOrderProposal.fromDict b event.payload
  p.validateNativeEnvelope event ("work-order-proposed:" ++ proposal.proposalId)
    proposal.commitmentId proposal.proposedAt (some proposal.basedOnEventCursor)
  p.validateWorkProposalStructure proposal proposal.proposedAt
  return { p with workProposals := ← recordImmutable p.workProposals proposal "work order proposal" }

/-- `WORK_ORDER_RECORDED_EVENT`. -/
def applyWorkOrder (event : Event) : Except PyError StrategicProjection := do
  let order ← b.workOrderFromEvent event
  (p.workProposals.rows.filter fun proposal =>
    proposal.workOrder.workOrderId = order.workOrderId).forM p.validateWorkAdmissionStructure
  return { p with
    admittedWorkOrders := ← recordImmutable p.admittedWorkOrders order "work order" }

/-- `WORK_GRAPH_ACCEPTED_EVENT`. -/
def applyWorkGraph (event : Event) : Except PyError StrategicProjection := do
  let graph ← b.workGraphFromEvent event
  return { p with workGraphIds := p.workGraphIds.insert graph.graphId }

/-- The branches of `_apply_event` for native events, and whether there is one. -/
def applyNative (event : Event) : Except PyError (StrategicProjection × Bool) :=
  let handled (applied : Except PyError StrategicProjection) := do return (← applied, true)
  match event.type with
  | "intent.goal_revision_recorded" => handled (p.applyGoalRevision b event)
  | "intent.roadmap_revision_recorded" => handled (p.applyRoadmapRevision b event)
  | "intent.commitment_recorded" => handled (p.applyCommitment b event)
  | "intent.commitment_transitioned" => handled (p.applyTransition b event)
  | "intent.outcome_roles_recorded" => handled (p.applyRoles b event)
  | "intent.assistance_envelope_recorded" => handled (p.applyAssistance b event)
  | "intent.external_workstream_observed" => handled (p.applyExternal b event)
  | "intent.work_order_proposed" => handled (p.applyWorkProposal b event)
  | "work.order_recorded" => handled (p.applyWorkOrder b event)
  | "work.graph_accepted" => handled (p.applyWorkGraph b event)
  | _ => .ok (p, false)

/-- `_apply_event`. -/
def applyEvent (event : Event) : Except PyError (StrategicProjection × Bool) :=
  if isLegacyIntentEvent event then p.applyLegacy b event else p.applyNative b event

/-- `apply`. -/
def apply (event : Event) : Except PyError (StrategicProjection × Bool) :=
  match p.events.find event.id with
  | some existing =>
    if b.sameEvent existing event then .ok (p, false)
    else .error (.valueError s!"conflicting canonical strategic event identity: {event.id}")
  | none =>
    match event.sequence with
    | none => .error (.valueError "strategic projection requires canonical sequenced events")
    | some sequence => do
      refuse (sequence ≤ p.lastSequence)
        "strategic events must be applied in canonical sequence order"
      let (p, handled) ← p.applyEvent b event
      return ({ p with events := p.events.put event, lastSequence := sequence }, handled)

/-- The state that `apply` leaves. -/
def step (p : StrategicProjection) (event : Event) : Except PyError StrategicProjection := do
  let (p, _) ← p.apply b event
  return p

/-- `rebuild`. -/
def rebuild (events : List Event) : Except PyError StrategicProjection :=
  Folding.run (step b) empty events

end StrategicProjection
end Noema
