import Noema.IntentModels

/-!
# Reading the records of intent

Each `fromDict` converts the fields of a payload, runs the constructor's check and
compares the id with the content.  Work orders and work graphs have their own readers.
-/
namespace Noema

/-- `_canonical_id` on each kind of content: the digests, without their prefixes. -/
structure IntentIds where
  goalRevision : GoalContent → String
  roadmapRevision : RoadmapContent → String
  transition : TransitionContent → String
  roles : RolesContent → String
  envelope : EnvelopeContent → String
  workstream : WorkstreamContent → String
  workProposal : WorkProposalContent → String

/-- What the intent projection runs on besides the conversions of `Builtins`: `int` of a
text, equality of events, the ids, and the readers of work orders and graphs. -/
structure IntentBuiltins extends Builtins where
  intOfStr : String → Except PyError Int
  sameEvent : Event → Event → Bool
  ids : IntentIds
  workOrderFromDict : Payload → Except PyError WorkOrder
  workOrderFromEvent : Event → Except PyError WorkOrder
  workGraphFromEvent : Event → Except PyError WorkGraph

/-- A mapping, where the code indexes into one. -/
def JSONValue.mapping : JSONValue → Except PyError Payload
  | .obj fields => .ok (.ofList fields)
  | _ => .error .typeError

/-- `value == number`. -/
def JSONValue.equalsInt (value : JSONValue) (number : Int) : Bool :=
  match value with
  | .int value => value = number
  | .bool value => (if value then 1 else 0) = number
  | .float (.finite value) => value = number
  | _ => false

namespace IntentBuiltins

variable (b : IntentBuiltins)

/-- `int(value)`. -/
def int : JSONValue → Except PyError Int
  | .int value => .ok value
  | .bool value => .ok (if value then 1 else 0)
  | .float (.finite value) => .ok (value.num.tdiv value.den)
  | .float (.infinity _) => .error .overflowError
  | .float .nan => .error (.valueError "cannot convert float NaN to integer")
  | .str value => b.intOfStr value
  | _ => .error .typeError

end IntentBuiltins

section Readers

variable (b : IntentBuiltins) (data : Payload)

/-- `int(data[key])`. -/
def itemInt (key : String) : Except PyError Int := do b.int (← data.item key)

/-- `bool(data[key])`. -/
def itemBool (key : String) : Except PyError Bool := return (← data.item key).truthy

/-- `data[key]`, a mapping. -/
def itemMapping (key : String) : Except PyError Payload := do (← data.item key).mapping

/-- `_strings(data, key)`. -/
def strings (key : String) : Except PyError (List String) := textsOr b.toBuiltins data key []

/-- `_optional_text(data, key)`. -/
def optionalTextOf (key : String) : Except PyError (Option String) :=
  optionalText b.toBuiltins (data.get key)

/-- `_datetime(data, key)`. -/
def requiredDatetime (key : String) : Except PyError Datetime := do
  match ← datetime b.toBuiltins data key with
  | some value => return value
  | none => .error (.valueError s!"{key} is required")

/-- `OriginProvenance.from_dict`. -/
def OriginProvenance.fromDict : Except PyError OriginProvenance := do
  let provenanceId ← itemText b.toBuiltins data "provenance_id"
  let kind ← OriginKind.ofText (← itemText b.toBuiltins data "kind")
  let principalId ← itemText b.toBuiltins data "principal_id"
  let authenticationRef ← itemText b.toBuiltins data "authentication_ref"
  let content : OriginContent := { provenanceId, kind, principalId, authenticationRef }
  checkedBy content.check fun checked => ⟨content, checked⟩

/-- `IntentAuthority.from_dict`. -/
def IntentAuthority.fromDict : Except PyError IntentAuthority := do
  let kinds ← data.item "allowed_goal_kinds"
  let authorityId ← itemText b.toBuiltins data "authority_id"
  let principalId ← itemText b.toBuiltins data "principal_id"
  let scope ← IntentAuthorityScope.ofText (← itemText b.toBuiltins data "scope")
  let allowedGoalKinds ← (← kinds.iterate).mapM fun kind => do GoalKind.ofText (← b.str kind)
  let goalRefs ← strings b data "goal_refs"
  let provenanceRef ← itemText b.toBuiltins data "provenance_ref"
  let content : AuthorityContent :=
    { authorityId, principalId, scope, allowedGoalKinds, goalRefs, provenanceRef }
  checkedBy content.check fun checked => ⟨content, checked⟩

/-- The id of a goal revision. -/
def IntentIds.goalRevisionId (ids : IntentIds) (content : GoalContent) : String :=
  "goal-revision:" ++ ids.goalRevision content

/-- `GoalRevision.create`. -/
def GoalRevision.create (content : GoalContent) : Except PyError GoalRevision :=
  checkedBy (content.check (b.ids.goalRevisionId content)) fun checked =>
    ⟨content, b.ids.goalRevisionId content, checked⟩

/-- `GoalRevision.from_dict`. -/
def GoalRevision.fromDict : Except PyError GoalRevision := do
  let revisionId ← itemText b.toBuiltins data "revision_id"
  let goalId ← itemText b.toBuiltins data "goal_id"
  let version ← itemInt b data "version"
  let description ← itemText b.toBuiltins data "description"
  let priority ← itemFloat b.toBuiltins data "priority"
  let utility ← itemFloat b.toBuiltins data "utility"
  let successCriteria ← strings b data "success_criteria"
  let owner ← itemText b.toBuiltins data "owner"
  let status ← GoalStatus.ofText (← itemText b.toBuiltins data "status")
  let deadline ← datetime b.toBuiltins data "deadline"
  let kind ← GoalKind.ofText (← itemText b.toBuiltins data "kind")
  let governingGoalRefs ← strings b data "governing_goal_refs"
  let origin ← OriginProvenance.fromDict b (← itemMapping data "origin")
  let intentAuthority ← IntentAuthority.fromDict b (← itemMapping data "intent_authority")
  let basedOnEventCursor ← itemInt b data "based_on_event_cursor"
  let author ← itemText b.toBuiltins data "author"
  let revisionReason ← itemText b.toBuiltins data "revision_reason"
  let recordedAt ← requiredDatetime b data "recorded_at"
  let supersedesRevisionId ← optionalTextOf b data "supersedes_revision_id"
  let content : GoalContent :=
    { goalId, version, description, priority, utility, successCriteria, owner, status, deadline,
      kind, governingGoalRefs, origin, intentAuthority, basedOnEventCursor, author,
      revisionReason, recordedAt, supersedesRevisionId }
  let revision : GoalRevision ←
    checkedBy (content.check revisionId) fun checked => ⟨content, revisionId, checked⟩
  if revision.revisionId ≠ b.ids.goalRevisionId content then
    .error (.valueError "goal revision id does not match immutable content")
  else return revision

/-- `OutcomeNode.from_dict`. -/
def OutcomeNode.fromDict : Except PyError OutcomeNode := do
  let nodeId ← itemText b.toBuiltins data "node_id"
  let description ← itemText b.toBuiltins data "description"
  let successCriteria ← strings b data "success_criteria"
  let approximateDependencies ← strings b data "approximate_dependencies"
  let assumptionRefs ← strings b data "assumption_refs"
  let confidence ← itemFloat b.toBuiltins data "confidence"
  let content : NodeContent :=
    { nodeId, description, successCriteria, approximateDependencies, assumptionRefs, confidence }
  checkedBy content.check fun checked => ⟨content, checked⟩

/-- `dict(sorted(resources.items()))`. -/
def sortedResources (resources : List (String × PyFloat)) : List (String × PyFloat) :=
  resources.insertionSort fun a b => a.1 ≤ b.1

/-- The id of a roadmap revision; `create` sorts the outcomes. -/
def IntentIds.roadmapRevisionId (ids : IntentIds) (content : RoadmapContent) : String :=
  "roadmap-revision:" ++ ids.roadmapRevision { content with
    outcomeNodes := content.outcomeNodes.insertionSort fun a b => a.nodeId ≤ b.nodeId }

/-- `RoadmapRevision.from_dict`. -/
def RoadmapRevision.fromDict : Except PyError RoadmapRevision := do
  let nodes ← data.item "outcome_nodes"
  let resources ← itemMapping data "resource_envelope"
  let revisionId ← itemText b.toBuiltins data "revision_id"
  let roadmapId ← itemText b.toBuiltins data "roadmap_id"
  let version ← itemInt b data "version"
  let governingGoalRevisionIds ← strings b data "governing_goal_revision_ids"
  let outcomeNodes ← (← nodes.iterate).mapM fun node => do OutcomeNode.fromDict b (← node.mapping)
  let assumptions ← strings b data "assumptions"
  let confidence ← itemFloat b.toBuiltins data "confidence"
  let successCriteria ← strings b data "success_criteria"
  let resourceEnvelope ← resources.rows.mapM fun resource => do
    return (resource.1, ← b.float resource.2)
  let intentAuthority ← IntentAuthority.fromDict b (← itemMapping data "intent_authority")
  let basedOnEventCursor ← itemInt b data "based_on_event_cursor"
  let author ← itemText b.toBuiltins data "author"
  let revisionReason ← itemText b.toBuiltins data "revision_reason"
  let recordedAt ← requiredDatetime b data "recorded_at"
  let supersedesRevisionId ← optionalTextOf b data "supersedes_revision_id"
  let content : RoadmapContent :=
    { roadmapId, version, governingGoalRevisionIds, outcomeNodes, assumptions, confidence,
      successCriteria, resourceEnvelope := sortedResources resourceEnvelope, intentAuthority,
      basedOnEventCursor, author, revisionReason, recordedAt, supersedesRevisionId }
  let revision : RoadmapRevision ←
    checkedBy (content.check revisionId) fun checked => ⟨content, revisionId, checked⟩
  if revision.revisionId ≠ b.ids.roadmapRevisionId content then
    .error (.valueError "roadmap revision id does not match immutable content")
  else return revision

/-- `CommitmentClosureReason(closure) if closure else None`, of an optional text. -/
def closureReasonOf (key : String) : Except PyError (Option CommitmentClosureReason) := do
  match ← optionalTextOf b data key with
  | some closure => return some (← CommitmentClosureReason.ofText closure)
  | none => return none

/-- The id of a commitment transition. -/
def IntentIds.transitionId (ids : IntentIds) (content : TransitionContent) : String :=
  "commitment-transition:" ++ ids.transition content

/-- `CommitmentTransition.create`. -/
def CommitmentTransition.create (content : TransitionContent) :
    Except PyError CommitmentTransition :=
  checkedBy (content.check (b.ids.transitionId content)) fun checked =>
    ⟨content, b.ids.transitionId content, checked⟩

/-- `CommitmentTransition.from_dict`. -/
def CommitmentTransition.fromDict : Except PyError CommitmentTransition := do
  let closureReason ← closureReasonOf b data "closure_reason"
  let transitionId ← itemText b.toBuiltins data "transition_id"
  let commitmentId ← itemText b.toBuiltins data "commitment_id"
  let fromState ← CommitmentStatus.ofText (← itemText b.toBuiltins data "from_state")
  let toState ← CommitmentStatus.ofText (← itemText b.toBuiltins data "to_state")
  let basedOnEventCursor ← itemInt b data "based_on_event_cursor"
  let author ← itemText b.toBuiltins data "author"
  let reason ← itemText b.toBuiltins data "reason"
  let transitionedAt ← requiredDatetime b data "transitioned_at"
  let reactivationRoadmapRevisionId ← optionalTextOf b data "reactivation_roadmap_revision_id"
  let reactivationRoleAssignmentId ← optionalTextOf b data "reactivation_role_assignment_id"
  let reactivationAssistanceEnvelopeId ←
    optionalTextOf b data "reactivation_assistance_envelope_id"
  let reorientationEvidenceRefs ← strings b data "reorientation_evidence_refs"
  let content : TransitionContent :=
    { commitmentId, fromState, toState, closureReason, basedOnEventCursor, author, reason,
      transitionedAt, reactivationRoadmapRevisionId, reactivationRoleAssignmentId,
      reactivationAssistanceEnvelopeId, reorientationEvidenceRefs }
  let transition : CommitmentTransition ←
    checkedBy (content.check transitionId) fun checked => ⟨content, transitionId, checked⟩
  if transition.transitionId ≠ b.ids.transitionId content then
    .error (.valueError "commitment transition id does not match immutable content")
  else return transition

/-- `commitment_from_dict`, for the id and the times that the mapping holds. -/
def commitmentFromDict (id : String) (createdAt updatedAt : Datetime) :
    Except PyError Commitment := do
  let closureReason ← closureReasonOf b data "closure_reason"
  let description ← itemText b.toBuiltins data "description"
  let owner ← itemText b.toBuiltins data "owner"
  let priority ← floatOr b.toBuiltins data "priority" (.finite (1 / 2))
  let status ← commitmentStatusOr b.toBuiltins data .accepted
  let deadline ← datetime b.toBuiltins data "deadline"
  let attentionCost ← floatOr b.toBuiltins data "attention_cost" (.finite 1)
  let socialCostOfFailure ← floatOr b.toBuiltins data "social_cost_of_failure" (.finite 0)
  let governingGoalRefs ← strings b data "governing_goal_refs"
  let roadmapRevisionId ← optionalTextOf b data "roadmap_revision_id"
  let outcomeNodeId ← optionalTextOf b data "outcome_node_id"
  let roleAssignmentId ← optionalTextOf b data "role_assignment_id"
  let assistanceEnvelopeId ← optionalTextOf b data "assistance_envelope_id"
  let activationDueAt ← datetime b.toBuiltins data "activation_due_at"
  let leadTimeEvidenceRefs ← strings b data "lead_time_evidence_refs"
  return { id, description, owner, priority, status, deadline,
           terminal := boolOr data "terminal" true, attentionCost, socialCostOfFailure, createdAt,
           updatedAt, closureReason, governingGoalRefs, roadmapRevisionId, outcomeNodeId,
           roleAssignmentId, assistanceEnvelopeId, activationDueAt, leadTimeEvidenceRefs }

/-- `OutcomeActor.from_dict`. -/
def OutcomeActor.fromDict : Except PyError OutcomeActor := do
  let actorId ← itemText b.toBuiltins data "actor_id"
  let locus ← ExecutionLocus.ofText (← itemText b.toBuiltins data "locus")
  checkedBy (requireText actorId "outcome actor id") fun checked => ⟨actorId, locus, checked⟩

/-- `OutcomeRoleAssignment.from_dict`. -/
def OutcomeRoleAssignment.fromDict : Except PyError OutcomeRoleAssignment := do
  let assignmentId ← itemText b.toBuiltins data "assignment_id"
  let outcomeRef ← itemText b.toBuiltins data "outcome_ref"
  let outcomeOwner ← OutcomeActor.fromDict b (← itemMapping data "outcome_owner")
  let decisionOwner ← OutcomeActor.fromDict b (← itemMapping data "decision_owner")
  let executor ← OutcomeActor.fromDict b (← itemMapping data "executor")
  let verifier ← OutcomeActor.fromDict b (← itemMapping data "verifier")
  let recordedAt ← requiredDatetime b data "recorded_at"
  let content : RolesContent :=
    { outcomeRef, outcomeOwner, decisionOwner, executor, verifier, recordedAt }
  let assignment : OutcomeRoleAssignment ←
    checkedBy (content.check assignmentId) fun checked => ⟨content, assignmentId, checked⟩
  if assignment.assignmentId ≠ "outcome-roles:" ++ b.ids.roles content then
    .error (.valueError "outcome role id does not match immutable content")
  else return assignment

/-- `AssistanceEnvelope.from_dict`. -/
def AssistanceEnvelope.fromDict : Except PyError AssistanceEnvelope := do
  let envelopeId ← itemText b.toBuiltins data "envelope_id"
  let roleAssignmentId ← itemText b.toBuiltins data "role_assignment_id"
  let maximumIntervention ←
    InterventionLevel.ofText (← itemText b.toBuiltins data "maximum_intervention")
  let identityBound ← itemBool data "identity_bound"
  let physicalPresenceRequired ← itemBool data "physical_presence_required"
  let relationshipBound ← itemBool data "relationship_bound"
  let institutionalRestrictions ← strings b data "institutional_restrictions"
  let userDevelopmentValue ← itemFloat b.toBuiltins data "user_development_value"
  let permittedAgentSupport ← strings b data "permitted_agent_support"
  let requiredHumanWork ← strings b data "required_human_work"
  let checkpoints ← strings b data "checkpoints"
  let reversible ← itemBool data "reversible"
  let riskLimit ← itemFloat b.toBuiltins data "risk_limit"
  let privacyLimit ← itemFloat b.toBuiltins data "privacy_limit"
  let attentionBudget ← itemFloat b.toBuiltins data "attention_budget"
  let recordedAt ← requiredDatetime b data "recorded_at"
  let content : EnvelopeContent :=
    { roleAssignmentId, maximumIntervention, identityBound, physicalPresenceRequired,
      relationshipBound, institutionalRestrictions, userDevelopmentValue, permittedAgentSupport,
      requiredHumanWork, checkpoints, reversible, riskLimit, privacyLimit, attentionBudget,
      recordedAt }
  let envelope : AssistanceEnvelope ←
    checkedBy (content.check envelopeId) fun checked => ⟨content, envelopeId, checked⟩
  if envelope.envelopeId ≠ "assistance-envelope:" ++ b.ids.envelope content then
    .error (.valueError "assistance envelope id does not match immutable content")
  else return envelope

/-- `ExternalWorkstream.from_dict`. -/
def ExternalWorkstream.fromDict : Except PyError ExternalWorkstream := do
  let observationId ← itemText b.toBuiltins data "observation_id"
  let workstreamId ← itemText b.toBuiltins data "workstream_id"
  let sourceOfTruthId ← itemText b.toBuiltins data "source_of_truth_id"
  let observedRoadmapRef ← itemText b.toBuiltins data "observed_roadmap_ref"
  let provenanceRefs ← strings b data "provenance_refs"
  let validAt ← requiredDatetime b data "valid_at"
  let recordedAt ← requiredDatetime b data "recorded_at"
  let confidence ← itemFloat b.toBuiltins data "confidence"
  let freshnessExpiresAt ← requiredDatetime b data "freshness_expires_at"
  let userRole ← itemText b.toBuiltins data "user_role"
  let noemaRole ← itemText b.toBuiltins data "noema_role"
  let supportCommitmentRefs ← strings b data "support_commitment_refs"
  let supportRequired ← itemBool data "support_required"
  let content : WorkstreamContent :=
    { workstreamId, sourceOfTruthId, observedRoadmapRef, provenanceRefs, validAt, recordedAt,
      confidence, freshnessExpiresAt, userRole, noemaRole, supportCommitmentRefs,
      supportRequired }
  let observation : ExternalWorkstream ←
    checkedBy (content.check observationId) fun checked => ⟨content, observationId, checked⟩
  if observation.observationId ≠ "external-workstream:" ++ b.ids.workstream content then
    .error (.valueError "external observation id does not match immutable content")
  else return observation

/-- `PortfolioSignals.from_dict`. -/
def PortfolioSignals.fromDict : Except PyError PortfolioSignals := do
  let expectedGoalValue ← itemFloat b.toBuiltins data "expected_goal_value"
  let commitmentStrength ← itemFloat b.toBuiltins data "commitment_strength"
  let urgency ← itemFloat b.toBuiltins data "urgency"
  let criticalPathPressure ← itemFloat b.toBuiltins data "critical_path_pressure"
  let successEstimate ← itemFloat b.toBuiltins data "success_estimate"
  let cost ← itemFloat b.toBuiltins data "cost"
  let coordinationCost ← itemFloat b.toBuiltins data "coordination_cost"
  let contextAffinity ← itemFloat b.toBuiltins data "context_affinity"
  let verificationCapacity ← itemFloat b.toBuiltins data "verification_capacity"
  let wip ← itemInt b data "wip"
  let scarceCompetencePressure ← itemFloat b.toBuiltins data "scarce_competence_pressure"
  let futureInformationAccessRequirements ←
    strings b data "future_information_access_requirements"
  let content : SignalsContent :=
    { expectedGoalValue, commitmentStrength, urgency, criticalPathPressure, successEstimate, cost,
      coordinationCost, contextAffinity, verificationCapacity, wip, scarceCompetencePressure,
      futureInformationAccessRequirements }
  checkedBy content.check fun checked => ⟨content, checked⟩

/-- `WorkOrderProposal.from_dict`. -/
def WorkOrderProposal.fromDict : Except PyError WorkOrderProposal := do
  let proposalId ← itemText b.toBuiltins data "proposal_id"
  let commitmentId ← itemText b.toBuiltins data "commitment_id"
  let roadmapRevisionId ← itemText b.toBuiltins data "roadmap_revision_id"
  let outcomeNodeId ← itemText b.toBuiltins data "outcome_node_id"
  let workOrder ← b.workOrderFromDict (← itemMapping data "work_order")
  let intervention ← InterventionLevel.ofText (← itemText b.toBuiltins data "intervention")
  let declaredAgentSupport ← strings b data "declared_agent_support"
  let eligibility ← WorkProposalEligibility.ofText (← itemText b.toBuiltins data "eligibility")
  let portfolioSignals ← PortfolioSignals.fromDict b (← itemMapping data "portfolio_signals")
  let wipLimit ← itemInt b data "wip_limit"
  let basedOnEventCursor ← itemInt b data "based_on_event_cursor"
  let proposedAt ← requiredDatetime b data "proposed_at"
  let validatorId ← itemText b.toBuiltins data "validator_id"
  let content : WorkProposalContent :=
    { commitmentId, roadmapRevisionId, outcomeNodeId, workOrder, intervention,
      declaredAgentSupport, eligibility, portfolioSignals, wipLimit, basedOnEventCursor,
      proposedAt, validatorId }
  let proposal : WorkOrderProposal ←
    checkedBy (content.check proposalId) fun checked => ⟨content, proposalId, checked⟩
  if proposal.proposalId ≠ "work-order-proposal:" ++ b.ids.workProposal content then
    .error (.valueError "work order proposal id does not match immutable content")
  else return proposal

end Readers

end Noema
