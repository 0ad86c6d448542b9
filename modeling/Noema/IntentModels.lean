import Noema.Situation
import Noema.WorkModels

/-!
# The records of intent

Goal and roadmap revisions, commitment transitions, outcome roles, assistance envelopes,
external workstreams and work proposals.  What a constructor checks is a field of the
record (`checked`), so no record is built that it would refuse.  `fromDict` reads a
record off a payload, and a revision, transition, assignment, envelope, observation or
proposal off its payload only under the id that its content has.  The ids are digests of
the content (`IntentIds`), of which nothing is assumed.  All times carry a time zone.
-/
namespace Noema

inductive GoalKind
  | constitutional
  | userAuthored
  | delegated
  | instrumental
  | epistemic
  | maintenance
  | exploratory
  | legacyUnclassified
deriving DecidableEq, Repr

inductive OriginKind
  | constitutional
  | user
  | delegated
  | agent
  | system
  | legacyUnverified
deriving DecidableEq, Repr

inductive IntentAuthorityScope
  | propose
  | delegated
  | user
  | constitutional
deriving DecidableEq, Repr

inductive ExecutionLocus
  | user
  | agent
  | shared
  | externalHuman
  | externalSystem
deriving DecidableEq, Repr

inductive InterventionLevel
  | prepare
  | propose
  | coExecute
  | act
deriving DecidableEq, Repr

inductive WorkProposalEligibility
  | active
  | activationDue
  | prerequisiteLeadTime
deriving DecidableEq, Repr

/-- `GoalKind(text)`. -/
def GoalKind.ofText : String → Except PyError GoalKind
  | "constitutional" => .ok .constitutional
  | "user_authored" => .ok .userAuthored
  | "delegated" => .ok .delegated
  | "instrumental" => .ok .instrumental
  | "epistemic" => .ok .epistemic
  | "maintenance" => .ok .maintenance
  | "exploratory" => .ok .exploratory
  | "legacy_unclassified" => .ok .legacyUnclassified
  | text => .error (.valueError s!"'{text}' is not a valid GoalKind")

/-- `OriginKind(text)`. -/
def OriginKind.ofText : String → Except PyError OriginKind
  | "constitutional" => .ok .constitutional
  | "user" => .ok .user
  | "delegated" => .ok .delegated
  | "agent" => .ok .agent
  | "system" => .ok .system
  | "legacy_unverified" => .ok .legacyUnverified
  | text => .error (.valueError s!"'{text}' is not a valid OriginKind")

/-- `IntentAuthorityScope(text)`. -/
def IntentAuthorityScope.ofText : String → Except PyError IntentAuthorityScope
  | "propose" => .ok .propose
  | "delegated" => .ok .delegated
  | "user" => .ok .user
  | "constitutional" => .ok .constitutional
  | text => .error (.valueError s!"'{text}' is not a valid IntentAuthorityScope")

/-- `ExecutionLocus(text)`. -/
def ExecutionLocus.ofText : String → Except PyError ExecutionLocus
  | "user" => .ok .user
  | "agent" => .ok .agent
  | "shared" => .ok .shared
  | "external_human" => .ok .externalHuman
  | "external_system" => .ok .externalSystem
  | text => .error (.valueError s!"'{text}' is not a valid ExecutionLocus")

/-- `InterventionLevel(text)`. -/
def InterventionLevel.ofText : String → Except PyError InterventionLevel
  | "prepare" => .ok .prepare
  | "propose" => .ok .propose
  | "co_execute" => .ok .coExecute
  | "act" => .ok .act
  | text => .error (.valueError s!"'{text}' is not a valid InterventionLevel")

/-- `WorkProposalEligibility(text)`. -/
def WorkProposalEligibility.ofText : String → Except PyError WorkProposalEligibility
  | "active" => .ok .active
  | "activation_due" => .ok .activationDue
  | "prerequisite_lead_time" => .ok .prerequisiteLeadTime
  | text => .error (.valueError s!"'{text}' is not a valid WorkProposalEligibility")

/-! ## Checks of a constructor -/

/-- `_require_text`. -/
def requireText (value name : String) : Except PyError Unit :=
  if blank value then .error (.valueError s!"{name} must be non-empty") else .ok ()

/-- `_bounded`. -/
def requireBounded (value : PyFloat) (name : String) : Except PyError Unit :=
  match value with
  | .finite value =>
    if 0 ≤ value ∧ value ≤ 1 then .ok ()
    else .error (.valueError s!"{name} must be between zero and one")
  | _ => .error (.valueError s!"{name} must be between zero and one")

/-- `not math.isfinite(value) or value < 0`, refused. -/
def requireAmount (value : PyFloat) (message : String) : Except PyError Unit :=
  match value with
  | .finite value => if 0 ≤ value then .ok () else .error (.valueError message)
  | _ => .error (.valueError message)

/-- A condition under which the constructor raises. -/
def refuse (condition : Prop) [Decidable condition] (message : String) : Except PyError Unit :=
  if condition then .error (.valueError message) else .ok ()

theorem refuse_ok {condition : Prop} [Decidable condition] {message : String} {answer : Unit}
    (h : refuse condition message = .ok answer) : ¬ condition := by
  unfold refuse at h
  split at h
  · cases h
  · assumption

theorem refuse_of {condition : Prop} [Decidable condition] {message : String}
    (h : ¬ condition) : refuse condition message = .ok () := if_neg h

theorem refuse_iff {condition : Prop} [Decidable condition] {message : String} {answer : Unit} :
    refuse condition message = .ok answer ↔ ¬condition :=
  ⟨refuse_ok, fun h => refuse_of h⟩

theorem forM_of {α : Type} {values : List α} {check : α → Except PyError Unit}
    (h : ∀ value ∈ values, check value = .ok ()) : values.forM check = .ok () := by
  induction values with
  | nil => rfl
  | cons value values ih =>
    refine (bind_of_ok (h value List.mem_cons_self) _).trans ?_
    exact ih fun other hother => h other (List.mem_cons_of_mem _ hother)

theorem forM_ok {α : Type} {values : List α} {check : α → Except PyError Unit} {answer : Unit}
    (h : values.forM check = .ok answer) : ∀ value ∈ values, check value = .ok () := by
  induction values with
  | nil =>
    intro value hvalue
    cases hvalue
  | cons value values ih =>
    obtain ⟨_, hvalue, hrest⟩ := bind_eq_ok h
    exact List.forall_mem_cons.mpr ⟨hvalue, ih hrest⟩

theorem forM_iff {α : Type} {values : List α} {check : α → Except PyError Unit} {answer : Unit} :
    values.forM check = .ok answer ↔ ∀ value ∈ values, check value = .ok () :=
  ⟨forM_ok, fun h => forM_of h⟩

/-- `_unique`. -/
def requireUnique (values : List String) (name : String) (required : Bool) : Except PyError Unit :=
  if required && values.isEmpty then .error (.valueError s!"{name} must not be empty")
  else if values.any blank then .error (.valueError s!"{name} values must be non-empty")
  else if values.Nodup then .ok ()
  else .error (.valueError s!"{name} values must be unique")

/-- A record whose constructor runs a check. -/
def checkedBy {α : Type} (check : Except PyError Unit) (make : check = .ok () → α) :
    Except PyError α :=
  match check, make with
  | .ok (), make => .ok (make rfl)
  | .error error, _ => .error error

theorem checkedBy_ok {α : Type} {check : Except PyError Unit} {make : check = .ok () → α} {a : α}
    (h : checkedBy check make = .ok a) : ∃ hcheck, make hcheck = a := by
  cases check with
  | ok answer =>
    cases h
    exact ⟨rfl, rfl⟩
  | error error => cases h

theorem checkedBy_of {α : Type} {check : Except PyError Unit} {make : check = .ok () → α}
    (h : check = .ok ()) : checkedBy check make = .ok (make h) := by
  subst h
  rfl

/-! ## Goals -/

structure OriginContent where
  provenanceId : String
  kind : OriginKind
  principalId : String
  authenticationRef : String
deriving DecidableEq

def OriginContent.check (content : OriginContent) : Except PyError Unit := do
  requireText content.provenanceId "origin provenance id"
  requireText content.principalId "origin principal id"
  requireText content.authenticationRef "origin authentication ref"

/-- `OriginProvenance`. -/
structure OriginProvenance extends OriginContent where
  checked : toOriginContent.check = .ok ()
deriving DecidableEq

structure AuthorityContent where
  authorityId : String
  principalId : String
  scope : IntentAuthorityScope
  allowedGoalKinds : List GoalKind
  goalRefs : List String
  provenanceRef : String
deriving DecidableEq

def AuthorityContent.check (content : AuthorityContent) : Except PyError Unit := do
  requireText content.authorityId "intent authority id"
  requireText content.principalId "intent authority principal"
  requireText content.provenanceRef "intent authority provenance"
  refuse (content.allowedGoalKinds = []) "intent authority must allow at least one goal kind"
  refuse (¬ content.allowedGoalKinds.Nodup) "intent authority goal kinds must be unique"
  requireUnique content.goalRefs "intent authority goal refs" false

/-- `IntentAuthority`. -/
structure IntentAuthority extends AuthorityContent where
  checked : toAuthorityContent.check = .ok ()
deriving DecidableEq

/-- What a goal revision says, and what its id is made of. -/
structure GoalContent where
  goalId : String
  version : Int
  description : String
  priority : PyFloat
  utility : PyFloat
  successCriteria : List String
  owner : String
  status : GoalStatus
  deadline : Option Datetime
  kind : GoalKind
  governingGoalRefs : List String
  origin : OriginProvenance
  intentAuthority : IntentAuthority
  basedOnEventCursor : Int
  author : String
  revisionReason : String
  recordedAt : Datetime
  supersedesRevisionId : Option String
deriving DecidableEq

/-- `math.isfinite(value)`. -/
def PyFloat.isFinite : PyFloat → Bool
  | .finite _ => true
  | _ => false

def GoalContent.check (content : GoalContent) (revisionId : String) : Except PyError Unit := do
  requireText revisionId "goal revision id"
  requireText content.goalId "goal id"
  requireText content.description "goal description"
  requireText content.owner "goal owner"
  requireText content.author "goal revision author"
  requireText content.revisionReason "goal revision reason"
  refuse (content.version ≤ 0) "goal revision version must be positive"
  refuse (content.basedOnEventCursor < 0) "goal revision cursor cannot be negative"
  requireBounded content.priority "goal priority"
  refuse (content.utility.isFinite = false) "goal utility must be finite"
  requireUnique content.successCriteria "goal success criteria"
    (content.kind ≠ .legacyUnclassified)
  requireUnique content.governingGoalRefs "governing goal refs" false

/-- `GoalRevision`. -/
structure GoalRevision extends GoalContent where
  revisionId : String
  checked : toGoalContent.check revisionId = .ok ()
deriving DecidableEq

/-! ## Roadmaps -/

structure NodeContent where
  nodeId : String
  description : String
  successCriteria : List String
  approximateDependencies : List String
  assumptionRefs : List String
  confidence : PyFloat
deriving DecidableEq

def NodeContent.check (content : NodeContent) : Except PyError Unit := do
  requireText content.nodeId "outcome node id"
  requireText content.description "outcome node description"
  requireUnique content.successCriteria "outcome success criteria" true
  requireUnique content.approximateDependencies "outcome dependencies" false
  requireUnique content.assumptionRefs "outcome assumption refs" false
  requireBounded content.confidence "outcome confidence"
  refuse (content.nodeId ∈ content.approximateDependencies) "outcome node cannot depend on itself"

/-- `OutcomeNode`. -/
structure OutcomeNode extends NodeContent where
  checked : toNodeContent.check = .ok ()
deriving DecidableEq

/-- What a roadmap revision says, and what its id is made of; the resources are in the
order of their keys. -/
structure RoadmapContent where
  roadmapId : String
  version : Int
  governingGoalRevisionIds : List String
  outcomeNodes : List OutcomeNode
  assumptions : List String
  confidence : PyFloat
  successCriteria : List String
  resourceEnvelope : List (String × PyFloat)
  intentAuthority : IntentAuthority
  basedOnEventCursor : Int
  author : String
  revisionReason : String
  recordedAt : Datetime
  supersedesRevisionId : Option String
deriving DecidableEq

def RoadmapContent.check (content : RoadmapContent) (revisionId : String) :
    Except PyError Unit := do
  requireText revisionId "roadmap revision id"
  requireText content.roadmapId "roadmap id"
  requireText content.author "roadmap author"
  requireText content.revisionReason "roadmap revision reason"
  refuse (content.version ≤ 0 ∨ content.basedOnEventCursor < 0)
    "roadmap version must be positive and cursor non-negative"
  requireUnique content.governingGoalRevisionIds "governing goal revisions" true
  requireUnique content.assumptions "roadmap assumptions" false
  requireUnique content.successCriteria "roadmap success criteria" true
  requireBounded content.confidence "roadmap confidence"
  requireUnique (content.outcomeNodes.map (·.nodeId)) "roadmap outcome ids" true
  refuse (content.resourceEnvelope.any fun resource => blank resource.1)
    "roadmap resource envelope keys must be non-empty"
  content.resourceEnvelope.forM fun resource => requireAmount resource.2
    "roadmap resource envelope values must be finite and non-negative"

/-- `RoadmapRevision`. -/
structure RoadmapRevision extends RoadmapContent where
  revisionId : String
  checked : toRoadmapContent.check revisionId = .ok ()
deriving DecidableEq

/-- The ids of a roadmap's outcomes. -/
def RoadmapRevision.nodeIds (revision : RoadmapRevision) : List String :=
  revision.outcomeNodes.map (·.nodeId)

/-! ## Commitments -/

deriving instance DecidableEq for Commitment

/-- What a transition says, and what its id is made of. -/
structure TransitionContent where
  commitmentId : String
  fromState : CommitmentStatus
  toState : CommitmentStatus
  closureReason : Option CommitmentClosureReason
  basedOnEventCursor : Int
  author : String
  reason : String
  transitionedAt : Datetime
  reactivationRoadmapRevisionId : Option String := none
  reactivationRoleAssignmentId : Option String := none
  reactivationAssistanceEnvelopeId : Option String := none
  reorientationEvidenceRefs : List String := []
deriving DecidableEq

def TransitionContent.check (content : TransitionContent) (transitionId : String) :
    Except PyError Unit := do
  requireText transitionId "commitment transition id"
  requireText content.commitmentId "commitment id"
  requireText content.author "commitment transition author"
  requireText content.reason "commitment transition reason"
  refuse (content.basedOnEventCursor < 0) "commitment transition cursor cannot be negative"
  requireUnique content.reorientationEvidenceRefs "reorientation evidence refs" false

/-- `CommitmentTransition`. -/
structure CommitmentTransition extends TransitionContent where
  transitionId : String
  checked : toTransitionContent.check transitionId = .ok ()
deriving DecidableEq

/-- `OutcomeActor`. -/
structure OutcomeActor where
  actorId : String
  locus : ExecutionLocus
  checked : requireText actorId "outcome actor id" = .ok ()
deriving DecidableEq

structure RolesContent where
  outcomeRef : String
  outcomeOwner : OutcomeActor
  decisionOwner : OutcomeActor
  executor : OutcomeActor
  verifier : OutcomeActor
  recordedAt : Datetime
deriving DecidableEq

def RolesContent.check (content : RolesContent) (assignmentId : String) : Except PyError Unit := do
  requireText assignmentId "outcome role assignment id"
  requireText content.outcomeRef "outcome ref"

/-- `OutcomeRoleAssignment`. -/
structure OutcomeRoleAssignment extends RolesContent where
  assignmentId : String
  checked : toRolesContent.check assignmentId = .ok ()
deriving DecidableEq

structure EnvelopeContent where
  roleAssignmentId : String
  maximumIntervention : InterventionLevel
  identityBound : Bool
  physicalPresenceRequired : Bool
  relationshipBound : Bool
  institutionalRestrictions : List String
  userDevelopmentValue : PyFloat
  permittedAgentSupport : List String
  requiredHumanWork : List String
  checkpoints : List String
  reversible : Bool
  riskLimit : PyFloat
  privacyLimit : PyFloat
  attentionBudget : PyFloat
  recordedAt : Datetime
deriving DecidableEq

def EnvelopeContent.check (content : EnvelopeContent) (envelopeId : String) :
    Except PyError Unit := do
  requireText envelopeId "assistance envelope id"
  requireText content.roleAssignmentId "assistance role assignment ref"
  requireUnique content.institutionalRestrictions "institutional restrictions" false
  requireUnique content.permittedAgentSupport "permitted agent support" false
  requireUnique content.requiredHumanWork "required human work" false
  requireUnique content.checkpoints "assistance checkpoints" false
  requireBounded content.userDevelopmentValue "user development value"
  requireBounded content.riskLimit "risk limit"
  requireBounded content.privacyLimit "privacy limit"
  requireAmount content.attentionBudget "attention budget must be finite and non-negative"

/-- `AssistanceEnvelope`. -/
structure AssistanceEnvelope extends EnvelopeContent where
  envelopeId : String
  checked : toEnvelopeContent.check envelopeId = .ok ()
deriving DecidableEq

/-! ## External work and proposals -/

structure WorkstreamContent where
  workstreamId : String
  sourceOfTruthId : String
  observedRoadmapRef : String
  provenanceRefs : List String
  validAt : Datetime
  recordedAt : Datetime
  confidence : PyFloat
  freshnessExpiresAt : Datetime
  userRole : String
  noemaRole : String
  supportCommitmentRefs : List String
  supportRequired : Bool
deriving DecidableEq

def WorkstreamContent.check (content : WorkstreamContent) (observationId : String) :
    Except PyError Unit := do
  requireText observationId "external observation id"
  requireText content.workstreamId "external workstream id"
  requireText content.sourceOfTruthId "external source-of-truth id"
  requireText content.observedRoadmapRef "external roadmap ref"
  requireText content.userRole "external workstream user role"
  requireText content.noemaRole "external workstream Noema role"
  requireUnique content.provenanceRefs "external provenance refs" true
  requireUnique content.supportCommitmentRefs "external support commitment refs" false
  requireBounded content.confidence "external confidence"
  refuse (content.freshnessExpiresAt.instant ≤ content.recordedAt.instant)
    "external freshness expiry must follow recording"

/-- `ExternalWorkstream`. -/
structure ExternalWorkstream extends WorkstreamContent where
  observationId : String
  checked : toWorkstreamContent.check observationId = .ok ()
deriving DecidableEq

structure SignalsContent where
  expectedGoalValue : PyFloat
  commitmentStrength : PyFloat
  urgency : PyFloat
  criticalPathPressure : PyFloat
  successEstimate : PyFloat
  cost : PyFloat
  coordinationCost : PyFloat
  contextAffinity : PyFloat
  verificationCapacity : PyFloat
  wip : Int
  scarceCompetencePressure : PyFloat
  futureInformationAccessRequirements : List String
deriving DecidableEq

def SignalsContent.check (content : SignalsContent) : Except PyError Unit := do
  requireBounded content.expectedGoalValue "expected goal value"
  requireBounded content.commitmentStrength "commitment strength"
  requireBounded content.urgency "urgency"
  requireBounded content.criticalPathPressure "critical path pressure"
  requireBounded content.successEstimate "success estimate"
  requireBounded content.contextAffinity "context affinity"
  requireBounded content.verificationCapacity "verification capacity"
  requireBounded content.scarceCompetencePressure "scarce competence pressure"
  requireAmount content.cost "cost must be finite and non-negative"
  requireAmount content.coordinationCost "coordination cost must be finite and non-negative"
  refuse (content.wip < 0) "WIP cannot be negative"
  requireUnique content.futureInformationAccessRequirements
    "future information access requirements" false

/-- `PortfolioSignals`. -/
structure PortfolioSignals extends SignalsContent where
  checked : toSignalsContent.check = .ok ()
deriving DecidableEq

structure WorkProposalContent where
  commitmentId : String
  roadmapRevisionId : String
  outcomeNodeId : String
  workOrder : WorkOrder
  intervention : InterventionLevel
  declaredAgentSupport : List String
  eligibility : WorkProposalEligibility
  portfolioSignals : PortfolioSignals
  wipLimit : Int
  basedOnEventCursor : Int
  proposedAt : Datetime
  validatorId : String
deriving DecidableEq

def WorkProposalContent.check (content : WorkProposalContent) (proposalId : String) :
    Except PyError Unit := do
  requireText proposalId "work order proposal id"
  requireText content.commitmentId "proposal commitment id"
  requireText content.roadmapRevisionId "proposal roadmap revision id"
  requireText content.outcomeNodeId "proposal outcome node id"
  requireText content.validatorId "proposal validator id"
  refuse (content.basedOnEventCursor < 0) "work proposal cursor cannot be negative"
  refuse (content.wipLimit ≤ 0) "work proposal WIP limit must be positive"
  requireUnique content.declaredAgentSupport "declared agent support" true

/-- `WorkOrderProposal`. -/
structure WorkOrderProposal extends WorkProposalContent where
  proposalId : String
  checked : toWorkProposalContent.check proposalId = .ok ()
deriving DecidableEq

end Noema
