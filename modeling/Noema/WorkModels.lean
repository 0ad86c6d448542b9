import Mathlib.Data.List.Sort
import Mathlib.Data.Prod.Lex
import Mathlib.Data.String.Basic
import Noema.Authority

/-!
# The records of work coordination

Work orders, plan proposals, work graphs, agent presence, capability manifests,
competence estimates, leases, and the events that carry them.  What a constructor checks
is a field of the record, so a payload that it would refuse is `malformed`.  Readers
compare the record with its id, which is a digest of the content (`WorkIds`, of which
nothing is assumed), and the event's envelope with the record.
-/
namespace Noema

inductive WorkNodeKind
  | analyze
  | prepare
  | execute
  | verify
  | release
deriving DecidableEq

inductive PresenceStatus
  | available
  | busy
  | offline
deriving DecidableEq

inductive CompetenceBasis
  | seeded
  | evidence
deriving DecidableEq

/-- `_unique_text`. -/
def UniqueText (values : List String) (required : Bool) : Prop :=
  (∀ value ∈ values, blank value = false) ∧ values.Nodup ∧ (required = true → values ≠ [])

instance (values : List String) (required : Bool) : Decidable (UniqueText values required) := by
  unfold UniqueText
  infer_instance

/-- `_bounded`. -/
def Bounded (value : ℚ) : Prop := 0 ≤ value ∧ value ≤ 1

/-- `_OPAQUE_ID.fullmatch`: a lower-case word of 2 to 24 characters, an underscore and
32 hexadecimal digits. -/
def isOpaqueId (value : String) : Bool :=
  let chars := value.toList
  match chars.take (chars.length - 33), chars.drop (chars.length - 33) with
  | first :: rest, separator :: digits =>
    first.isLower && 1 ≤ rest.length && rest.length ≤ 23 &&
    (rest.all fun c => c.isLower || c.isDigit || c = '_') && separator = '_' &&
    digits.length = 32 && digits.all fun c => c.isDigit || ('a' ≤ c && c ≤ 'f')
  | _, _ => false

/-- `ActionPrerequisite`. -/
structure ActionPrerequisite where
  sourceId : String
  minimumFreshness : ℚ
  minimumConfidence : ℚ
  sourceId_nonblank : blank sourceId = false
  freshness : Bounded minimumFreshness
  confidence : Bounded minimumConfidence

instance : DecidableEq ActionPrerequisite := fun a c =>
  decidable_of_iff (a.sourceId = c.sourceId ∧ a.minimumFreshness = c.minimumFreshness ∧
    a.minimumConfidence = c.minimumConfidence) <| by
  cases a
  cases c
  simp

/-- What a work order says, and what its id is made of. -/
structure OrderContent where
  purpose : String
  governingGoalRefs : List String
  createdFrom : List String
  priority : ℚ
  desiredOutcome : String
  successCriteria : List String
  deadline : Option Datetime
  opportunityWindowEnd : Option Datetime
  authorityCeiling : AuthorityLevel
  epistemicPrerequisites : List ActionPrerequisite
  createdAt : Datetime
deriving DecidableEq

/-- `WorkOrder`. -/
structure WorkOrder extends OrderContent where
  workOrderId : String
  nonblank : blank workOrderId = false ∧ blank purpose = false ∧ blank desiredOutcome = false
  goals : UniqueText governingGoalRefs true
  provenance : UniqueText createdFrom true
  criteria : UniqueText successCriteria true
  priority_bounded : Bounded priority
  times : ∀ time ∈ deadline.toList ++ opportunityWindowEnd.toList, createdAt.instant ≤ time.instant
  prerequisites : (epistemicPrerequisites.map (·.sourceId)).Nodup
deriving DecidableEq

/-- `WorkNode`. -/
structure WorkNode where
  nodeId : String
  kind : WorkNodeKind
  description : String
  requiredCapabilities : List String
  completionCriteria : List String
  epistemicPrerequisites : List ActionPrerequisite
  verificationOf : List String
  governedInformationRefs : List String
  nonblank : blank nodeId = false ∧ blank description = false
  capabilities : UniqueText requiredCapabilities true
  criteria : UniqueText completionCriteria true
  targets : UniqueText verificationOf false
  governed : UniqueText governedInformationRefs false
  governed_opaque : ∀ ref ∈ governedInformationRefs, isOpaqueId ref = true
  prerequisites : (epistemicPrerequisites.map (·.sourceId)).Nodup
  verify_iff : kind = .verify ↔ verificationOf ≠ []
  not_self : nodeId ∉ verificationOf
deriving DecidableEq

/-- `WorkDependency`. -/
structure WorkDependency where
  predecessorId : String
  successorId : String
  nonblank : blank predecessorId = false ∧ blank successorId = false
  distinct : predecessorId ≠ successorId
deriving DecidableEq

/-- What a plan proposal says, and what its id is made of. -/
structure ProposalContent where
  plannerId : String
  workOrderId : String
  basedOnEventCursor : Nat
  basedOnGraphVersion : Nat
  nodes : List WorkNode
  dependencies : List WorkDependency
  assumptions : List String
  doneConditions : List String
  replanEventTypes : List String
  proposedAt : Datetime
deriving DecidableEq

/-- `PlanProposal`. -/
structure PlanProposal extends ProposalContent where
  proposalId : String
  nonblank : blank proposalId = false ∧ blank plannerId = false ∧ blank workOrderId = false
  nodes_ne : nodes ≠ []
  assumptions_unique : UniqueText assumptions false
  done : UniqueText doneConditions true
  replan : UniqueText replanEventTypes true
deriving DecidableEq

/-- What a work graph says, and what its id is made of. -/
structure GraphContent where
  workOrderId : String
  proposalId : String
  version : Nat
  basedOnEventCursor : Nat
  nodes : List WorkNode
  dependencies : List WorkDependency
  doneConditions : List String
  replanEventTypes : List String
  validatorId : String
  acceptedAt : Datetime
deriving DecidableEq

/-- `WorkGraph`. -/
structure WorkGraph extends GraphContent where
  graphId : String
  nonblank : blank graphId = false ∧ blank workOrderId = false ∧ blank proposalId = false ∧
    blank validatorId = false
  version_pos : 0 < version
  nodes_ne : nodes ≠ []
  done : UniqueText doneConditions true
  replan : UniqueText replanEventTypes true
deriving DecidableEq

/-- `AgentPresence`. -/
structure AgentPresence where
  agentId : String
  status : PresenceStatus
  maxConcurrency : Nat
  observedAt : Datetime
  validUntil : Datetime
  agentId_nonblank : blank agentId = false
  maxConcurrency_pos : 0 < maxConcurrency
  validity : observedAt.instant < validUntil.instant

instance : DecidableEq AgentPresence := fun a c =>
  decidable_of_iff (a.agentId = c.agentId ∧ a.status = c.status ∧
    a.maxConcurrency = c.maxConcurrency ∧ a.observedAt = c.observedAt ∧
    a.validUntil = c.validUntil) <| by
  cases a
  cases c
  simp

/-- What a manifest's id is made of. -/
structure ManifestContent where
  agentId : String
  capabilities : List String
  recordedAt : Datetime
deriving DecidableEq

/-- `CapabilityManifest`. -/
structure CapabilityManifest extends ManifestContent where
  manifestId : String
  nonblank : blank manifestId = false ∧ blank agentId = false
  declared : UniqueText capabilities true
deriving DecidableEq

/-- What an estimate's id is made of. -/
structure EstimateContent where
  agentId : String
  capability : String
  score : ℚ
  evidenceConfidence : ℚ
  basis : CompetenceBasis
  evidenceRefs : List String
  estimatedAt : Datetime
deriving DecidableEq

/-- `CompetenceEstimate`. -/
structure CompetenceEstimate extends EstimateContent where
  estimateId : String
  nonblank : blank estimateId = false ∧ blank agentId = false ∧ blank capability = false
  score_bounded : Bounded score
  confidence_bounded : Bounded evidenceConfidence
  evidence : UniqueText evidenceRefs false
  basis_iff : basis = .evidence ↔ evidenceRefs ≠ []
deriving DecidableEq

/-- `WorkLease`, whose `lease_id` its constructor compares with `leaseId`. -/
structure WorkLease where
  graphId : String
  nodeId : String
  agentId : String
  fencingToken : Nat
  grantedAt : Datetime
  expiresAt : Datetime
  matchScore : ℚ
  competenceEstimateRefs : List String
  informationAccessDecisionRefs : List String
  informationDisclosureDecisionRefs : List String
  nonblank : blank graphId = false ∧ blank nodeId = false ∧ blank agentId = false
  fencingToken_pos : 0 < fencingToken
  term : grantedAt.instant < expiresAt.instant
  matchScore_bounded : Bounded matchScore
  competence : UniqueText competenceEstimateRefs true
  access : UniqueText informationAccessDecisionRefs false ∧
    ∀ ref ∈ informationAccessDecisionRefs, isOpaqueId ref = true
  disclosure : UniqueText informationDisclosureDecisionRefs false ∧
    ∀ ref ∈ informationDisclosureDecisionRefs, isOpaqueId ref = true

instance : DecidableEq WorkLease := fun a c =>
  decidable_of_iff (a.graphId = c.graphId ∧ a.nodeId = c.nodeId ∧ a.agentId = c.agentId ∧
    a.fencingToken = c.fencingToken ∧ a.grantedAt = c.grantedAt ∧ a.expiresAt = c.expiresAt ∧
    a.matchScore = c.matchScore ∧ a.competenceEstimateRefs = c.competenceEstimateRefs ∧
    a.informationAccessDecisionRefs = c.informationAccessDecisionRefs ∧
    a.informationDisclosureDecisionRefs = c.informationDisclosureDecisionRefs) <| by
  cases a
  cases c
  simp

/-- `_canonical_id` on each kind of content: the digests, without their prefixes. -/
structure WorkIds where
  order : OrderContent → String
  proposal : ProposalContent → String
  graph : GraphContent → String
  presence : AgentPresence → String
  manifest : ManifestContent → String
  estimate : EstimateContent → String

/-! ## Events -/

inductive WorkEventType
  | orderRecorded
  | planProposed
  | graphAccepted
  | agentPresenceRecorded
  | capabilityManifestRecorded
  | competenceEstimateRecorded
  | leaseGranted
  | leaseExpired
  | nodeCompleted
  | planInvalidated
  | informationAccessDecided
  | disclosureDecided
  /-- A type that is none of these. -/
  | other (type : String)
deriving DecidableEq

/-- The text of an event type. -/
def WorkEventType.text : WorkEventType → String
  | .orderRecorded => "work.order_recorded"
  | .planProposed => "work.plan_proposed"
  | .graphAccepted => "work.graph_accepted"
  | .agentPresenceRecorded => "work.agent_presence_recorded"
  | .capabilityManifestRecorded => "work.capability_manifest_recorded"
  | .competenceEstimateRecorded => "work.competence_estimate_recorded"
  | .leaseGranted => "work.lease_granted"
  | .leaseExpired => "work.lease_expired"
  | .nodeCompleted => "work.node_completed"
  | .planInvalidated => "work.plan_invalidated"
  | .informationAccessDecided => "information.access_decided"
  | .disclosureDecided => "information.disclosure_decided"
  | .other type => type

/-- What the work projection reads of an access or disclosure decision. -/
structure InformationDecision where
  decisionId : String
  informationId : String
  allowed : Bool
  /-- `context.operation is InformationOperation.WORK_ASSIGN`. -/
  workAssign : Bool
  principalId : String
  recipient : Option String
  sourceTrustDomain : String
  destinationTrustDomain : Option String
  decidedAt : Datetime
  causalEventCursor : Nat
deriving DecidableEq

/-- What a completion says about its lease and its outcome. -/
structure CompletionPayload where
  leaseId : String
  graphId : String
  nodeId : String
  agentId : String
  fencingToken : Nat
  acceptedAt : Datetime
  reportedFinishedAt : Option Datetime
  artifactRefs : List String
  verificationPassed : Option Bool
deriving DecidableEq

structure InvalidationPayload where
  graphId : String
  workOrderId : String
  triggerEventId : String
  triggerEventType : String
  triggerEventSequence : Nat
  invalidatedAt : Datetime
  reason : String
deriving DecidableEq

inductive WorkPayload
  | order (order : WorkOrder)
  | proposal (proposal : PlanProposal)
  | graph (graph : WorkGraph)
  | presence (presence : AgentPresence)
  | manifest (manifest : CapabilityManifest)
  | estimate (estimate : CompetenceEstimate)
  | lease (lease : WorkLease)
  | expiration (lease : WorkLease) (expiredAt : Datetime) (reason : String)
  | completion (completion : CompletionPayload)
  | invalidation (invalidation : InvalidationPayload)
  | decision (decision : InformationDecision)
  | malformed (error : PyError)
  | unread (text : String)
deriving DecidableEq

/-- An event, as work coordination reads it; `timestamp` is its instant. -/
structure WorkEvent where
  id : String
  type : WorkEventType
  source : String
  subject : Option String
  timestamp : Int
  causationId : Option String := none
  payload : WorkPayload
  sequence : Option Nat := none
deriving DecidableEq

/-- What a reader raises on a payload of another shape: its first key is missing. -/
def WorkPayload.unreadable (key : String) : WorkPayload → PyError
  | .malformed error => error
  | _ => .keyError key

/-- A check that raises if it fails. -/
def require (condition : Prop) [Decidable condition] (message : String) : Except PyError Unit :=
  if condition then .ok () else .error (.valueError message)

/-- `_unique_text`, as a step. -/
def uniqueText (values : List String) (name : String) (required : Bool) : Except PyError Unit := do
  require (required = true → values ≠ []) s!"{name} must not be empty"
  require (∀ value ∈ values, blank value = false) s!"{name} values must be non-empty"
  require values.Nodup s!"{name} values must be unique"
  return ()

/-- A check in front of other steps. -/
theorem require_bind_ok {α : Type} {condition : Prop} [Decidable condition] {message : String}
    {next : Unit → Except PyError α} {a : α} :
    (require condition message >>= next) = .ok a ↔ condition ∧ next () = .ok a := by
  unfold require
  split
  · rename_i h
    exact ⟨fun hok => ⟨h, hok⟩, And.right⟩
  · rename_i h
    exact ⟨fun hok => (nomatch hok), fun hok => absurd hok.1 h⟩

theorem uniqueText_ok {values : List String} {name : String} {required : Bool} {u : Unit} :
    uniqueText values name required = .ok u ↔ UniqueText values required := by
  unfold uniqueText
  rw [require_bind_ok, require_bind_ok, require_bind_ok]
  exact ⟨fun ⟨hne, hblank, hdistinct, _⟩ => ⟨hblank, hdistinct, hne⟩,
    fun ⟨hblank, hdistinct, hne⟩ => ⟨hne, hblank, hdistinct, rfl⟩⟩

/-- Steps over a list return what each returns. -/
theorem mapM_ok {α β : Type} {f : α → Except PyError β} {items : List α} {results : List β} :
    items.mapM f = .ok results ↔ List.Forall₂ (fun item result => f item = .ok result) items results := by
  induction items generalizing results with
  | nil =>
    rw [List.mapM_nil]
    constructor
    · intro h
      cases h
      exact .nil
    · intro h
      cases h
      rfl
  | cons item items ih =>
    rw [List.mapM_cons, bind_ok_iff]
    constructor
    · rintro ⟨result, hitem, h⟩
      obtain ⟨rest, hrest, h⟩ := bind_ok_iff.mp h
      cases h
      exact .cons hitem (ih.mp hrest)
    · intro h
      cases h with
      | @cons _ result _ rest hitem hrest =>
        exact ⟨result, hitem, bind_ok_iff.mpr ⟨rest, ih.mpr hrest, rfl⟩⟩

theorem mapM_mem {α β : Type} {f : α → Except PyError β} {items : List α} {results : List β}
    (h : items.mapM f = .ok results) {item : α} (hmem : item ∈ items) :
    ∃ result ∈ results, f item = .ok result := by
  have hresults := mapM_ok.mp h
  clear h
  induction hresults with
  | nil => cases hmem
  | cons hresult _ ih =>
    rcases List.mem_cons.mp hmem with rfl | hmem
    · exact ⟨_, List.mem_cons_self, hresult⟩
    · obtain ⟨result, hmem, hresult⟩ := ih hmem
      exact ⟨result, List.mem_cons_of_mem _ hmem, hresult⟩

/-- Every result is one of an item. -/
theorem item_of_mapM {α β : Type} {f : α → Except PyError β} {items : List α} {results : List β}
    (h : items.mapM f = .ok results) {result : β} (hmem : result ∈ results) :
    ∃ item ∈ items, f item = .ok result := by
  have hresults := mapM_ok.mp h
  clear h
  induction hresults with
  | nil => cases hmem
  | cons hresult _ ih =>
    rcases List.mem_cons.mp hmem with rfl | hmem
    · exact ⟨_, List.mem_cons_self, hresult⟩
    · obtain ⟨item, hitem, hresult⟩ := ih hmem
      exact ⟨item, List.mem_cons_of_mem _ hitem, hresult⟩

/-- Steps over a list return if each returns. -/
theorem exists_mapM {α β : Type} {f : α → Except PyError β} {items : List α}
    (h : ∀ item ∈ items, ∃ result, f item = .ok result) :
    ∃ results, items.mapM f = .ok results := by
  induction items with
  | nil => exact ⟨[], rfl⟩
  | cons item items ih =>
    obtain ⟨result, hresult⟩ := h item List.mem_cons_self
    obtain ⟨results, hresults⟩ := ih fun other hother => h other (List.mem_cons_of_mem _ hother)
    exact ⟨result :: results, mapM_ok.mpr (.cons hresult (mapM_ok.mp hresults))⟩

/-- The id and the envelope of a record's event, and its cause if one is required. -/
def checkEnvelope (name eventId subject : String) (timestamp : Datetime) (event : WorkEvent) :
    Except PyError Unit := do
  require (event.id = eventId) s!"{name} event id is inconsistent"
  require (event.subject = some subject ∧ event.timestamp = timestamp.instant)
    s!"{name} event envelope is inconsistent"
  return ()

variable (ids : WorkIds)

/-! ### Work orders -/

namespace WorkOrder

def canonicalId (content : OrderContent) : String := "work-order:" ++ ids.order content

def eventId (workOrderId : String) : String := "work-order-recorded:" ++ workOrderId

def toEvent (order : WorkOrder) (source : String) : WorkEvent :=
  { id := eventId order.workOrderId
    type := .orderRecorded
    source
    subject := some order.workOrderId
    timestamp := order.createdAt.instant
    payload := .order order }

/-- `from_event`. -/
def fromEvent (event : WorkEvent) : Except PyError WorkOrder :=
  match event.payload with
  | .order order => do
    require (order.workOrderId = canonicalId ids order.toOrderContent)
      "work order id does not match immutable content"
    checkEnvelope "work order" (eventId order.workOrderId) order.workOrderId order.createdAt event
    return order
  | payload => .error (payload.unreadable "work_order_id")

end WorkOrder

/-! ### Plan proposals -/

namespace PlanProposal

def sortNodes (nodes : List WorkNode) : List WorkNode :=
  nodes.insertionSort fun a b => a.nodeId ≤ b.nodeId

def dependencyKey (dependency : WorkDependency) : String ×ₗ String :=
  toLex (dependency.predecessorId, dependency.successorId)

def sortDependencies (dependencies : List WorkDependency) : List WorkDependency :=
  dependencies.insertionSort fun a b => dependencyKey a ≤ dependencyKey b

/-- The content as `create` orders it. -/
def ordered (content : ProposalContent) : ProposalContent :=
  { content with
    nodes := sortNodes content.nodes, dependencies := sortDependencies content.dependencies }

def canonicalId (content : ProposalContent) : String :=
  "plan-proposal:" ++ ids.proposal (ordered content)

def eventId (proposalId : String) : String := "plan-proposed:" ++ proposalId

def toEvent (proposal : PlanProposal) (source causationId : String) : WorkEvent :=
  { id := eventId proposal.proposalId
    type := .planProposed
    source
    subject := some proposal.workOrderId
    timestamp := proposal.proposedAt.instant
    causationId := some causationId
    payload := .proposal proposal }

/-- `from_event`. -/
def fromEvent (event : WorkEvent) : Except PyError PlanProposal :=
  match event.payload with
  | .proposal proposal => do
    require (proposal.toProposalContent = ordered proposal.toProposalContent ∧
        proposal.proposalId = canonicalId ids proposal.toProposalContent)
      "plan proposal id does not match immutable content"
    checkEnvelope "plan proposal" (eventId proposal.proposalId) proposal.workOrderId
      proposal.proposedAt event
    require event.causationId.isSome "plan proposal requires work-order causation"
    return proposal
  | payload => .error (payload.unreadable "proposal_id")

end PlanProposal

/-! ### Work graphs -/

namespace WorkGraph

def canonicalId (content : GraphContent) : String := "work-graph:" ++ ids.graph content

def eventId (graphId : String) : String := "work-graph-accepted:" ++ graphId

def toEvent (graph : WorkGraph) (source causationId : String) : WorkEvent :=
  { id := eventId graph.graphId
    type := .graphAccepted
    source
    subject := some graph.workOrderId
    timestamp := graph.acceptedAt.instant
    causationId := some causationId
    payload := .graph graph }

/-- `from_event`. -/
def fromEvent (event : WorkEvent) : Except PyError WorkGraph :=
  match event.payload with
  | .graph graph => do
    require (graph.graphId = canonicalId ids graph.toGraphContent)
      "work graph id does not match immutable content"
    checkEnvelope "work graph" (eventId graph.graphId) graph.workOrderId graph.acceptedAt event
    require event.causationId.isSome "work graph requires plan-proposal causation"
    return graph
  | payload => .error (payload.unreadable "graph_id")

/-- `node`. -/
def node (graph : WorkGraph) (nodeId : String) : Except PyError WorkNode :=
  match graph.nodes.find? fun node => node.nodeId = nodeId with
  | some node => .ok node
  | none => .error (.keyError s!"unknown work node: {nodeId}")

/-- `predecessors`. -/
def predecessors (graph : WorkGraph) (nodeId : String) : List String :=
  (graph.dependencies.filter fun dependency => dependency.successorId = nodeId).map
    (·.predecessorId)

end WorkGraph

/-! ### Agents -/

namespace AgentPresence

/-- `is_valid_at`. -/
def isValidAt (presence : AgentPresence) (time : Datetime) : Bool :=
  presence.observedAt.instant ≤ time.instant && time.instant < presence.validUntil.instant

def canonicalId (presence : AgentPresence) : String := "agent-presence:" ++ ids.presence presence

def toEvent (presence : AgentPresence) (source : String) : WorkEvent :=
  { id := canonicalId ids presence
    type := .agentPresenceRecorded
    source
    subject := some presence.agentId
    timestamp := presence.observedAt.instant
    payload := .presence presence }

/-- `from_event`. -/
def fromEvent (event : WorkEvent) : Except PyError AgentPresence :=
  match event.payload with
  | .presence presence => do
    checkEnvelope "agent presence" (canonicalId ids presence) presence.agentId
      presence.observedAt event
    return presence
  | payload => .error (payload.unreadable "agent_id")

end AgentPresence

namespace CapabilityManifest

/-- The content as `create` orders it. -/
def ordered (content : ManifestContent) : ManifestContent :=
  { content with capabilities := content.capabilities.insertionSort (· ≤ ·) }

def canonicalId (content : ManifestContent) : String :=
  "capability-manifest:" ++ ids.manifest (ordered content)

def eventId (manifestId : String) : String := "capability-manifest-recorded:" ++ manifestId

def toEvent (manifest : CapabilityManifest) (source : String) : WorkEvent :=
  { id := eventId manifest.manifestId
    type := .capabilityManifestRecorded
    source
    subject := some manifest.agentId
    timestamp := manifest.recordedAt.instant
    payload := .manifest manifest }

/-- `from_event`. -/
def fromEvent (event : WorkEvent) : Except PyError CapabilityManifest :=
  match event.payload with
  | .manifest manifest => do
    require (manifest.toManifestContent = ordered manifest.toManifestContent ∧
        manifest.manifestId = canonicalId ids manifest.toManifestContent)
      "capability manifest id does not match immutable content"
    checkEnvelope "capability manifest" (eventId manifest.manifestId) manifest.agentId
      manifest.recordedAt event
    return manifest
  | payload => .error (payload.unreadable "manifest_id")

end CapabilityManifest

namespace CompetenceEstimate

def canonicalId (content : EstimateContent) : String :=
  "competence-estimate:" ++ ids.estimate content

def eventId (estimateId : String) : String := "competence-estimate-recorded:" ++ estimateId

def toEvent (estimate : CompetenceEstimate) (source : String) : WorkEvent :=
  { id := eventId estimate.estimateId
    type := .competenceEstimateRecorded
    source
    subject := some estimate.agentId
    timestamp := estimate.estimatedAt.instant
    payload := .estimate estimate }

/-- `from_event`. -/
def fromEvent (event : WorkEvent) : Except PyError CompetenceEstimate :=
  match event.payload with
  | .estimate estimate => do
    require (estimate.estimateId = canonicalId ids estimate.toEstimateContent)
      "competence estimate id does not match immutable content"
    checkEnvelope "competence estimate" (eventId estimate.estimateId) estimate.agentId
      estimate.estimatedAt event
    return estimate
  | payload => .error (payload.unreadable "estimate_id")

end CompetenceEstimate

/-! ### Leases -/

namespace WorkLease

/-- The fencing identity. -/
def identity (lease : WorkLease) : String :=
  lease.graphId ++ ":" ++ lease.nodeId ++ ":" ++ toString lease.fencingToken

def leaseId (lease : WorkLease) : String := "work-lease:" ++ lease.identity

def grantId (lease : WorkLease) : String := "work-lease-granted:" ++ lease.identity

def terminalId (lease : WorkLease) : String := "work-lease-terminal:" ++ lease.leaseId

def toEvent (lease : WorkLease) (source causationId : String) : WorkEvent :=
  { id := lease.grantId
    type := .leaseGranted
    source
    subject := some lease.nodeId
    timestamp := lease.grantedAt.instant
    causationId := some causationId
    payload := .lease lease }

/-- `from_event`. -/
def fromEvent (event : WorkEvent) : Except PyError WorkLease :=
  match event.payload with
  | .lease lease => do
    checkEnvelope "work lease" lease.grantId lease.nodeId lease.grantedAt event
    require event.causationId.isSome "work lease requires graph causation"
    return lease
  | payload => .error (payload.unreadable "lease_id")

/-- The fields of `stated.to_dict()` that `lease.to_dict()` has are equal; a lease
without information decisions has no field for them. -/
def SameFields (stated lease : WorkLease) : Prop :=
  stated.graphId = lease.graphId ∧ stated.nodeId = lease.nodeId ∧
  stated.agentId = lease.agentId ∧ stated.fencingToken = lease.fencingToken ∧
  stated.grantedAt = lease.grantedAt ∧ stated.expiresAt = lease.expiresAt ∧
  stated.matchScore = lease.matchScore ∧
  stated.competenceEstimateRefs = lease.competenceEstimateRefs ∧
  (lease.informationAccessDecisionRefs = [] ∨
    stated.informationAccessDecisionRefs = lease.informationAccessDecisionRefs) ∧
  (lease.informationDisclosureDecisionRefs = [] ∨
    stated.informationDisclosureDecisionRefs = lease.informationDisclosureDecisionRefs)

instance (stated lease : WorkLease) : Decidable (stated.SameFields lease) := by
  unfold SameFields
  infer_instance

theorem sameFields_self (lease : WorkLease) : lease.SameFields lease :=
  ⟨rfl, rfl, rfl, rfl, rfl, rfl, rfl, rfl, Or.inr rfl, Or.inr rfl⟩

/-- `expiration_event`. -/
def expirationEvent (lease : WorkLease) (source : String) (expiredAt : Datetime) (reason : String) :
    Except PyError WorkEvent := do
  require (blank reason = false) "work lease expiration reason must be non-empty"
  require (lease.expiresAt.instant ≤ expiredAt.instant)
    "a work lease cannot expire before its deadline"
  return {
    id := lease.terminalId
    type := .leaseExpired
    source
    subject := some lease.nodeId
    timestamp := expiredAt.instant
    causationId := some lease.grantId
    payload := .expiration lease expiredAt reason }

/-- `completion_event`. -/
def completionEvent (lease : WorkLease) (source : String) (acceptedAt : Datetime)
    (artifactRefs : List String) (reportedFinishedAt : Option Datetime)
    (verificationPassed : Option Bool) : Except PyError WorkEvent := do
  require (lease.grantedAt.instant ≤ acceptedAt.instant ∧
      acceptedAt.instant < lease.expiresAt.instant)
    "work completion must be accepted during its active lease"
  uniqueText artifactRefs "work completion artifact refs" true
  return {
    id := lease.terminalId
    type := .nodeCompleted
    source
    subject := some lease.nodeId
    timestamp := acceptedAt.instant
    causationId := some lease.grantId
    payload := .completion
      { leaseId := lease.leaseId, graphId := lease.graphId, nodeId := lease.nodeId
        agentId := lease.agentId, fencingToken := lease.fencingToken, acceptedAt
        reportedFinishedAt, artifactRefs, verificationPassed } }

end WorkLease

/-- `plan_invalidation_event`. -/
def planInvalidationEvent (graph : WorkGraph) (trigger : WorkEvent) (source : String)
    (invalidatedAt : Datetime) (reason : String) : Except PyError WorkEvent :=
  match trigger.sequence with
  | none => .error (.valueError "plan invalidation requires a canonical trigger")
  | some sequence => do
    require (graph.basedOnEventCursor < sequence)
      "plan invalidation trigger must follow the plan causal cut"
    require (trigger.type.text ∈ graph.replanEventTypes)
      "event type is not a declared replan condition"
    require (trigger.timestamp ≤ invalidatedAt.instant)
      "plan invalidation cannot precede its causal trigger"
    require (blank reason = false) "plan invalidation reason must be non-empty"
    return {
      id := "work-plan-invalidated:" ++ graph.graphId ++ ":" ++ trigger.id
      type := .planInvalidated
      source
      subject := some graph.workOrderId
      timestamp := invalidatedAt.instant
      causationId := some trigger.id
      payload := .invalidation
        { graphId := graph.graphId, workOrderId := graph.workOrderId, triggerEventId := trigger.id
          triggerEventType := trigger.type.text, triggerEventSequence := sequence, invalidatedAt
          reason } }

/-! ### Information decisions -/

namespace InformationDecision

/-- `InformationAccessDecision.from_event`; `from_dict` has compared the id with the
content already. -/
def accessFromEvent (event : WorkEvent) : Except PyError InformationDecision :=
  match event.type, event.payload with
  | .informationAccessDecided, .decision decision => do
    require (event.id = "information-access-decided:" ++ decision.decisionId ∧
        event.subject = some decision.decisionId ∧ isOpaqueId decision.decisionId ∧
        event.timestamp = decision.decidedAt.instant)
      "information-governance event envelope is inconsistent"
    return decision
  | .informationAccessDecided, payload => .error (payload.unreadable "request")
  | _, _ => .error (.valueError "event is not an information access decision")

/-- `DisclosureDecision.from_event`. -/
def disclosureFromEvent (event : WorkEvent) : Except PyError InformationDecision :=
  match event.type, event.payload with
  | .disclosureDecided, .decision decision => do
    require (event.id = "information-disclosure-decided:" ++ decision.decisionId ∧
        event.subject = some decision.decisionId ∧ isOpaqueId decision.decisionId ∧
        event.timestamp = decision.decidedAt.instant)
      "information-governance event envelope is inconsistent"
    return decision
  | .disclosureDecided, payload => .error (payload.unreadable "request")
  | _, _ => .error (.valueError "event is not a disclosure decision")

end InformationDecision

end Noema
