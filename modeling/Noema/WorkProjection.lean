import Noema.WorkPlanning

/-!
# The work projection

`WorkProjection` folds canonical events into orders, proposals, graphs, presence,
manifests, estimates, leases and their outcomes, completions and invalidations.  `apply`
takes the events in the order of their sequences and checks what each kind must meet in
the state it finds; an event of another type is only kept.
-/
namespace Noema

/-- Products of floats are rounded; of the rounding this much is used. -/
structure FloatProduct where
  mul : ℚ → ℚ → ℚ
  mul_bounded : ∀ {a b}, Bounded a → Bounded b → Bounded (mul a b)
  /-- `math.isclose`. -/
  isclose : ℚ → ℚ → Bool
  isclose_self : ∀ a, isclose a a = true

inductive LeaseOutcome
  | active
  | expired
  | completed
deriving DecidableEq

/-- `NodeCompletion`. -/
structure NodeCompletion where
  graphId : String
  nodeId : String
  agentId : String
  leaseId : String
  fencingToken : Nat
  acceptedAt : Datetime
  reportedFinishedAt : Option Datetime
  artifactRefs : List String
  verificationPassed : Option Bool
deriving DecidableEq

/-- `PlanInvalidation`. -/
structure PlanInvalidation where
  graphId : String
  triggerEventId : String
  triggerEventSequence : Nat
  invalidatedAt : Datetime
  reason : String
deriving DecidableEq

/-- A node of a graph. -/
abbrev NodeRef := String × String

def CompetenceEstimate.key (estimate : CompetenceEstimate) : String × String :=
  (estimate.agentId, estimate.capability)

def NodeCompletion.key (completion : NodeCompletion) : NodeRef :=
  (completion.graphId, completion.nodeId)

def WorkLease.key (lease : WorkLease) : NodeRef := (lease.graphId, lease.nodeId)

/-- The key of an entry of `_highest_fencing_token`. -/
def tokenKey (entry : NodeRef × Nat) : NodeRef := entry.1

/-- `WorkProjection`; the dictionaries keep their insertion order. -/
structure WorkProjection where
  events : KeyedTable WorkEvent.id
  lastSequence : Nat
  orders : KeyedTable WorkOrder.workOrderId
  proposals : KeyedTable PlanProposal.proposalId
  graphs : KeyedTable WorkGraph.graphId
  latestGraphByOrder : Dict String
  invalidations : KeyedTable PlanInvalidation.graphId
  presence : KeyedTable AgentPresence.agentId
  manifests : KeyedTable (fun manifest : CapabilityManifest => manifest.agentId)
  competence : KeyedTable CompetenceEstimate.key
  leases : KeyedTable WorkLease.leaseId
  leaseOutcomes : Dict LeaseOutcome
  completions : KeyedTable NodeCompletion.key
  highestFencingToken : KeyedTable tokenKey

namespace WorkProjection

def empty : WorkProjection :=
  ⟨.empty, 0, .empty, .empty, .empty, .empty, .empty, .empty, .empty, .empty, .empty, .empty,
    .empty, .empty⟩

variable (p : WorkProjection)

/-! ## Queries -/

/-- `latest_graph`. -/
def latestGraph (workOrderId : String) : Option WorkGraph :=
  (p.latestGraphByOrder.get? workOrderId).bind p.graphs.find

/-- The version of the latest graph, zero if there is none. -/
def latestVersion (workOrderId : String) : Nat := ((p.latestGraph workOrderId).map (·.version)).getD 0

/-- `graph_is_active`. -/
def graphIsActive (graphId : String) : Bool :=
  match p.graphs.find graphId with
  | none => false
  | some graph => (p.invalidations.find graphId).isNone &&
      p.latestGraphByOrder.get? graph.workOrderId = some graphId

def leaseOrder (lease : WorkLease) : String ×ₗ String ×ₗ Nat :=
  toLex (lease.graphId, toLex (lease.nodeId, lease.fencingToken))

/-- The lease's outcome is `active`. -/
def isActive (lease : WorkLease) : Bool := p.leaseOutcomes.get? lease.leaseId = some .active

/-- `active_leases`. -/
def activeLeases : List WorkLease :=
  (p.leases.rows.insertionSort fun a b => leaseOrder a ≤ leaseOrder b).filter p.isActive

/-- `active_lease_for_node`. -/
def activeLeaseForNode (graphId nodeId : String) : Option WorkLease :=
  p.activeLeases.find? fun lease => lease.graphId = graphId ∧ lease.nodeId = nodeId

/-- `active_lease`. -/
def activeLease (leaseId : String) : Option WorkLease := (p.leases.find leaseId).filter p.isActive

/-- `completed`. -/
def completed (graphId nodeId : String) : Bool := (p.completions.find (graphId, nodeId)).isSome

/-- `worker_for_node`. -/
def workerForNode (graphId nodeId : String) : Option String :=
  (p.completions.find (graphId, nodeId)).map (·.agentId)

/-- `next_fencing_token`. -/
def nextFencingToken (graphId nodeId : String) : Nat :=
  ((p.highestFencingToken.find (graphId, nodeId)).map Prod.snd).getD 0 + 1

/-- `active_lease_count`. -/
def activeLeaseCount (agentId : String) : Nat :=
  p.activeLeases.countP fun lease => lease.agentId = agentId

/-- The capabilities of some manifests, as a sorted set. -/
def capabilityTypes (manifests : List CapabilityManifest) : List String :=
  sortedSet (manifests.flatMap (·.capabilities))

/-- `available_capability_types()`. -/
def currentCapabilityTypes : List String := capabilityTypes p.manifests.rows

/-- `available_capability_types(through_sequence=…)`. -/
def availableCapabilityTypes (ids : WorkIds) (throughSequence : Nat) :
    Except PyError (List String) := do
  let recorded := p.events.rows.filter fun event =>
    event.type = .capabilityManifestRecorded ∧ event.sequence.getD 0 ≤ throughSequence
  let manifests ← recorded.mapM (CapabilityManifest.fromEvent ids)
  let byAgent : KeyedTable (fun manifest : CapabilityManifest => manifest.agentId) :=
    .ofList manifests
  return capabilityTypes byAgent.rows

/-- `events_after`. -/
def eventsAfter (sequence : Nat) (throughSequence : Option Nat) : List WorkEvent :=
  p.events.rows.filter fun event => sequence < event.sequence.getD 0 ∧
    throughSequence.all fun through => event.sequence.getD 0 ≤ through

/-! ## Orders, plans and agents -/

variable (ids : WorkIds) (floats : FloatProduct)

/-- `WORK_ORDER_RECORDED_EVENT`. -/
def applyOrder (event : WorkEvent) : Except PyError WorkProjection := do
  let order ← WorkOrder.fromEvent ids event
  require ((p.orders.find order.workOrderId).all (· = order))
    s!"work order changed: {order.workOrderId}"
  return { p with orders := p.orders.put order }

/-- `PLAN_PROPOSED_EVENT`. -/
def applyProposal (event : WorkEvent) : Except PyError WorkProjection := do
  let proposal ← PlanProposal.fromEvent ids event
  require (p.orders.find proposal.workOrderId).isSome
    "plan proposal references an unknown work order"
  require (event.causationId = some (WorkOrder.eventId proposal.workOrderId))
    "plan proposal causation is inconsistent"
  require ((p.proposals.find proposal.proposalId).all (· = proposal))
    s!"plan proposal changed: {proposal.proposalId}"
  return { p with proposals := p.proposals.put proposal }

/-- The arguments of `validate` for a graph event at `sequence`. -/
def graphAdmission (proposal : PlanProposal) (workOrderId : String) (available : List String)
    (sequence : Nat) (acceptedAt : Datetime) : PlanAdmission where
  causalEventCursor := proposal.basedOnEventCursor
  acceptanceEventCursor := p.lastSequence
  currentGraphVersion := p.latestVersion workOrderId
  availableCapabilityTypes := available
  interveningEvents := p.eventsAfter proposal.basedOnEventCursor (some (sequence - 1))
  acceptedAt

/-- `WORK_GRAPH_ACCEPTED_EVENT`. -/
def applyGraph (event : WorkEvent) (sequence : Nat) : Except PyError WorkProjection := do
  let graph ← WorkGraph.fromEvent ids event
  match p.proposals.find graph.proposalId, p.orders.find graph.workOrderId with
  | some proposal, some order => do
    require (event.causationId = some (PlanProposal.eventId graph.proposalId))
      "work graph causation is inconsistent"
    let available ← p.availableCapabilityTypes ids proposal.basedOnEventCursor
    let validator : PlanValidator := ⟨graph.validatorId, graph.nonblank.2.2.2⟩
    let expected ← validator.validate ids proposal order
      (p.graphAdmission proposal graph.workOrderId available sequence graph.acceptedAt)
    require (graph = expected) "accepted work graph differs from deterministic validation"
    return { p with
      graphs := p.graphs.put graph
      latestGraphByOrder := p.latestGraphByOrder.put (graph.workOrderId, graph.graphId) }
  | _, _ => .error (.valueError "work graph references unknown planning state")

/-- `AGENT_PRESENCE_RECORDED_EVENT`. -/
def applyPresence (event : WorkEvent) : Except PyError WorkProjection := do
  let presence ← AgentPresence.fromEvent ids event
  require ((p.presence.find presence.agentId).all fun current =>
      current.observedAt.instant ≤ presence.observedAt.instant)
    s!"agent presence regressed: {presence.agentId}"
  return { p with presence := p.presence.put presence }

/-- `CAPABILITY_MANIFEST_RECORDED_EVENT`. -/
def applyManifest (event : WorkEvent) : Except PyError WorkProjection := do
  let manifest ← CapabilityManifest.fromEvent ids event
  require ((p.manifests.find manifest.agentId).all fun current =>
      current.recordedAt.instant ≤ manifest.recordedAt.instant)
    s!"capability manifest regressed: {manifest.agentId}"
  return { p with manifests := p.manifests.put manifest }

/-- `COMPETENCE_ESTIMATE_RECORDED_EVENT`. -/
def applyEstimate (event : WorkEvent) : Except PyError WorkProjection := do
  let estimate ← CompetenceEstimate.fromEvent ids event
  require (estimate.basis = .seeded) "evidence-based competence is non-operational in v0.5"
  require ((p.competence.find estimate.key).all fun current =>
      current.estimatedAt.instant ≤ estimate.estimatedAt.instant)
    s!"competence estimate regressed: ('{estimate.agentId}', '{estimate.capability}')"
  return { p with competence := p.competence.put estimate }

/-! ## Leases -/

/-- `_has_exact_predecessor_head`. -/
def hasExactPredecessorHead (event : WorkEvent) (causalCursor : Nat) : Bool :=
  match event.sequence with
  | none => false
  | some sequence => causalCursor < sequence &&
      ((p.events.rows.map fun stored => stored.sequence.getD 0).filter (· < sequence)).max?.getD 0 =
        causalCursor

/-- One round of the loops over decision references. -/
def readDecision (stem : String) (read : WorkEvent → Except PyError InformationDecision)
    (missing inexact : String) (decisionId : String) :
    Except PyError (WorkEvent × InformationDecision) :=
  match p.events.find (stem ++ decisionId) with
  | none => .error (.valueError missing)
  | some event => do
    let decision ← read event
    require (p.hasExactPredecessorHead event decision.causalEventCursor) inexact
    return (event, decision)

def readAccess : String → Except PyError (WorkEvent × InformationDecision) :=
  p.readDecision "information-access-decided:" InformationDecision.accessFromEvent
    "work lease cites a non-canonical access decision"
    "work lease access decision lacks exact-head admission"

def readDisclosure : String → Except PyError (WorkEvent × InformationDecision) :=
  p.readDecision "information-disclosure-decided:" InformationDecision.disclosureFromEvent
    "work lease cites a non-canonical disclosure decision"
    "work lease disclosure decision lacks exact-head admission"

/-- The decision lets the agent of the lease use the information at its grant. -/
def applicable (lease : WorkLease) (decision : InformationDecision) : Bool :=
  decision.allowed && decision.workAssign && decision.principalId = lease.agentId &&
    decision.recipient = some lease.agentId &&
    decision.decidedAt.instant = lease.grantedAt.instant

/-- The decision is about another trust domain. -/
def crossing (decision : InformationDecision) : Bool :=
  decision.destinationTrustDomain ≠ some decision.sourceTrustDomain

/-- Two lists have the same set. -/
def SameSet (a b : List String) : Prop := a ⊆ b ∧ b ⊆ a

instance (a b : List String) : Decidable (SameSet a b) := by
  unfold SameSet
  infer_instance

/-- An event after `cut` that is not an information decision. -/
def staleAfter (cut : Nat) : Bool :=
  p.events.rows.any fun event => cut < event.sequence.getD 0 ∧
    event.type ≠ .informationAccessDecided ∧ event.type ≠ .disclosureDecided

/-- `_validate_information_access`. -/
def validateInformationAccess (lease : WorkLease) (node : WorkNode) : Except PyError Unit :=
  if node.governedInformationRefs = [] then
    require (lease.informationAccessDecisionRefs = [] ∧
        lease.informationDisclosureDecisionRefs = [])
      "ungoverned work cannot cite information decisions"
  else do
    require (lease.informationAccessDecisionRefs.length = node.governedInformationRefs.length)
      "work lease lacks complete information access evidence"
    let access ← lease.informationAccessDecisionRefs.mapM p.readAccess
    require (SameSet (access.map (·.2.informationId)) node.governedInformationRefs)
      "work lease access evidence covers different information"
    require (∀ entry ∈ access, applicable lease entry.2)
      "work lease information access evidence is inapplicable"
    let crossingIds := ((access.filter fun entry => crossing entry.2).map (·.2.informationId)).dedup
    require (lease.informationDisclosureDecisionRefs.length = crossingIds.length)
      "work lease lacks required cross-domain disclosure evidence"
    let disclosure ← lease.informationDisclosureDecisionRefs.mapM p.readDisclosure
    require (SameSet (disclosure.map (·.2.informationId)) crossingIds)
      "work lease disclosure evidence covers different information"
    require (∀ entry ∈ disclosure, applicable lease entry.2 ∧ crossing entry.2)
      "work lease disclosure evidence is inapplicable"
    let cut := ((access ++ disclosure).map fun entry => entry.1.sequence.getD 0).min?.getD 0
    require (p.staleAfter cut = false)
      "work lease access evidence is stale across an intervening canonical event"

/-- The current estimates of an agent for some capabilities, if there is one for each. -/
def estimates (agentId : String) (capabilities : List String) : Option (List CompetenceEstimate) :=
  capabilities.mapM fun capability => p.competence.find (agentId, capability)

/-- `min(value.score * value.evidence_confidence for value in typed_estimates)`. -/
def matchScore (estimates : List CompetenceEstimate) : ℚ :=
  (estimates.map fun value => floats.mul value.score value.evidenceConfidence).min?.getD 0

/-- `excluded_workers`. -/
def excludedWorkers (graphId : String) (node : WorkNode) : List String :=
  node.verificationOf.filterMap fun targetId => p.workerForNode graphId targetId

/-- The checks of a lease on its agent. -/
def validateAgent (lease : WorkLease) (node : WorkNode) : Except PyError Unit := do
  match p.presence.find lease.agentId with
  | none => .error (.valueError "work lease requires an available agent")
  | some presence => do
    require (presence.status = .available ∧ presence.isValidAt lease.grantedAt)
      "work lease requires an available agent"
    require (p.activeLeaseCount lease.agentId < presence.maxConcurrency)
      "work lease exceeds agent concurrency capacity"
    require ((p.manifests.find lease.agentId).any fun manifest =>
        node.requiredCapabilities.all fun capability => capability ∈ manifest.capabilities)
      "work lease agent lacks a declared capability"
    match p.estimates lease.agentId node.requiredCapabilities with
    | none => .error (.valueError "work lease requires competence estimates for every capability")
    | some estimates => do
      require (∀ value ∈ estimates, value.basis = .seeded)
        "v0.5 work leases require seeded competence estimates"
      require (lease.competenceEstimateRefs = estimates.map (·.estimateId))
        "work lease competence evidence is not the current estimate set"
      require (floats.isclose lease.matchScore (matchScore floats estimates))
        "work lease match score is inconsistent with competence evidence"
      require (lease.agentId ∉ p.excludedWorkers lease.graphId node)
        "verification work must use a worker independent of its target"
      p.validateInformationAccess lease node

/-- `_validate_lease_grant`. -/
def validateLeaseGrant (lease : WorkLease) : Except PyError Unit := do
  match p.graphs.find lease.graphId with
  | none => .error (.valueError "work lease requires an active work graph")
  | some graph => do
    require (p.graphIsActive lease.graphId) "work lease requires an active work graph"
    let node ← graph.node lease.nodeId
    require (p.completed graph.graphId node.nodeId = false)
      "completed work cannot receive another lease"
    require (p.activeLeaseForNode graph.graphId node.nodeId).isNone
      "work node already has an active lease"
    require (∀ predecessorId ∈ graph.predecessors node.nodeId,
        p.completed graph.graphId predecessorId)
      "work node dependencies are not complete"
    require (lease.fencingToken = p.nextFencingToken graph.graphId node.nodeId)
      "work lease fencing token is not the next token"
    p.validateAgent floats lease node

/-- `WORK_LEASE_GRANTED_EVENT`. -/
def applyLease (event : WorkEvent) : Except PyError WorkProjection := do
  let lease ← WorkLease.fromEvent event
  require (event.causationId = some (WorkGraph.eventId lease.graphId))
    "work lease causation is inconsistent"
  p.validateLeaseGrant floats lease
  return { p with
    leases := p.leases.put lease
    leaseOutcomes := p.leaseOutcomes.put (lease.leaseId, .active)
    highestFencingToken := p.highestFencingToken.put (lease.key, lease.fencingToken) }

/-- `_apply_lease_expiration`. -/
def applyLeaseExpiration (event : WorkEvent) : Except PyError WorkProjection :=
  match event.payload with
  | .expiration stated expiredAt reason =>
    match p.activeLease stated.leaseId with
    | none => .error (.valueError "lease expiration references a non-active lease")
    | some lease => do
      require (stated.SameFields lease)
        "lease expiration payload differs from the granted lease"
      require (event.timestamp = expiredAt.instant ∧ lease.expiresAt.instant ≤ expiredAt.instant)
        "lease expiration time is inconsistent"
      require (event.id = lease.terminalId) "lease expiration event id is inconsistent"
      require (event.subject = some lease.nodeId) "lease expiration event subject is inconsistent"
      require (event.causationId = some lease.grantId)
        "lease expiration event causation is inconsistent"
      require (blank reason = false) "lease expiration requires a reason"
      return { p with leaseOutcomes := p.leaseOutcomes.put (lease.leaseId, .expired) }
  | payload => .error (payload.unreadable "lease_id")

/-- The checks of a completion on its verification result. -/
def checkVerification (node : WorkNode) (verificationPassed : Option Bool) :
    Except PyError Unit := do
  require (node.kind = .verify → verificationPassed = some true)
    "verification work completes only with an explicit passing result"
  require (node.kind ≠ .verify → verificationPassed = none)
    "non-verification work cannot claim a verification result"
  return ()

/-- `_apply_completion`. -/
def applyCompletion (event : WorkEvent) : Except PyError WorkProjection :=
  match event.payload with
  | .completion payload =>
    match p.activeLease payload.leaseId with
    | none => .error (.valueError "work completion requires an active lease")
    | some lease => do
      require (p.graphIsActive lease.graphId)
        "work completion cannot advance an invalidated graph"
      require (event.id = lease.terminalId) "work completion event id is inconsistent"
      require (event.subject = some lease.nodeId) "work completion event subject is inconsistent"
      require (event.causationId = some lease.grantId)
        "work completion event causation is inconsistent"
      require (payload.graphId = lease.graphId ∧ payload.nodeId = lease.nodeId ∧
          payload.agentId = lease.agentId ∧ payload.fencingToken = lease.fencingToken)
        "work completion does not match its fenced lease"
      require (event.timestamp = payload.acceptedAt.instant ∧
          lease.grantedAt.instant ≤ payload.acceptedAt.instant ∧
          payload.acceptedAt.instant < lease.expiresAt.instant)
        "work completion acceptance time is outside the active lease"
      require (UniqueText payload.artifactRefs true)
        "work completion requires unique non-empty artifact refs"
      match p.graphs.find lease.graphId with
      | none => .error (.other "'NoneType' object has no attribute 'node'")
      | some graph => do
        let node ← graph.node lease.nodeId
        checkVerification node payload.verificationPassed
        let completion : NodeCompletion :=
          { graphId := lease.graphId, nodeId := lease.nodeId, agentId := lease.agentId
            leaseId := lease.leaseId, fencingToken := lease.fencingToken
            acceptedAt := payload.acceptedAt, reportedFinishedAt := payload.reportedFinishedAt
            artifactRefs := payload.artifactRefs
            verificationPassed := payload.verificationPassed }
        return { p with
          completions := p.completions.put completion
          leaseOutcomes := p.leaseOutcomes.put (lease.leaseId, .completed) }
  | payload => .error (payload.unreadable "lease_id")

/-- `_apply_invalidation`. -/
def applyInvalidation (event : WorkEvent) : Except PyError WorkProjection :=
  match event.payload with
  | .invalidation payload =>
    match p.graphs.find payload.graphId with
    | none => .error (.valueError "plan invalidation requires an active graph")
    | some graph => do
      require (p.graphIsActive payload.graphId) "plan invalidation requires an active graph"
      match p.events.find payload.triggerEventId with
      | none =>
        .error (.valueError "plan invalidation references an unknown canonical trigger")
      | some trigger => do
        require trigger.sequence.isSome
          "plan invalidation references an unknown canonical trigger"
        require (trigger.sequence = some payload.triggerEventSequence ∧
            trigger.type.text = payload.triggerEventType)
          "plan invalidation trigger identity is inconsistent"
        require (graph.basedOnEventCursor < payload.triggerEventSequence)
          "plan invalidation trigger does not follow the plan causal cut"
        require (trigger.type.text ∈ graph.replanEventTypes)
          "plan invalidation trigger is not a replan condition"
        require (event.timestamp = payload.invalidatedAt.instant ∧
            trigger.timestamp ≤ payload.invalidatedAt.instant)
          "plan invalidation time is inconsistent"
        require (blank payload.reason = false) "plan invalidation requires a reason"
        require (event.id = "work-plan-invalidated:" ++ graph.graphId ++ ":" ++ trigger.id ∧
            event.causationId = some trigger.id)
          "plan invalidation event identity is inconsistent"
        let invalidation : PlanInvalidation :=
          { graphId := payload.graphId, triggerEventId := trigger.id
            triggerEventSequence := payload.triggerEventSequence
            invalidatedAt := payload.invalidatedAt, reason := payload.reason }
        return { p with invalidations := p.invalidations.put invalidation }
  | payload => .error (payload.unreadable "graph_id")

/-! ## Applying an event -/

/-- The branches of `apply`. -/
def applyRecord (event : WorkEvent) (sequence : Nat) : Except PyError WorkProjection :=
  match event.type with
  | .orderRecorded => p.applyOrder ids event
  | .planProposed => p.applyProposal ids event
  | .graphAccepted => p.applyGraph ids event sequence
  | .agentPresenceRecorded => p.applyPresence ids event
  | .capabilityManifestRecorded => p.applyManifest ids event
  | .competenceEstimateRecorded => p.applyEstimate ids event
  | .leaseGranted => p.applyLease floats event
  | .leaseExpired => p.applyLeaseExpiration event
  | .nodeCompleted => p.applyCompletion event
  | .planInvalidated => p.applyInvalidation event
  | .informationAccessDecided | .disclosureDecided | .other _ => .ok p

/-- The event is kept, and the cursor moves to it. -/
def keep (event : WorkEvent) (sequence : Nat) : WorkProjection :=
  { p with events := p.events.put event, lastSequence := sequence }

/-- `apply`. -/
def apply (event : WorkEvent) : Except PyError WorkProjection :=
  match p.events.find event.id with
  | some existing =>
    if existing ≠ event then
      .error (.valueError s!"conflicting canonical work event identity: {event.id}")
    else .ok p
  | none =>
    match event.sequence with
    | none => .error (.valueError "work projection requires canonical sequenced events")
    | some sequence => do
      require (p.lastSequence < sequence)
        "work projection events must be applied in canonical sequence order"
      let p ← p.applyRecord ids floats event sequence
      return p.keep event sequence

/-- The loop of `rebuild`, from any state. -/
def applyAll (p : WorkProjection) : List WorkEvent → Except PyError WorkProjection
  | [] => .ok p
  | event :: events => do
    let p ← p.apply ids floats event
    applyAll p events

/-- `rebuild`. -/
def rebuild (events : List WorkEvent) : Except PyError WorkProjection :=
  empty.applyAll ids floats events

end WorkProjection
end Noema
