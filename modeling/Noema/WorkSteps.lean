import Noema.WorkProjection

/-!
# What an accepted work event did

`Recorded` says, for each kind of event, what the projection checked and what it
changed.  An event is accepted exactly if `Recorded` holds (`applyRecord_ok`), so later
proofs go by its cases and never through `apply`.
-/
namespace Noema
namespace WorkProjection

variable {ids : WorkIds} {floats : FloatProduct} {p p' : WorkProjection}

/-- The agent of a lease may have it. -/
structure AgentFit (floats : FloatProduct) (p : WorkProjection) (lease : WorkLease)
    (node : WorkNode) (presence : AgentPresence) (estimates : List CompetenceEstimate) : Prop where
  findPresence : p.presence.find lease.agentId = some presence
  available : presence.status = .available ∧ presence.isValidAt lease.grantedAt = true
  capacity : p.activeLeaseCount lease.agentId < presence.maxConcurrency
  manifest : (p.manifests.find lease.agentId).any (fun manifest =>
    node.requiredCapabilities.all fun capability => capability ∈ manifest.capabilities) = true
  findEstimates : p.estimates lease.agentId node.requiredCapabilities = some estimates
  seeded : ∀ value ∈ estimates, value.basis = .seeded
  refs : lease.competenceEstimateRefs = estimates.map (·.estimateId)
  score : floats.isclose lease.matchScore (matchScore floats estimates) = true
  independent : lease.agentId ∉ p.excludedWorkers lease.graphId node
  information : p.validateInformationAccess lease node = .ok ()

/-- The node of a lease is ready. -/
structure NodeReady (p : WorkProjection) (lease : WorkLease) (graph : WorkGraph) (node : WorkNode) :
    Prop where
  findGraph : p.graphs.find lease.graphId = some graph
  active : p.graphIsActive lease.graphId = true
  findNode : graph.node lease.nodeId = .ok node
  incomplete : p.completed lease.graphId lease.nodeId = false
  free : p.activeLeaseForNode lease.graphId lease.nodeId = none
  predecessors : ∀ predecessorId ∈ graph.predecessors lease.nodeId,
    p.completed lease.graphId predecessorId = true
  token : lease.fencingToken = p.nextFencingToken lease.graphId lease.nodeId

/-- A completion of a lease is in order. -/
structure CompletionFits (p : WorkProjection) (event : WorkEvent) (payload : CompletionPayload)
    (lease : WorkLease) (graph : WorkGraph) (node : WorkNode) : Prop where
  findLease : p.activeLease payload.leaseId = some lease
  active : p.graphIsActive lease.graphId = true
  eventId : event.id = lease.terminalId
  subject : event.subject = some lease.nodeId
  cause : event.causationId = some lease.grantId
  fields : payload.graphId = lease.graphId ∧ payload.nodeId = lease.nodeId ∧
    payload.agentId = lease.agentId ∧ payload.fencingToken = lease.fencingToken
  time : event.timestamp = payload.acceptedAt.instant ∧
    lease.grantedAt.instant ≤ payload.acceptedAt.instant ∧
    payload.acceptedAt.instant < lease.expiresAt.instant
  artifacts : UniqueText payload.artifactRefs true
  findGraph : p.graphs.find lease.graphId = some graph
  findNode : graph.node lease.nodeId = .ok node
  verified : node.kind = .verify → payload.verificationPassed = some true
  unverified : node.kind ≠ .verify → payload.verificationPassed = none

/-- The completion that is kept. -/
def completionOf (payload : CompletionPayload) (lease : WorkLease) : NodeCompletion where
  graphId := lease.graphId
  nodeId := lease.nodeId
  agentId := lease.agentId
  leaseId := lease.leaseId
  fencingToken := lease.fencingToken
  acceptedAt := payload.acceptedAt
  reportedFinishedAt := payload.reportedFinishedAt
  artifactRefs := payload.artifactRefs
  verificationPassed := payload.verificationPassed

/-- An expiration of a lease is in order. -/
structure ExpirationFits (p : WorkProjection) (event : WorkEvent) (stated : WorkLease)
    (expiredAt : Datetime) (reason : String) (lease : WorkLease) : Prop where
  findLease : p.activeLease stated.leaseId = some lease
  fields : stated.SameFields lease
  time : event.timestamp = expiredAt.instant ∧ lease.expiresAt.instant ≤ expiredAt.instant
  eventId : event.id = lease.terminalId
  subject : event.subject = some lease.nodeId
  cause : event.causationId = some lease.grantId
  reason_nonblank : blank reason = false

/-- An invalidation of a graph is in order. -/
structure InvalidationFits (p : WorkProjection) (event : WorkEvent) (payload : InvalidationPayload)
    (graph : WorkGraph) (trigger : WorkEvent) : Prop where
  findGraph : p.graphs.find payload.graphId = some graph
  active : p.graphIsActive payload.graphId = true
  findTrigger : p.events.find payload.triggerEventId = some trigger
  sequence : trigger.sequence = some payload.triggerEventSequence
  type : trigger.type.text = payload.triggerEventType
  after : graph.basedOnEventCursor < payload.triggerEventSequence
  replan : trigger.type.text ∈ graph.replanEventTypes
  time : event.timestamp = payload.invalidatedAt.instant ∧
    trigger.timestamp ≤ payload.invalidatedAt.instant
  reason_nonblank : blank payload.reason = false
  identity : event.id = "work-plan-invalidated:" ++ graph.graphId ++ ":" ++ trigger.id ∧
    event.causationId = some trigger.id

/-- The invalidation that is kept. -/
def invalidationOf (payload : InvalidationPayload) (trigger : WorkEvent) : PlanInvalidation where
  graphId := payload.graphId
  triggerEventId := trigger.id
  triggerEventSequence := payload.triggerEventSequence
  invalidatedAt := payload.invalidatedAt
  reason := payload.reason

/-- A graph is what its proposal becomes now. -/
structure GraphFits (ids : WorkIds) (p : WorkProjection) (event : WorkEvent) (sequence : Nat)
    (graph : WorkGraph) (proposal : PlanProposal) (order : WorkOrder) (available : List String) :
    Prop where
  read : WorkGraph.fromEvent ids event = .ok graph
  findProposal : p.proposals.find graph.proposalId = some proposal
  findOrder : p.orders.find graph.workOrderId = some order
  cause : event.causationId = some (PlanProposal.eventId graph.proposalId)
  capabilities : p.availableCapabilityTypes ids proposal.basedOnEventCursor = .ok available
  valid : PlanValidator.validate ids ⟨graph.validatorId, graph.nonblank.2.2.2⟩ proposal order
    (p.graphAdmission proposal graph.workOrderId available sequence graph.acceptedAt) = .ok graph

/-- What `apply` does to the records on an event of a sequence. -/
inductive Recorded (ids : WorkIds) (floats : FloatProduct) (p : WorkProjection) (event : WorkEvent)
    (sequence : Nat) : WorkProjection → Prop
  | order {order} (htype : event.type = .orderRecorded)
      (hread : WorkOrder.fromEvent ids event = .ok order)
      (hsame : (p.orders.find order.workOrderId).all (· = order) = true) :
      Recorded ids floats p event sequence { p with orders := p.orders.put order }
  | proposal {proposal} (htype : event.type = .planProposed)
      (hread : PlanProposal.fromEvent ids event = .ok proposal)
      (horder : (p.orders.find proposal.workOrderId).isSome = true)
      (hcause : event.causationId = some (WorkOrder.eventId proposal.workOrderId))
      (hsame : (p.proposals.find proposal.proposalId).all (· = proposal) = true) :
      Recorded ids floats p event sequence { p with proposals := p.proposals.put proposal }
  | graph {graph proposal order available} (htype : event.type = .graphAccepted)
      (hfits : GraphFits ids p event sequence graph proposal order available) :
      Recorded ids floats p event sequence { p with
        graphs := p.graphs.put graph
        latestGraphByOrder := p.latestGraphByOrder.put (graph.workOrderId, graph.graphId) }
  | presence {presence} (htype : event.type = .agentPresenceRecorded)
      (hread : AgentPresence.fromEvent ids event = .ok presence)
      (hlater : (p.presence.find presence.agentId).all (fun current =>
        current.observedAt.instant ≤ presence.observedAt.instant) = true) :
      Recorded ids floats p event sequence { p with presence := p.presence.put presence }
  | manifest {manifest} (htype : event.type = .capabilityManifestRecorded)
      (hread : CapabilityManifest.fromEvent ids event = .ok manifest)
      (hlater : (p.manifests.find manifest.agentId).all (fun current =>
        current.recordedAt.instant ≤ manifest.recordedAt.instant) = true) :
      Recorded ids floats p event sequence { p with manifests := p.manifests.put manifest }
  | estimate {estimate} (htype : event.type = .competenceEstimateRecorded)
      (hread : CompetenceEstimate.fromEvent ids event = .ok estimate)
      (hseeded : estimate.basis = .seeded)
      (hlater : (p.competence.find estimate.key).all (fun current =>
        current.estimatedAt.instant ≤ estimate.estimatedAt.instant) = true) :
      Recorded ids floats p event sequence { p with competence := p.competence.put estimate }
  | lease {lease graph node presence estimates} (htype : event.type = .leaseGranted)
      (hread : WorkLease.fromEvent event = .ok lease)
      (hcause : event.causationId = some (WorkGraph.eventId lease.graphId))
      (hready : NodeReady p lease graph node)
      (hagent : AgentFit floats p lease node presence estimates) :
      Recorded ids floats p event sequence { p with
        leases := p.leases.put lease
        leaseOutcomes := p.leaseOutcomes.put (lease.leaseId, .active)
        highestFencingToken := p.highestFencingToken.put (lease.key, lease.fencingToken) }
  | expiration {stated expiredAt reason lease} (htype : event.type = .leaseExpired)
      (hpayload : event.payload = .expiration stated expiredAt reason)
      (hfits : ExpirationFits p event stated expiredAt reason lease) :
      Recorded ids floats p event sequence { p with
        leaseOutcomes := p.leaseOutcomes.put (lease.leaseId, .expired) }
  | completion {payload lease graph node} (htype : event.type = .nodeCompleted)
      (hpayload : event.payload = .completion payload)
      (hfits : CompletionFits p event payload lease graph node) :
      Recorded ids floats p event sequence { p with
        completions := p.completions.put (completionOf payload lease)
        leaseOutcomes := p.leaseOutcomes.put (lease.leaseId, .completed) }
  | invalidation {payload graph trigger} (htype : event.type = .planInvalidated)
      (hpayload : event.payload = .invalidation payload)
      (hfits : InvalidationFits p event payload graph trigger) :
      Recorded ids floats p event sequence { p with
        invalidations := p.invalidations.put (invalidationOf payload trigger) }
  | other (hevent : event.type = .informationAccessDecided ∨ event.type = .disclosureDecided ∨
      ∃ type, event.type = .other type) :
      Recorded ids floats p event sequence p

/-! ## The readers -/

theorem checkEnvelope_ok {name eventId subject : String} {timestamp : Datetime} {event : WorkEvent}
    {u : Unit} : checkEnvelope name eventId subject timestamp event = .ok u ↔
      event.id = eventId ∧ event.subject = some subject ∧ event.timestamp = timestamp.instant := by
  unfold checkEnvelope
  rw [require_bind_ok, require_bind_ok]
  exact ⟨fun ⟨hid, hsame, _⟩ => ⟨hid, hsame⟩, fun ⟨hid, hsame⟩ => ⟨hid, hsame, rfl⟩⟩

/-! ## The grant of a lease -/

theorem validateAgent_ok {lease : WorkLease} {node : WorkNode} {u : Unit} :
    p.validateAgent floats lease node = .ok u ↔
      ∃ presence estimates, AgentFit floats p lease node presence estimates := by
  unfold validateAgent
  constructor
  · intro h
    split at h
    · cases h
    · rename_i presence hpresence
      rw [require_bind_ok, require_bind_ok, require_bind_ok] at h
      obtain ⟨havailable, hcapacity, hmanifest, h⟩ := h
      split at h
      · cases h
      · rename_i estimates hestimates
        rw [require_bind_ok, require_bind_ok, require_bind_ok, require_bind_ok] at h
        obtain ⟨hseeded, hrefs, hscore, hindependent, hinfo⟩ := h
        exact ⟨presence, estimates, hpresence, havailable, hcapacity, hmanifest, hestimates,
          hseeded, hrefs, hscore, hindependent, hinfo⟩
  · rintro ⟨presence, estimates, h⟩
    rw [h.findPresence]
    dsimp only
    rw [require_bind_ok, require_bind_ok, require_bind_ok, h.findEstimates]
    dsimp only
    rw [require_bind_ok, require_bind_ok, require_bind_ok, require_bind_ok]
    exact ⟨h.available, h.capacity, h.manifest, h.seeded, h.refs, h.score, h.independent,
      h.information⟩

theorem node_id {graph : WorkGraph} {nodeId : String} {node : WorkNode}
    (h : graph.node nodeId = .ok node) : node.nodeId = nodeId ∧ node ∈ graph.nodes := by
  unfold WorkGraph.node at h
  split at h
  · rename_i found hfind
    cases h
    exact ⟨by simpa using List.find?_some hfind, List.mem_of_find?_eq_some hfind⟩
  · cases h

theorem validateLeaseGrant_ok {lease : WorkLease} {u : Unit} :
    p.validateLeaseGrant floats lease = .ok u ↔ ∃ graph node presence estimates,
      NodeReady p lease graph node ∧ AgentFit floats p lease node presence estimates := by
  unfold validateLeaseGrant
  constructor
  · intro h
    split at h
    · cases h
    · rename_i graph hgraph
      rw [require_bind_ok, bind_ok_iff] at h
      obtain ⟨hactive, node, hnode, h⟩ := h
      rw [require_bind_ok, require_bind_ok, require_bind_ok, require_bind_ok, validateAgent_ok,
        KeyedTable.find_key hgraph, (node_id hnode).1] at h
      obtain ⟨hopen, hfree, hpredecessors, htoken, presence, estimates, hagent⟩ := h
      exact ⟨graph, node, presence, estimates,
        ⟨hgraph, hactive, hnode, hopen, Option.isNone_iff_eq_none.mp hfree, hpredecessors, htoken⟩,
        hagent⟩
  · rintro ⟨graph, node, presence, estimates, hready, hagent⟩
    rw [hready.findGraph]
    dsimp only
    rw [require_bind_ok, bind_ok_iff]
    refine ⟨hready.active, node, hready.findNode, ?_⟩
    rw [require_bind_ok, require_bind_ok, require_bind_ok, require_bind_ok, validateAgent_ok,
      KeyedTable.find_key hready.findGraph, (node_id hready.findNode).1]
    exact ⟨hready.incomplete, Option.isNone_iff_eq_none.mpr hready.free, hready.predecessors,
      hready.token, presence, estimates, hagent⟩

theorem applyLease_ok {event : WorkEvent} : p.applyLease floats event = .ok p' ↔
    ∃ lease graph node presence estimates, WorkLease.fromEvent event = .ok lease ∧
      event.causationId = some (WorkGraph.eventId lease.graphId) ∧
      NodeReady p lease graph node ∧ AgentFit floats p lease node presence estimates ∧
      p' = { p with
        leases := p.leases.put lease
        leaseOutcomes := p.leaseOutcomes.put (lease.leaseId, .active)
        highestFencingToken := p.highestFencingToken.put (lease.key, lease.fencingToken) } := by
  unfold applyLease
  rw [bind_ok_iff]
  constructor
  · rintro ⟨lease, hread, h⟩
    rw [require_bind_ok, bind_ok_iff] at h
    obtain ⟨hcause, u, hgrant, h⟩ := h
    obtain ⟨graph, node, presence, estimates, hready, hagent⟩ := validateLeaseGrant_ok.mp hgrant
    cases h
    exact ⟨lease, graph, node, presence, estimates, hread, hcause, hready, hagent, rfl⟩
  · rintro ⟨lease, graph, node, presence, estimates, hread, hcause, hready, hagent, rfl⟩
    refine ⟨lease, hread, ?_⟩
    rw [require_bind_ok, bind_ok_iff]
    exact ⟨hcause, (), validateLeaseGrant_ok.mpr ⟨graph, node, presence, estimates, hready, hagent⟩,
      rfl⟩

/-! ## The end of a lease -/

theorem applyLeaseExpiration_ok {event : WorkEvent} : p.applyLeaseExpiration event = .ok p' ↔
    ∃ stated expiredAt reason lease, event.payload = .expiration stated expiredAt reason ∧
      ExpirationFits p event stated expiredAt reason lease ∧
      p' = { p with leaseOutcomes := p.leaseOutcomes.put (lease.leaseId, .expired) } := by
  unfold applyLeaseExpiration
  constructor
  · intro h
    split at h
    · rename_i stated expiredAt reason hpayload
      split at h
      · cases h
      · rename_i lease hlease
        simp only [require_bind_ok] at h
        obtain ⟨hfields, htime, hid, hsubject, hcause, hreason, h⟩ := h
        cases h
        exact ⟨stated, expiredAt, reason, lease, hpayload,
          ⟨hlease, hfields, htime, hid, hsubject, hcause, hreason⟩, rfl⟩
    · cases h
  · rintro ⟨stated, expiredAt, reason, lease, hpayload, hfits, rfl⟩
    rw [hpayload]
    dsimp only
    rw [hfits.findLease]
    simp only [require_bind_ok]
    exact ⟨hfits.fields, hfits.time, hfits.eventId, hfits.subject, hfits.cause,
      hfits.reason_nonblank, rfl⟩

theorem checkVerification_ok {node : WorkNode} {verificationPassed : Option Bool} {u : Unit} :
    checkVerification node verificationPassed = .ok u ↔
      (node.kind = .verify → verificationPassed = some true) ∧
      (node.kind ≠ .verify → verificationPassed = none) := by
  unfold checkVerification
  rw [require_bind_ok, require_bind_ok]
  exact ⟨fun ⟨hverified, hunverified, _⟩ => ⟨hverified, hunverified⟩,
    fun ⟨hverified, hunverified⟩ => ⟨hverified, hunverified, rfl⟩⟩

theorem applyCompletion_ok {event : WorkEvent} : p.applyCompletion event = .ok p' ↔
    ∃ payload lease graph node, event.payload = .completion payload ∧
      CompletionFits p event payload lease graph node ∧
      p' = { p with
        completions := p.completions.put (completionOf payload lease)
        leaseOutcomes := p.leaseOutcomes.put (lease.leaseId, .completed) } := by
  unfold applyCompletion
  constructor
  · intro h
    split at h
    · rename_i payload hpayload
      split at h
      · cases h
      · rename_i lease hlease
        simp only [require_bind_ok] at h
        obtain ⟨hactive, hid, hsubject, hcause, hfields, htime, hartifacts, h⟩ := h
        split at h
        · cases h
        · rename_i graph hgraph
          simp only [bind_ok_iff, checkVerification_ok] at h
          obtain ⟨node, hnode, -, ⟨hverified, hunverified⟩, h⟩ := h
          cases h
          exact ⟨payload, lease, graph, node, hpayload, ⟨hlease, hactive, hid, hsubject, hcause,
            hfields, htime, hartifacts, hgraph, hnode, hverified, hunverified⟩, rfl⟩
    · cases h
  · rintro ⟨payload, lease, graph, node, hpayload, hfits, rfl⟩
    rw [hpayload]
    dsimp only
    rw [hfits.findLease]
    dsimp only
    rw [hfits.findGraph]
    simp only [require_bind_ok]
    refine ⟨hfits.active, hfits.eventId, hfits.subject, hfits.cause, hfits.fields, hfits.time,
      hfits.artifacts, ?_⟩
    simp only [bind_ok_iff, checkVerification_ok]
    exact ⟨node, hfits.findNode, (), ⟨hfits.verified, hfits.unverified⟩, rfl⟩

theorem applyInvalidation_ok {event : WorkEvent} : p.applyInvalidation event = .ok p' ↔
    ∃ payload graph trigger, event.payload = .invalidation payload ∧
      InvalidationFits p event payload graph trigger ∧
      p' = { p with invalidations := p.invalidations.put (invalidationOf payload trigger) } := by
  unfold applyInvalidation
  constructor
  · intro h
    split at h
    · rename_i payload hpayload
      split at h
      · cases h
      · rename_i graph hgraph
        rw [require_bind_ok] at h
        obtain ⟨hactive, h⟩ := h
        split at h
        · cases h
        · rename_i trigger htrigger
          simp only [require_bind_ok] at h
          obtain ⟨-, ⟨hsequence, htype⟩, hafter, hreplan, htime, hreason, hidentity, h⟩ := h
          cases h
          exact ⟨payload, graph, trigger, hpayload, ⟨hgraph, hactive, htrigger, hsequence, htype,
            hafter, hreplan, htime, hreason, hidentity⟩, rfl⟩
    · cases h
  · rintro ⟨payload, graph, trigger, hpayload, hfits, rfl⟩
    rw [hpayload]
    dsimp only
    rw [hfits.findGraph, hfits.findTrigger]
    simp only [require_bind_ok]
    exact ⟨hfits.active, by rw [hfits.sequence]; rfl, ⟨hfits.sequence, hfits.type⟩, hfits.after,
      hfits.replan, hfits.time, hfits.reason_nonblank, hfits.identity, rfl⟩

/-! ## Orders, plans and agents -/

theorem applyOrder_ok {event : WorkEvent} : p.applyOrder ids event = .ok p' ↔
    ∃ order, WorkOrder.fromEvent ids event = .ok order ∧
      (p.orders.find order.workOrderId).all (· = order) = true ∧
      p' = { p with orders := p.orders.put order } := by
  unfold applyOrder
  rw [bind_ok_iff]
  simp only [require_bind_ok]
  constructor
  · rintro ⟨order, hread, hsame, h⟩
    cases h
    exact ⟨order, hread, hsame, rfl⟩
  · rintro ⟨order, hread, hsame, rfl⟩
    exact ⟨order, hread, hsame, rfl⟩

theorem applyProposal_ok {event : WorkEvent} : p.applyProposal ids event = .ok p' ↔
    ∃ proposal, PlanProposal.fromEvent ids event = .ok proposal ∧
      (p.orders.find proposal.workOrderId).isSome = true ∧
      event.causationId = some (WorkOrder.eventId proposal.workOrderId) ∧
      (p.proposals.find proposal.proposalId).all (· = proposal) = true ∧
      p' = { p with proposals := p.proposals.put proposal } := by
  unfold applyProposal
  rw [bind_ok_iff]
  simp only [require_bind_ok]
  constructor
  · rintro ⟨proposal, hread, horder, hcause, hsame, h⟩
    cases h
    exact ⟨proposal, hread, horder, hcause, hsame, rfl⟩
  · rintro ⟨proposal, hread, horder, hcause, hsame, rfl⟩
    exact ⟨proposal, hread, horder, hcause, hsame, rfl⟩

theorem applyGraph_ok {event : WorkEvent} {sequence : Nat} :
    p.applyGraph ids event sequence = .ok p' ↔ ∃ graph proposal order available,
      GraphFits ids p event sequence graph proposal order available ∧
      p' = { p with
        graphs := p.graphs.put graph
        latestGraphByOrder := p.latestGraphByOrder.put (graph.workOrderId, graph.graphId) } := by
  unfold applyGraph
  rw [bind_ok_iff]
  constructor
  · rintro ⟨graph, hread, h⟩
    split at h
    · rename_i proposal order hproposal horder
      rw [require_bind_ok, bind_ok_iff] at h
      obtain ⟨hcause, available, havailable, h⟩ := h
      rw [bind_ok_iff] at h
      obtain ⟨expected, hvalid, h⟩ := h
      rw [require_bind_ok] at h
      obtain ⟨hsame, h⟩ := h
      cases hsame
      cases h
      exact ⟨graph, proposal, order, available,
        ⟨hread, hproposal, horder, hcause, havailable, hvalid⟩, rfl⟩
    · cases h
  · rintro ⟨graph, proposal, order, available, hfits, rfl⟩
    refine ⟨graph, hfits.read, ?_⟩
    rw [hfits.findProposal, hfits.findOrder]
    dsimp only
    rw [require_bind_ok, bind_ok_iff]
    refine ⟨hfits.cause, available, hfits.capabilities, ?_⟩
    rw [bind_ok_iff]
    refine ⟨graph, hfits.valid, ?_⟩
    rw [require_bind_ok]
    exact ⟨rfl, rfl⟩

theorem applyPresence_ok {event : WorkEvent} : p.applyPresence ids event = .ok p' ↔
    ∃ presence, AgentPresence.fromEvent ids event = .ok presence ∧
      (p.presence.find presence.agentId).all (fun current =>
        current.observedAt.instant ≤ presence.observedAt.instant) = true ∧
      p' = { p with presence := p.presence.put presence } := by
  unfold applyPresence
  rw [bind_ok_iff]
  simp only [require_bind_ok]
  constructor
  · rintro ⟨presence, hread, hlater, h⟩
    cases h
    exact ⟨presence, hread, hlater, rfl⟩
  · rintro ⟨presence, hread, hlater, rfl⟩
    exact ⟨presence, hread, hlater, rfl⟩

theorem applyManifest_ok {event : WorkEvent} : p.applyManifest ids event = .ok p' ↔
    ∃ manifest, CapabilityManifest.fromEvent ids event = .ok manifest ∧
      (p.manifests.find manifest.agentId).all (fun current =>
        current.recordedAt.instant ≤ manifest.recordedAt.instant) = true ∧
      p' = { p with manifests := p.manifests.put manifest } := by
  unfold applyManifest
  rw [bind_ok_iff]
  simp only [require_bind_ok]
  constructor
  · rintro ⟨manifest, hread, hlater, h⟩
    cases h
    exact ⟨manifest, hread, hlater, rfl⟩
  · rintro ⟨manifest, hread, hlater, rfl⟩
    exact ⟨manifest, hread, hlater, rfl⟩

theorem applyEstimate_ok {event : WorkEvent} : p.applyEstimate ids event = .ok p' ↔
    ∃ estimate, CompetenceEstimate.fromEvent ids event = .ok estimate ∧ estimate.basis = .seeded ∧
      (p.competence.find estimate.key).all (fun current =>
        current.estimatedAt.instant ≤ estimate.estimatedAt.instant) = true ∧
      p' = { p with competence := p.competence.put estimate } := by
  unfold applyEstimate
  rw [bind_ok_iff]
  simp only [require_bind_ok]
  constructor
  · rintro ⟨estimate, hread, hseeded, hlater, h⟩
    cases h
    exact ⟨estimate, hread, hseeded, hlater, rfl⟩
  · rintro ⟨estimate, hread, hseeded, hlater, rfl⟩
    exact ⟨estimate, hread, hseeded, hlater, rfl⟩

/-! ## Every kind of event -/

/-- **A record is applied exactly if it is in order.** -/
theorem applyRecord_ok {event : WorkEvent} {sequence : Nat} :
    p.applyRecord ids floats event sequence = .ok p' ↔ Recorded ids floats p event sequence p' := by
  unfold applyRecord
  constructor
  · intro h
    split at h
    · rename_i htype
      obtain ⟨order, hread, hsame, rfl⟩ := applyOrder_ok.mp h
      exact .order htype hread hsame
    · rename_i htype
      obtain ⟨proposal, hread, horder, hcause, hsame, rfl⟩ := applyProposal_ok.mp h
      exact .proposal htype hread horder hcause hsame
    · rename_i htype
      obtain ⟨graph, proposal, order, available, hfits, rfl⟩ := applyGraph_ok.mp h
      exact .graph htype hfits
    · rename_i htype
      obtain ⟨presence, hread, hlater, rfl⟩ := applyPresence_ok.mp h
      exact .presence htype hread hlater
    · rename_i htype
      obtain ⟨manifest, hread, hlater, rfl⟩ := applyManifest_ok.mp h
      exact .manifest htype hread hlater
    · rename_i htype
      obtain ⟨estimate, hread, hseeded, hlater, rfl⟩ := applyEstimate_ok.mp h
      exact .estimate htype hread hseeded hlater
    · rename_i htype
      obtain ⟨lease, graph, node, presence, estimates, hread, hcause, hready, hagent, rfl⟩ :=
        applyLease_ok.mp h
      exact .lease htype hread hcause hready hagent
    · rename_i htype
      obtain ⟨stated, expiredAt, reason, lease, hpayload, hfits, rfl⟩ :=
        applyLeaseExpiration_ok.mp h
      exact .expiration htype hpayload hfits
    · rename_i htype
      obtain ⟨payload, lease, graph, node, hpayload, hfits, rfl⟩ := applyCompletion_ok.mp h
      exact .completion htype hpayload hfits
    · rename_i htype
      obtain ⟨payload, graph, trigger, hpayload, hfits, rfl⟩ := applyInvalidation_ok.mp h
      exact .invalidation htype hpayload hfits
    all_goals
      rename_i htype
      cases h
      exact .other (by simp [htype])
  · intro h
    cases h with
    | order htype hread hsame => rw [htype]; exact applyOrder_ok.mpr ⟨_, hread, hsame, rfl⟩
    | proposal htype hread horder hcause hsame =>
      rw [htype]
      exact applyProposal_ok.mpr ⟨_, hread, horder, hcause, hsame, rfl⟩
    | graph htype hfits => rw [htype]; exact applyGraph_ok.mpr ⟨_, _, _, _, hfits, rfl⟩
    | presence htype hread hlater =>
      rw [htype]
      exact applyPresence_ok.mpr ⟨_, hread, hlater, rfl⟩
    | manifest htype hread hlater =>
      rw [htype]
      exact applyManifest_ok.mpr ⟨_, hread, hlater, rfl⟩
    | estimate htype hread hseeded hlater =>
      rw [htype]
      exact applyEstimate_ok.mpr ⟨_, hread, hseeded, hlater, rfl⟩
    | lease htype hread hcause hready hagent =>
      rw [htype]
      exact applyLease_ok.mpr ⟨_, _, _, _, _, hread, hcause, hready, hagent, rfl⟩
    | expiration htype hpayload hfits =>
      rw [htype]
      exact applyLeaseExpiration_ok.mpr ⟨_, _, _, _, hpayload, hfits, rfl⟩
    | completion htype hpayload hfits =>
      rw [htype]
      exact applyCompletion_ok.mpr ⟨_, _, _, _, hpayload, hfits, rfl⟩
    | invalidation htype hpayload hfits =>
      rw [htype]
      exact applyInvalidation_ok.mpr ⟨_, _, _, hpayload, hfits, rfl⟩
    | other hevent =>
      rcases hevent with h | h | ⟨type, h⟩ <;> rw [h]

/-- **An event is accepted exactly if it is known, or is new, canonical and in order.** -/
theorem apply_ok {event : WorkEvent} : p.apply ids floats event = .ok p' ↔
    (p.events.find event.id = some event ∧ p' = p) ∨
    (p.events.find event.id = none ∧ ∃ sequence q, event.sequence = some sequence ∧
      p.lastSequence < sequence ∧ Recorded ids floats p event sequence q ∧
      p' = q.keep event sequence) := by
  unfold apply
  constructor
  · intro h
    split at h
    · rename_i existing hfind
      split at h
      · cases h
      · rename_i hsame
        cases h
        exact .inl ⟨hfind.trans (congrArg some (not_not.mp hsame)), rfl⟩
    · rename_i hfind
      split at h
      · cases h
      · rename_i sequence hsequence
        rw [require_bind_ok, bind_ok_iff] at h
        obtain ⟨hlater, q, hrecord, h⟩ := h
        cases h
        exact .inr ⟨hfind, sequence, q, hsequence, hlater, applyRecord_ok.mp hrecord, rfl⟩
  · rintro (⟨hfind, rfl⟩ | ⟨hfind, sequence, q, hsequence, hlater, hrecorded, rfl⟩)
    · rw [hfind]
      exact if_neg (not_not.mpr rfl)
    · rw [hfind, hsequence]
      dsimp only
      rw [require_bind_ok, bind_ok_iff]
      exact ⟨hlater, q, applyRecord_ok.mpr hrecorded, rfl⟩

end WorkProjection
end Noema
