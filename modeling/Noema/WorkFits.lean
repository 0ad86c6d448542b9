import Noema.WorkCommands

/-!
# What the projection asks of an event that is emitted

An event with a new id is appended, and the log is then accepted exactly if the event
fits (`accepted_emit`).  The event of a record is read back as the record if the record's
id is canonical, so it fits if in addition the projection has nothing against the record;
the events of leases and of their ends fit by what was checked of them.
-/
namespace Noema
open Programs WorkProjection

variable {ids : WorkIds} {floats : FloatProduct} {log : WorkLog} {p : WorkProjection}
  {event : WorkEvent} {source : String} {sequence : Nat}

/-! ## Reading events -/

theorem WorkOrder.fromEvent_ok {order : WorkOrder} : WorkOrder.fromEvent ids event = .ok order ↔
    event.payload = .order order ∧ order.workOrderId = canonicalId ids order.toOrderContent ∧
      event.id = eventId order.workOrderId ∧ event.subject = some order.workOrderId ∧
      event.timestamp = order.createdAt.instant := by
  unfold fromEvent
  split
  · rename_i stated hpayload
    rw [require_bind_ok, bind_ok_iff]
    simp only [checkEnvelope_ok]
    constructor
    · rintro ⟨hid, -, henvelope, h⟩
      cases h
      exact ⟨hpayload, hid, henvelope⟩
    · rintro ⟨hsame, hid, henvelope⟩
      cases hpayload.symm.trans hsame
      exact ⟨hid, (), henvelope, rfl⟩
  · rename_i payload hpayload
    refine ⟨fun h => (nomatch h), fun h => ?_⟩
    exact absurd h.1 (hpayload order)

theorem PlanProposal.fromEvent_ok {proposal : PlanProposal} :
    PlanProposal.fromEvent ids event = .ok proposal ↔
      event.payload = .proposal proposal ∧
      (proposal.toProposalContent = ordered proposal.toProposalContent ∧
        proposal.proposalId = canonicalId ids proposal.toProposalContent) ∧
      (event.id = eventId proposal.proposalId ∧ event.subject = some proposal.workOrderId ∧
        event.timestamp = proposal.proposedAt.instant) ∧ event.causationId.isSome = true := by
  unfold fromEvent
  split
  · rename_i stated hpayload
    rw [require_bind_ok, bind_ok_iff]
    simp only [checkEnvelope_ok, require_bind_ok]
    constructor
    · rintro ⟨hid, -, henvelope, hcause, h⟩
      cases h
      exact ⟨hpayload, hid, henvelope, hcause⟩
    · rintro ⟨hsame, hid, henvelope, hcause⟩
      cases hpayload.symm.trans hsame
      exact ⟨hid, (), henvelope, hcause, rfl⟩
  · rename_i payload hpayload
    constructor
    · intro h
      cases h
    · intro h
      exact absurd h.1 (hpayload proposal)

theorem AgentPresence.fromEvent_ok {presence : AgentPresence} :
    AgentPresence.fromEvent ids event = .ok presence ↔
      event.payload = .presence presence ∧ event.id = canonicalId ids presence ∧
      event.subject = some presence.agentId ∧ event.timestamp = presence.observedAt.instant := by
  unfold fromEvent
  split
  · rename_i stated hpayload
    rw [bind_ok_iff]
    simp only [checkEnvelope_ok]
    constructor
    · rintro ⟨-, henvelope, h⟩
      cases h
      exact ⟨hpayload, henvelope⟩
    · rintro ⟨hsame, henvelope⟩
      cases hpayload.symm.trans hsame
      exact ⟨(), henvelope, rfl⟩
  · rename_i payload hpayload
    refine ⟨fun h => (nomatch h), fun h => ?_⟩
    exact absurd h.1 (hpayload presence)

theorem CapabilityManifest.fromEvent_ok {manifest : CapabilityManifest} :
    CapabilityManifest.fromEvent ids event = .ok manifest ↔
      event.payload = .manifest manifest ∧
      (manifest.toManifestContent = ordered manifest.toManifestContent ∧
        manifest.manifestId = canonicalId ids manifest.toManifestContent) ∧
      event.id = eventId manifest.manifestId ∧ event.subject = some manifest.agentId ∧
      event.timestamp = manifest.recordedAt.instant := by
  unfold fromEvent
  split
  · rename_i stated hpayload
    rw [require_bind_ok, bind_ok_iff]
    simp only [checkEnvelope_ok]
    constructor
    · rintro ⟨hid, -, henvelope, h⟩
      cases h
      exact ⟨hpayload, hid, henvelope⟩
    · rintro ⟨hsame, hid, henvelope⟩
      cases hpayload.symm.trans hsame
      exact ⟨hid, (), henvelope, rfl⟩
  · rename_i payload hpayload
    refine ⟨fun h => (nomatch h), fun h => ?_⟩
    exact absurd h.1 (hpayload manifest)

theorem CompetenceEstimate.fromEvent_ok {estimate : CompetenceEstimate} :
    CompetenceEstimate.fromEvent ids event = .ok estimate ↔
      event.payload = .estimate estimate ∧
      estimate.estimateId = canonicalId ids estimate.toEstimateContent ∧
      event.id = eventId estimate.estimateId ∧ event.subject = some estimate.agentId ∧
      event.timestamp = estimate.estimatedAt.instant := by
  unfold fromEvent
  split
  · rename_i stated hpayload
    rw [require_bind_ok, bind_ok_iff]
    simp only [checkEnvelope_ok]
    constructor
    · rintro ⟨hid, -, henvelope, h⟩
      cases h
      exact ⟨hpayload, hid, henvelope⟩
    · rintro ⟨hsame, hid, henvelope⟩
      cases hpayload.symm.trans hsame
      exact ⟨hid, (), henvelope, rfl⟩
  · rename_i payload hpayload
    refine ⟨fun h => (nomatch h), fun h => ?_⟩
    exact absurd h.1 (hpayload estimate)

/-! ## The records that are there -/

/-- The orders and the proposals of a projection have their events. -/
structure Filed (p : WorkProjection) : Prop where
  orders : ∀ order ∈ p.orders.rows, (p.events.find (WorkOrder.eventId order.workOrderId)).isSome
  proposals : ∀ proposal ∈ p.proposals.rows,
    (p.events.find (PlanProposal.eventId proposal.proposalId)).isSome

/-- A step that leaves the orders and the proposals. -/
theorem Filed.frame {q : WorkProjection} (h : Filed p) (horders : q.orders = p.orders)
    (hproposals : q.proposals = p.proposals) (hevents : q.events = p.events)
    (event : WorkEvent) (sequence : Nat) : Filed (q.keep event sequence) := by
  have hkept : ∀ id, (p.events.find id).isSome = true →
      ((q.keep event sequence).events.find id).isSome = true := by
    intro id hid
    rw [← hevents] at hid
    exact find_keep_isSome event id hid
  refine ⟨fun order horder => hkept _ (h.orders order ?_),
    fun proposal hproposal => hkept _ (h.proposals proposal ?_)⟩
  · rw [← horders]
    exact horder
  · rw [← hproposals]
    exact hproposal

theorem rebuild_filed {history : List WorkEvent} (h : rebuild ids floats history = .ok p) :
    Filed p := by
  refine rebuild_induction (I := fun _ p => Filed p) ⟨fun _ h => (nomatch h), fun _ h => (nomatch h)⟩
    ?_ ?_ h
  · intro _ _ _ _ ih _
    exact ih
  · intro _ event q q' sequence _ ih _ _ _ hrecorded
    cases hrecorded with
    | graph | presence | manifest | estimate | lease | expiration | completion | invalidation
    | other => refine ih.frame ?_ ?_ ?_ event sequence <;> rfl
    | @order order _ hread =>
      obtain ⟨-, -, hid, -⟩ := WorkOrder.fromEvent_ok.mp hread
      refine ⟨fun other hother => ?_, fun proposal hproposal =>
        find_keep_isSome event _ (ih.proposals proposal hproposal)⟩
      rcases KeyedTable.mem_put.mp hother with rfl | ⟨hold, -⟩
      · show ((q.events.put event).find _).isSome = true
        rw [← hid, KeyedTable.find_put, if_pos rfl]
        rfl
      · exact find_keep_isSome event _ (ih.orders other hold)
    | @proposal proposal _ hread =>
      obtain ⟨-, -, ⟨hid, -⟩, -⟩ := PlanProposal.fromEvent_ok.mp hread
      refine ⟨fun order horder => find_keep_isSome event _ (ih.orders order horder),
        fun other hother => ?_⟩
      rcases KeyedTable.mem_put.mp hother with rfl | ⟨hold, -⟩
      · show ((q.events.put event).find _).isSome = true
        rw [← hid, KeyedTable.find_put, if_pos rfl]
        rfl
      · exact find_keep_isSome event _ (ih.proposals other hold)

/-- An event that is not in the log is not known. -/
theorem find_events_none (hp : rebuild ids floats log.rows = .ok p) {id : String}
    (hnew : log.stored? id = none) : p.events.find id = none := by
  cases hfind : p.events.find id with
  | none => rfl
  | some row =>
    have hrow := (mem_events hp row).mp (KeyedTable.mem_of_find hfind)
    exact absurd (KeyedTable.find_key hfind) (WorkLog.stored?_none hnew hrow)

theorem order_fresh (hp : rebuild ids floats log.rows = .ok p) {workOrderId : String}
    (hnew : log.stored? (WorkOrder.eventId workOrderId) = none) :
    p.orders.find workOrderId = none := by
  cases hfind : p.orders.find workOrderId with
  | none => rfl
  | some order =>
    have hevent := (rebuild_filed hp).orders order (KeyedTable.mem_of_find hfind)
    rw [KeyedTable.find_key hfind, find_events_none hp hnew] at hevent
    cases hevent

theorem proposal_fresh (hp : rebuild ids floats log.rows = .ok p) {proposalId : String}
    (hnew : log.stored? (PlanProposal.eventId proposalId) = none) :
    p.proposals.find proposalId = none := by
  cases hfind : p.proposals.find proposalId with
  | none => rfl
  | some proposal =>
    have hevent := (rebuild_filed hp).proposals proposal (KeyedTable.mem_of_find hfind)
    rw [KeyedTable.find_key hfind, find_events_none hp hnew] at hevent
    cases hevent

/-! ## Events that fit -/

/-- The event is recorded under the next sequence. -/
def EventFits (ids : WorkIds) (floats : FloatProduct) (p : WorkProjection) (event : WorkEvent)
    (sequence : Nat) : Prop :=
  ∃ r, Recorded ids floats p (event.withSequence sequence) sequence r

theorem eventFits_iff : EventFits ids floats p event sequence ↔
    ∃ r, p.applyRecord ids floats (event.withSequence sequence) sequence = .ok r :=
  exists_congr fun _ => applyRecord_ok.symm

/-- An order fits exactly if its id is canonical. -/
theorem orderEvent_fits {order : WorkOrder} (hfresh : p.orders.find order.workOrderId = none) :
    EventFits ids floats p (order.toEvent source) sequence ↔
      order.workOrderId = WorkOrder.canonicalId ids order.toOrderContent := by
  rw [eventFits_iff]
  show (∃ r, p.applyOrder ids ((order.toEvent source).withSequence sequence) = .ok r) ↔ _
  simp only [applyOrder_ok, WorkOrder.fromEvent_ok]
  constructor
  · rintro ⟨r, read, ⟨hpayload, hid, -⟩, -⟩
    cases hpayload
    exact hid
  · intro hid
    exact ⟨_, order, ⟨rfl, hid, rfl, rfl, rfl⟩, by rw [hfresh]; rfl, rfl⟩

/-- The id of a proposal is that of its content, in the order that `create` makes. -/
def PlanProposal.Canonical (ids : WorkIds) (proposal : PlanProposal) : Prop :=
  proposal.toProposalContent = ordered proposal.toProposalContent ∧
    proposal.proposalId = canonicalId ids proposal.toProposalContent

/-- A proposal fits an order exactly if its id is canonical and it is about the order. -/
theorem proposalEvent_fits {call : PlanCall} {order : WorkOrder} {proposal : PlanProposal}
    (horder : p.orders.find order.workOrderId = some order)
    (hfresh : p.proposals.find proposal.proposalId = none) :
    EventFits ids floats p (PlanStore.proposalEvent call order proposal) sequence ↔
      proposal.Canonical ids ∧ proposal.workOrderId = order.workOrderId := by
  rw [eventFits_iff]
  show (∃ r, p.applyProposal ids
    ((PlanStore.proposalEvent call order proposal).withSequence sequence) = .ok r) ↔ _
  simp only [applyProposal_ok, PlanProposal.fromEvent_ok]
  constructor
  · rintro ⟨r, read, ⟨hpayload, hcanonical, -⟩, -, hcause, -⟩
    cases hpayload
    exact ⟨hcanonical, (append_right_injective (Option.some.inj hcause)).symm⟩
  · rintro ⟨hcanonical, hsame⟩
    refine ⟨_, proposal, ⟨rfl, hcanonical, ⟨rfl, rfl, rfl⟩, rfl⟩, ?_, ?_, ?_, rfl⟩
    · rw [hsame, horder]
      rfl
    · rw [hsame]
      rfl
    · rw [hfresh]
      rfl

/-- A presence report fits exactly if it is no older than the agent's last one. -/
theorem presenceEvent_fits {presence : AgentPresence} :
    EventFits ids floats p (presence.toEvent ids source) sequence ↔
      (p.presence.find presence.agentId).all (fun current =>
        current.observedAt.instant ≤ presence.observedAt.instant) = true := by
  rw [eventFits_iff]
  show (∃ r, p.applyPresence ids ((presence.toEvent ids source).withSequence sequence) = .ok r) ↔ _
  simp only [applyPresence_ok, AgentPresence.fromEvent_ok]
  constructor
  · rintro ⟨r, read, ⟨hpayload, -⟩, hlater, -⟩
    cases hpayload
    exact hlater
  · intro hlater
    exact ⟨_, presence, ⟨rfl, rfl, rfl, rfl⟩, hlater, rfl⟩

def CapabilityManifest.Canonical (ids : WorkIds) (manifest : CapabilityManifest) : Prop :=
  manifest.toManifestContent = ordered manifest.toManifestContent ∧
    manifest.manifestId = canonicalId ids manifest.toManifestContent

theorem manifestEvent_fits {manifest : CapabilityManifest} :
    EventFits ids floats p (manifest.toEvent source) sequence ↔ manifest.Canonical ids ∧
      (p.manifests.find manifest.agentId).all (fun current =>
        current.recordedAt.instant ≤ manifest.recordedAt.instant) = true := by
  rw [eventFits_iff]
  show (∃ r, p.applyManifest ids ((manifest.toEvent source).withSequence sequence) = .ok r) ↔ _
  simp only [applyManifest_ok, CapabilityManifest.fromEvent_ok]
  constructor
  · rintro ⟨r, read, ⟨hpayload, hcanonical, -⟩, hlater, -⟩
    cases hpayload
    exact ⟨hcanonical, hlater⟩
  · rintro ⟨hcanonical, hlater⟩
    exact ⟨_, manifest, ⟨rfl, hcanonical, rfl, rfl, rfl⟩, hlater, rfl⟩

theorem estimateEvent_fits {estimate : CompetenceEstimate} :
    EventFits ids floats p (estimate.toEvent source) sequence ↔
      estimate.estimateId = CompetenceEstimate.canonicalId ids estimate.toEstimateContent ∧
      estimate.basis = .seeded ∧
      (p.competence.find estimate.key).all (fun current =>
        current.estimatedAt.instant ≤ estimate.estimatedAt.instant) = true := by
  rw [eventFits_iff]
  show (∃ r, p.applyEstimate ids ((estimate.toEvent source).withSequence sequence) = .ok r) ↔ _
  simp only [applyEstimate_ok, CompetenceEstimate.fromEvent_ok]
  constructor
  · rintro ⟨r, read, ⟨hpayload, hid, -⟩, hseeded, hlater, -⟩
    cases hpayload
    exact ⟨hid, hseeded, hlater⟩
  · rintro ⟨hid, hseeded, hlater⟩
    exact ⟨_, estimate, ⟨rfl, hid, rfl, rfl, rfl⟩, hseeded, hlater, rfl⟩

/-- A decision always fits. -/
theorem decisionEvent_fits (value : EvaluatedDecision) :
    EventFits ids floats p (value.toEvent source) sequence := by
  refine ⟨p, .other ?_⟩
  cases hkind : value.kind with
  | access => exact Or.inl (by simp [WorkEvent.withSequence, EvaluatedDecision.toEvent, hkind])
  | disclosure =>
    exact Or.inr (Or.inl (by simp [WorkEvent.withSequence, EvaluatedDecision.toEvent, hkind]))

/-! ### Leases -/

/-- The lease's graph is active, and the result is what its node may report. -/
def Completable (p : WorkProjection) (lease : WorkLease) (verificationPassed : Option Bool) : Prop :=
  p.graphIsActive lease.graphId = true ∧ ∃ graph node, p.graphs.find lease.graphId = some graph ∧
    graph.node lease.nodeId = .ok node ∧ (node.kind = .verify → verificationPassed = some true) ∧
    (node.kind ≠ .verify → verificationPassed = none)

theorem completionEvent_fields {lease : WorkLease} {acceptedAt : Datetime}
    {artifactRefs : List String} {reportedFinishedAt : Option Datetime}
    {verificationPassed : Option Bool}
    (h : lease.completionEvent source acceptedAt artifactRefs reportedFinishedAt verificationPassed =
      .ok event) :
    (lease.grantedAt.instant ≤ acceptedAt.instant ∧ acceptedAt.instant < lease.expiresAt.instant) ∧
      UniqueText artifactRefs true ∧ event = {
        id := lease.terminalId
        type := .nodeCompleted
        source
        subject := some lease.nodeId
        timestamp := acceptedAt.instant
        causationId := some lease.grantId
        payload := .completion
          { leaseId := lease.leaseId, graphId := lease.graphId, nodeId := lease.nodeId
            agentId := lease.agentId, fencingToken := lease.fencingToken, acceptedAt
            reportedFinishedAt, artifactRefs, verificationPassed } } := by
  unfold WorkLease.completionEvent at h
  rw [require_bind_ok, bind_ok_iff] at h
  obtain ⟨htime, _, hartifacts, h⟩ := h
  cases h
  exact ⟨htime, uniqueText_ok.mp hartifacts, rfl⟩

/-- The completion of an active lease fits exactly if its graph is active and its node may
report the result. -/
theorem completionEvent_fits {lease : WorkLease} {acceptedAt : Datetime}
    {artifactRefs : List String} {reportedFinishedAt : Option Datetime}
    {verificationPassed : Option Bool} (hfind : p.activeLease lease.leaseId = some lease)
    (hevent : lease.completionEvent source acceptedAt artifactRefs reportedFinishedAt
      verificationPassed = .ok event) :
    EventFits ids floats p event sequence ↔ Completable p lease verificationPassed := by
  obtain ⟨htime, hartifacts, rfl⟩ := completionEvent_fields hevent
  rw [eventFits_iff]
  dsimp only [WorkEvent.withSequence, applyRecord]
  simp only [applyCompletion_ok]
  constructor
  · rintro ⟨r, payload, found, graph, node, hpayload, hfits, -⟩
    cases hpayload
    have hfound := hfits.findLease
    rw [hfind] at hfound
    cases hfound
    exact ⟨hfits.active, graph, node, hfits.findGraph, hfits.findNode, hfits.verified,
      hfits.unverified⟩
  · rintro ⟨hactive, graph, node, hgraph, hnode, hverified, hunverified⟩
    exact ⟨_, _, lease, graph, node, rfl, ⟨hfind, hactive, rfl, rfl, rfl, ⟨rfl, rfl, rfl, rfl⟩,
      ⟨rfl, htime⟩, hartifacts, hgraph, hnode, hverified, hunverified⟩, rfl⟩

/-- The expiration of an active lease fits. -/
theorem expirationEvent_fits {lease : WorkLease} {expiredAt : Datetime} {reason : String}
    (hfind : p.activeLease lease.leaseId = some lease)
    (hevent : lease.expirationEvent source expiredAt reason = .ok event) :
    EventFits ids floats p event sequence := by
  obtain ⟨hreason, htime, rfl⟩ := Coordinator.expirationEvent_fields hevent
  exact ⟨_, .expiration rfl rfl
    ⟨hfind, lease.sameFields_self, ⟨rfl, htime⟩, rfl, rfl, rfl, hreason⟩⟩

/-- The invalidation of an active graph fits. -/
theorem invalidationEvent_fits {graph : WorkGraph} {trigger : WorkEvent} {invalidatedAt : Datetime}
    {reason : String} (hgraph : p.graphs.find graph.graphId = some graph)
    (hactive : p.graphIsActive graph.graphId = true)
    (htrigger : p.events.find trigger.id = some trigger)
    (hevent : planInvalidationEvent graph trigger source invalidatedAt reason = .ok event) :
    EventFits ids floats p event sequence := by
  obtain ⟨sequence', hsequence, hafter, hreplan, htime, hreason, rfl⟩ :=
    Coordinator.planInvalidationEvent_fields hevent
  exact ⟨_, .invalidation rfl rfl ⟨hgraph, hactive, htrigger, hsequence, rfl, hafter, hreplan,
    ⟨rfl, htime⟩, hreason, rfl, rfl⟩⟩

/-- A node is found by its id. -/
theorem WorkProjection.SoundGraph.find_node {graph : WorkGraph} (h : SoundGraph graph) {node : WorkNode}
    (hnode : node ∈ graph.nodes) : graph.node node.nodeId = .ok node := by
  have hfind : graph.nodes.find? (fun other => other.nodeId = node.nodeId) = some node := by
    have hrow := KeyedTable.find_of_mem (t := ⟨graph.nodes, h.nodes⟩) hnode
    exact hrow
  unfold WorkGraph.node
  rw [hfind]

theorem nodeReady_of_granted (hledger : Ledger p) {graph : WorkGraph} {node : WorkNode}
    {time : Datetime} {found : WorkerMatch} {lease : WorkLease}
    (h : Granted floats p graph node time found lease) : NodeReady p lease graph node := by
  obtain ⟨hgraph, hnode⟩ := h.place
  have hsound := hledger.sound graph (KeyedTable.mem_of_find h.ready.findGraph)
  constructor
  · rw [hgraph]
    exact h.ready.findGraph
  · rw [hgraph]
    exact h.ready.active
  · rw [hnode]
    exact hsound.find_node h.ready.mem
  · rw [hgraph, hnode]
    exact h.ready.incomplete
  · rw [hgraph, hnode]
    exact h.ready.free
  · rw [hgraph, hnode]
    exact h.ready.predecessors
  · rw [hgraph, hnode]
    exact h.token

theorem agentFit_of_granted {graph : WorkGraph} {node : WorkNode} {time : Datetime}
    {found : WorkerMatch} {lease : WorkLease} (h : Granted floats p graph node time found lease)
    (hinformation : p.validateInformationAccess lease node = .ok ()) :
    ∃ presence estimates, AgentFit floats p lease node presence estimates := by
  obtain ⟨presence, estimates, hmatched⟩ := h.matched
  obtain ⟨hagent, htime⟩ := h.agent
  refine ⟨presence, estimates, ?_, ?_, ?_, ?_, ?_, hmatched.seeded, ?_, ?_, ?_, hinformation⟩
  · rw [hagent]
    exact hmatched.findPresence
  · rw [htime]
    exact hmatched.available
  · rw [hagent]
    exact hmatched.capacity
  · rw [hagent]
    exact hmatched.manifest
  · rw [hagent]
    exact hmatched.findEstimates
  · rw [h.evidence.2]
    exact hmatched.refs
  · rw [h.evidence.1, hmatched.score]
    exact floats.isclose_self _
  · rw [hagent, h.place.1]
    exact hmatched.independent

/-- The event of a grant is read back. -/
theorem fromEvent_grant (lease : WorkLease) (source causationId : String) (sequence : Nat) :
    WorkLease.fromEvent ((lease.toEvent source causationId).withSequence sequence) = .ok lease := by
  show (checkEnvelope "work lease" lease.grantId lease.nodeId lease.grantedAt _ >>= _) = _
  rw [bind_ok_iff]
  exact ⟨(), checkEnvelope_ok.mpr ⟨rfl, rfl, rfl⟩, rfl⟩

/-- **A lease that was made for a match on a ready node fits**, if its decisions do. -/
theorem leaseEvent_fits (hledger : Ledger p) {graph : WorkGraph} {node : WorkNode}
    {time : Datetime} {found : WorkerMatch} {lease : WorkLease}
    (h : Granted floats p graph node time found lease)
    (hinformation : p.validateInformationAccess lease node = .ok ()) :
    EventFits ids floats p (lease.toEvent source (WorkGraph.eventId graph.graphId)) sequence := by
  obtain ⟨presence, estimates, hagent⟩ := agentFit_of_granted h hinformation
  refine ⟨_, .lease rfl (fromEvent_grant ..) ?_ (nodeReady_of_granted hledger h) hagent⟩
  rw [h.place.1]
  rfl

/-! ## The log after an emit -/

/-- `rebuild` accepts the log. -/
def WorkLog.Accepted (ids : WorkIds) (floats : FloatProduct) (log : WorkLog) : Prop :=
  ∃ p, rebuild ids floats log.rows = .ok p

instance (log : WorkLog) : Decidable (log.Accepted ids floats) :=
  decidable_of_iff ((rebuild ids floats log.rows).isOk = true) <| by
    unfold WorkLog.Accepted
    cases rebuild ids floats log.rows with
    | ok p => exact iff_of_true rfl ⟨p, rfl⟩
    | error error => exact iff_of_false Bool.false_ne_true fun ⟨_, h⟩ => (nomatch h)

theorem accepted_append (hlog : log.Numbered) (hp : rebuild ids floats log.rows = .ok p)
    (hnew : log.stored? event.id = none) :
    (log.append event).Accepted ids floats ↔ EventFits ids floats p event log.nextSequence := by
  constructor
  · rintro ⟨q, hq⟩
    obtain ⟨r, hrecorded, -⟩ := (WorkLog.append_accepted hlog hp hnew).mp hq
    exact ⟨r, hrecorded⟩
  · rintro ⟨r, hrecorded⟩
    exact ⟨_, (WorkLog.append_accepted hlog hp hnew).mpr ⟨r, hrecorded, rfl⟩⟩

/-- **The log is accepted after an emit exactly if the event's id is there, or the event
fits.** -/
theorem accepted_emit (hlog : log.Numbered) (hp : rebuild ids floats log.rows = .ok p) :
    (kernel.state log (.emit event)).Accepted ids floats ↔
      (log.stored? event.id).isSome = true ∨ EventFits ids floats p event log.nextSequence := by
  cases hstored : log.stored? event.id with
  | some row =>
    have hstate : kernel.state log (.emit event) = log := by simp [kernel, hstored]
    rw [hstate]
    exact iff_of_true ⟨p, hp⟩ (Or.inl rfl)
  | none =>
    have hstate : kernel.state log (.emit event) = log.append event := by simp [kernel, hstored]
    rw [hstate, accepted_append hlog hp hstored]
    simp

/-- An operation on an accepted log whose new event fits. -/
theorem accepted_state (hlog : log.Numbered) (hp : rebuild ids floats log.rows = .ok p)
    {op : LogOp} (hfits : ∀ event, op = .emit event ∨ op = .emitIfHead event log.latestSequence →
      log.stored? event.id = none → EventFits ids floats p event log.nextSequence) :
    (kernel.state log op).Accepted ids floats := by
  rcases WorkLog.kernel_cases log op with heq | ⟨event, hop, hnew, heq⟩
  · rw [heq]
    exact ⟨p, hp⟩
  · rw [heq]
    exact (accepted_append hlog hp hnew).mpr (hfits event hop hnew)

end Noema
