import Noema.Lib.Programs
import Noema.WorkMatching
import Noema.WorkPlanner

/-!
# The commands of the durable coordinator

`DurableWorkCoordinator` reads the history, decides on the projection it rebuilds, emits,
and applies what was stored.  Each command is a program over the kernel's log whose calls
are the awaits of the source: others may append between any two of them, and a command
may raise or be cancelled at each.  The answers of the planner, of the access evaluator
and of the clock are arguments.
-/
namespace Noema
open Programs Programs.Program WorkProjection

/-- What the kernel has committed. -/
structure WorkLog where
  rows : List WorkEvent
  nextSequence : Nat

namespace WorkLog

variable (log : WorkLog)

def stored? (id : String) : Option WorkEvent := log.rows.find? fun row => row.id = id

/-- The sequence of the head, zero if there is none. -/
def latestSequence : Nat := (log.rows.map WorkEvent.seq).foldr max 0

/-- The event gets the next sequence. -/
def append (event : WorkEvent) : WorkLog where
  rows := log.rows ++ [event.withSequence log.nextSequence]
  nextSequence := log.nextSequence + 1

end WorkLog

/-- What a command asks of the kernel. -/
inductive LogOp
  | history
  | emit (event : WorkEvent)
  | emitIfHead (event : WorkEvent) (expectedHeadSequence : Nat)

/-- What the kernel answers; `emit_if_head` may raise `ConcurrentAppendError`. -/
@[reducible] def LogOp.Answer : LogOp → Type
  | history => List WorkEvent
  | emit _ => WorkEvent
  | emitIfHead .. => Except PyError WorkEvent

/-- The kernel.  An event with a known id is answered with the row that is there. -/
def kernel : Service WorkLog LogOp LogOp.Answer where
  state log
    | .history => log
    | .emit event => if (log.stored? event.id).isSome then log else log.append event
    | .emitIfHead event expected =>
      if (log.stored? event.id).isSome then log
      else if log.latestSequence ≠ expected then log
      else log.append event
  answer log
    | .history => log.rows
    | .emit event => (log.stored? event.id).getD (event.withSequence log.nextSequence)
    | .emitIfHead event expected =>
      match log.stored? event.id with
      | some row => .ok row
      | none =>
        if log.latestSequence ≠ expected then
          .error (.concurrentAppendError expected log.latestSequence)
        else .ok (event.withSequence log.nextSequence)

abbrev CoordinatorProgram := Program LogOp LogOp.Answer PyError

/-- `DurableWorkCoordinator`; `leaseDuration` is in microseconds. -/
structure Coordinator where
  validator : PlanValidator
  evaluator : Option WorkerAccessEvaluator
  leaseDuration : Int
  source : String
  leaseDuration_pos : 0 < leaseDuration
  source_nonblank : blank source = false

/-- `WorkLease.create`. -/
def WorkLease.create (graphId nodeId agentId : String) (fencingToken : Nat) (grantedAt : Datetime)
    (leaseDuration : Int) (matchScore : ℚ) (competenceEstimateRefs accessRefs disclosureRefs :
    List String) : Except PyError WorkLease :=
  let expiresAt : Datetime := { grantedAt with instant := grantedAt.instant + leaseDuration }
  if nonblank : blank graphId = false ∧ blank nodeId = false ∧ blank agentId = false then
    if fencingToken_pos : 0 < fencingToken then
      if term : grantedAt.instant < expiresAt.instant then
        if matchScore_bounded : 0 ≤ matchScore ∧ matchScore ≤ 1 then
          if competence : UniqueText competenceEstimateRefs true then
            if access : UniqueText accessRefs false ∧ ∀ ref ∈ accessRefs, isOpaqueId ref = true then
              if disclosure : UniqueText disclosureRefs false ∧
                  ∀ ref ∈ disclosureRefs, isOpaqueId ref = true then
                .ok
                  { graphId, nodeId, agentId, fencingToken, grantedAt, expiresAt, matchScore
                    competenceEstimateRefs, informationAccessDecisionRefs := accessRefs
                    informationDisclosureDecisionRefs := disclosureRefs, nonblank, fencingToken_pos
                    term, matchScore_bounded, competence, access, disclosure }
              else .error (.valueError "work lease information disclosure decision refs")
            else .error (.valueError "work lease information access decision refs")
          else .error (.valueError "work lease competence estimate refs")
        else .error (.valueError "work lease match score must be between zero and one")
      else .error (.valueError "work lease must expire after it is granted")
    else .error (.valueError "work lease fencing token must be positive")
  else .error (.valueError "work lease ids must be non-empty")

/-- The event of a decision, from `to_event`. -/
def EvaluatedDecision.toEvent (value : EvaluatedDecision) (source : String) : WorkEvent :=
  { id := (match value.kind with
      | .access => "information-access-decided:"
      | .disclosure => "information-disclosure-decided:") ++ value.decision.decisionId
    type := match value.kind with
      | .access => .informationAccessDecided
      | .disclosure => .disclosureDecided
    source
    subject := some value.decision.decisionId
    timestamp := value.decision.decidedAt.instant
    payload := .decision value.decision }

namespace Coordinator

variable (ids : WorkIds) (floats : FloatProduct) (coordinator : Coordinator)

/-! ## Reading and emitting -/

/-- `_reload`. -/
def reload : CoordinatorProgram WorkProjection := do
  let rows ← perform .history
  ofExcept (rebuild ids floats rows)

/-- What follows the kernel's answer in `_emit`, `_emit_if_head` and
`_append_graph_if_head`. -/
def project (p : WorkProjection) (event stored : WorkEvent) :
    CoordinatorProgram (WorkEvent × WorkProjection) :=
  if { stored with sequence := none } ≠ event then
    raise (.valueError s!"canonical event id conflict: {event.id}")
  else do
    let p ← ofExcept (p.apply ids floats stored)
    return (stored, p)

/-- `_emit`. -/
def emit (p : WorkProjection) (event : WorkEvent) :
    CoordinatorProgram (WorkEvent × WorkProjection) := do
  let stored ← perform (.emit event)
  project ids floats p event stored

/-- `_emit_if_head`. -/
def emitIfHead (p : WorkProjection) (event : WorkEvent) (expected : Nat) :
    CoordinatorProgram (WorkEvent × WorkProjection) := do
  let answer ← perform (.emitIfHead event expected)
  match (answer : Except PyError WorkEvent) with
  | .error error => raise error
  | .ok stored => project ids floats p event stored

/-! ## Records -/

/-- `record_work_order`, `record_presence`, `record_manifest` and `record_competence`:
the event is emitted and read back. -/
def recordEvent {α : Type} (event : WorkEvent) (fromEvent : WorkEvent → Except PyError α) :
    CoordinatorProgram α := do
  let p ← reload ids floats
  let (stored, _) ← emit ids floats p event
  ofExcept (fromEvent stored)

/-- `record_work_order`. -/
def recordWorkOrder (order : WorkOrder) : CoordinatorProgram WorkOrder :=
  recordEvent ids floats (order.toEvent coordinator.source) (WorkOrder.fromEvent ids)

/-- `record_presence`. -/
def recordPresence (presence : AgentPresence) : CoordinatorProgram AgentPresence :=
  recordEvent ids floats (presence.toEvent ids coordinator.source) (AgentPresence.fromEvent ids)

/-- `record_manifest`. -/
def recordManifest (manifest : CapabilityManifest) : CoordinatorProgram CapabilityManifest :=
  recordEvent ids floats (manifest.toEvent coordinator.source) (CapabilityManifest.fromEvent ids)

/-- `record_competence`. -/
def recordCompetence (estimate : CompetenceEstimate) : CoordinatorProgram CompetenceEstimate :=
  if estimate.basis ≠ .seeded then
    raise (.valueError "evidence-based competence is non-operational in v0.5")
  else
    recordEvent ids floats (estimate.toEvent coordinator.source) (CompetenceEstimate.fromEvent ids)

/-! ## Planning -/

/-- `Planner.propose`: the order, the causal cursor, the graph version and the available
capability types. -/
abbrev Planner := WorkOrder → Nat → Nat → List String → Except PyError PlanProposal

/-- The call of `plan`, for the definitions on its events. -/
def planCall (workOrderId : String) : PlanCall :=
  ⟨coordinator.validator, coordinator.source, workOrderId, .reloading⟩

/-- The loop of `plan`.  A call that has used up its attempts is taken as cancelled. -/
def planLoop (call : PlanCall) (order : WorkOrder) (cursor : Nat) (proposal : PlanProposal)
    (clock : Nat → Datetime) : Nat → CoordinatorProgram WorkGraph
  | 0 => raise (.runtimeError "cancelled")
  | attempts + 1 => do
    let p ← reload ids floats
    let graph ← ofExcept (PlanStore.validated ids p call order cursor proposal (clock attempts))
    let event := PlanStore.graphEvent call proposal graph
    let answer ← perform (.emitIfHead event p.lastSequence)
    match (answer : Except PyError WorkEvent) with
    | .error _ => planLoop call order cursor proposal clock attempts
    | .ok stored => do
      let (stored, _) ← project ids floats p event stored
      ofExcept (WorkGraph.fromEvent ids stored)

/-- `plan`. -/
def plan (workOrderId : String) (propose : Planner) (clock : Nat → Datetime) (attempts : Nat) :
    CoordinatorProgram WorkGraph := do
  let p ← reload ids floats
  match p.orders.find workOrderId with
  | none => raise (.keyError s!"unknown work order: {workOrderId}")
  | some order => do
    let proposal ← ofExcept
      (propose order p.lastSequence (p.latestVersion workOrderId) p.currentCapabilityTypes)
    let q ← reload ids floats
    let call := coordinator.planCall workOrderId
    let _ ← emit ids floats q (PlanStore.proposalEvent call order proposal)
    planLoop ids floats call order p.lastSequence proposal clock attempts

/-! ## Assignment -/

/-- What the governance engine makes of a decision at a head: the id of the decision it
makes again there. -/
abbrev Readmission := EvaluatedDecision → Nat → Except PyError String

/-- The decision as it is made again. -/
def refreshed (value : EvaluatedDecision) (decisionId : String) (head : Nat) : EvaluatedDecision :=
  { value with decision := { value.decision with decisionId, causalEventCursor := head } }

/-- The state of the loop over material decisions: the projection, the expected head and
the decisions admitted so far, each with the one it was made from. -/
structure Admitting where
  projection : WorkProjection
  expectedHead : Nat
  admitted : List (EvaluatedDecision × EvaluatedDecision)

/-- `admit_access` and `admit_disclosure`, and the projection of the admitted event.  The
engine keeps the information, the context and the disposition of the request. -/
def admitDecision (decideAgain : Readmission) (state : Admitting) (value : EvaluatedDecision) :
    CoordinatorProgram Admitting := do
  let rows ← perform .history
  if ((rows : List WorkEvent).map WorkEvent.seq).foldr max 0 ≠ state.expectedHead then
    raise (.runtimeError "canonical head changed before governance admission")
  else do
    let decisionId ← ofExcept (decideAgain value state.expectedHead)
    if isOpaqueId decisionId = false then
      raise (.valueError "information access decision id must be an opaque governance identifier")
    else do
      let record := refreshed value decisionId state.expectedHead
      let event := record.toEvent coordinator.source
      let answer ← perform (.emitIfHead event state.expectedHead)
      match (answer : Except PyError WorkEvent) with
      | .error error => raise error
      | .ok stored =>
        if { stored with sequence := none } ≠ event then
          raise (.valueError s!"canonical event id conflict: {event.id}")
        -- `GovernanceAdmissionReceipt`
        else if stored.seq ≤ state.expectedHead then
          raise (.valueError "governance admission receipt is not exact-head evidence")
        else do
          let p ← ofExcept (state.projection.apply ids floats stored)
          return ⟨p, stored.seq, state.admitted ++ [(value, record)]⟩

/-- The ids of the admitted decisions of a kind that the match is made of. -/
def admittedIds (kind : DecisionKind) (found : WorkerMatch)
    (admitted : List (EvaluatedDecision × EvaluatedDecision)) : List String :=
  (admitted.filter fun entry => entry.1.kind = kind &&
    entry.1.decision.decisionId ∈ WorkerMatcher.selectedIds (some found)).map
      (·.2.decision.decisionId)

/-- The lease of a match. -/
def leaseOf (p : WorkProjection) (graph : WorkGraph) (node : WorkNode) (time : Datetime)
    (found : WorkerMatch) (admitted : List (EvaluatedDecision × EvaluatedDecision)) :
    Except PyError WorkLease :=
  WorkLease.create graph.graphId node.nodeId found.agentId (p.nextFencingToken graph.graphId node.nodeId)
    time coordinator.leaseDuration found.score found.competenceEstimateRefs
    (admittedIds .access found admitted) (admittedIds .disclosure found admitted)

/-- The body of the loop over ready nodes. -/
def assignNode (graph : WorkGraph) (time : Datetime) (decideAgain : Readmission)
    (state : WorkProjection × List WorkLease) (node : WorkNode) :
    CoordinatorProgram (WorkProjection × List WorkLease) := do
  let (found, evidence) ← ofExcept (WorkerMatcher.matchWithAccessEvidence floats
    coordinator.evaluator graph node state.1 time)
  let material := WorkerMatcher.materialDecisions found evidence
  let admitting ← forEach (coordinator.admitDecision ids floats decideAgain) material
    ⟨state.1, state.1.lastSequence, []⟩
  match found with
  | none => return (admitting.projection, state.2)
  | some found => do
    let p := admitting.projection
    let lease ← ofExcept (coordinator.leaseOf p graph node time found admitting.admitted)
    let event := lease.toEvent coordinator.source (WorkGraph.eventId graph.graphId)
    let (stored, p) ←
      if material ≠ [] then emitIfHead ids floats p event admitting.expectedHead
      else emit ids floats p event
    let assigned ← ofExcept (WorkLease.fromEvent stored)
    return (p, state.2 ++ [assigned])

/-- `assign_ready`. -/
def assignReady (workOrderId : String) (coverage : Option AwarenessCoverage) (time : Datetime)
    (decideAgain : Readmission) : CoordinatorProgram (List WorkLease) := do
  let p ← reload ids floats
  match p.latestGraph workOrderId with
  | none => raise (.keyError s!"work order has no accepted graph: {workOrderId}")
  | some graph => do
    let frontier ← ofExcept (ReadyFrontier.derive graph p coverage)
    let (_, assigned) ← forEach (coordinator.assignNode ids floats graph time decideAgain)
      frontier.ready (p, [])
    return assigned

/-! ## The end of a lease, and of a plan -/

/-- The arguments of `complete`. -/
structure CompletionReport where
  leaseId : String
  fencingToken : Int
  artifactRefs : List String
  reportedFinishedAt : Option Datetime
  verificationPassed : Option Bool

/-- `complete`. -/
def complete (report : CompletionReport) (acceptedAt : Datetime) :
    CoordinatorProgram NodeCompletion := do
  let p ← reload ids floats
  match p.activeLease report.leaseId with
  | none => raise (.valueError "work completion requires an active lease")
  | some lease =>
    if (lease.fencingToken : Int) ≠ report.fencingToken then
      raise (.valueError "stale work lease fencing token")
    else do
      let event ← ofExcept (lease.completionEvent coordinator.source acceptedAt report.artifactRefs
        report.reportedFinishedAt report.verificationPassed)
      let (_, p) ← emit ids floats p event
      match p.completions.find (lease.graphId, lease.nodeId) with
      | none => raise (.other "canonical completion was not projected")
      | some completion => return completion

/-- `recover_expired`. -/
def recoverExpired (expiredAt : Datetime) : CoordinatorProgram (List WorkLease) := do
  let p ← reload ids floats
  let expired := p.activeLeases.filter fun lease => lease.expiresAt.instant ≤ expiredAt.instant
  let _ ← forEach (fun p lease => do
    let event ← ofExcept (lease.expirationEvent coordinator.source expiredAt
      "lease deadline elapsed without canonical completion")
    let (_, p) ← emit ids floats p event
    return p) expired p
  return expired

/-- `graphs`, in the order of their work orders and versions. -/
def graphOrder (graph : WorkGraph) : String ×ₗ Nat ×ₗ String :=
  toLex (graph.workOrderId, toLex (graph.version, graph.graphId))

/-- The body of the loop of `invalidate_for`. -/
def invalidateGraph (trigger : WorkEvent) (reason : String) (invalidatedAt : Datetime)
    (state : WorkProjection × List WorkGraph) (graph : WorkGraph) :
    CoordinatorProgram (WorkProjection × List WorkGraph) :=
  if state.1.graphIsActive graph.graphId && trigger.type.text ∈ graph.replanEventTypes &&
      graph.basedOnEventCursor < trigger.seq then do
    let event ← ofExcept (planInvalidationEvent graph trigger coordinator.source invalidatedAt reason)
    let (_, p) ← emit ids floats state.1 event
    return (p, state.2 ++ [graph])
  else done state

/-- `invalidate_for`. -/
def invalidateFor (trigger : WorkEvent) (reason : String) (invalidatedAt : Datetime) :
    CoordinatorProgram (List WorkGraph) := do
  let p ← reload ids floats
  let rows ← perform .history
  if (rows : List WorkEvent).find? (fun row => row.id = trigger.id) ≠ some trigger then
    raise (.valueError "plan invalidation requires the canonical trigger event")
  else do
    let graphs := p.graphs.rows.insertionSort fun a b => graphOrder a ≤ graphOrder b
    let (_, invalidated) ← forEach
      (coordinator.invalidateGraph ids floats trigger reason invalidatedAt) graphs (p, [])
    return invalidated

end Coordinator

/-! ## Commands -/

/-- A command, with the answers it gets. -/
inductive Command
  | recordWorkOrder (order : WorkOrder)
  | recordPresence (presence : AgentPresence)
  | recordManifest (manifest : CapabilityManifest)
  | recordCompetence (estimate : CompetenceEstimate)
  | plan (workOrderId : String) (propose : Coordinator.Planner) (clock : Nat → Datetime)
      (attempts : Nat)
  | assignReady (workOrderId : String) (coverage : Option AwarenessCoverage) (time : Datetime)
      (decideAgain : Coordinator.Readmission)
  | complete (report : Coordinator.CompletionReport) (acceptedAt : Datetime)
  | recoverExpired (expiredAt : Datetime)
  | invalidateFor (trigger : WorkEvent) (reason : String) (invalidatedAt : Datetime)

/-- The program of a command; its result is dropped. -/
def Command.program (ids : WorkIds) (floats : FloatProduct) (coordinator : Coordinator) :
    Command → CoordinatorProgram Unit
  | recordWorkOrder order => do let _ ← coordinator.recordWorkOrder ids floats order
  | recordPresence presence => do let _ ← coordinator.recordPresence ids floats presence
  | recordManifest manifest => do let _ ← coordinator.recordManifest ids floats manifest
  | recordCompetence estimate => do let _ ← coordinator.recordCompetence ids floats estimate
  | plan workOrderId propose clock attempts => do
    let _ ← coordinator.plan ids floats workOrderId propose clock attempts
  | assignReady workOrderId coverage time decideAgain => do
    let _ ← coordinator.assignReady ids floats workOrderId coverage time decideAgain
  | complete report acceptedAt => do let _ ← coordinator.complete ids floats report acceptedAt
  | recoverExpired expiredAt => do let _ ← coordinator.recoverExpired ids floats expiredAt
  | invalidateFor trigger reason invalidatedAt => do
    let _ ← coordinator.invalidateFor ids floats trigger reason invalidatedAt

end Noema
