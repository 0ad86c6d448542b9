import Noema.Attention
import Noema.Capabilities
import Noema.Lib.AsyncQueue
import Noema.Lib.Machine

/-!
# The autonomous agent as concurrent tasks

One `AutonomousAgent` over a durable log: `start` with its recovery (`MainPc`), the
workers with their cycles (`WorkerPc`), the actions they spawn (`ActionPc`), the
heartbeat, and `stop`.  Each runs between the others' awaits.  An emit is two
steps, the commit and what its awaiter does when it resumes; it may raise, before
or after the event was stored.  A crash ends all tasks and loses what the agent
keeps in memory; the next `boot` starts a new agent over the same log, with the
capabilities and rules that are registered then.

The environment chooses what is not the agent's: who runs, what a reasoner, a
critic, a capability or a rule answers, which accepted intents the allocator
selects (`Selects`), and what other parties append.  No other party appends in the
agent's name; results, reflections and running capabilities may append anything.

`note` and `recovered` are history variables, and so are the calls and boots in the
trace; no step reads them.
-/
namespace Noema
open AsyncQueue

/-- `AutonomousAgentConfig`, and the profile of the agent's policy. -/
structure AgentConfig where
  agentId : String
  workers : Nat
  maxConcurrentActions : Nat
  maxActionsPerCycle : Nat
  attentionCapacity : ℚ
  attentionBudgetPerCycle : ℚ
  queueSize : Int
  heartbeat : Bool
  profile : AutonomyProfile
  attentionCapacity_pos : 0 < attentionCapacity

/-- What an event was for: the capability an authorization was asked about, the
result a success reports. -/
structure Note where
  basis : Option Capability := none
  result : Option CapabilityResult := none

/-- The log and what else an observer sees, in the order it happens. -/
inductive Obs
  | boot
  | event (event : AgentEvent) (note : Note)
  | invoke (intent : ActionIntent) (capability : Capability) (recovered : Bool)
  | compensate (intent : ActionIntent) (capability : Capability)

/-- An event on its way to the log; without an id it is drawn from `uuid4`. -/
structure Draft where
  id : Option String := none
  type : AgentEventType
  source : String
  subject : Option String
  causationId : Option EventId := none
  payload : AgentPayload := {}
  note : Note := {}

def Draft.event (draft : Draft) (id : EventId) : AgentEvent :=
  { id, type := draft.type, source := draft.source, subject := draft.subject
    causationId := draft.causationId, payload := draft.payload }

def AppEvent.draft (event : AppEvent) : Draft :=
  { id := some event.id, type := event.type, source := event.source, subject := event.subject
    causationId := event.causationId, payload := event.payload }

/-- What becomes of an emit. -/
inductive EmitOutcome
  | returns
  | raisesBefore
  | raisesAfter

inductive ActionEnd
  | returned (outcome : Bool)
  | raised

/-- `_execute_with_lease` and `_execute_intent`.  A position that ends in `ing` and
names an event's type is the emit of that event. -/
inductive ActionPc
  /-- The semaphore of the actions. -/
  | waiting
  | skipping
  | dispatching (capability : Capability)
  | starting (capability : Capability) (dispatched : EventId)
  /-- Before an attempt: telemetry, or the back-off. -/
  | ready (capability : Capability) (started : EventId) (attempts : Nat)
  | invoking (capability : Capability) (started : EventId) (attempts : Nat)
  | succeeding (started : EventId) (attempts : Nat) (result : CapabilityResult)
  | succeeded (completed : EventId) (result : CapabilityResult)
  | effecting (completed : EventId) (rest : List ResultEffect)
  | failing (capability : Capability) (started : EventId) (attempts : Nat)
      (result : CapabilityResult)
  | failed (capability : Capability) (failedEvent : EventId)
  | compensating (capability : Capability) (failedEvent : EventId)
  | compensated (failedEvent : EventId) (compensation : CapabilityResult)
  /-- Out of `_execute_intent`, and out of the semaphore. -/
  | leaving (how : ActionEnd)
  | settling (how : ActionEnd)
  | ended (how : ActionEnd)

/-- `authorization` is the event the action was created for, and `recovered` says
that recovery did. -/
structure Action where
  intent : ActionIntent
  basis : Capability
  authorization : EventId
  lease : Nat
  recovered : Bool
  pc : ActionPc

/-- A run of `_handle_trigger`, with its snapshot and the actions it spawned. -/
structure Cycle (σ : Type) where
  trigger : EventId
  situation : σ
  spawned : List Nat

/-- `_worker` and `_handle_trigger`. -/
inductive WorkerPc (σ : Type)
  | idle
  | deliberating (trigger : EventId)
  | proposing (cycle : Cycle σ) (accepted : List ActionIntent)
  | selecting (cycle : Cycle σ) (accepted : List ActionIntent)
  | choosing (cycle : Cycle σ) (rest : List ActionIntent)
  | deciding (cycle : Cycle σ) (rest : List ActionIntent) (intent : ActionIntent)
      (capability : Capability) (decision : AuthorizationDecision)
  | acquiring (cycle : Cycle σ) (rest : List ActionIntent) (intent : ActionIntent)
      (capability : Capability) (authorization : EventId)
  | deferring (cycle : Cycle σ) (rest : List ActionIntent) (intent : ActionIntent)
      (authorization : EventId)
  | gathering (cycle : Cycle σ)
  | reflecting (trigger : EventId)
  | cycleFailing (trigger : EventId)
  | returned
  | raised

/-- An unfinished intent that recovery found, and its authorization. -/
structure Pending where
  authorization : AgentEvent
  intent : ActionIntent

/-- `start` and `_restore_execution_state`. -/
inductive MainPc
  | absent
  | starting
  | announcing
  | reading (started : EventId)
  | loaded (started : EventId) (history : List AgentEvent)
  | recovering (started : EventId) (rest : List Pending)
  | snapshotting (started : EventId) (rest : List Pending) (pending : Pending)
  | abandoning (started : EventId) (rest : List Pending) (pending : Pending)
      (payload : AgentPayload)
  | reauthorizing (started : EventId) (rest : List Pending) (pending : Pending)
      (capability : Capability) (decision : AuthorizationDecision)
  | requesting (started : EventId) (rest : List Pending) (pending : Pending)
      (capability : Capability) (reauthorization : EventId)
  | acquiring (started : EventId) (rest : List Pending) (pending : Pending)
      (capability : Capability) (request : EventId)
  | executing (started : EventId) (rest : List Pending) (action : Nat)
  | reflecting (started : EventId) (rest : List Pending)
  | returned
  | raised

/-- `stop`. -/
inductive StopPc
  | uncalled
  | cancelling (graceful : Bool)
  | unsubscribing (graceful : Bool)
  | joining
  | putting (count : Nat)
  | gathering
  | announcing
  | closing
  | returned
  | raised

/-- `_heartbeat_loop`; `detached` is a cancelled emit whose append goes on in a thread. -/
inductive HeartbeatPc
  | off
  | sleeping
  | emitting
  | detached

inductive QueueItem
  | trigger (id : EventId) (priority : Int)
  | stop

def QueueItem.priority : QueueItem → Int
  | .trigger _ priority => priority
  | .stop => 0

/-- The log, the registries, the agent object and its tasks. -/
structure AgentRuntime (σ : Type) where
  trace : List Obs
  nextUuid : Nat
  registry : CapabilityRegistry
  rules : List (PolicyRule σ)
  ledger : String → Option CapabilityResult
  attention : AttentionAccount
  slots : Nat
  queue : List QueueItem
  subscribed : Bool
  running : Bool
  stopping : Bool
  heartbeat : HeartbeatPc
  workers : List (WorkerPc σ)
  actions : List Action
  main : MainPc
  stopper : StopPc

/-- What the environment answers to the task that runs. -/
inductive Choice (σ : Type)
  | go
  | raises
  | emit (outcome : EmitOutcome)
  | deliberated (situation : σ) (accepted : List ActionIntent)
  | selected (indices : List Nat)
  | snapshot (situation : σ)
  | invoked (result : CapabilityResult)
  | reflect (event : AppEvent)
  | detach

inductive AgentLabel (σ : Type)
  | boot (registry : CapabilityRegistry) (rules : List (PolicyRule σ))
  | crash
  | external (event : AppEvent)
  | register (capability : Capability) (replace : Bool)
  | addRule (rule : PolicyRule σ)
  | onEvent (trigger : EventId) (priority : Int)
  | stop (graceful : Bool)
  | heartbeat (choice : Choice σ)
  | worker (index : Nat) (choice : Choice σ)
  | action (index : Nat) (choice : Choice σ)
  | capabilityEmit (index : Nat) (event : AppEvent)
  | main (choice : Choice σ)
  | stopper (choice : Choice σ)

namespace AgentRuntime

variable {σ : Type} (cfg : AgentConfig)

/-- The log before the agent was ever started. -/
def create : AgentRuntime σ :=
  { trace := [], nextUuid := 0, registry := .empty, rules := [], ledger := fun _ => none
    attention := .create cfg.attentionCapacity, slots := cfg.maxConcurrentActions, queue := []
    subscribed := false, running := false, stopping := false, heartbeat := .off, workers := []
    actions := [], main := .absent, stopper := .uncalled }

/-! ## The log -/

def Obs.event? : Obs → Option AgentEvent
  | .event event _ => some event
  | _ => none

/-- `kernel.history()`. -/
def history (s : AgentRuntime σ) : List AgentEvent := s.trace.filterMap Obs.event?

def logged (s : AgentRuntime σ) (id : EventId) : Bool := s.history.any fun event => event.id = id

def observe (s : AgentRuntime σ) (obs : Obs) : AgentRuntime σ :=
  { s with trace := s.trace ++ [obs] }

/-- The store's append: a known id stays as it is. -/
def store (s : AgentRuntime σ) (draft : Draft) : AgentRuntime σ × EventId :=
  match draft.id with
  | some id =>
    if s.logged (.app id) then (s, .app id)
    else (s.observe (.event (draft.event (.app id)) draft.note), .app id)
  | none =>
    ({ s.observe (.event (draft.event (.uuid s.nextUuid)) draft.note) with
        nextUuid := s.nextUuid + 1 }, .uuid s.nextUuid)

/-- `kernel.emit`: the id of the stored event, unless it raises. -/
def emit (s : AgentRuntime σ) (draft : Draft) : EmitOutcome → AgentRuntime σ × Option EventId
  | .returns => ((s.store draft).1, some (s.store draft).2)
  | .raisesBefore => (s, none)
  | .raisesAfter => ((s.store draft).1, none)

/-! ## The actions -/

/-- The event an action is about to emit. -/
def actionDraft (action : Action) : Option Draft :=
  let intent := action.intent
  let own type causationId payload note : Option Draft := some
    { type, source := cfg.agentId, subject := some intent.intentId, causationId, payload, note }
  match action.pc with
  | .skipping =>
    own .actionSkipped action.authorization
      { reason := some "idempotency key already succeeded"
        idempotencyKey := intent.idempotencyKey } {}
  | .dispatching _ =>
    own .actionDispatched action.authorization
      { intent := some intent, idempotencyKey := intent.idempotencyKey } {}
  | .starting _ dispatched =>
    own .actionStarted dispatched
      { intent := some intent, idempotencyKey := intent.idempotencyKey } {}
  | .succeeding started attempts result =>
    own .actionSucceeded started
      { capability := some intent.capability, attempts := some attempts
        output := some result.output, idempotencyKey := intent.idempotencyKey }
      { result := some result }
  | .effecting completed (.fact key value :: _) =>
    some { type := .factObserved, source := cfg.agentId, subject := some key
           causationId := some completed, payload := { key := some key, value := some value } }
  | .effecting completed (.event event :: _) =>
    some { event.draft with causationId := some completed }
  | .failing _ started attempts result =>
    own .actionFailed started
      { capability := some intent.capability, attempts := some attempts, error := result.error
        retryable := some result.retryable, idempotencyKey := intent.idempotencyKey } {}
  | .compensated failedEvent compensation =>
    own (if compensation.success then .actionCompensated else .actionCompensationFailed) failedEvent
      { success := some compensation.success, output := some compensation.output
        error := compensation.error } {}
  | _ => none

/-- Where an action goes on when its emit returned. -/
def actionEmitted (pc : ActionPc) (id : EventId) : ActionPc :=
  match pc with
  | .skipping => .leaving (.returned false)
  | .dispatching capability => .starting capability id
  | .starting capability _ => .ready capability id 0
  | .succeeding _ _ result => .succeeded id result
  | .effecting completed (_ :: rest) => .effecting completed rest
  | .failing capability _ _ _ => .failed capability id
  | .compensated _ _ => .leaving (.returned true)
  | pc => pc

/-- `previous is not None and previous.success`. -/
def ledgerHit (s : AgentRuntime σ) (intent : ActionIntent) : Bool :=
  intent.idempotencyKey.any fun key => (s.ledger key).any fun previous => previous.success

/-- The head of `_execute_intent`: the capability, then the ledger. -/
def enter (s : AgentRuntime σ) (intent : ActionIntent) : ActionPc :=
  match s.registry.get intent.capability with
  | .error _ => .leaving .raised
  | .ok capability => if s.ledgerHit intent then .skipping else .dispatching capability

/-- What an attempt makes of the answer it got. -/
def answered (capability : Capability) (started : EventId) (attempts : Nat)
    (result : CapabilityResult) : ActionPc :=
  let maxRetries := if capability.spec.idempotent then capability.spec.maxRetries else 0
  if result.success || !result.retryable || attempts > maxRetries then
    if result.success then .succeeding started attempts result
    else .failing capability started attempts result
  else .ready capability started attempts

/-- `bool(intent.metadata.get("compensate_on_failure")) and capability.spec.reversible`. -/
def compensates (intent : ActionIntent) (capability : Capability) : Bool :=
  (Payload.get intent.metadata "compensate_on_failure").truthy && capability.spec.reversible

/-- An action runs to its next await. -/
def actionStep (s : AgentRuntime σ) (action : Action) :
    Choice σ → Option (AgentRuntime σ × ActionPc)
  | .emit outcome =>
    (actionDraft cfg action).map fun draft =>
      match s.emit draft outcome with
      | (s, some id) => (s, actionEmitted action.pc id)
      | (s, none) => (s, .leaving .raised)
  | .go =>
    match action.pc with
    | .waiting =>
      if s.slots = 0 then none
      else some ({ s with slots := s.slots - 1 }, s.enter action.intent)
    | .ready capability started attempts =>
      some (s.observe (.invoke action.intent capability action.recovered),
        .invoking capability started (attempts + 1))
    | .succeeded completed result =>
      some (match action.intent.idempotencyKey with
        | some key => { s with ledger := Function.update s.ledger key (some result) }
        | none => s, .effecting completed result.effects)
    | .effecting _ [] => some (s, .leaving (.returned true))
    | .failed capability failedEvent =>
      if compensates action.intent capability then
        some (s.observe (.compensate action.intent capability),
          .compensating capability failedEvent)
      else some (s, .leaving (.returned true))
    | .leaving how => some ({ s with slots := s.slots + 1 }, .settling how)
    | .settling how =>
      some ({ s with
        attention := s.attention.settle action.lease action.intent.attentionCost none }, .ended how)
    | _ => none
  | .invoked result =>
    match action.pc with
    | .invoking capability started attempts => some (s, answered capability started attempts result)
    | .compensating _ failedEvent => some (s, .compensated failedEvent result)
    | _ => none
  | .raises =>
    match action.pc with
    -- Telemetry, a capability that cancels itself, or a compensation may raise.
    | .ready _ _ 0 | .invoking _ _ _ | .effecting _ [] | .failed _ _ | .compensating _ _ =>
      some (s, .leaving .raised)
    | _ => none
  | _ => none

/-- The action ended, and how. -/
def ending (s : AgentRuntime σ) (index : Nat) : Option ActionEnd :=
  match s.actions[index]? with
  | some { pc := .ended how, .. } => some how
  | _ => none

/-- `asyncio.create_task(self._execute_with_lease(...))`. -/
def spawn (s : AgentRuntime σ) (intent : ActionIntent) (basis : Capability)
    (authorization : EventId) (lease : Nat) (recovered : Bool) : AgentRuntime σ :=
  { s with actions := s.actions ++ [⟨intent, basis, authorization, lease, recovered, .waiting⟩] }

/-! ## The workers -/

/-- The event a worker is about to emit. -/
def workerDraft : WorkerPc σ → Option Draft
  | .proposing cycle accepted =>
    some { type := .decisionProposed, source := cfg.agentId, subject := some cfg.agentId
           causationId := some cycle.trigger, payload := { accepted := some accepted.length } }
  | .deciding cycle _ intent capability decision =>
    some { type := if decision.allowed then .decisionAuthorized else .decisionDenied
           source := cfg.agentId, subject := some intent.intentId
           causationId := some cycle.trigger
           payload := { intent := some intent, reason := some decision.reason
                        effectiveAuthority := some decision.effectiveAuthority
                        effectiveRisk := some decision.effectiveRisk }
           note := { basis := some capability } }
  | .deferring _ _ intent authorization =>
    some { type := .decisionDeferred, source := cfg.agentId, subject := some intent.intentId
           causationId := some authorization
           payload := { reason := some "insufficient concurrent attention capacity"
                        intent := some intent } }
  | .cycleFailing trigger =>
    some { type := .cycleFailed, source := cfg.agentId, subject := some cfg.agentId
           causationId := some trigger, payload := { triggerId := some trigger } }
  | _ => none

def workerEmitted (pc : WorkerPc σ) (id : EventId) : WorkerPc σ :=
  match pc with
  | .proposing cycle accepted => .selecting cycle accepted
  | .deciding cycle rest intent capability decision =>
    if decision.allowed then .acquiring cycle rest intent capability id else .choosing cycle rest
  | .deferring cycle rest _ _ => .choosing cycle rest
  | .cycleFailing _ => .idle
  | pc => pc

/-- An exception in `_handle_trigger` is answered by `agent.cycle_failed`, one in
that emit ends the worker. -/
def workerRaised : WorkerPc σ → WorkerPc σ
  | .deliberating trigger | .reflecting trigger => .cycleFailing trigger
  | .proposing cycle _ | .selecting cycle _ | .choosing cycle _ | .deciding cycle _ _ _ _
  | .acquiring cycle _ _ _ _ | .deferring cycle _ _ _ | .gathering cycle =>
    .cycleFailing cycle.trigger
  | .cycleFailing _ => .raised
  | pc => pc

/-- What the allocator may select: some of the accepted intents, each once, within
the attention there is and the limit of a cycle. -/
def Selects (s : AgentRuntime σ) (accepted : List ActionIntent) (indices : List Nat) : Prop :=
  indices.Nodup ∧ (∀ index ∈ indices, index < accepted.length) ∧
    indices.length ≤ cfg.maxActionsPerCycle ∧
    ((indices.filterMap fun index => accepted[index]?).map ActionIntent.attentionCost).sum ≤
      min s.attention.available cfg.attentionBudgetPerCycle

instance (s : AgentRuntime σ) (accepted : List ActionIntent) (indices : List Nat) :
    Decidable (s.Selects cfg accepted indices) :=
  inferInstanceAs (Decidable (_ ∧ _))

/-- The head of the loop over the selected intents. -/
def chooseNext (s : AgentRuntime σ) (cycle : Cycle σ) : List ActionIntent → WorkerPc σ
  | [] => if cycle.spawned = [] then .idle else .gathering cycle
  | intent :: rest =>
    match s.registry.get intent.capability with
    | .error _ => .cycleFailing cycle.trigger
    | .ok capability =>
      match PolicyEngine.authorize cfg.profile s.rules intent capability.spec cycle.situation with
      | .error _ => .cycleFailing cycle.trigger
      | .ok decision => .deciding cycle rest intent capability decision

/-- A worker runs to its next await. -/
def workerStep (s : AgentRuntime σ) (pc : WorkerPc σ) :
    Choice σ → Option (AgentRuntime σ × WorkerPc σ)
  | .emit outcome =>
    (workerDraft cfg pc).map fun draft =>
      match s.emit draft outcome with
      | (s, some id) => (s, workerEmitted pc id)
      | (s, none) => (s, workerRaised pc)
  | .deliberated situation accepted =>
    match pc with
    | .deliberating trigger => some (s, .proposing ⟨trigger, situation, []⟩ accepted)
    | _ => none
  | .selected indices =>
    match pc with
    | .selecting cycle accepted =>
      if s.Selects cfg accepted indices then
        some (s, .choosing cycle (indices.filterMap fun index => accepted[index]?))
      else none
    | _ => none
  | .reflect event =>
    match pc with
    | .reflecting _ => some ((s.store event.draft).1, pc)
    | _ => none
  | .go =>
    match pc with
    | .idle =>
      match s.queue with
      | [] => none
      | .trigger id _ :: queue => some ({ s with queue }, .deliberating id)
      | .stop :: queue => some ({ s with queue }, .returned)
    | .choosing cycle rest => some (s, s.chooseNext cfg cycle rest)
    | .acquiring cycle rest intent capability authorization =>
      match s.attention.acquire intent.attentionCost with
      | .error _ => some (s, .cycleFailing cycle.trigger)
      | .ok (_, none) => some (s, .deferring cycle rest intent authorization)
      | .ok (attention, some lease) =>
        some ({ s with attention }.spawn intent capability authorization lease false,
          .choosing { cycle with spawned := cycle.spawned ++ [s.actions.length] } rest)
    | .gathering cycle =>
      if cycle.spawned.all fun index => (s.ending index).any fun how => how matches .returned _ then
        some (s, .reflecting cycle.trigger)
      else none
    | .reflecting _ => some (s, .idle)
    | _ => none
  | .raises =>
    match pc with
    -- A reasoner, malformed metadata, telemetry or the tracer may raise.
    | .deliberating _ | .selecting _ _ | .choosing _ _ | .reflecting _ => some (s, workerRaised pc)
    | .gathering cycle =>
      if cycle.spawned.any fun index => (s.ending index).any fun how => how matches .raised then
        some (s, workerRaised pc)
      else none
    | _ => none
  | _ => none

/-- Between `queue.get()` and `task_done()`. -/
def Busy : WorkerPc σ → Bool
  | .idle | .returned | .raised => false
  | _ => true

def Finished : WorkerPc σ → Bool
  | .returned | .raised => true
  | _ => false

/-! ## Start and recovery -/

/-- The types recovery reads. -/
def lifecycleTypes : List AgentEventType :=
  [.decisionAuthorized, .actionSucceeded, .actionFailed, .actionSkipped, .actionCompensated,
    .actionCompensationFailed, .actionAbandoned]

/-- The events recovery takes for the agent's own. -/
def readable (history : List AgentEvent) : List AgentEvent :=
  history.filter fun event =>
    event.type ∈ lifecycleTypes ∧ event.source = cfg.agentId ∧ event.subject.isSome

/-- The ledger after the events were read in order. -/
def restoreLedger (ledger : String → Option CapabilityResult) (history : List AgentEvent) :
    String → Option CapabilityResult :=
  history.foldl (fun ledger event =>
    match event.type, event.payload.idempotencyKey with
    | .actionSucceeded, some key =>
      Function.update ledger key (some
        { success := true, output := event.payload.output.getD .empty })
    | _, _ => ledger) ledger

def terminal (history : List AgentEvent) : List String :=
  (history.filter fun event => event.type ≠ .decisionAuthorized).filterMap AgentEvent.subject

/-- The last readable authorization of each subject, in the order of the log. -/
def authorized : List AgentEvent → List Pending
  | [] => []
  | event :: history =>
    let later := authorized history
    match event.type, event.payload.intent with
    | .decisionAuthorized, some intent =>
      if later.any fun pending => pending.authorization.subject = event.subject then later
      else ⟨event, intent⟩ :: later
    | _, _ => later

/-- The authorized actions without a terminal event. -/
def pendingOf (history : List AgentEvent) : List Pending :=
  (authorized history).filter fun pending =>
    pending.authorization.subject.all fun subject => subject ∉ terminal history

/-- The event `start` is about to emit. -/
def mainDraft : MainPc → Option Draft
  | .announcing =>
    some { type := .agentStarted, source := cfg.agentId, subject := some cfg.agentId
           payload := { workers := some cfg.workers } }
  | .abandoning started _ pending payload =>
    some { type := .actionAbandoned, source := cfg.agentId
           subject := some pending.intent.intentId, causationId := some started, payload }
  | .reauthorizing started _ pending capability decision =>
    some { type := .decisionReauthorized, source := cfg.agentId
           subject := some pending.intent.intentId, causationId := some started
           payload := { originalAuthorizationEventId := some pending.authorization.id
                        reason := some decision.reason
                        effectiveAuthority := some decision.effectiveAuthority
                        effectiveRisk := some decision.effectiveRisk }
           note := { basis := some capability } }
  | .requesting _ _ pending _ reauthorization =>
    some { type := .recoveryRequested, source := cfg.agentId
           subject := some pending.intent.intentId, causationId := some reauthorization
           payload := { authorizationEventId := some pending.authorization.id
                        intent := some pending.intent } }
  | _ => none

def mainEmitted (pc : MainPc) (id : EventId) : MainPc :=
  match pc with
  | .announcing => .reading id
  | .abandoning started rest _ _ => .recovering started rest
  | .reauthorizing started rest pending capability _ =>
    .requesting started rest pending capability id
  | .requesting started rest pending capability _ => .acquiring started rest pending capability id
  | pc => pc

/-- What recovery does with an unfinished intent, given a snapshot. -/
def reconsider (s : AgentRuntime σ) (started : EventId) (rest : List Pending) (pending : Pending)
    (situation : σ) : MainPc :=
  let intent := pending.intent
  match s.registry.get intent.capability with
  | .error _ => .raised
  | .ok capability =>
    if capability.spec.idempotent = false then
      .abandoning started rest pending
        { reason := some
            "non-idempotent capability requires explicit operator reconciliation after crash"
          capability := some intent.capability, idempotencyKey := intent.idempotencyKey }
    else
      match PolicyEngine.authorize cfg.profile s.rules intent capability.spec situation with
      | .error _ => .raised
      | .ok decision =>
        if decision.allowed then .reauthorizing started rest pending capability decision
        else
          .abandoning started rest pending
            { reason := some s!"recovery reauthorization failed: {decision.reason}"
              capability := some intent.capability }

/-- The head of the loop over the unfinished intents. -/
def recoverNext (s : AgentRuntime σ) (started : EventId) : List Pending → MainPc
  | [] => .returned
  | pending :: rest =>
    if (s.registry pending.intent.capability).isSome then .snapshotting started rest pending
    else
      .abandoning started rest pending
        { reason := some "capability unavailable during crash recovery"
          capability := some pending.intent.capability }

/-- `start` runs to its next await. -/
def mainStep (s : AgentRuntime σ) : Choice σ → Option (AgentRuntime σ × MainPc)
  | .emit outcome =>
    (mainDraft cfg s.main).map fun draft =>
      match s.emit draft outcome with
      | (t, some id) => (t, mainEmitted s.main id)
      | (t, none) => (t, .raised)
  | .snapshot situation =>
    match s.main with
    | .snapshotting started rest pending => some (s, s.reconsider cfg started rest pending situation)
    | _ => none
  | .reflect event =>
    match s.main with
    | .reflecting _ _ => some ((s.store event.draft).1, s.main)
    | _ => none
  | .go =>
    match s.main with
    | .starting =>
      some ({ s with
        subscribed := true
        workers := List.replicate cfg.workers .idle
        heartbeat := if cfg.heartbeat then .sleeping else .off
        running := true }, .announcing)
    | .reading started => some (s, .loaded started (readable cfg s.history))
    | .loaded started history =>
      some ({ s with ledger := restoreLedger s.ledger history },
        .recovering started (pendingOf history))
    | .recovering started rest => some (s, s.recoverNext started rest)
    | .acquiring started rest pending capability request =>
      match s.attention.acquire pending.intent.attentionCost with
      | .error _ => some (s, .raised)
      | .ok (_, none) => some (s, .recovering started rest)
      | .ok (attention, some lease) =>
        some ({ s with attention }.spawn pending.intent capability request lease true,
          .executing started rest s.actions.length)
    | .executing started rest index =>
      match s.ending index with
      | some (.returned true) => some (s, .reflecting started rest)
      | some (.returned false) => some (s, .recovering started rest)
      | some .raised => some (s, .raised)
      | none => none
    | .reflecting started rest => some (s, .recovering started rest)
    | _ => none
  | .raises =>
    match s.main with
    | .starting | .reading _ | .snapshotting _ _ _ | .reflecting _ _ => some (s, .raised)
    | _ => none
  | _ => none

/-! ## The heartbeat and `stop` -/

def heartbeatDraft : Draft :=
  { type := .timerHeartbeat, source := cfg.agentId, subject := some cfg.agentId }

def heartbeatStep (s : AgentRuntime σ) : Choice σ → Option (AgentRuntime σ × HeartbeatPc)
  | .go =>
    match s.heartbeat with
    | .sleeping => some (s, .emitting)
    | .detached => some ((s.store (heartbeatDraft cfg)).1, .off)
    | _ => none
  | .emit outcome =>
    match s.heartbeat with
    | .emitting =>
      match s.emit (heartbeatDraft cfg) outcome with
      | (s, some _) => some (s, .sleeping)
      | (s, none) => some (s, .off)
    | _ => none
  | _ => none

def stoppedDraft : Draft :=
  { type := .agentStopped, source := cfg.agentId, subject := some cfg.agentId }

/-- `self._heartbeat_task.cancel()`, at whichever await it is. -/
def cancelHeartbeat (s : AgentRuntime σ) : Choice σ → Option (AgentRuntime σ)
  | .go =>
    match s.heartbeat with
    | .detached => none
    | _ => some { s with heartbeat := .off }
  | .detach =>
    match s.heartbeat with
    | .emitting => some { s with heartbeat := .detached }
    | _ => none
  | _ => none

/-- `stop` runs to its next await. -/
def stopperStep (s : AgentRuntime σ) (choice : Choice σ) : Option (AgentRuntime σ × StopPc) :=
  match s.stopper, choice with
  | .cancelling graceful, choice =>
    (s.cancelHeartbeat choice).map fun s => (s, .unsubscribing graceful)
  | .unsubscribing graceful, .go =>
    some ({ s with subscribed := false }, if graceful then .joining else .putting s.workers.length)
  | .joining, .go =>
    if s.queue = [] ∧ ∀ pc ∈ s.workers, Busy pc = false then
      some (s, .putting s.workers.length)
    else none
  | .putting 0, .go => some (s, .gathering)
  | .putting (count + 1), .go =>
    if Full cfg.queueSize s.queue then none
    else some ({ s with queue := putPriority QueueItem.priority .stop s.queue }, .putting count)
  | .gathering, .go =>
    if ∀ pc ∈ s.workers, Finished pc = true then
      some ({ s with workers := [], running := false }, .announcing)
    else none
  | .announcing, .emit outcome =>
    match s.emit (stoppedDraft cfg) outcome with
    | (s, some _) => some (s, .closing)
    | (s, none) => some (s, .raised)
  | .closing, .go => some (s, .returned)
  | .closing, .raises => some (s, .raised)
  | _, _ => none

/-! ## The machine -/

/-- A new process, with what it registers. -/
def boot (s : AgentRuntime σ) (registry : CapabilityRegistry) (rules : List (PolicyRule σ)) :
    Option (AgentRuntime σ) :=
  match s.main with
  | .absent =>
    some { create cfg with
      trace := s.trace ++ [.boot], nextUuid := s.nextUuid, registry, rules, main := .starting }
  | _ => none

/-- The process ends, whatever it was doing. -/
def crash (s : AgentRuntime σ) : AgentRuntime σ :=
  { create cfg with
    trace := s.trace, nextUuid := s.nextUuid, registry := s.registry, rules := s.rules }

def step (s : AgentRuntime σ) : AgentLabel σ → Option (AgentRuntime σ)
  | .boot registry rules => s.boot cfg registry rules
  | .crash => some (s.crash cfg)
  | .external event =>
    if event.source = cfg.agentId then none else some (s.store event.draft).1
  | .register capability replace =>
    match s.registry.register capability replace with
    | .ok registry => some { s with registry }
    | .error _ => none
  | .addRule rule => some { s with rules := s.rules ++ [rule] }
  | .onEvent trigger priority =>
    if s.subscribed = true ∧ ¬ Full cfg.queueSize s.queue then
      some { s with
        queue := putPriority QueueItem.priority (.trigger trigger priority) s.queue }
    else none
  | .stop graceful =>
    if s.running = true ∧ s.stopping = false then
      some { s with stopping := true, stopper := .cancelling graceful }
    else none
  | .heartbeat choice => do
    let (s, heartbeat) ← s.heartbeatStep cfg choice
    return { s with heartbeat }
  | .worker index choice => do
    let (s, pc) ← s.workerStep cfg (← s.workers[index]?) choice
    return { s with workers := s.workers.set index pc }
  | .action index choice => do
    let action ← s.actions[index]?
    let (s, pc) ← s.actionStep cfg action choice
    return { s with actions := s.actions.set index { action with pc } }
  | .capabilityEmit index event =>
    match s.actions[index]? with
    | some { pc := .invoking _ _ _, .. } | some { pc := .compensating _ _, .. } =>
      some (s.store event.draft).1
    | _ => none
  | .main choice => do
    let (s, main) ← s.mainStep cfg choice
    return { s with main }
  | .stopper choice => do
    let (s, stopper) ← s.stopperStep cfg choice
    return { s with stopper }

end AgentRuntime
end Noema
