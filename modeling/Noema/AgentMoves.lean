import Noema.AgentRuntime

/-!
# What a step of the agent can do

Each transition function is inverted once, into one constructor for each thing it
can do (`ActionMove`, `WorkerMove`, `MainMove`, `StopMove`); an emit is a draft that
is stored, or not, and a task that goes on or raises (`Logs`).  `step_cases` puts
them together, and every invariant of the agent is derived from it.
-/
namespace Noema
open AsyncQueue

/-- The positions from which an action raises on its own. -/
def ActionPc.MayRaise : ActionPc → Prop
  | .ready _ _ 0 | .invoking _ _ _ | .effecting _ [] | .failed _ _ | .compensating _ _ => True
  | _ => False

/-- The positions from which `start` raises on its own. -/
def MainPc.MayRaise : MainPc → Prop
  | .starting | .reading _ | .snapshotting _ _ _ | .reflecting _ _ | .executing _ _ _ => True
  | _ => False

/-- The action is inside its capability. -/
def ActionPc.Calling : ActionPc → Bool
  | .invoking _ _ _ | .compensating _ _ => true
  | _ => false

namespace AgentRuntime

variable {σ : Type} {cfg : AgentConfig} {s : AgentRuntime σ}

/-- Storing a draft: under a new id, under its own, or not again. -/
inductive Logs (s : AgentRuntime σ) (draft : Draft) : EventId → AgentRuntime σ → Prop
  | own (hid : draft.id = none) : Logs s draft (.uuid s.nextUuid)
      { s with
        trace := s.trace ++ [.event (draft.event (.uuid s.nextUuid)) draft.note]
        nextUuid := s.nextUuid + 1 }
  | app {id : String} (hid : draft.id = some id) (hnew : s.logged (.app id) = false) :
      Logs s draft (.app id)
        { s with trace := s.trace ++ [.event (draft.event (.app id)) draft.note] }
  | known {id : String} (hid : draft.id = some id) (hknown : s.logged (.app id) = true) :
      Logs s draft (.app id) s

theorem store_logs (s : AgentRuntime σ) (draft : Draft) :
    Logs s draft (s.store draft).2 (s.store draft).1 := by
  unfold store
  split
  · rename_i id hid
    split
    · rename_i hknown
      exact .known hid hknown
    · rename_i hnew
      exact .app hid (Bool.of_not_eq_true hnew)
  · rename_i hid
    exact .own hid

/-- A raised emit stored its draft, or did not. -/
def MayLog (s : AgentRuntime σ) (draft : Draft) (s' : AgentRuntime σ) : Prop :=
  s' = s ∨ ∃ id, Logs s draft id s'

theorem emit_cases {draft : Draft} {outcome : EmitOutcome} {s' : AgentRuntime σ}
    {answer : Option EventId} (h : s.emit draft outcome = (s', answer)) :
    (∃ id, answer = some id ∧ Logs s draft id s') ∨
      (answer = none ∧ outcome ≠ .returns ∧ MayLog s draft s') := by
  cases outcome with
  | returns =>
    cases h
    exact Or.inl ⟨_, rfl, store_logs s draft⟩
  | raisesBefore =>
    cases h
    exact Or.inr ⟨rfl, by rintro ⟨⟩, Or.inl rfl⟩
  | raisesAfter =>
    cases h
    exact Or.inr ⟨rfl, by rintro ⟨⟩, Or.inr ⟨_, store_logs s draft⟩⟩

/-- What a step of an action can do. -/
inductive ActionMove (cfg : AgentConfig) (s : AgentRuntime σ) (action : Action) :
    Choice σ → AgentRuntime σ → ActionPc → Prop
  | emitted {outcome draft id s'} (hdraft : actionDraft cfg action = some draft)
      (hlogs : Logs s draft id s') :
      ActionMove cfg s action (.emit outcome) s' (actionEmitted action.pc id)
  | emitRaised {outcome draft s'} (hdraft : actionDraft cfg action = some draft)
      (houtcome : outcome ≠ .returns) (hlogs : MayLog s draft s') :
      ActionMove cfg s action (.emit outcome) s' (.leaving .raised)
  | enter (hpc : action.pc = .waiting) (hslots : s.slots ≠ 0) :
      ActionMove cfg s action .go { s with slots := s.slots - 1 } (s.enter action.intent)
  | invoke {capability started attempts} (hpc : action.pc = .ready capability started attempts) :
      ActionMove cfg s action .go (s.observe (.invoke action.intent capability action.recovered))
        (.invoking capability started (attempts + 1))
  | answer {capability started attempts} (hpc : action.pc = .invoking capability started attempts)
      (result : CapabilityResult) :
      ActionMove cfg s action (.invoked result) s (answered capability started attempts result)
  | record {completed result key} (hpc : action.pc = .succeeded completed result)
      (hkey : action.intent.idempotencyKey = some key) :
      ActionMove cfg s action .go { s with ledger := Function.update s.ledger key (some result) }
        (.effecting completed result.effects)
  | unkeyed {completed result} (hpc : action.pc = .succeeded completed result)
      (hkey : action.intent.idempotencyKey = none) :
      ActionMove cfg s action .go s (.effecting completed result.effects)
  | complete {completed} (hpc : action.pc = .effecting completed []) :
      ActionMove cfg s action .go s (.leaving (.returned true))
  | compensate {capability failedEvent} (hpc : action.pc = .failed capability failedEvent)
      (hcompensates : compensates action.intent capability = true) :
      ActionMove cfg s action .go (s.observe (.compensate action.intent capability))
        (.compensating capability failedEvent)
  | fail {capability failedEvent} (hpc : action.pc = .failed capability failedEvent) :
      ActionMove cfg s action .go s (.leaving (.returned true))
  | compensated {capability failedEvent} (hpc : action.pc = .compensating capability failedEvent)
      (result : CapabilityResult) :
      ActionMove cfg s action (.invoked result) s (.compensated failedEvent result)
  | raises (hpc : action.pc.MayRaise) : ActionMove cfg s action .raises s (.leaving .raised)
  | leave {how} (hpc : action.pc = .leaving how) :
      ActionMove cfg s action .go { s with slots := s.slots + 1 } (.settling how)
  | settle {how} (hpc : action.pc = .settling how) :
      ActionMove cfg s action .go
        { s with attention := s.attention.settle action.lease action.intent.attentionCost none }
        (.ended how)

theorem actionStep_move {action : Action} {choice : Choice σ} {s' : AgentRuntime σ} {pc : ActionPc}
    (h : s.actionStep cfg action choice = some (s', pc)) : ActionMove cfg s action choice s' pc := by
  unfold actionStep at h
  split at h
  · obtain ⟨draft, hdraft, h⟩ := Option.map_eq_some_iff.mp h
    split at h
    · rename_i hemit
      cases h
      rcases emit_cases hemit with ⟨id, hid, hlogs⟩ | ⟨hid, -, -⟩
      · cases hid
        exact .emitted hdraft hlogs
      · cases hid
    · rename_i hemit
      cases h
      rcases emit_cases hemit with ⟨id, hid, -⟩ | ⟨-, houtcome, hlogs⟩
      · cases hid
      · exact .emitRaised hdraft houtcome hlogs
  · split at h
    · rename_i hpc
      split at h
      · cases h
      · rename_i hslots
        cases h
        exact .enter hpc hslots
    · rename_i hpc
      cases h
      exact .invoke hpc
    · rename_i hpc
      split at h
      · rename_i hkey
        cases h
        exact .record hpc hkey
      · rename_i hkey
        cases h
        exact .unkeyed hpc hkey
    · rename_i hpc
      cases h
      exact .complete hpc
    · rename_i hpc
      split at h
      · rename_i hcompensates
        cases h
        exact .compensate hpc hcompensates
      · cases h
        exact .fail hpc
    · rename_i hpc
      cases h
      exact .leave hpc
    · rename_i hpc
      cases h
      exact .settle hpc
    · cases h
  · split at h
    · rename_i hpc
      cases h
      exact .answer hpc _
    · rename_i hpc
      cases h
      exact .compensated hpc _
    · cases h
  · split at h
    · rename_i hpc
      cases h
      exact .raises (by rw [hpc]; trivial)
    · rename_i hpc
      cases h
      exact .raises (by rw [hpc]; trivial)
    · rename_i hpc
      cases h
      exact .raises (by rw [hpc]; trivial)
    · rename_i hpc
      cases h
      exact .raises (by rw [hpc]; trivial)
    · rename_i hpc
      cases h
      exact .raises (by rw [hpc]; trivial)
    · cases h
  · cases h

/-- What a step of a worker can do. -/
inductive WorkerMove (cfg : AgentConfig) (s : AgentRuntime σ) (pc : WorkerPc σ) :
    Choice σ → AgentRuntime σ → WorkerPc σ → Prop
  | emitted {outcome draft id s'} (hdraft : workerDraft cfg pc = some draft)
      (hlogs : Logs s draft id s') : WorkerMove cfg s pc (.emit outcome) s' (workerEmitted pc id)
  | emitRaised {outcome draft s'} (hdraft : workerDraft cfg pc = some draft)
      (houtcome : outcome ≠ .returns) (hlogs : MayLog s draft s') :
      WorkerMove cfg s pc (.emit outcome) s' (workerRaised pc)
  | take {id priority queue} (hpc : pc = .idle) (hqueue : s.queue = .trigger id priority :: queue) :
      WorkerMove cfg s pc .go { s with queue } (.deliberating id)
  | stop {queue} (hpc : pc = .idle) (hqueue : s.queue = .stop :: queue) :
      WorkerMove cfg s pc .go { s with queue } .returned
  | deliberated {trigger} (hpc : pc = .deliberating trigger) (situation : σ)
      (accepted : List ActionIntent) :
      WorkerMove cfg s pc (.deliberated situation accepted) s
        (.proposing ⟨trigger, situation, []⟩ accepted)
  | selected {cycle accepted indices} (hpc : pc = .selecting cycle accepted)
      (hselects : s.Selects cfg accepted indices) :
      WorkerMove cfg s pc (.selected indices) s
        (.choosing cycle (indices.filterMap fun index => accepted[index]?))
  | choose {cycle rest} (hpc : pc = .choosing cycle rest) :
      WorkerMove cfg s pc .go s (s.chooseNext cfg cycle rest)
  | defer {cycle rest intent capability authorization}
      (hpc : pc = .acquiring cycle rest intent capability authorization) :
      WorkerMove cfg s pc .go s (.deferring cycle rest intent authorization)
  | spawn {cycle rest intent capability authorization attention lease}
      (hpc : pc = .acquiring cycle rest intent capability authorization)
      (hacquire : s.attention.acquire intent.attentionCost = .ok (attention, some lease)) :
      WorkerMove cfg s pc .go
        ({ s with attention }.spawn intent capability authorization lease false)
        (.choosing { cycle with spawned := cycle.spawned ++ [s.actions.length] } rest)
  | gathered {cycle} (hpc : pc = .gathering cycle)
      (hended : ∀ index ∈ cycle.spawned, ∃ how, s.ending index = some how) :
      WorkerMove cfg s pc .go s (.reflecting cycle.trigger)
  | reflect {trigger event id s'} (hpc : pc = .reflecting trigger)
      (hlogs : Logs s event.draft id s') : WorkerMove cfg s pc (.reflect event) s' pc
  | reflected {trigger} (hpc : pc = .reflecting trigger) : WorkerMove cfg s pc .go s .idle
  | raises : WorkerMove cfg s pc .raises s (workerRaised pc)

theorem workerStep_move {pc : WorkerPc σ} {choice : Choice σ} {s' : AgentRuntime σ}
    {pc' : WorkerPc σ} (h : s.workerStep cfg pc choice = some (s', pc')) :
    WorkerMove cfg s pc choice s' pc' := by
  unfold workerStep at h
  split at h
  · obtain ⟨draft, hdraft, h⟩ := Option.map_eq_some_iff.mp h
    split at h
    · rename_i hemit
      cases h
      rcases emit_cases hemit with ⟨id, hid, hlogs⟩ | ⟨hid, -, -⟩
      · cases hid
        exact .emitted hdraft hlogs
      · cases hid
    · rename_i hemit
      cases h
      rcases emit_cases hemit with ⟨id, hid, -⟩ | ⟨-, houtcome, hlogs⟩
      · cases hid
      · exact .emitRaised hdraft houtcome hlogs
  · split at h
    · cases h
      exact .deliberated rfl _ _
    · cases h
  · split at h
    · split at h
      · rename_i hselects
        cases h
        exact .selected rfl hselects
      · cases h
    · cases h
  · split at h
    · cases h
      exact .reflect rfl (store_logs s _)
    · cases h
  · split at h
    · split at h
      · cases h
      · rename_i hqueue
        cases h
        exact .take rfl hqueue
      · rename_i hqueue
        cases h
        exact .stop rfl hqueue
    · cases h
      exact .choose rfl
    · rename_i intent _ _
      split at h
      · rename_i error hacquire
        obtain ⟨answer, hanswer⟩ := s.attention.acquire_ok intent.attentionCost_nonneg
        rw [hanswer] at hacquire
        cases hacquire
      · cases h
        exact .defer rfl
      · rename_i hacquire
        cases h
        exact .spawn rfl hacquire
    · rename_i cycle
      split at h
      · rename_i hended
        cases h
        refine .gathered rfl fun index hindex => ?_
        obtain ⟨how, hhow, -⟩ := (Option.any_eq_true _ _).mp (List.all_eq_true.mp hended index hindex)
        exact ⟨how, hhow⟩
      · cases h
    · cases h
      exact .reflected rfl
    · cases h
  · split at h
    · cases h
      exact .raises
    · cases h
      exact .raises
    · cases h
      exact .raises
    · cases h
      exact .raises
    · split at h
      · cases h
        exact .raises
      · cases h
    · cases h
  · cases h

/-- What a step of `start` and its recovery can do. -/
inductive MainMove (cfg : AgentConfig) (s : AgentRuntime σ) :
    Choice σ → AgentRuntime σ → MainPc → Prop
  | emitted {outcome draft id s'} (hdraft : mainDraft cfg s.main = some draft)
      (hlogs : Logs s draft id s') : MainMove cfg s (.emit outcome) s' (mainEmitted s.main id)
  | emitRaised {outcome draft s'} (hdraft : mainDraft cfg s.main = some draft)
      (houtcome : outcome ≠ .returns) (hlogs : MayLog s draft s') :
      MainMove cfg s (.emit outcome) s' .raised
  | begin (hpc : s.main = .starting) :
      MainMove cfg s .go
        { s with
          subscribed := true
          workers := List.replicate cfg.workers .idle
          heartbeat := if cfg.heartbeat then .sleeping else .off
          running := true } .announcing
  | read {started} (hpc : s.main = .reading started) :
      MainMove cfg s .go s (.loaded started (readable cfg s.history))
  | install {started history} (hpc : s.main = .loaded started history) :
      MainMove cfg s .go { s with ledger := restoreLedger s.ledger history }
        (.recovering started (pendingOf history))
  | next {started rest} (hpc : s.main = .recovering started rest) :
      MainMove cfg s .go s (s.recoverNext started rest)
  | reconsider {started rest pending} (hpc : s.main = .snapshotting started rest pending)
      (situation : σ) :
      MainMove cfg s (.snapshot situation) s (s.reconsider cfg started rest pending situation)
  | postpone {started rest pending capability request}
      (hpc : s.main = .acquiring started rest pending capability request) :
      MainMove cfg s .go s (.recovering started rest)
  | spawn {started rest pending capability request attention lease}
      (hpc : s.main = .acquiring started rest pending capability request)
      (hacquire : s.attention.acquire pending.intent.attentionCost = .ok (attention, some lease)) :
      MainMove cfg s .go ({ s with attention }.spawn pending.intent capability request lease true)
        (.executing started rest s.actions.length)
  | executed {started rest index} (hpc : s.main = .executing started rest index)
      (hended : ∃ how, s.ending index = some how) : MainMove cfg s .go s (.reflecting started rest)
  | skipped {started rest index} (hpc : s.main = .executing started rest index)
      (hended : ∃ how, s.ending index = some how) : MainMove cfg s .go s (.recovering started rest)
  | reflect {started rest event id s'} (hpc : s.main = .reflecting started rest)
      (hlogs : Logs s (AppEvent.draft event) id s') : MainMove cfg s (.reflect event) s' s.main
  | reflected {started rest} (hpc : s.main = .reflecting started rest) :
      MainMove cfg s .go s (.recovering started rest)
  | raises {choice} (hpc : s.main.MayRaise)
      (hended : ∀ started rest index, s.main = .executing started rest index →
        ∃ how, s.ending index = some how) : MainMove cfg s choice s .raised

theorem mainStep_move {choice : Choice σ} {s' : AgentRuntime σ} {pc : MainPc}
    (h : s.mainStep cfg choice = some (s', pc)) : MainMove cfg s choice s' pc := by
  unfold mainStep at h
  split at h
  · obtain ⟨draft, hdraft, h⟩ := Option.map_eq_some_iff.mp h
    split at h
    · rename_i hemit
      cases h
      rcases emit_cases hemit with ⟨id, hid, hlogs⟩ | ⟨hid, -, -⟩
      · cases hid
        exact .emitted hdraft hlogs
      · cases hid
    · rename_i hemit
      cases h
      rcases emit_cases hemit with ⟨id, hid, -⟩ | ⟨-, houtcome, hlogs⟩
      · cases hid
      · exact .emitRaised hdraft houtcome hlogs
  · split at h
    · rename_i hpc
      cases h
      exact .reconsider hpc _
    · cases h
  · split at h
    · rename_i hpc
      cases h
      exact .reflect hpc (store_logs s _)
    · cases h
  · split at h
    · rename_i hpc
      cases h
      exact .begin hpc
    · rename_i hpc
      cases h
      exact .read hpc
    · rename_i hpc
      cases h
      exact .install hpc
    · rename_i hpc
      cases h
      exact .next hpc
    · rename_i pending _ _ hpc
      split at h
      · rename_i error hacquire
        obtain ⟨answer, hanswer⟩ := s.attention.acquire_ok pending.intent.attentionCost_nonneg
        rw [hanswer] at hacquire
        cases hacquire
      · cases h
        exact .postpone hpc
      · rename_i hacquire
        cases h
        exact .spawn hpc hacquire
    · rename_i hpc
      split at h
      · rename_i hended
        cases h
        exact .executed hpc ⟨_, hended⟩
      · rename_i hended
        cases h
        exact .skipped hpc ⟨_, hended⟩
      · rename_i hended
        cases h
        refine .raises (by rw [hpc]; trivial) fun started rest index hpc' => ?_
        rw [hpc] at hpc'
        cases hpc'
        exact ⟨_, hended⟩
      · cases h
    · rename_i hpc
      cases h
      exact .reflected hpc
    · cases h
  · split at h
    · rename_i hpc
      cases h
      exact .raises (by rw [hpc]; trivial) (by rw [hpc]; rintro _ _ _ ⟨⟩)
    · rename_i hpc
      cases h
      exact .raises (by rw [hpc]; trivial) (by rw [hpc]; rintro _ _ _ ⟨⟩)
    · rename_i hpc
      cases h
      exact .raises (by rw [hpc]; trivial) (by rw [hpc]; rintro _ _ _ ⟨⟩)
    · rename_i hpc
      cases h
      exact .raises (by rw [hpc]; trivial) (by rw [hpc]; rintro _ _ _ ⟨⟩)
    · cases h
  · cases h

/-- What a step of the heartbeat can do. -/
inductive HeartbeatMove (cfg : AgentConfig) (s : AgentRuntime σ) :
    AgentRuntime σ → HeartbeatPc → Prop
  | beat (hpc : s.heartbeat = .sleeping) : HeartbeatMove cfg s s .emitting
  | late {id s'} (hpc : s.heartbeat = .detached) (hlogs : Logs s (heartbeatDraft cfg) id s') :
      HeartbeatMove cfg s s' .off
  | emitted {id s'} (hpc : s.heartbeat = .emitting) (hlogs : Logs s (heartbeatDraft cfg) id s') :
      HeartbeatMove cfg s s' .sleeping
  | emitRaised {s'} (hpc : s.heartbeat = .emitting) (hlogs : MayLog s (heartbeatDraft cfg) s') :
      HeartbeatMove cfg s s' .off

theorem heartbeatStep_move {choice : Choice σ} {s' : AgentRuntime σ} {pc : HeartbeatPc}
    (h : s.heartbeatStep cfg choice = some (s', pc)) : HeartbeatMove cfg s s' pc := by
  unfold heartbeatStep at h
  split at h
  · split at h
    · rename_i hpc
      cases h
      exact .beat hpc
    · rename_i hpc
      cases h
      exact .late hpc (store_logs s _)
    · cases h
  · split at h
    · rename_i hpc
      split at h
      · rename_i hemit
        cases h
        rcases emit_cases hemit with ⟨id, hid, hlogs⟩ | ⟨hid, -, -⟩
        · exact .emitted hpc hlogs
        · cases hid
      · rename_i hemit
        cases h
        rcases emit_cases hemit with ⟨id, hid, -⟩ | ⟨-, -, hlogs⟩
        · cases hid
        · exact .emitRaised hpc hlogs
    · cases h
  · cases h

/-- What a step of `stop` can do. -/
inductive StopMove (cfg : AgentConfig) (s : AgentRuntime σ) :
    Choice σ → AgentRuntime σ → StopPc → Prop
  | cancel {graceful} (hpc : s.stopper = .cancelling graceful) :
      StopMove cfg s .go { s with heartbeat := .off } (.unsubscribing graceful)
  | detach {graceful} (hpc : s.stopper = .cancelling graceful) :
      StopMove cfg s .detach { s with heartbeat := .detached } (.unsubscribing graceful)
  | unsubscribe {graceful} (hpc : s.stopper = .unsubscribing graceful) :
      StopMove cfg s .go { s with subscribed := false }
        (if graceful then .joining else .putting s.workers.length)
  | joined (hpc : s.stopper = .joining) : StopMove cfg s .go s (.putting s.workers.length)
  | putAll (hpc : s.stopper = .putting 0) : StopMove cfg s .go s .gathering
  | put {count} (hpc : s.stopper = .putting (count + 1)) :
      StopMove cfg s .go { s with queue := putPriority QueueItem.priority .stop s.queue }
        (.putting count)
  | gathered (hpc : s.stopper = .gathering) (hfinished : ∀ pc ∈ s.workers, Finished pc = true) :
      StopMove cfg s .go { s with workers := [], running := false } .announcing
  | emitted {outcome id s'} (hpc : s.stopper = .announcing)
      (hlogs : Logs s (stoppedDraft cfg) id s') : StopMove cfg s (.emit outcome) s' .closing
  | emitRaised {outcome s'} (hpc : s.stopper = .announcing)
      (hlogs : MayLog s (stoppedDraft cfg) s') : StopMove cfg s (.emit outcome) s' .raised
  | closed (hpc : s.stopper = .closing) : StopMove cfg s .go s .returned
  | closeRaised (hpc : s.stopper = .closing) : StopMove cfg s .raises s .raised

theorem stopperStep_move {choice : Choice σ} {s' : AgentRuntime σ} {pc : StopPc}
    (h : s.stopperStep cfg choice = some (s', pc)) : StopMove cfg s choice s' pc := by
  unfold stopperStep at h
  split at h
  · rename_i hpc
    obtain ⟨t, hcancel, h⟩ := Option.map_eq_some_iff.mp h
    cases h
    unfold cancelHeartbeat at hcancel
    split at hcancel
    · split at hcancel
      · cases hcancel
      · cases hcancel
        exact .cancel hpc
    · split at hcancel
      · cases hcancel
        exact .detach hpc
      · cases hcancel
    · cases hcancel
  · rename_i hpc
    cases h
    exact .unsubscribe hpc
  · rename_i hpc
    split at h
    · cases h
      exact .joined hpc
    · cases h
  · rename_i hpc
    cases h
    exact .putAll hpc
  · rename_i hpc
    split at h
    · cases h
    · cases h
      exact .put hpc
  · rename_i hpc
    split at h
    · rename_i hfinished
      cases h
      exact .gathered hpc hfinished
    · cases h
  · rename_i hpc
    split at h
    · rename_i hemit
      cases h
      rcases emit_cases hemit with ⟨id, hid, hlogs⟩ | ⟨hid, -, -⟩
      · exact .emitted hpc hlogs
      · cases hid
    · rename_i hemit
      cases h
      rcases emit_cases hemit with ⟨id, hid, -⟩ | ⟨-, -, hlogs⟩
      · cases hid
      · exact .emitRaised hpc hlogs
  · rename_i hpc
    cases h
    exact .closed hpc
  · rename_i hpc
    cases h
    exact .closeRaised hpc
  · cases h

/-! ## The machine -/

/-- What a step of the machine can do. -/
inductive Stepped (cfg : AgentConfig) (s : AgentRuntime σ) :
    AgentLabel σ → AgentRuntime σ → Prop
  | boot {registry rules} (hmain : s.main = .absent) :
      Stepped cfg s (.boot registry rules)
        { create cfg with
          trace := s.trace ++ [.boot], nextUuid := s.nextUuid, registry, rules, main := .starting }
  | crash : Stepped cfg s .crash (s.crash cfg)
  | external {event id s'} (hsource : event.source ≠ cfg.agentId)
      (hlogs : Logs s (AppEvent.draft event) id s') : Stepped cfg s (.external event) s'
  | register {capability replace} (registry : CapabilityRegistry) :
      Stepped cfg s (.register capability replace) { s with registry }
  | addRule {rule} : Stepped cfg s (.addRule rule) { s with rules := s.rules ++ [rule] }
  | onEvent {trigger priority} (hsubscribed : s.subscribed = true) :
      Stepped cfg s (.onEvent trigger priority)
        { s with queue := putPriority QueueItem.priority (.trigger trigger priority) s.queue }
  | stop {graceful} (hrunning : s.running = true) (hstopping : s.stopping = false) :
      Stepped cfg s (.stop graceful) { s with stopping := true, stopper := .cancelling graceful }
  | heartbeat {choice s' pc} (hmove : HeartbeatMove cfg s s' pc) :
      Stepped cfg s (.heartbeat choice) { s' with heartbeat := pc }
  | worker {index choice pc s' pc'} (hpc : s.workers[index]? = some pc)
      (hmove : WorkerMove cfg s pc choice s' pc') :
      Stepped cfg s (.worker index choice) { s' with workers := s'.workers.set index pc' }
  | action {index choice action s' pc} (haction : s.actions[index]? = some action)
      (hmove : ActionMove cfg s action choice s' pc) :
      Stepped cfg s (.action index choice)
        { s' with actions := s'.actions.set index { action with pc } }
  | capabilityEmit {index event action id s'} (haction : s.actions[index]? = some action)
      (hcalling : action.pc.Calling = true) (hlogs : Logs s (AppEvent.draft event) id s') :
      Stepped cfg s (.capabilityEmit index event) s'
  | main {choice s' pc} (hmove : MainMove cfg s choice s' pc) :
      Stepped cfg s (.main choice) { s' with main := pc }
  | stopper {choice s' pc} (hmove : StopMove cfg s choice s' pc) :
      Stepped cfg s (.stopper choice) { s' with stopper := pc }

/-- **Every step of the machine is one of these.** -/
theorem step_cases {l : AgentLabel σ} {s' : AgentRuntime σ} (h : s.step cfg l = some s') :
    Stepped cfg s l s' := by
  cases l with
  | boot registry rules =>
    simp only [step, boot] at h
    split at h
    · rename_i hmain
      cases h
      exact .boot hmain
    · cases h
  | crash =>
    cases h
    exact .crash
  | external event =>
    simp only [step] at h
    split at h
    · cases h
    · rename_i hsource
      cases h
      exact .external hsource (store_logs s _)
  | register capability replace =>
    simp only [step] at h
    split at h
    · cases h
      exact .register _
    · cases h
  | addRule rule =>
    cases h
    exact .addRule
  | onEvent trigger priority =>
    simp only [step] at h
    split at h
    · rename_i hcan
      cases h
      exact .onEvent hcan.1
    · cases h
  | stop graceful =>
    simp only [step] at h
    split at h
    · rename_i hcan
      cases h
      exact .stop hcan.1 hcan.2
    · cases h
  | heartbeat choice =>
    obtain ⟨⟨t, pc⟩, hmove, h⟩ := Option.bind_eq_some_iff.mp h
    cases h
    exact .heartbeat (heartbeatStep_move hmove)
  | worker index choice =>
    obtain ⟨pc, hpc, h⟩ := Option.bind_eq_some_iff.mp h
    obtain ⟨⟨t, pc'⟩, hmove, h⟩ := Option.bind_eq_some_iff.mp h
    cases h
    exact .worker hpc (workerStep_move hmove)
  | action index choice =>
    obtain ⟨action, haction, h⟩ := Option.bind_eq_some_iff.mp h
    obtain ⟨⟨t, pc⟩, hmove, h⟩ := Option.bind_eq_some_iff.mp h
    cases h
    exact .action haction (actionStep_move hmove)
  | capabilityEmit index event =>
    simp only [step] at h
    split at h
    · rename_i haction
      cases h
      exact .capabilityEmit haction rfl (store_logs s _)
    · rename_i haction
      cases h
      exact .capabilityEmit haction rfl (store_logs s _)
    · cases h
  | main choice =>
    obtain ⟨⟨t, pc⟩, hmove, h⟩ := Option.bind_eq_some_iff.mp h
    cases h
    exact .main (mainStep_move hmove)
  | stopper choice =>
    obtain ⟨⟨t, pc⟩, hmove, h⟩ := Option.bind_eq_some_iff.mp h
    cases h
    exact .stopper (stopperStep_move hmove)

end AgentRuntime
end Noema
