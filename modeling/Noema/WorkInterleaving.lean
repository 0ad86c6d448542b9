import Noema.WorkViews

/-!
# Coordinators over one log

Any number of calls on any number of coordinators run over one log, interleaved at their
awaits, each with a projection of its own coordinator; a call may be cancelled at each
await, and others append events that are not about work.  The kernel commits under its
lock, so a call of `emit` or `emit_if_head` is one step of the log.

Graphs and leases with decisions are compared with the head of the log; orders, records,
proposals, leases without decisions, completions, expirations and invalidations are not.
If what such an event needs is still so when it is appended (`Timely`), the log stays
accepted, and with it the laws of leases; the first event that comes too late makes every
later replay fail (`coordinated_iff`).
-/
namespace Noema
open Programs Programs.Program WorkProjection

variable {ids : WorkIds} {floats : FloatProduct} {log : WorkLog} {p q : WorkProjection}
  {source : String} {event : WorkEvent}

/-! ## What is known of an event when it is emitted -/

/-- The calls of a command: what it has checked, and the events that it emits unchecked. -/
inductive Prepared (ids : WorkIds) (floats : FloatProduct) (log : WorkLog) : LogOp → Prop
  | checked {op} (h : Checked ids floats (Behind ids floats) Recent log op) :
      Prepared ids floats log op
  | order {order : WorkOrder} {source} : Prepared ids floats log (.emit (order.toEvent source))
  | presence {presence : AgentPresence} {source} :
      Prepared ids floats log (.emit (presence.toEvent ids source))
  | manifest {manifest : CapabilityManifest} {source} :
      Prepared ids floats log (.emit (manifest.toEvent source))
  | estimate {estimate : CompetenceEstimate} {source} (hseeded : estimate.basis = .seeded) :
      Prepared ids floats log (.emit (estimate.toEvent source))
  | proposal {call order proposal}
      (horder : PlanStore.OrderRead ids floats log.rows call.workOrderId order) :
      Prepared ids floats log (.emit (PlanStore.proposalEvent call order proposal))
  | completion {q lease source acceptedAt artifactRefs reportedFinishedAt verificationPassed event}
      (hsees : Behind ids floats q log) (hfind : q.leases.find lease.leaseId = some lease)
      (hevent : WorkLease.completionEvent lease source acceptedAt artifactRefs reportedFinishedAt
        verificationPassed = .ok event) :
      Prepared ids floats log (.emit event)

namespace Coordinator

variable {coordinator : Coordinator} {α : Type}

/-- Every call of the program is prepared. -/
abbrev Prepares (ids : WorkIds) (floats : FloatProduct) (program : CoordinatorProgram α)
    (Q : WorkLog → α → Prop) (log : WorkLog) : Prop :=
  program.Meets kernel Grew (Prepared ids floats) Q log

theorem prepares_of_follows {program : CoordinatorProgram α} {Q : WorkLog → α → Prop}
    (h : Follows ids floats Grew (Behind ids floats) Recent program Q log) :
    Prepares ids floats program Q log :=
  h.weaken fun _ _ => .checked

theorem reload_prepares {Q : WorkLog → WorkProjection → Prop}
    (h : ∀ t q, Grew log t → rebuild ids floats t.rows = .ok q → Q t q) :
    Prepares ids floats (reload ids floats) Q log :=
  prepares_of_follows (reload_follows h)

theorem emit_prepares {Q : WorkLog → WorkEvent × WorkProjection → Prop}
    (hprepared : ∀ t, Grew log t → Prepared ids floats t (.emit event))
    (h : ∀ t t' stored q', Grew log t → t.Commits event stored t' →
      { stored with sequence := none } = event → Q t' (stored, q')) :
    Prepares ids floats (emit ids floats q event) Q log := by
  refine meets_bind.mpr fun t ht => ⟨hprepared t ht, ?_⟩
  show Prepares ids floats (project ids floats q event _) Q _
  exact prepares_of_follows (project_follows fun q' hsame _ =>
    h t _ _ q' ht (t.commits_emit event) hsame)

theorem recordEvent_prepares {fromEvent : WorkEvent → Except PyError α}
    (hprepared : ∀ t, Prepared ids floats t (.emit event)) :
    Prepares ids floats (recordEvent ids floats event fromEvent) (fun _ _ => True) log := by
  refine meets_bind.mpr (reload_prepares fun t q _ _ => ?_)
  refine meets_bind.mpr (emit_prepares (fun u _ => hprepared u) fun _ _ _ _ _ _ _ => ?_)
  exact meets_ofExcept.mpr fun _ _ => trivial

theorem complete_prepares (report : CompletionReport) (acceptedAt : Datetime) :
    Prepares ids floats (coordinator.complete ids floats report acceptedAt) (fun _ _ => True) log := by
  refine meets_bind.mpr (reload_prepares fun t q ht hq => ?_)
  split
  · trivial
  · rename_i lease hlease
    split
    · trivial
    · refine meets_bind.mpr (meets_ofExcept.mpr fun event hevent => ?_)
      have hfind := (activeLease_some.mp hlease).1
      have hid : lease.leaseId = report.leaseId := KeyedTable.find_key hfind
      refine meets_bind.mpr (emit_prepares (fun u hu => ?_) fun _ _ _ _ _ _ _ => ?_)
      · exact .completion ((Behind.read hq).rely hu.grows) (hid ▸ hfind) hevent
      · dsimp only
        split <;> trivial

theorem plan_prepares (workOrderId : String) (propose : Planner) (clock : Nat → Datetime)
    (attempts : Nat) :
    Prepares ids floats (coordinator.plan ids floats workOrderId propose clock attempts)
      (fun _ _ => True) log := by
  refine meets_bind.mpr (reload_prepares fun t q ht hq => ?_)
  split
  · trivial
  · rename_i order horder
    refine meets_bind.mpr (meets_ofExcept.mpr fun proposal _ => ?_)
    refine meets_bind.mpr (reload_prepares fun u q' hu _ => ?_)
    have hread : ∀ {v : WorkLog}, u.rows <+: v.rows →
        PlanStore.OrderRead ids floats v.rows workOrderId order :=
      fun hv => ⟨t.rows, q, hu.grows.trans hv, hq, horder⟩
    refine meets_bind.mpr (emit_prepares (fun v hv => .proposal (hread hv.grows)) ?_)
    intro v v' stored q'' hv hcommits hsame
    exact prepares_of_follows (planLoop_follows shared_sight
      (hread (hv.grows.trans hcommits.grows))
      ⟨stored, hcommits.mem, type_of_same hsame, payload_of_same hsame⟩ attempts)

/-- A result that is dropped. -/
theorem dropped_prepares {program : CoordinatorProgram α}
    (h : Prepares ids floats program (fun _ _ => True) log) :
    Prepares ids floats (do let _ ← program) (fun _ _ => True) log :=
  meets_bind.mpr (h.mono fun _ _ _ => trivial)

end Coordinator

open Coordinator in
/-- **Every call of a command is prepared**, whatever others append. -/
theorem command_prepares {coordinator : Coordinator} (command : Command) :
    Prepares ids floats (command.program ids floats coordinator) (fun _ _ => True) log := by
  cases command with
  | recordWorkOrder order => exact dropped_prepares (recordEvent_prepares fun _ => .order)
  | recordPresence presence => exact dropped_prepares (recordEvent_prepares fun _ => .presence)
  | recordManifest manifest => exact dropped_prepares (recordEvent_prepares fun _ => .manifest)
  | recordCompetence estimate =>
    refine dropped_prepares ?_
    unfold recordCompetence
    split
    · trivial
    · rename_i hseeded
      exact recordEvent_prepares fun _ => .estimate (not_not.mp hseeded)
  | plan workOrderId propose clock attempts =>
    exact dropped_prepares (plan_prepares workOrderId propose clock attempts)
  | assignReady workOrderId coverage time decideAgain =>
    exact dropped_prepares (prepares_of_follows
      (assignReady_follows shared_sight workOrderId coverage time decideAgain))
  | complete report acceptedAt => exact dropped_prepares (complete_prepares report acceptedAt)
  | recoverExpired expiredAt =>
    exact dropped_prepares (prepares_of_follows (recoverExpired_follows shared_sight expiredAt))
  | invalidateFor trigger reason invalidatedAt =>
    exact dropped_prepares (prepares_of_follows
      (invalidateFor_follows shared_sight trigger reason invalidatedAt))

/-! ## Decisions follow their heads -/

theorem WorkLog.DecisionsExact.append (h : log.DecisionsExact)
    (hnew : event.IsDecision → ∀ decision, event.payload = .decision decision →
      decision.causalEventCursor = log.latestSequence) : (log.append event).DecisionsExact := by
  intro before row after decision hrows hdecision hpayload
  have hrows : log.rows ++ [event.withSequence log.nextSequence] = before ++ row :: after := hrows
  rcases List.eq_nil_or_concat after with rfl | ⟨after, last, rfl⟩
  · obtain ⟨hbefore, hrow⟩ := List.append_inj' hrows rfl
    cases List.cons.inj hrow with
    | intro hrow _ =>
      subst hbefore hrow
      exact hnew hdecision decision hpayload
  · rw [List.concat_eq_append, ← List.cons_append, ← List.append_assoc] at hrows
    exact h before row after decision (List.append_inj' hrows rfl).1 hdecision hpayload

/-- A decision is only emitted on the head that it names. -/
theorem Prepared.exact {op : LogOp} (h : Prepared ids floats log op) (hexact : log.DecisionsExact) :
    (kernel.state log op).DecisionsExact := by
  rcases WorkLog.kernel_cases log op with heq | ⟨event, hop, -, heq⟩
  · rw [heq]
    exact hexact
  · rw [heq]
    refine hexact.append fun hdecision decision hpayload => ?_
    cases h with
    | checked h =>
      cases h with
      | history => rcases hop with hop | hop <;> cases hop
      | graph =>
        rcases hop with hop | hop <;> cases hop
        rcases hdecision with hdecision | hdecision <;> cases hdecision
      | decision hcursor =>
        rcases hop with hop | hop <;> cases hop
        cases hpayload
        exact hcursor
      | lease =>
        rcases hop with hop | hop <;> cases hop
        rcases hdecision with hdecision | hdecision <;> cases hdecision
      | @governedLease state graph node time found lease source =>
        obtain rfl : lease.toEvent source (WorkGraph.eventId graph.graphId) = event := by
          rcases hop with hop | hop
          · cases hop
          · exact (LogOp.emitIfHead.inj hop).1
        rcases hdecision with hdecision | hdecision <;> cases hdecision
      | expiration _ _ hevent =>
        rcases hop with hop | hop <;> cases hop
        obtain ⟨-, -, rfl⟩ := Coordinator.expirationEvent_fields hevent
        rcases hdecision with hdecision | hdecision <;> cases hdecision
      | invalidation _ _ _ _ hevent =>
        rcases hop with hop | hop <;> cases hop
        obtain ⟨_, -, -, -, -, -, rfl⟩ := Coordinator.planInvalidationEvent_fields hevent
        rcases hdecision with hdecision | hdecision <;> cases hdecision
    | order | presence | manifest | estimate | proposal =>
      rcases hop with hop | hop <;> cases hop
      rcases hdecision with hdecision | hdecision <;> cases hdecision
    | completion _ _ hevent =>
      rcases hop with hop | hop <;> cases hop
      obtain ⟨-, -, rfl⟩ := completionEvent_fields hevent
      rcases hdecision with hdecision | hdecision <;> cases hdecision

/-! ## Events that come in time -/

/-- The estimates of a projection are seeded. -/
theorem rebuild_seeded {history : List WorkEvent} (h : rebuild ids floats history = .ok p) :
    ∀ estimate ∈ p.competence.rows, estimate.basis = .seeded := by
  refine rebuild_induction (I := fun _ p => ∀ estimate ∈ p.competence.rows,
    estimate.basis = .seeded) (fun _ h => (nomatch h)) ?_ ?_ h
  · intro _ _ _ _ ih _
    exact ih
  · intro _ event q q' sequence _ ih _ _ _ hrecorded
    cases hrecorded with
    | @estimate estimate _ _ hseeded =>
      intro other hother
      rcases KeyedTable.mem_put.mp hother with rfl | ⟨hold, -⟩
      · exact hseeded
      · exact ih other hold
    | _ => exact ih

theorem estimates_mem {agentId : String} {capabilities : List String}
    {estimates : List CompetenceEstimate} (h : p.estimates agentId capabilities = some estimates) :
    ∀ estimate ∈ estimates, estimate ∈ p.competence.rows := by
  unfold WorkProjection.estimates at h
  induction capabilities generalizing estimates with
  | nil =>
    cases h
    exact fun _ h => (nomatch h)
  | cons capability capabilities ih =>
    rw [List.mapM_cons] at h
    obtain ⟨estimate, hfind, h⟩ := Option.bind_eq_some_iff.mp h
    obtain ⟨rest, hrest, h⟩ := Option.bind_eq_some_iff.mp h
    cases h
    intro other hother
    rcases List.mem_cons.mp hother with rfl | hother
    · exact KeyedTable.mem_of_find hfind
    · exact ih hrest other hother

/-- The targets of a ready verification node are completed, so their workers stay. -/
theorem excludedWorkers_same {graph : WorkGraph} {node : WorkNode} (hledger : Ledger q)
    (hkeeps : Keeps q p) (hready : ReadyNode q graph node) :
    p.excludedWorkers graph.graphId node = q.excludedWorkers graph.graphId node := by
  have hsound := hledger.sound graph (KeyedTable.mem_of_find hready.findGraph)
  have hdone : q.PredecessorsDone graph.graphId node.nodeId :=
    ⟨graph, hready.findGraph, hready.predecessors⟩
  refine List.filterMap_congr fun targetId htarget => ?_
  have hcompleted := hledger.reaches_completed hready.findGraph
    (hsound.targets node hready.mem targetId htarget) hdone
  obtain ⟨completion, hcompletion⟩ := Option.isSome_iff_exists.mp hcompleted
  unfold workerForNode
  rw [hcompletion, hkeeps.completions _ _ hcompletion]

/-- **A lease that comes in time fits**, if its decisions do. -/
theorem leaseEvent_fits_later {sequence : Nat} {history : List WorkEvent} {graph : WorkGraph}
    {node : WorkNode} {time : Datetime} {found : WorkerMatch} {lease : WorkLease}
    (hp : rebuild ids floats history = .ok p) (hledger : Ledger q) (hkeeps : Keeps q p)
    (hgranted : Granted floats q graph node time found lease) (hopen : StillOpen floats p lease)
    (hinformation : p.validateInformationAccess lease node = .ok ()) :
    EventFits ids floats p (lease.toEvent source (WorkGraph.eventId graph.graphId)) sequence := by
  have hbefore := nodeReady_of_granted hledger hgranted
  have hfindGraph := hkeeps.graphs _ _ hbefore.findGraph
  have hready : NodeReady p lease graph node := by
    refine ⟨hfindGraph, hopen.active, hbefore.findNode, hopen.incomplete, hopen.free, ?_, hopen.token⟩
    intro predecessorId hpredecessor
    obtain ⟨completion, hfind⟩ :=
      Option.isSome_iff_exists.mp (hbefore.predecessors predecessorId hpredecessor)
    exact Option.isSome_of_eq_some (hkeeps.completions _ _ hfind)
  obtain ⟨presence, hpresence, havailable, hcapacity⟩ := hopen.agent
  obtain ⟨estimates, hcompetent⟩ := hopen.competent graph node hfindGraph hbefore.findNode
  have hagent : AgentFit floats p lease node presence estimates := by
    refine ⟨hpresence, havailable, hcapacity, hcompetent.manifest, hcompetent.findEstimates, ?_,
      hcompetent.refs, hcompetent.score, ?_, hinformation⟩
    · intro estimate hestimate
      exact rebuild_seeded hp estimate (estimates_mem hcompetent.findEstimates estimate hestimate)
    · obtain ⟨_, _, hmatched⟩ := hgranted.matched
      rw [hgranted.place.1, excludedWorkers_same hledger hkeeps hgranted.ready, hgranted.agent.1]
      exact hmatched.independent
  refine ⟨_, .lease rfl (fromEvent_grant ..) ?_ hready hagent⟩
  rw [hgranted.place.1]
  rfl

/-- **An event of a command that comes in time fits.** -/
theorem Prepared.fits {op : LogOp} (h : Prepared ids floats log op) (hlog : log.Numbered)
    (hp : rebuild ids floats log.rows = .ok p)
    (hop : op = .emit event ∨ op = .emitIfHead event log.latestSequence)
    (hnew : log.stored? event.id = none) (hopen : Open ids floats p event) :
    EventFits ids floats p event log.nextSequence := by
  cases h with
  | checked h =>
    cases h with
    | history => rcases hop with hop | hop <;> cases hop
    | graph hmade =>
      rcases hop with hop | hop <;> cases hop
      exact graphMade_fits hlog hp hmade
    | decision =>
      rcases hop with hop | hop <;> cases hop
      exact decisionEvent_fits _
    | @lease q graph node time found lease source hsees hgranted hungoverned hrefs =>
      rcases hop with hop | hop <;> cases hop
      refine leaseEvent_fits_later hp hsees.ledger (hsees.keeps p hp) hgranted hopen ?_
      unfold validateInformationAccess
      rw [if_pos hungoverned]
      exact if_pos hrefs
    | @governedLease state graph node time found lease source hsees hgranted hgoverned hevident
        hcited =>
      obtain ⟨rfl, hhead⟩ : lease.toEvent source (WorkGraph.eventId graph.graphId) = event ∧
          state.expectedHead = log.latestSequence := by
        rcases hop with hop | hop
        · cases hop
        · exact LogOp.emitIfHead.inj hop
      refine leaseEvent_fits_later hp hsees.ledger (hsees.keeps p hp) hgranted hopen ?_
      -- The head is the expected one, so the evidence is the last of the log.
      obtain ⟨upto, hupto, hexpected, hevidence⟩ := hevident
      rw [hlog.same_head hupto List.prefix_rfl (hexpected.trans hhead)] at hevidence
      obtain ⟨_, _, hmatched⟩ := hgranted.matched
      exact hevidence.valid hlog hp hgoverned hgranted.agent.1 hgranted.agent.2 hcited
        (hmatched.access hgoverned)
    | @expiration q lease source expiredAt reason event hsees hactive hevent =>
      rcases hop with hop | hop <;> cases hop
      obtain ⟨-, -, rfl⟩ := Coordinator.expirationEvent_fields hevent
      obtain ⟨found, hfound⟩ := Option.isSome_iff_exists.mp hopen
      have hfind := (hsees.keeps p hp).leases _ _ (KeyedTable.find_of_mem hactive.1)
      obtain ⟨hsame, -⟩ := activeLease_some.mp hfound
      cases hfind.symm.trans hsame
      exact expirationEvent_fits hfound hevent
    | invalidation hsees hgraph hactive htrigger hevent =>
      rcases hop with hop | hop <;> cases hop
      obtain ⟨_, -, -, -, -, -, rfl⟩ := Coordinator.planInvalidationEvent_fields hevent
      exact invalidationEvent_fits ((hsees.keeps p hp).graphs _ _ hgraph) hopen
        (KeyedTable.find_of_mem ((mem_events hp _).mpr htrigger)) hevent
  | order =>
    rcases hop with hop | hop <;> cases hop
    exact (orderEvent_fits (order_fresh hp hnew)).mpr hopen
  | presence =>
    rcases hop with hop | hop <;> cases hop
    exact presenceEvent_fits.mpr hopen
  | manifest =>
    rcases hop with hop | hop <;> cases hop
    exact manifestEvent_fits.mpr hopen
  | estimate hseeded =>
    rcases hop with hop | hop <;> cases hop
    exact estimateEvent_fits.mpr ⟨hopen.1, hseeded, hopen.2⟩
  | proposal horder =>
    rcases hop with hop | hop <;> cases hop
    have hfind := horder.again hp
    rw [← KeyedTable.find_key hfind] at hfind
    refine (proposalEvent_fits hfind (proposal_fresh hp hnew)).mpr ⟨hopen.1, ?_⟩
    exact (append_right_injective (Option.some.inj hopen.2)).symm
  | @completion q lease source acceptedAt artifactRefs reportedFinishedAt verificationPassed event
      hsees hfind hevent =>
    rcases hop with hop | hop <;> cases hop
    obtain ⟨-, -, rfl⟩ := completionEvent_fields hevent
    obtain ⟨found, hfound, hcompletable⟩ := hopen
    obtain ⟨hsame, -⟩ := activeLease_some.mp hfound
    cases ((hsees.keeps p hp).leases _ _ hfind).symm.trans hsame
    exact (completionEvent_fits hfound hevent).mpr hcompletable

/-! ## The pool -/

/-- A log on which coordinators start. -/
structure WorkLog.Ready (ids : WorkIds) (floats : FloatProduct) (log : WorkLog) : Prop where
  numbered : log.Numbered
  exact : log.DecisionsExact
  accepted : log.Accepted ids floats

/-- What holds of a log that coordinators share: it is replayed without an error, no node
has two active leases, and each grant was within the agent's concurrency. -/
structure Coordinated (ids : WorkIds) (floats : FloatProduct) (log : WorkLog)
    (p : WorkProjection) : Prop where
  replayed : rebuild ids floats log.rows = .ok p
  oneActive : ∀ l ∈ p.leases.rows, ∀ m ∈ p.leases.rows, p.isActive l = true →
    p.isActive m = true → l.key = m.key → l = m
  capacity : ∀ lease q, GrantedAt ids floats log.rows lease q →
    ∃ presence, q.presence.find lease.agentId = some presence ∧
      q.activeLeaseCount lease.agentId < presence.maxConcurrency

theorem coordinated_of_replay (hp : rebuild ids floats log.rows = .ok p) :
    Coordinated ids floats log p where
  replayed := hp
  oneActive := (rebuild_ledger hp).oneActive
  capacity lease q hgranted := by
    obtain ⟨-, -, -, graph, node, presence, estimates, -, hagent⟩ := hgranted.spec hp
    exact ⟨presence, hagent.findPresence, hagent.capacity⟩

abbrev CoordinatorPool := Pool WorkLog LogOp LogOp.Answer PyError

/-- `start` is a call of a command, `outside` an event of another component. -/
inductive CoordinatorLabel
  | start (coordinator : Coordinator) (command : Command)
  | call (index : Nat)
  | abort (index : Nat)
  | outside (event : WorkEvent)

/-- The event is not about work. -/
def WorkEvent.isForeign (event : WorkEvent) : Bool :=
  match event.type with
  | .other _ => true
  | _ => false

/-- If the operation appends an event, what the event needs is still so. -/
def Opens (ids : WorkIds) (floats : FloatProduct) (log : WorkLog) (op : LogOp) : Prop :=
  ∀ event p, op = .emit event ∨ op = .emitIfHead event log.latestSequence →
    log.stored? event.id = none → rebuild ids floats log.rows = .ok p → Open ids floats p event

namespace CoordinatorPool

variable (ids : WorkIds) (floats : FloatProduct)

def start (log : WorkLog) : CoordinatorPool := ⟨log, []⟩

def step (pool : CoordinatorPool) : CoordinatorLabel → Option CoordinatorPool
  | .start coordinator command =>
    Pool.step kernel pool (.start (command.program ids floats coordinator))
  | .call index => Pool.step kernel pool (.call index)
  | .abort index => Pool.step kernel pool (.abort index)
  | .outside event =>
    if event.isForeign then
      Pool.step kernel pool (.outside (kernel.state pool.shared (.emit event)))
    else none

/-- The event that a call appends comes in time. -/
def Timely (pool : CoordinatorPool) : CoordinatorLabel → Prop
  | .call index => ∀ op next, pool.tasks[index]? = some (.call op next) →
    Opens ids floats pool.shared op
  | _ => True

variable {ids floats} {pool pool' : CoordinatorPool}

/-- The log is in order, and every call to come is prepared. -/
abbrev Consistent (ids : WorkIds) (floats : FloatProduct) (pool : CoordinatorPool) : Prop :=
  Pool.Consistent kernel Grew (Prepared ids floats) (WorkLog.Ready ids floats) pool

theorem rows_state (log : WorkLog) (op : LogOp) : log.rows <+: (kernel.state log op).rows := by
  rcases WorkLog.kernel_cases log op with heq | ⟨event, -, -, heq⟩
  · simp [heq]
  · rw [heq]
    exact List.prefix_append _ _

theorem grew_state {op : LogOp} (hlog : log.Numbered) (hexact : (kernel.state log op).DecisionsExact) :
    Grew log (kernel.state log op) :=
  ⟨rows_state log op, hlog.state op, hexact⟩

/-- A prepared call whose event comes in time. -/
theorem ready_state {op : LogOp} (hready : log.Ready ids floats) (hprepared : Prepared ids floats log op)
    (hopens : Opens ids floats log op) :
    (kernel.state log op).Ready ids floats ∧ Grew log (kernel.state log op) := by
  have hexact := hprepared.exact hready.exact
  obtain ⟨p, hp⟩ := hready.accepted
  refine ⟨⟨hready.numbered.state op, hexact, ?_⟩, grew_state hready.numbered hexact⟩
  refine accepted_state hready.numbered hp fun event hop hnew => ?_
  exact hprepared.fits hready.numbered hp hop hnew (hopens event p hop hnew hp)

/-- An event of another component. -/
theorem ready_outside (hready : log.Ready ids floats) (hforeign : event.isForeign = true) :
    (kernel.state log (.emit event)).Ready ids floats ∧
      Grew log (kernel.state log (.emit event)) := by
  have htype : ∃ type, event.type = .other type := by
    unfold WorkEvent.isForeign at hforeign
    split at hforeign
    · exact ⟨_, ‹_›⟩
    · cases hforeign
  obtain ⟨p, hp⟩ := hready.accepted
  have hexact : (kernel.state log (.emit event)).DecisionsExact := by
    rcases WorkLog.kernel_cases log (.emit event) with heq | ⟨other, hop, -, heq⟩
    · rw [heq]
      exact hready.exact
    · rw [heq]
      rcases hop with hop | hop <;> cases hop
      refine hready.exact.append fun hdecision => ?_
      obtain ⟨type, htype⟩ := htype
      simp [WorkEvent.IsDecision, htype] at hdecision
  refine ⟨⟨hready.numbered.state _, hexact, ?_⟩, grew_state hready.numbered hexact⟩
  exact (accepted_emit hready.numbered hp).mpr (Or.inr ⟨p, .other (Or.inr (Or.inr htype))⟩)

/-- **A step that comes in time keeps the pool consistent.** -/
theorem Consistent.step (h : Consistent ids floats pool) {l : CoordinatorLabel}
    (htimely : Timely ids floats pool l) (hs : step ids floats pool l = some pool') :
    Consistent ids floats pool' := by
  have hrefl : ∀ log : WorkLog, log.Ready ids floats → Grew log log :=
    fun log hlog => ⟨List.prefix_rfl, hlog.numbered, hlog.exact⟩
  cases l with
  | start coordinator command =>
    have hs : Pool.step kernel pool (.start (command.program ids floats coordinator)) = some pool' := hs
    refine Pool.Consistent.step h hrefl Grew.trans ?_ ?_ ?_ hs
    · rintro _ ⟨⟩
      exact command_prepares command
    · rintro _ _ _ ⟨⟩
    · rintro _ ⟨⟩
  | call index =>
    have hs : Pool.step kernel pool (.call index) = some pool' := hs
    refine Pool.Consistent.step h hrefl Grew.trans ?_ ?_ ?_ hs
    · rintro _ ⟨⟩
    · rintro _ op next ⟨⟩ htask hprepared
      exact ready_state h.shared hprepared (htimely op next htask)
    · rintro _ ⟨⟩
  | abort index =>
    have hs : Pool.step kernel pool (.abort index) = some pool' := hs
    refine Pool.Consistent.step h hrefl Grew.trans ?_ ?_ ?_ hs
    · rintro _ ⟨⟩
    · rintro _ _ _ ⟨⟩
    · rintro _ ⟨⟩
  | outside event =>
    simp only [CoordinatorPool.step] at hs
    split at hs
    · rename_i hforeign
      refine Pool.Consistent.step h hrefl Grew.trans ?_ ?_ ?_ hs
      · rintro _ ⟨⟩
      · rintro _ _ _ ⟨⟩
      · rintro _ ⟨⟩
        exact ready_outside h.shared hforeign
    · cases hs

theorem state_of_new {op : LogOp}
    (hop : op = .emit event ∨ op = .emitIfHead event log.latestSequence)
    (hnew : log.stored? event.id = none) : kernel.state log op = log.append event := by
  rcases hop with rfl | rfl
  · simp [kernel, hnew]
  · simp [kernel, hnew]

/-- **An event that comes too late is rejected on every replay.** -/
theorem rejected_of_late (hnumbered : pool.shared.Numbered) {l : CoordinatorLabel}
    (hlate : ¬ Timely ids floats pool l) (hs : step ids floats pool l = some pool') :
    ¬ pool'.shared.Accepted ids floats := by
  cases l with
  | start | abort | outside => exact absurd trivial hlate
  | call index =>
    simp only [Timely, Opens, not_forall, exists_prop] at hlate
    obtain ⟨op, next, htask, event, p, hop, hnew, hp, hclosed⟩ := hlate
    simp only [step, Pool.step, htask] at hs
    cases hs
    show ¬ (kernel.state pool.shared op).Accepted ids floats
    rw [state_of_new hop hnew, accepted_append hnumbered hp hnew]
    exact fun hfits => hclosed (open_of_fits hfits)

theorem rows_grow {l : CoordinatorLabel} (hs : step ids floats pool l = some pool') :
    pool.shared.rows <+: pool'.shared.rows := by
  cases l with
  | start | abort =>
    cases hs
    exact List.prefix_rfl
  | call index =>
    simp only [step, Pool.step] at hs
    split at hs
    · cases hs
      exact rows_state _ _
    · cases hs
  | outside event =>
    simp only [step] at hs
    split at hs
    · cases hs
      exact rows_state pool.shared (.emit event)
    · cases hs

/-- The log after the plan has been accepted. -/
def plannedLog : WorkLog where
  rows := numbered (reviewSetup ++
    [firstPlan.toEvent "coordinator" (WorkOrder.eventId reviewOrder.workOrderId),
     firstGraph.toEvent "coordinator" (PlanProposal.eventId firstPlan.proposalId)])
  nextSequence := 10

theorem plannedLog_ready : plannedLog.Ready reviewIds exactProduct where
  numbered := ⟨by decide +kernel, by decide +kernel, by decide⟩
  exact := by
    have hnone : ∀ row ∈ plannedLog.rows, row.type ≠ .informationAccessDecided ∧
        row.type ≠ .disclosureDecided := by decide +kernel
    intro before row after decision hrows hdecision _
    obtain ⟨haccess, hdisclosure⟩ := hnone row (by simp [hrows])
    exact hdecision.elim (fun h => absurd h haccess) (fun h => absurd h hdisclosure)
  accepted := by decide +kernel

/-- The assignment of the nodes that are ready. -/
def assignReview : Command :=
  .assignReady reviewOrder.workOrderId none (.utc 3) fun _ _ => .error (.runtimeError "ungoverned")

/-- Ada reports that she is off. -/
def adaLeaves : Command :=
  .recordPresence { reviewPresence "ada" 1 1 ada_named Nat.one_pos (by decide) with
    status := .offline }

/-- Both calls one after the other: the report comes first. -/
def oneAfterTheOther : List CoordinatorLabel :=
  [.start reviewCoordinator adaLeaves, .call 0, .call 0,
   .start reviewCoordinator assignReview, .call 1, .call 1]

/-- The assignment reads the log before the report is stored, and appends after it. -/
def interleaved : List CoordinatorLabel :=
  [.start reviewCoordinator assignReview, .start reviewCoordinator adaLeaves,
   .call 0, .call 1, .call 1, .call 0]

end CoordinatorPool

end Noema
