import Noema.WorkCoordination

/-!
# What a command has checked when it emits

The programs of the commands are followed once, whatever others do to the log between
two calls: `Sight` says what a command may still believe of a projection it has read,
and `Checked` what it knows of an event when it hands it to the kernel.
-/
namespace Noema
open Programs Programs.Program WorkProjection

variable {ids : WorkIds} {floats : FloatProduct} {log log' : WorkLog}

/-! ## The log -/

namespace WorkLog

/-- The rows are in the order of their sequences. -/
structure Numbered (log : WorkLog) : Prop where
  increasing : log.rows.Pairwise fun a b => a.seq < b.seq
  below : ∀ row ∈ log.rows, 0 < row.seq ∧ row.seq < log.nextSequence
  positive : 0 < log.nextSequence

theorem Numbered.append (h : log.Numbered) (event : WorkEvent) : (log.append event).Numbered := by
  refine ⟨?_, ?_, Nat.succ_pos _⟩
  · show (log.rows ++ [event.withSequence log.nextSequence]).Pairwise _
    rw [List.pairwise_append]
    refine ⟨h.increasing, List.pairwise_singleton _ _, ?_⟩
    intro other hother row hrow
    cases List.mem_singleton.mp hrow
    exact (h.below other hother).2
  · intro row hrow
    show 0 < row.seq ∧ row.seq < log.nextSequence + 1
    rcases List.mem_append.mp hrow with hrow | hrow
    · exact ⟨(h.below row hrow).1, (h.below row hrow).2.trans (Nat.lt_succ_self _)⟩
    · cases List.mem_singleton.mp hrow
      exact ⟨h.positive, Nat.lt_succ_self _⟩

/-- The kernel's answer to an emit, and the log after it. -/
def Commits (log : WorkLog) (event stored : WorkEvent) (log' : WorkLog) : Prop :=
  (log.stored? event.id = some stored ∧ log' = log) ∨
    (log.stored? event.id = none ∧ stored = event.withSequence log.nextSequence ∧
      log' = log.append event)

theorem commits_emit (log : WorkLog) (event : WorkEvent) :
    log.Commits event (kernel.answer log (.emit event)) (kernel.state log (.emit event)) := by
  cases hstored : log.stored? event.id with
  | some row =>
    refine Or.inl ⟨?_, ?_⟩
    · simp [kernel, hstored]
    · simp [kernel, hstored]
  | none =>
    refine Or.inr ⟨hstored, ?_, ?_⟩
    · simp [kernel, hstored]
    · simp [kernel, hstored]

/-- An append that is not refused found the head where it was expected, or the row was
there. -/
theorem commits_emitIfHead {event stored : WorkEvent} {expected : Nat}
    (h : kernel.answer log (.emitIfHead event expected) = .ok stored) :
    log.Commits event stored (kernel.state log (.emitIfHead event expected)) ∧
      (log.stored? event.id = none → log.latestSequence = expected) := by
  cases hstored : log.stored? event.id with
  | some row =>
    have hrow : Except.ok row = (.ok stored : Except PyError WorkEvent) := by
      simpa [kernel, hstored] using h
    cases hrow
    exact ⟨Or.inl ⟨hstored, by simp [kernel, hstored]⟩, fun hnone => nomatch hnone⟩
  | none =>
    by_cases hhead : log.latestSequence = expected
    · have hrow : Except.ok (event.withSequence log.nextSequence) =
          (.ok stored : Except PyError WorkEvent) := by
        simpa [kernel, hstored, hhead] using h
      cases hrow
      exact ⟨Or.inr ⟨hstored, rfl, by simp [kernel, hstored, hhead]⟩, fun _ => hhead⟩
    · have hrefused : (kernel.answer log (.emitIfHead event expected)) =
          .error (.concurrentAppendError expected log.latestSequence) := by
        simp [kernel, hstored, hhead]
      rw [hrefused] at h
      cases h

theorem Commits.mem {event stored : WorkEvent} (h : log.Commits event stored log') :
    stored ∈ log'.rows := by
  rcases h with ⟨hstored, rfl⟩ | ⟨-, rfl, rfl⟩
  · exact List.mem_of_find?_eq_some hstored
  · exact List.mem_append_right _ (List.mem_singleton.mpr rfl)

theorem Commits.grows {event stored : WorkEvent} (h : log.Commits event stored log') :
    log.rows <+: log'.rows := by
  rcases h with ⟨-, rfl⟩ | ⟨-, -, rfl⟩
  · exact List.prefix_rfl
  · exact List.prefix_append _ _

theorem Commits.numbered {event stored : WorkEvent} (h : log.Commits event stored log')
    (hlog : log.Numbered) : log'.Numbered := by
  rcases h with ⟨-, rfl⟩ | ⟨-, -, rfl⟩
  · exact hlog
  · exact hlog.append event

/-- What an operation does to the log. -/
theorem kernel_cases (log : WorkLog) (op : LogOp) : kernel.state log op = log ∨
    ∃ event, (op = .emit event ∨ op = .emitIfHead event log.latestSequence) ∧
      log.stored? event.id = none ∧ kernel.state log op = log.append event := by
  cases op with
  | history => exact Or.inl rfl
  | emit event =>
    rcases commits_emit log event with ⟨-, h⟩ | ⟨hnew, -, h⟩
    · exact Or.inl h
    · exact Or.inr ⟨event, Or.inl rfl, hnew, h⟩
  | emitIfHead event expected =>
    by_cases hstored : log.stored? event.id = none
    · by_cases hhead : log.latestSequence = expected
      · exact Or.inr ⟨event, Or.inr (by rw [hhead]), hstored, by simp [kernel, hstored, hhead]⟩
      · exact Or.inl (by simp [kernel, hstored, hhead])
    · exact Or.inl (by simp [kernel, Option.isSome_iff_ne_none, hstored])

theorem Numbered.state (h : log.Numbered) (op : LogOp) : (kernel.state log op).Numbered := by
  rcases kernel_cases log op with heq | ⟨event, -, -, heq⟩
  · rw [heq]
    exact h
  · rw [heq]
    exact h.append event

theorem stored?_none {id : String} (h : log.stored? id = none) {row : WorkEvent}
    (hrow : row ∈ log.rows) : row.id ≠ id := by
  have hnone := List.find?_eq_none.mp h row hrow
  simpa using hnone

/-- **An append to a log that is accepted** is accepted exactly if the event is recorded. -/
theorem append_accepted (hlog : log.Numbered) {p : WorkProjection}
    (hp : rebuild ids floats log.rows = .ok p) {event : WorkEvent}
    (hnew : log.stored? event.id = none) {q : WorkProjection} :
    rebuild ids floats (log.append event).rows = .ok q ↔
      ∃ r, Recorded ids floats p (event.withSequence log.nextSequence) log.nextSequence r ∧
        q = r.keep (event.withSequence log.nextSequence) log.nextSequence := by
  have hunknown : p.events.find event.id = none := by
    cases hfind : p.events.find event.id with
    | none => rfl
    | some row =>
      have hrow := (mem_events hp row).mp (KeyedTable.mem_of_find hfind)
      exact absurd (KeyedTable.find_key hfind) (stored?_none hnew hrow)
  have hlater : p.lastSequence < log.nextSequence := by
    have hbound : p.lastSequence ≤ log.nextSequence - 1 := by
      refine lastSequence_le hp fun row hrow => ?_
      have hbelow := (hlog.below row hrow).2
      unfold WorkEvent.seq at hbelow
      omega
    have hpositive := hlog.positive
    omega
  have happly : rebuild ids floats (log.append event).rows = .ok q ↔
      p.apply ids floats (event.withSequence log.nextSequence) = .ok q := by
    show rebuild ids floats (log.rows ++ [_]) = .ok q ↔ _
    rw [rebuild_append]
    constructor
    · rintro ⟨r, hr, hlast⟩
      rw [hp] at hr
      cases hr
      obtain ⟨q', happly, hq⟩ := bind_eq_ok hlast
      cases hq
      exact happly
    · intro happly
      exact ⟨p, hp, bind_ok_iff.mpr ⟨q, happly, rfl⟩⟩
  rw [happly, apply_ok]
  constructor
  · rintro (⟨hknown, -⟩ | ⟨-, sequence, r, hsequence, -, hrecorded, rfl⟩)
    · have hfound : p.events.find event.id = some (event.withSequence log.nextSequence) := hknown
      rw [hunknown] at hfound
      cases hfound
    · cases hsequence
      exact ⟨r, hrecorded, rfl⟩
  · rintro ⟨r, hrecorded, rfl⟩
    exact Or.inr ⟨hunknown, log.nextSequence, r, rfl, hlater, hrecorded, rfl⟩

end WorkLog

/-! ## What a command believes -/

theorem type_of_same {stored event : WorkEvent} (h : { stored with sequence := none } = event) :
    stored.type = event.type := by
  rw [← h]

theorem payload_of_same {stored event : WorkEvent} (h : { stored with sequence := none } = event) :
    stored.payload = event.payload := by
  rw [← h]

/-- Only the events that are known have changed. -/
def Unchanged (q q' : WorkProjection) : Prop :=
  ∃ events lastSequence, q' = { q with events, lastSequence }

theorem Unchanged.refl (q : WorkProjection) : Unchanged q q := ⟨q.events, q.lastSequence, rfl⟩

theorem Unchanged.trans {q q' q'' : WorkProjection} (h : Unchanged q q') (h' : Unchanged q' q'') :
    Unchanged q q'' := by
  obtain ⟨_, _, rfl⟩ := h
  obtain ⟨events, last, rfl⟩ := h'
  exact ⟨events, last, rfl⟩

/-- A decision changes nothing else. -/
theorem unchanged_of_decision {q q' : WorkProjection} {value : EvaluatedDecision} {source : String}
    {stored : WorkEvent} (hstored : { stored with sequence := none } = value.toEvent source)
    (h : q.apply ids floats stored = .ok q') : Unchanged q q' := by
  have htype : stored.type = .informationAccessDecided ∨ stored.type = .disclosureDecided := by
    rw [type_of_same hstored]
    unfold EvaluatedDecision.toEvent
    cases value.kind
    · exact Or.inl rfl
    · exact Or.inr rfl
  rcases apply_ok.mp h with ⟨-, rfl⟩ | ⟨-, sequence, r, -, -, hrecorded, rfl⟩
  · exact Unchanged.refl q'
  · cases hrecorded with
    | other => exact ⟨_, sequence, rfl⟩
    | order ht | proposal ht | graph ht | presence ht | manifest ht | estimate ht | lease ht
    | expiration ht | completion ht | invalidation ht => simp [ht] at htype

/-- A node that can be leased. -/
structure ReadyNode (q : WorkProjection) (graph : WorkGraph) (node : WorkNode) : Prop where
  findGraph : q.graphs.find graph.graphId = some graph
  active : q.graphIsActive graph.graphId = true
  mem : node ∈ graph.nodes
  incomplete : q.completed graph.graphId node.nodeId = false
  free : q.activeLeaseForNode graph.graphId node.nodeId = none
  predecessors : ∀ predecessorId ∈ graph.predecessors node.nodeId,
    q.completed graph.graphId predecessorId = true

theorem ReadyNode.unchanged {q q' : WorkProjection} {graph : WorkGraph} {node : WorkNode}
    (h : ReadyNode q graph node) (hsame : Unchanged q q') : ReadyNode q' graph node := by
  obtain ⟨_, _, rfl⟩ := hsame
  exact ⟨h.findGraph, h.active, h.mem, h.incomplete, h.free, h.predecessors⟩

theorem activeLeaseForNode_none {q : WorkProjection} {graphId nodeId : String} :
    q.activeLeaseForNode graphId nodeId = none ↔
      ∀ lease ∈ q.leases.rows, q.isActive lease = true →
        ¬ (lease.graphId = graphId ∧ lease.nodeId = nodeId) := by
  unfold activeLeaseForNode
  rw [List.find?_eq_none]
  constructor
  · intro h lease hlease hactive
    have hnot := h lease (mem_activeLeases.mpr ⟨hlease, hactive⟩)
    simpa using hnot
  · intro h lease hlease
    obtain ⟨hmem, hactive⟩ := mem_activeLeases.mp hlease
    simpa using h lease hmem hactive

/-- The grant of a lease on another node leaves a node ready. -/
theorem ReadyNode.applyLease {q q' : WorkProjection} {graph : WorkGraph} {node : WorkNode}
    {lease : WorkLease} {stored : WorkEvent} (h : ReadyNode q graph node)
    (hother : lease.nodeId ≠ node.nodeId) (htype : stored.type = .leaseGranted)
    (hpayload : stored.payload = .lease lease) (happly : q.apply ids floats stored = .ok q') :
    ReadyNode q' graph node := by
  rcases apply_ok.mp happly with ⟨-, rfl⟩ | ⟨-, sequence, r, -, -, hrecorded, rfl⟩
  · exact h
  · cases hrecorded with
    | order ht | proposal ht | graph ht | presence ht | manifest ht | estimate ht | expiration ht
    | completion ht | invalidation ht =>
      rw [htype] at ht
      cases ht
    | other ht => simp [htype] at ht
    | lease _ hread =>
      cases hpayload.symm.trans (lease_read hread).1
      refine ⟨h.findGraph, h.active, h.mem, h.incomplete, ?_, h.predecessors⟩
      refine activeLeaseForNode_none.mpr fun other hmem hactive hnode => ?_
      rcases KeyedTable.mem_put.mp hmem with rfl | ⟨hold, hne⟩
      · exact hother hnode.2
      · have hgrant : (q.grant lease).isActive other = true := hactive
        rw [isActive_grant, decide_eq_false hne.symm, Bool.false_or] at hgrant
        exact activeLeaseForNode_none.mp h.free other hold hgrant hnode

theorem matched_unchanged {q q' : WorkProjection} {graph : WorkGraph} {node : WorkNode}
    {time : Datetime} {found : WorkerMatch} {presence : AgentPresence}
    {estimates : List CompetenceEstimate}
    (h : WorkerMatcher.Matched floats q graph node time found presence estimates)
    (hsame : Unchanged q q') :
    WorkerMatcher.Matched floats q' graph node time found presence estimates := by
  obtain ⟨_, _, rfl⟩ := hsame
  exact ⟨h.findPresence, h.available, h.independent, h.capacity, h.manifest, h.findEstimates,
    h.seeded, h.refs, h.score, h.access⟩

/-- A lease that was made for a match on a ready node. -/
structure Granted (floats : FloatProduct) (q : WorkProjection) (graph : WorkGraph) (node : WorkNode)
    (time : Datetime) (found : WorkerMatch) (lease : WorkLease) : Prop where
  ready : ReadyNode q graph node
  matched : ∃ presence estimates,
    WorkerMatcher.Matched floats q graph node time found presence estimates
  place : lease.graphId = graph.graphId ∧ lease.nodeId = node.nodeId
  agent : lease.agentId = found.agentId ∧ lease.grantedAt = time
  token : lease.fencingToken = q.nextFencingToken graph.graphId node.nodeId
  evidence : lease.matchScore = found.score ∧
    lease.competenceEstimateRefs = found.competenceEstimateRefs

/-- The decisions that were admitted for a match are its decisions, made again. -/
structure Cited (found : WorkerMatch) (lease : WorkLease)
    (admitted : List (EvaluatedDecision × EvaluatedDecision)) : Prop where
  made : ∀ kind, (admitted.filter fun entry => entry.1.kind = kind &&
    entry.1.decision.decisionId ∈ WorkerMatcher.selectedIds (some found)).map (·.1.decision) =
      WorkerMatcher.decisionsOf kind found
  again : ∀ entry ∈ admitted, ∃ decisionId head,
    entry.2 = Coordinator.refreshed entry.1 decisionId head
  access : lease.informationAccessDecisionRefs = Coordinator.admittedIds .access found admitted
  disclosure : lease.informationDisclosureDecisionRefs =
    Coordinator.admittedIds .disclosure found admitted

/-- What a command may believe while the log changes by `R`: `Sees q log` of a projection
it has read and has projected its own events on, `Evident source log state` of the
decisions it has admitted. -/
structure Sight (ids : WorkIds) (floats : FloatProduct) (R : WorkLog → WorkLog → Prop)
    (Sees : WorkProjection → WorkLog → Prop)
    (Evident : String → WorkLog → Coordinator.Admitting → Prop) : Prop where
  grows : ∀ {s t}, R s t → s.rows <+: t.rows ∧ t.Numbered
  read : ∀ {s t q}, R s t → rebuild ids floats t.rows = .ok q → Sees q t
  rely : ∀ {s t q}, R s t → Sees q s → Sees q t
  own : ∀ {r s s' q q' event stored}, R r s → Sees q s → s.Commits event stored s' →
    { stored with sequence := none } = event →
    (event.type = .leaseGranted ∨ event.type = .leaseExpired ∨ event.type = .planInvalidated ∨
      event.type = .informationAccessDecided ∨ event.type = .disclosureDecided) →
    q.apply ids floats stored = .ok q' → Sees q' s'
  evident_none : ∀ {s q source}, Sees q s → Evident source s ⟨q, q.lastSequence, []⟩
  evident_rely : ∀ {s t source state}, R s t → Evident source s state → Evident source t state
  evident_more : ∀ {r s s' source state value decisionId stored q'},
    R r s → Evident source s state → isOpaqueId decisionId = true →
    s.Commits ((Coordinator.refreshed value decisionId state.expectedHead).toEvent source) stored s' →
    (s.stored? ((Coordinator.refreshed value decisionId state.expectedHead).toEvent source).id = none →
      s.latestSequence = state.expectedHead) →
    { stored with sequence := none } =
      (Coordinator.refreshed value decisionId state.expectedHead).toEvent source →
    state.expectedHead < stored.seq →
    Evident source s' ⟨q', stored.seq,
      state.admitted ++ [(value, Coordinator.refreshed value decisionId state.expectedHead)]⟩

/-- What has been checked of an event that no reader can check again. -/
inductive Checked (ids : WorkIds) (floats : FloatProduct) (Sees : WorkProjection → WorkLog → Prop)
    (Evident : String → WorkLog → Coordinator.Admitting → Prop) (log : WorkLog) : LogOp → Prop
  | history : Checked ids floats Sees Evident log .history
  | graph {call order cursor proposal graph head}
      (hmade : PlanStore.GraphMade ids floats log.rows call order cursor proposal graph head) :
      Checked ids floats Sees Evident log
        (.emitIfHead (PlanStore.graphEvent call proposal graph) head)
  | decision {value : EvaluatedDecision} {source head}
      (hcursor : value.decision.causalEventCursor = head) :
      Checked ids floats Sees Evident log (.emitIfHead (value.toEvent source) head)
  | lease {q graph node time found lease source} (hsees : Sees q log)
      (hgranted : Granted floats q graph node time found lease)
      (hungoverned : node.governedInformationRefs = [])
      (hrefs : lease.informationAccessDecisionRefs = [] ∧
        lease.informationDisclosureDecisionRefs = []) :
      Checked ids floats Sees Evident log
        (.emit (lease.toEvent source (WorkGraph.eventId graph.graphId)))
  | governedLease {state graph node time found lease source} (hsees : Sees state.projection log)
      (hgranted : Granted floats state.projection graph node time found lease)
      (hgoverned : node.governedInformationRefs ≠ []) (hevident : Evident source log state)
      (hcited : Cited found lease state.admitted) :
      Checked ids floats Sees Evident log
        (.emitIfHead (lease.toEvent source (WorkGraph.eventId graph.graphId)) state.expectedHead)
  | expiration {q lease source expiredAt reason event} (hsees : Sees q log)
      (hactive : lease ∈ q.leases.rows ∧ q.isActive lease = true)
      (hevent : WorkLease.expirationEvent lease source expiredAt reason = .ok event) :
      Checked ids floats Sees Evident log (.emit event)
  | invalidation {q graph trigger source invalidatedAt reason event} (hsees : Sees q log)
      (hgraph : q.graphs.find graph.graphId = some graph)
      (hactive : q.graphIsActive graph.graphId = true) (htrigger : trigger ∈ log.rows)
      (hevent : planInvalidationEvent graph trigger source invalidatedAt reason = .ok event) :
      Checked ids floats Sees Evident log (.emit event)

/-! ## Following the programs -/

namespace Coordinator

section Following

variable {coordinator : Coordinator} {R : WorkLog → WorkLog → Prop}
  {Sees : WorkProjection → WorkLog → Prop} {Evident : String → WorkLog → Admitting → Prop}
  {α : Type} {s : WorkLog} {q : WorkProjection} {event : WorkEvent}

/-- Every call of the program is checked, and what it returns meets `Q`. -/
abbrev Follows (ids : WorkIds) (floats : FloatProduct) (R : WorkLog → WorkLog → Prop)
    (Sees : WorkProjection → WorkLog → Prop) (Evident : String → WorkLog → Admitting → Prop)
    (program : CoordinatorProgram α) (Q : WorkLog → α → Prop) (s : WorkLog) : Prop :=
  program.Meets kernel R (Checked ids floats Sees Evident) Q s

theorem reload_follows {Q : WorkLog → WorkProjection → Prop}
    (h : ∀ t q, R s t → rebuild ids floats t.rows = .ok q → Q t q) :
    Follows ids floats R Sees Evident (reload ids floats) Q s :=
  meets_bind.mpr fun t ht => ⟨.history, meets_ofExcept.mpr fun q hq => h t q ht hq⟩

theorem project_follows {Q : WorkLog → WorkEvent × WorkProjection → Prop} {stored : WorkEvent}
    (h : ∀ q', { stored with sequence := none } = event → q.apply ids floats stored = .ok q' →
      Q s (stored, q')) :
    Follows ids floats R Sees Evident (project ids floats q event stored) Q s := by
  unfold project
  split
  · trivial
  · rename_i hsame
    exact meets_bind.mpr (meets_ofExcept.mpr fun q' hq' => h q' (not_not.mp hsame) hq')

theorem emit_follows {Q : WorkLog → WorkEvent × WorkProjection → Prop}
    (hchecked : ∀ t, R s t → Checked ids floats Sees Evident t (.emit event))
    (h : ∀ t t' stored q', R s t → t.Commits event stored t' →
      { stored with sequence := none } = event → q.apply ids floats stored = .ok q' →
      Q t' (stored, q')) :
    Follows ids floats R Sees Evident (emit ids floats q event) Q s := by
  refine meets_bind.mpr fun t ht => ⟨hchecked t ht, ?_⟩
  exact project_follows fun q' hsame hq' => h t _ _ q' ht (t.commits_emit event) hsame hq'

/-- A conditional append is refused, or it commits. -/
theorem ifHead_follows {Q : WorkLog → α → Prop} {expected : Nat}
    {next : Except PyError WorkEvent → CoordinatorProgram α}
    (hchecked : ∀ t, R s t → Checked ids floats Sees Evident t (.emitIfHead event expected))
    (hrefused : ∀ t error, R s t → Follows ids floats R Sees Evident (next (.error error)) Q t)
    (h : ∀ t t' stored, R s t → t.Commits event stored t' →
      (t.stored? event.id = none → t.latestSequence = expected) →
      Follows ids floats R Sees Evident (next (.ok stored)) Q t') :
    Follows ids floats R Sees Evident (perform (.emitIfHead event expected) >>= next) Q s := by
  refine meets_bind.mpr fun t ht => ⟨hchecked t ht, ?_⟩
  show Follows ids floats R Sees Evident (next (kernel.answer t (.emitIfHead event expected))) Q
    (kernel.state t (.emitIfHead event expected))
  cases hanswer : (kernel.answer t (.emitIfHead event expected) : Except PyError WorkEvent) with
  | error error =>
    have hstate : kernel.state t (.emitIfHead event expected) = t := by
      cases hstored : t.stored? event.id with
      | some row => simp [kernel, hstored]
      | none =>
        by_cases hhead : t.latestSequence = expected
        · simp [kernel, hstored, hhead] at hanswer
        · simp [kernel, hstored, hhead]
    rw [hstate]
    exact hrefused t error ht
  | ok stored =>
    obtain ⟨hcommits, hhead⟩ := WorkLog.commits_emitIfHead hanswer
    exact h t _ stored ht hcommits hhead

theorem emitIfHead_follows {Q : WorkLog → WorkEvent × WorkProjection → Prop} {expected : Nat}
    (hchecked : ∀ t, R s t → Checked ids floats Sees Evident t (.emitIfHead event expected))
    (h : ∀ t t' stored q', R s t → t.Commits event stored t' →
      { stored with sequence := none } = event → q.apply ids floats stored = .ok q' →
      Q t' (stored, q')) :
    Follows ids floats R Sees Evident (emitIfHead ids floats q event expected) Q s :=
  ifHead_follows hchecked (fun _ _ _ => trivial) fun t t' stored ht hcommits _ =>
    project_follows fun q' hsame hq' => h t t' stored q' ht hcommits hsame hq'

/-- What the loop over material decisions keeps. -/
structure AdmittingFrom (Sees : WorkProjection → WorkLog → Prop)
    (Evident : String → WorkLog → Admitting → Prop) (source : String) (q : WorkProjection)
    (material items : List EvaluatedDecision) (log : WorkLog) (state : Admitting) : Prop where
  numbered : log.Numbered
  sees : Sees state.projection log
  unchanged : Unchanged q state.projection
  evident : Evident source log state
  split : state.admitted.map Prod.fst ++ items = material
  again : ∀ entry ∈ state.admitted, ∃ decisionId head, entry.2 = refreshed entry.1 decisionId head

/-- **The admission of a decision.** -/
theorem admit_follows (sight : Sight ids floats R Sees Evident) {decideAgain : Readmission}
    {material items : List EvaluatedDecision} {value : EvaluatedDecision} {state : Admitting}
    (h : AdmittingFrom Sees Evident coordinator.source q material (value :: items) s state) :
    Follows ids floats R Sees Evident (coordinator.admitDecision ids floats decideAgain state value)
      (AdmittingFrom Sees Evident coordinator.source q material items) s := by
  refine meets_bind.mpr fun t ht => ⟨.history, ?_⟩
  show Meets _ _ _ _ (if _ then _ else _) _
  split
  · trivial
  refine meets_bind.mpr (meets_ofExcept.mpr fun decisionId _ => ?_)
  split
  · trivial
  rename_i hopaque
  refine ifHead_follows (fun _ _ => .decision rfl) (fun _ _ _ => trivial) ?_
  intro u u' stored hu hcommits hhead
  dsimp only
  split
  · trivial
  rename_i hsame
  have hsame := not_not.mp hsame
  split
  · trivial
  rename_i hlater
  refine meets_bind.mpr (meets_ofExcept.mpr fun p hp => ?_)
  have hnumbered := (sight.grows hu).2
  have hsees := sight.rely hu (sight.rely ht h.sees)
  have hevident := sight.evident_rely hu (sight.evident_rely ht h.evident)
  refine ⟨hcommits.numbered hnumbered, ?_, h.unchanged.trans (unchanged_of_decision hsame hp), ?_,
    ?_, ?_⟩
  · refine sight.own hu hsees hcommits hsame ?_ hp
    cases hkind : value.kind <;> simp [EvaluatedDecision.toEvent, refreshed, hkind]
  · exact sight.evident_more hu hevident (Bool.not_eq_false _ ▸ hopaque) hcommits hhead hsame
      (Nat.lt_of_not_le hlater)
  · rw [List.map_append, List.map_cons, List.map_nil, List.append_assoc]
    exact h.split
  · intro entry hentry
    rcases List.mem_append.mp hentry with hentry | hentry
    · exact h.again entry hentry
    · cases List.mem_singleton.mp hentry
      exact ⟨decisionId, state.expectedHead, rfl⟩

/-- What the loop over ready nodes keeps. -/
structure Assigning (Sees : WorkProjection → WorkLog → Prop) (graph : WorkGraph)
    (items : List WorkNode) (log : WorkLog) (state : WorkProjection × List WorkLease) : Prop where
  numbered : log.Numbered
  sees : Sees state.1 log
  ready : ∀ node ∈ items, ReadyNode state.1 graph node
  distinct : (items.map (·.nodeId)).Nodup

/-- The fields of a lease that is created. -/
theorem create_fields {graphId nodeId agentId : String} {fencingToken : Nat} {grantedAt : Datetime}
    {leaseDuration : Int} {matchScore : ℚ} {refs accessRefs disclosureRefs : List String}
    {lease : WorkLease}
    (h : WorkLease.create graphId nodeId agentId fencingToken grantedAt leaseDuration matchScore refs
      accessRefs disclosureRefs = .ok lease) :
    (lease.graphId = graphId ∧ lease.nodeId = nodeId ∧ lease.agentId = agentId ∧
      lease.fencingToken = fencingToken ∧ lease.grantedAt = grantedAt) ∧
    (lease.matchScore = matchScore ∧ lease.competenceEstimateRefs = refs) ∧
    lease.informationAccessDecisionRefs = accessRefs ∧
    lease.informationDisclosureDecisionRefs = disclosureRefs := by
  unfold WorkLease.create at h
  dsimp only at h
  repeat'
    split at h
  all_goals
    cases h
  exact ⟨⟨rfl, rfl, rfl, rfl, rfl⟩, ⟨rfl, rfl⟩, rfl, rfl⟩

theorem granted_of_leaseOf {graph : WorkGraph} {node : WorkNode} {time : Datetime}
    {found : WorkerMatch} {admitted : List (EvaluatedDecision × EvaluatedDecision)}
    {lease : WorkLease} (hready : ReadyNode q graph node)
    (hmatched : ∃ presence estimates,
      WorkerMatcher.Matched floats q graph node time found presence estimates)
    (h : coordinator.leaseOf q graph node time found admitted = .ok lease) :
    Granted floats q graph node time found lease ∧
      lease.informationAccessDecisionRefs = admittedIds .access found admitted ∧
      lease.informationDisclosureDecisionRefs = admittedIds .disclosure found admitted := by
  obtain ⟨⟨hgraph, hnode, hagent, htoken, htime⟩, hevidence, hrefs⟩ := create_fields h
  exact ⟨⟨hready, hmatched, ⟨hgraph, hnode⟩, ⟨hagent, htime⟩, htoken, hevidence⟩, hrefs⟩

/-- The decisions that the loop admitted for a match. -/
theorem made_of_split {material : List EvaluatedDecision} {found : WorkerMatch}
    {admitted : List (EvaluatedDecision × EvaluatedDecision)}
    (hsplit : admitted.map Prod.fst = material)
    (hmade : ∀ kind, WorkerMatcher.ofKind kind (material.filter fun value =>
      value.decision.decisionId ∈ WorkerMatcher.selectedIds (some found)) =
        WorkerMatcher.decisionsOf kind found) (kind : DecisionKind) :
    (admitted.filter fun entry => entry.1.kind = kind &&
      entry.1.decision.decisionId ∈ WorkerMatcher.selectedIds (some found)).map (·.1.decision) =
        WorkerMatcher.decisionsOf kind found := by
  rw [← hmade, ← hsplit, WorkerMatcher.ofKind, List.filter_filter, List.filter_map, List.map_map]
  rfl

/-- What follows a lease that is stored. -/
theorem assigned_follows (sight : Sight ids floats R Sees Evident) {graph : WorkGraph}
    {node : WorkNode} {items : List WorkNode} {lease : WorkLease} {assigned : List WorkLease}
    {r t t' : WorkLog} {q' : WorkProjection} {stored : WorkEvent} (hr : R r t)
    (h : Assigning Sees graph (node :: items) t (q, assigned)) (hnode : lease.nodeId = node.nodeId)
    (hcommits : t.Commits (lease.toEvent coordinator.source (WorkGraph.eventId graph.graphId)) stored t')
    (hsame : { stored with sequence := none } =
      lease.toEvent coordinator.source (WorkGraph.eventId graph.graphId))
    (happly : q.apply ids floats stored = .ok q') :
    Follows ids floats R Sees Evident
      (ofExcept (WorkLease.fromEvent stored) >>= fun lease => pure (q', assigned ++ [lease]))
      (Assigning Sees graph items) t' := by
  refine meets_bind.mpr (meets_ofExcept.mpr fun _ _ => ?_)
  have htype : stored.type = .leaseGranted := type_of_same hsame
  have hpayload : stored.payload = .lease lease := payload_of_same hsame
  have hdistinct := h.distinct
  rw [List.map_cons, List.nodup_cons] at hdistinct
  refine ⟨hcommits.numbered h.numbered,
    sight.own hr h.sees hcommits hsame (Or.inl rfl) happly, ?_, hdistinct.2⟩
  intro other hother
  refine (h.ready other (List.mem_cons_of_mem _ hother)).applyLease ?_ htype hpayload happly
  intro hid
  rw [hnode] at hid
  exact hdistinct.1 (hid ▸ List.mem_map_of_mem hother)

/-- The loop over the material decisions. -/
theorem admitAll_follows (sight : Sight ids floats R Sees Evident) {decideAgain : Readmission}
    {material : List EvaluatedDecision} (hnumbered : s.Numbered) (hsees : Sees q s) :
    Follows ids floats R Sees Evident
      (forEach (coordinator.admitDecision ids floats decideAgain) material ⟨q, q.lastSequence, []⟩)
      (AdmittingFrom Sees Evident coordinator.source q material []) s := by
  have hstart : AdmittingFrom Sees Evident coordinator.source q material material s
      ⟨q, q.lastSequence, []⟩ :=
    ⟨hnumbered, hsees, Unchanged.refl q, sight.evident_none hsees, rfl, fun _ h => (nomatch h)⟩
  exact meets_forEach (I := AdmittingFrom Sees Evident coordinator.source q material) hstart
    fun value rest t state hstate => admit_follows sight hstate

/-- What the loop over the decisions of a match leaves for its lease. -/
theorem granted_of_admitted {graph : WorkGraph} {node : WorkNode} {time : Datetime}
    {found : WorkerMatch} {evidence : List EvaluatedDecision} {admitting : Admitting}
    {lease : WorkLease} {t : WorkLog}
    (hadmitting : AdmittingFrom Sees Evident coordinator.source q
      (WorkerMatcher.materialDecisions (some found) evidence) [] t admitting)
    (hready : ReadyNode q graph node)
    (hmatch : WorkerMatcher.matchWithAccessEvidence floats coordinator.evaluator graph node q time =
      .ok (some found, evidence))
    (hlease : coordinator.leaseOf admitting.projection graph node time found admitting.admitted =
      .ok lease) :
    Granted floats admitting.projection graph node time found lease ∧
      Cited found lease admitting.admitted ∧
      (node.governedInformationRefs = [] → lease.informationAccessDecisionRefs = [] ∧
        lease.informationDisclosureDecisionRefs = []) := by
  have hsplit := hadmitting.split
  rw [List.append_nil] at hsplit
  obtain ⟨⟨presence, estimates, hmatched⟩, hmade⟩ :=
    WorkerMatcher.matchWithAccessEvidence_spec hmatch
  obtain ⟨hgranted, haccess, hdisclosure⟩ := granted_of_leaseOf
    (hready.unchanged hadmitting.unchanged)
    ⟨presence, estimates, matched_unchanged hmatched hadmitting.unchanged⟩ hlease
  refine ⟨hgranted, ⟨made_of_split hsplit hmade, hadmitting.again, haccess, hdisclosure⟩,
    fun hungoverned => ?_⟩
  have hnone : admitting.admitted = [] := by
    rw [WorkerMatcher.evidence_ungoverned hmatch hungoverned] at hsplit
    exact List.map_eq_nil_iff.mp hsplit
  rw [haccess, hdisclosure, hnone]
  exact ⟨rfl, rfl⟩

/-- **The assignment of a node.** -/
theorem assignNode_follows (sight : Sight ids floats R Sees Evident) {decideAgain : Readmission}
    {graph : WorkGraph} {time : Datetime} {node : WorkNode} {items : List WorkNode}
    {state : WorkProjection × List WorkLease} (h : Assigning Sees graph (node :: items) s state) :
    Follows ids floats R Sees Evident (coordinator.assignNode ids floats graph time decideAgain state node)
      (Assigning Sees graph items) s := by
  obtain ⟨q, assigned⟩ := state
  refine meets_bind.mpr (meets_ofExcept.mpr fun answer hmatch => ?_)
  obtain ⟨found, evidence⟩ := answer
  dsimp only at hmatch ⊢
  refine meets_bind.mpr ((admitAll_follows sight h.numbered h.sees).mono
    fun t admitting hadmitting => ?_)
  have hstill : Assigning Sees graph (node :: items) t (admitting.projection, assigned) :=
    ⟨hadmitting.numbered, hadmitting.sees,
      fun other hother => (h.ready other hother).unchanged hadmitting.unchanged, h.distinct⟩
  cases found with
  | none =>
    have hdistinct := hstill.distinct
    rw [List.map_cons, List.nodup_cons] at hdistinct
    exact ⟨hstill.numbered, hstill.sees,
      fun other hother => hstill.ready other (List.mem_cons_of_mem _ hother), hdistinct.2⟩
  | some found =>
    refine meets_bind.mpr (meets_ofExcept.mpr fun lease hlease => ?_)
    obtain ⟨hgranted, hcited, hrefs⟩ := granted_of_admitted hadmitting
      (h.ready node (List.mem_cons_self ..)) hmatch hlease
    have hafter : ∀ {u}, R t u → Assigning Sees graph (node :: items) u
        (admitting.projection, assigned) := fun hu =>
      ⟨(sight.grows hu).2, sight.rely hu hstill.sees, hstill.ready, hstill.distinct⟩
    by_cases hgoverned : node.governedInformationRefs = []
    · have hempty : WorkerMatcher.materialDecisions (some found) evidence = [] := by
        rw [WorkerMatcher.evidence_ungoverned hmatch hgoverned]
        rfl
      rw [if_neg (not_not.mpr hempty)]
      refine meets_bind.mpr (emit_follows (fun u hu => ?_) fun u u' stored q' hu hcommits hsame happly =>
        assigned_follows sight hu (hafter hu) hgranted.place.2 hcommits hsame happly)
      exact .lease (sight.rely hu hstill.sees) hgranted hgoverned (hrefs hgoverned)
    · have hne : WorkerMatcher.materialDecisions (some found) evidence ≠ [] :=
        WorkerMatcher.material_governed hmatch hgoverned
      rw [if_pos hne]
      refine meets_bind.mpr (emitIfHead_follows (fun u hu => ?_) fun u u' stored q' hu hcommits hsame happly =>
        assigned_follows sight hu (hafter hu) hgranted.place.2 hcommits hsame happly)
      exact .governedLease (sight.rely hu hstill.sees) hgranted hgoverned
        (sight.evident_rely hu hadmitting.evident) hcited

theorem ready_sublist {graph : WorkGraph} {coverage : Option AwarenessCoverage}
    {frontier : ReadyFrontier} (h : ReadyFrontier.derive graph q coverage = .ok frontier) :
    frontier.ready.Sublist graph.nodes := by
  unfold ReadyFrontier.derive at h
  split at h
  · split at h
    · cases h
    · cases h
      exact List.filter_sublist
  · cases h
    exact List.nil_sublist _

/-- **`assign_ready`.** -/
theorem assignReady_follows (sight : Sight ids floats R Sees Evident) (workOrderId : String)
    (coverage : Option AwarenessCoverage) (time : Datetime) (decideAgain : Readmission) :
    Follows ids floats R Sees Evident
      (coordinator.assignReady ids floats workOrderId coverage time decideAgain) (fun _ _ => True) s := by
  refine meets_bind.mpr (reload_follows fun t q ht hq => ?_)
  have hnumbered := (sight.grows ht).2
  split
  · trivial
  · rename_i graph hgraph
    refine meets_bind.mpr (meets_ofExcept.mpr fun frontier hfrontier => ?_)
    obtain ⟨graphId, hlatest, hfind⟩ := Option.bind_eq_some_iff.mp hgraph
    have hid : graph.graphId = graphId := KeyedTable.find_key hfind
    subst hid
    have hsound := (rebuild_ledger hq).sound graph (KeyedTable.mem_of_find hfind)
    have hstart : Assigning Sees graph frontier.ready t (q, []) := by
      refine ⟨hnumbered, sight.read ht hq, fun node hnode => ?_, ?_⟩
      · obtain ⟨hactive, hmem, hincomplete, hfree, hdone⟩ :=
          ReadyFrontier.ready_spec hfrontier hnode
        exact ⟨hfind, hactive, hmem, hincomplete, hfree, hdone⟩
      · exact hsound.nodes.sublist ((ready_sublist hfrontier).map _)
    have hloop : Follows ids floats R Sees Evident
        (forEach (coordinator.assignNode ids floats graph time decideAgain) frontier.ready (q, []))
        (Assigning Sees graph []) t :=
      meets_forEach (I := Assigning Sees graph) hstart
        fun node rest u state hstate => assignNode_follows sight hstate
    exact meets_bind.mpr (hloop.mono fun _ _ _ => trivial)

/-- What the loop over expired leases keeps. -/
structure Recovering (Sees : WorkProjection → WorkLog → Prop) (items : List WorkLease)
    (log : WorkLog) (q : WorkProjection) : Prop where
  numbered : log.Numbered
  sees : Sees q log
  active : ∀ lease ∈ items, lease ∈ q.leases.rows ∧ q.isActive lease = true
  distinct : (items.map (·.leaseId)).Nodup

/-- The expiration of a lease leaves the others as they are. -/
theorem isActive_expired {q' : WorkProjection} {lease other : WorkLease} {stored : WorkEvent}
    {expiredAt : Datetime} {reason : String} (hother : lease.leaseId ≠ other.leaseId)
    (htype : stored.type = .leaseExpired) (hpayload : stored.payload = .expiration lease expiredAt reason)
    (happly : q.apply ids floats stored = .ok q') :
    q'.leases = q.leases ∧ q'.isActive other = q.isActive other := by
  rcases apply_ok.mp happly with ⟨-, rfl⟩ | ⟨-, sequence, r, -, -, hrecorded, rfl⟩
  · exact ⟨rfl, rfl⟩
  · cases hrecorded with
    | order ht | proposal ht | graph ht | presence ht | manifest ht | estimate ht | lease ht
    | completion ht | invalidation ht =>
      rw [htype] at ht
      cases ht
    | other ht => simp [htype] at ht
    | @expiration stated _ _ found _ hstated hfits =>
      cases hpayload.symm.trans hstated
      have hfound : found.leaseId = lease.leaseId :=
        KeyedTable.find_key (activeLease_some.mp hfits.findLease).1
      refine ⟨rfl, ?_⟩
      show (q.settle found .expired).isActive other = q.isActive other
      rw [isActive_settle (by decide), hfound, decide_eq_false hother, Bool.not_false, Bool.true_and]

theorem expirationEvent_fields {lease : WorkLease} {source reason : String} {expiredAt : Datetime}
    (h : lease.expirationEvent source expiredAt reason = .ok event) :
    blank reason = false ∧ lease.expiresAt.instant ≤ expiredAt.instant ∧
      event = {
        id := lease.terminalId
        type := .leaseExpired
        source
        subject := some lease.nodeId
        timestamp := expiredAt.instant
        causationId := some lease.grantId
        payload := .expiration lease expiredAt reason } := by
  unfold WorkLease.expirationEvent at h
  rw [require_bind_ok, require_bind_ok] at h
  obtain ⟨hreason, htime, h⟩ := h
  cases h
  exact ⟨hreason, htime, rfl⟩

/-- **`recover_expired`.** -/
theorem recoverExpired_follows (sight : Sight ids floats R Sees Evident) (expiredAt : Datetime) :
    Follows ids floats R Sees Evident (coordinator.recoverExpired ids floats expiredAt)
      (fun _ _ => True) s := by
  refine meets_bind.mpr (reload_follows fun t q ht hq => ?_)
  have hnumbered := (sight.grows ht).2
  refine meets_bind.mpr ?_
  refine Meets.mono (meets_forEach (I := Recovering Sees) ?_ ?_) fun _ _ _ => trivial
  · refine ⟨hnumbered, sight.read ht hq, fun lease hlease => ?_, ?_⟩
    · exact mem_activeLeases.mp (List.mem_filter.mp hlease).1
    · have hperm := (List.perm_insertionSort (fun a b : WorkLease => leaseOrder a ≤ leaseOrder b)
        q.leases.rows).map (·.leaseId)
      have hdistinct := hperm.nodup_iff.mpr q.leases.unique
      exact hdistinct.sublist ((List.filter_sublist.trans List.filter_sublist).map _)
  · intro lease items u p h
    refine meets_bind.mpr (meets_ofExcept.mpr fun event hevent => ?_)
    obtain ⟨-, -, hfields⟩ := expirationEvent_fields hevent
    have hdistinct := h.distinct
    rw [List.map_cons, List.nodup_cons] at hdistinct
    refine meets_bind.mpr (emit_follows (fun v hv => ?_) ?_)
    · exact .expiration (sight.rely hv h.sees) (h.active lease (List.mem_cons_self ..)) hevent
    · intro v v' stored p' hv hcommits hsame happly
      have hsees := sight.rely hv h.sees
      have htype : stored.type = .leaseExpired := by rw [type_of_same hsame, hfields]
      have hpayload : stored.payload = .expiration lease expiredAt
          "lease deadline elapsed without canonical completion" := by
        rw [payload_of_same hsame, hfields]
      refine ⟨hcommits.numbered (sight.grows hv).2, sight.own hv hsees hcommits hsame
        (Or.inr (Or.inl (by rw [hfields]))) happly, fun other hother => ?_, hdistinct.2⟩
      have hne : lease.leaseId ≠ other.leaseId := by
        intro hid
        rw [hid] at hdistinct
        exact hdistinct.1 (List.mem_map_of_mem hother)
      obtain ⟨hleases, hactive⟩ := isActive_expired hne htype hpayload happly
      rw [hleases, hactive]
      exact h.active other (List.mem_cons_of_mem _ hother)

/-- What the loop over graphs keeps. -/
structure Invalidating (Sees : WorkProjection → WorkLog → Prop) (trigger : WorkEvent)
    (items : List WorkGraph) (log : WorkLog) (state : WorkProjection × List WorkGraph) : Prop where
  numbered : log.Numbered
  sees : Sees state.1 log
  trigger : trigger ∈ log.rows
  graphs : ∀ graph ∈ items, state.1.graphs.find graph.graphId = some graph

theorem planInvalidationEvent_fields {graph : WorkGraph} {trigger : WorkEvent}
    {source reason : String} {invalidatedAt : Datetime}
    (h : planInvalidationEvent graph trigger source invalidatedAt reason = .ok event) :
    ∃ sequence, trigger.sequence = some sequence ∧ graph.basedOnEventCursor < sequence ∧
      trigger.type.text ∈ graph.replanEventTypes ∧ trigger.timestamp ≤ invalidatedAt.instant ∧
      blank reason = false ∧ event = {
        id := "work-plan-invalidated:" ++ graph.graphId ++ ":" ++ trigger.id
        type := .planInvalidated
        source
        subject := some graph.workOrderId
        timestamp := invalidatedAt.instant
        causationId := some trigger.id
        payload := .invalidation
          { graphId := graph.graphId, workOrderId := graph.workOrderId, triggerEventId := trigger.id
            triggerEventType := trigger.type.text, triggerEventSequence := sequence, invalidatedAt
            reason } } := by
  unfold planInvalidationEvent at h
  split at h
  · cases h
  · rename_i sequence hsequence
    rw [require_bind_ok, require_bind_ok, require_bind_ok, require_bind_ok] at h
    obtain ⟨hafter, hreplan, htime, hreason, h⟩ := h
    cases h
    exact ⟨sequence, hsequence, hafter, hreplan, htime, hreason, rfl⟩

/-- An invalidation leaves the graphs. -/
theorem graphs_invalidated {q' : WorkProjection} {stored : WorkEvent}
    (htype : stored.type = .planInvalidated) (happly : q.apply ids floats stored = .ok q') :
    q'.graphs = q.graphs := by
  rcases apply_ok.mp happly with ⟨-, rfl⟩ | ⟨-, sequence, r, -, -, hrecorded, rfl⟩
  · rfl
  · cases hrecorded with
    | order ht | proposal ht | graph ht | presence ht | manifest ht | estimate ht | lease ht
    | completion ht | expiration ht =>
      rw [htype] at ht
      cases ht
    | other ht => simp [htype] at ht
    | invalidation => rfl

theorem invalidateGraph_follows (sight : Sight ids floats R Sees Evident) {trigger : WorkEvent}
    {reason : String} {invalidatedAt : Datetime} {graph : WorkGraph} {items : List WorkGraph}
    {state : WorkProjection × List WorkGraph}
    (h : Invalidating Sees trigger (graph :: items) s state) :
    Follows ids floats R Sees Evident
      (coordinator.invalidateGraph ids floats trigger reason invalidatedAt state graph)
      (Invalidating Sees trigger items) s := by
  have hitems : ∀ other ∈ items, state.1.graphs.find other.graphId = some other :=
    fun other hother => h.graphs other (List.mem_cons_of_mem _ hother)
  unfold invalidateGraph
  split
  · rename_i hguard
    rw [Bool.and_eq_true, Bool.and_eq_true] at hguard
    refine meets_bind.mpr (meets_ofExcept.mpr fun event hevent => ?_)
    obtain ⟨sequence, -, -, -, -, -, hfields⟩ := planInvalidationEvent_fields hevent
    refine meets_bind.mpr (emit_follows (fun t ht => ?_) ?_)
    · exact .invalidation (sight.rely ht h.sees) (h.graphs graph (List.mem_cons_self ..)) hguard.1.1
        ((sight.grows ht).1.subset h.trigger) hevent
    · intro t t' stored q' ht hcommits hsame happly
      have htype : stored.type = .planInvalidated := by rw [type_of_same hsame, hfields]
      refine ⟨hcommits.numbered (sight.grows ht).2,
        sight.own ht (sight.rely ht h.sees) hcommits hsame
          (Or.inr (Or.inr (Or.inl (by rw [hfields])))) happly,
        ((sight.grows ht).1.trans hcommits.grows).subset h.trigger, ?_⟩
      rw [graphs_invalidated htype happly]
      exact hitems
  · exact ⟨h.numbered, h.sees, h.trigger, hitems⟩

/-- **`invalidate_for`.** -/
theorem invalidateFor_follows (sight : Sight ids floats R Sees Evident) (trigger : WorkEvent)
    (reason : String) (invalidatedAt : Datetime) :
    Follows ids floats R Sees Evident
      (coordinator.invalidateFor ids floats trigger reason invalidatedAt) (fun _ _ => True) s := by
  refine meets_bind.mpr (reload_follows fun t q ht hq => ?_)
  refine meets_bind.mpr fun u hu => ⟨.history, ?_⟩
  show Meets _ _ _ _ (if _ then _ else _) _
  split
  · trivial
  · rename_i hcanonical
    have hfind : u.rows.find? (fun row => row.id = trigger.id) = some trigger := not_not.mp hcanonical
    have hsees := sight.rely hu (sight.read ht hq)
    refine meets_bind.mpr (Meets.mono (meets_forEach (I := Invalidating Sees trigger) ?_ ?_)
      fun _ _ _ => trivial)
    · refine ⟨(sight.grows hu).2, hsees, List.mem_of_find?_eq_some hfind, fun graph hgraph => ?_⟩
      exact KeyedTable.find_of_mem ((List.mem_insertionSort _).mp hgraph)
    · intro graph items v state h
      exact invalidateGraph_follows sight h

/-- **The loop of `plan`.** -/
theorem planLoop_follows (sight : Sight ids floats R Sees Evident) {call : PlanCall}
    {order : WorkOrder} {cursor : Nat} {proposal : PlanProposal} {clock : Nat → Datetime}
    (horder : PlanStore.OrderRead ids floats s.rows call.workOrderId order)
    (hstored : PlanStore.ProposalStored s.rows proposal) (attempts : Nat) :
    Follows ids floats R Sees Evident
      (planLoop ids floats call order cursor proposal clock attempts) (fun _ _ => True) s := by
  induction attempts generalizing s with
  | zero => trivial
  | succ attempts ih =>
    refine meets_bind.mpr (reload_follows fun t q ht hq => ?_)
    refine meets_bind.mpr (meets_ofExcept.mpr fun graph hgraph => ?_)
    have hgrown := (sight.grows ht).1
    obtain ⟨read, q', hread, hq', hfind⟩ := horder
    obtain ⟨row, hrow, hproposal⟩ := hstored
    have horder : PlanStore.OrderRead ids floats t.rows call.workOrderId order :=
      ⟨read, q', hread.trans hgrown, hq', hfind⟩
    have hstored : PlanStore.ProposalStored t.rows proposal :=
      ⟨row, hgrown.subset hrow, hproposal⟩
    refine ifHead_follows (fun u hu => ?_) (fun u error hu => ?_) fun u u' stored hu hcommits _ => ?_
    · exact .graph ⟨t.rows, q, clock attempts, (sight.grows hu).1, hq, horder.again hq,
        find_proposal hq (hgrown.subset hrow) hproposal.1 hproposal.2, rfl, hgraph⟩
    · have hlater := (sight.grows hu).1
      exact ih ⟨read, q', (hread.trans hgrown).trans hlater, hq', hfind⟩
        ⟨row, hlater.subset (hgrown.subset hrow), hproposal⟩
    · exact meets_bind.mpr (project_follows fun _ _ _ => meets_ofExcept.mpr fun _ _ => trivial)

end Following

end Coordinator

end Noema
