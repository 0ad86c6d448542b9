import Noema.WorkReplay

/-!
# Commands with a view that others outdate

While others append, a command's projection may be behind the log.  What it has of
graphs, leases and completions stays true (`Behind`), and so does its evidence up to the
head it expects (`Recent`); the rest of what it has checked may have changed when its
event is appended.  `Open` says of each kind of event what must still be so, and an event
of a command fits exactly if it is (`Prepared.fits`, `open_of_fits`).
-/
namespace Noema
open Programs Programs.Program WorkProjection

variable {ids : WorkIds} {floats : FloatProduct} {log : WorkLog} {p q : WorkProjection}
  {source : String} {event : WorkEvent}

/-! ## What may have changed -/

/-- The agent of a lease may still do what the node asks for, with the evidence cited. -/
structure StillCompetent (floats : FloatProduct) (p : WorkProjection) (lease : WorkLease)
    (node : WorkNode) (estimates : List CompetenceEstimate) : Prop where
  manifest : (p.manifests.find lease.agentId).any (fun manifest =>
    node.requiredCapabilities.all fun capability => capability ∈ manifest.capabilities) = true
  findEstimates : p.estimates lease.agentId node.requiredCapabilities = some estimates
  refs : lease.competenceEstimateRefs = estimates.map (·.estimateId)
  score : floats.isclose lease.matchScore (matchScore floats estimates) = true

/-- The node of a lease is still free, and its agent is still there and still competent. -/
structure StillOpen (floats : FloatProduct) (p : WorkProjection) (lease : WorkLease) : Prop where
  active : p.graphIsActive lease.graphId = true
  incomplete : p.completed lease.graphId lease.nodeId = false
  free : p.activeLeaseForNode lease.graphId lease.nodeId = none
  token : lease.fencingToken = p.nextFencingToken lease.graphId lease.nodeId
  agent : ∃ presence, p.presence.find lease.agentId = some presence ∧
    (presence.status = .available ∧ presence.isValidAt lease.grantedAt = true) ∧
    p.activeLeaseCount lease.agentId < presence.maxConcurrency
  competent : ∀ graph node, p.graphs.find lease.graphId = some graph →
    graph.node lease.nodeId = .ok node → ∃ estimates, StillCompetent floats p lease node estimates

/-- What no command makes sure of when its event is appended. -/
def Open (ids : WorkIds) (floats : FloatProduct) (p : WorkProjection) (event : WorkEvent) : Prop :=
  match event.type, event.payload with
  | .orderRecorded, .order order => order.workOrderId = WorkOrder.canonicalId ids order.toOrderContent
  | .planProposed, .proposal proposal => proposal.Canonical ids ∧
    event.causationId = some (WorkOrder.eventId proposal.workOrderId)
  | .agentPresenceRecorded, .presence presence =>
    (p.presence.find presence.agentId).all (fun current =>
      current.observedAt.instant ≤ presence.observedAt.instant) = true
  | .capabilityManifestRecorded, .manifest manifest => manifest.Canonical ids ∧
    (p.manifests.find manifest.agentId).all (fun current =>
      current.recordedAt.instant ≤ manifest.recordedAt.instant) = true
  | .competenceEstimateRecorded, .estimate estimate =>
    estimate.estimateId = CompetenceEstimate.canonicalId ids estimate.toEstimateContent ∧
    (p.competence.find estimate.key).all (fun current =>
      current.estimatedAt.instant ≤ estimate.estimatedAt.instant) = true
  | .leaseGranted, .lease lease => StillOpen floats p lease
  | .leaseExpired, .expiration lease _ _ => (p.activeLease lease.leaseId).isSome = true
  | .nodeCompleted, .completion payload => ∃ lease, p.activeLease payload.leaseId = some lease ∧
    Completable p lease payload.verificationPassed
  | .planInvalidated, .invalidation payload => p.graphIsActive payload.graphId = true
  | _, _ => True

/-- **An event that fits finds what it needs.** -/
theorem open_of_fits {sequence : Nat} (h : EventFits ids floats p event sequence) :
    Open ids floats p event := by
  obtain ⟨r, h⟩ := eventFits_iff.mp h
  unfold applyRecord at h
  have hpayload : (event.withSequence sequence).payload = event.payload := rfl
  have htype : (event.withSequence sequence).type = event.type := rfl
  rw [htype] at h
  unfold Open
  split
  · rename_i order hevent hrecord
    rw [hevent] at h
    obtain ⟨read, hread, -⟩ := applyOrder_ok.mp h
    obtain ⟨hsame, hid, -⟩ := WorkOrder.fromEvent_ok.mp hread
    cases hrecord.symm.trans (hpayload.symm.trans hsame)
    exact hid
  · rename_i proposal hevent hrecord
    rw [hevent] at h
    obtain ⟨read, hread, -, hcause, -⟩ := applyProposal_ok.mp h
    obtain ⟨hsame, hcanonical, -⟩ := PlanProposal.fromEvent_ok.mp hread
    cases hrecord.symm.trans (hpayload.symm.trans hsame)
    exact ⟨hcanonical, hcause⟩
  · rename_i presence hevent hrecord
    rw [hevent] at h
    obtain ⟨read, hread, hlater, -⟩ := applyPresence_ok.mp h
    obtain ⟨hsame, -⟩ := AgentPresence.fromEvent_ok.mp hread
    cases hrecord.symm.trans (hpayload.symm.trans hsame)
    exact hlater
  · rename_i manifest hevent hrecord
    rw [hevent] at h
    obtain ⟨read, hread, hlater, -⟩ := applyManifest_ok.mp h
    obtain ⟨hsame, hcanonical, -⟩ := CapabilityManifest.fromEvent_ok.mp hread
    cases hrecord.symm.trans (hpayload.symm.trans hsame)
    exact ⟨hcanonical, hlater⟩
  · rename_i estimate hevent hrecord
    rw [hevent] at h
    obtain ⟨read, hread, -, hlater, -⟩ := applyEstimate_ok.mp h
    obtain ⟨hsame, hid, -⟩ := CompetenceEstimate.fromEvent_ok.mp hread
    cases hrecord.symm.trans (hpayload.symm.trans hsame)
    exact ⟨hid, hlater⟩
  · rename_i lease hevent hrecord
    rw [hevent] at h
    obtain ⟨read, graph, node, presence, estimates, hread, -, hready, hagent, -⟩ :=
      applyLease_ok.mp h
    cases hrecord.symm.trans (hpayload.symm.trans (lease_read hread).1)
    refine ⟨hready.active, hready.incomplete, hready.free, hready.token,
      ⟨presence, hagent.findPresence, hagent.available, hagent.capacity⟩, ?_⟩
    intro graph' node' hgraph hnode
    cases hready.findGraph.symm.trans hgraph
    cases hready.findNode.symm.trans hnode
    exact ⟨estimates, hagent.manifest, hagent.findEstimates, hagent.refs, hagent.score⟩
  · rename_i lease expiredAt reason hevent hrecord
    rw [hevent] at h
    obtain ⟨stated, expiredAt', reason', found, hsame, hfits, -⟩ := applyLeaseExpiration_ok.mp h
    cases hrecord.symm.trans (hpayload.symm.trans hsame)
    exact Option.isSome_of_eq_some hfits.findLease
  · rename_i payload hevent hrecord
    rw [hevent] at h
    obtain ⟨payload', lease, graph, node, hsame, hfits, -⟩ := applyCompletion_ok.mp h
    cases hrecord.symm.trans (hpayload.symm.trans hsame)
    exact ⟨lease, hfits.findLease, hfits.active, graph, node, hfits.findGraph, hfits.findNode,
      hfits.verified, hfits.unverified⟩
  · rename_i payload hevent hrecord
    rw [hevent] at h
    obtain ⟨payload', graph, trigger, hsame, hfits, -⟩ := applyInvalidation_ok.mp h
    cases hrecord.symm.trans (hpayload.symm.trans hsame)
    exact hfits.active
  · trivial

/-! ## What a view keeps -/

/-- What a projection has of graphs, leases and completions, the other has. -/
structure Keeps (q p : WorkProjection) : Prop where
  graphs : ∀ graphId graph, q.graphs.find graphId = some graph →
    p.graphs.find graphId = some graph
  leases : ∀ leaseId lease, q.leases.find leaseId = some lease →
    p.leases.find leaseId = some lease
  completions : ∀ ref completion, q.completions.find ref = some completion →
    p.completions.find ref = some completion

theorem Keeps.of_extends (h : Extends q p) : Keeps q p where
  graphs := h.graphs
  leases leaseId lease hfind := by
    have hmem := h.leases.subset (KeyedTable.mem_of_find hfind)
    rw [← KeyedTable.find_key hfind]
    exact KeyedTable.find_of_mem hmem
  completions := h.completions

theorem Keeps.trans {q p p' : WorkProjection} (h : Keeps q p) (h' : Keeps p p') : Keeps q p' where
  graphs _ _ hfind := h'.graphs _ _ (h.graphs _ _ hfind)
  leases _ _ hfind := h'.leases _ _ (h.leases _ _ hfind)
  completions _ _ hfind := h'.completions _ _ (h.completions _ _ hfind)

/-- The projection may be behind the log: what it has is in every replay, and its cursor
is the head of an earlier log. -/
structure Behind (ids : WorkIds) (floats : FloatProduct) (q : WorkProjection) (log : WorkLog) :
    Prop where
  ledger : Ledger q
  cursor : ∃ upto, upto <+: log.rows ∧ headOf upto = q.lastSequence
  keeps : ∀ p, rebuild ids floats log.rows = .ok p → Keeps q p

/-- The projection of an earlier log. -/
theorem rebuild_before {log' : WorkLog} (hrows : log.rows <+: log'.rows)
    (hp : rebuild ids floats log'.rows = .ok p) :
    ∃ q, rebuild ids floats log.rows = .ok q ∧ Extends q p := by
  obtain ⟨later, hlater⟩ := hrows
  rw [← hlater] at hp
  obtain ⟨q, hq, -⟩ := rebuild_append.mp hp
  exact ⟨q, hq, rebuild_extends hp hq⟩

theorem Behind.read (hq : rebuild ids floats log.rows = .ok q) : Behind ids floats q log where
  ledger := rebuild_ledger hq
  cursor := ⟨log.rows, List.prefix_rfl, (lastSequence_eq hq).symm⟩
  keeps p hp := by
    cases hq.symm.trans hp
    exact .of_extends (Extends.refl q)

theorem Behind.rely {log' : WorkLog} (h : Behind ids floats q log) (hrows : log.rows <+: log'.rows) :
    Behind ids floats q log' where
  ledger := h.ledger
  cursor := by
    obtain ⟨upto, hupto, hhead⟩ := h.cursor
    exact ⟨upto, hupto.trans hrows, hhead⟩
  keeps p hp := by
    obtain ⟨p', hp', hextends⟩ := rebuild_before hrows hp
    exact (h.keeps p' hp').trans (.of_extends hextends)

/-- A lease whose grant is in the log is known. -/
theorem find_lease {history : List WorkEvent} (h : rebuild ids floats history = .ok p)
    (hmem : event ∈ history) (htype : event.type = .leaseGranted) {lease : WorkLease}
    (hpayload : event.payload = .lease lease) : p.leases.find lease.leaseId = some lease := by
  refine rebuild_induction (I := fun history p => event ∈ history →
    p.leases.find lease.leaseId = some lease) (fun h => (nomatch h)) ?_ ?_ h hmem
  · intro history other q hq ih hknown hmem
    rcases List.mem_append.mp hmem with hmem | hmem
    · exact ih hmem
    · cases List.mem_singleton.mp hmem
      exact ih ((mem_events hq event).mp (KeyedTable.mem_of_find hknown))
  · intro history other q q' sequence hq ih hnew _ _ hrecorded hmem
    rcases List.mem_append.mp hmem with hmem | hmem
    · obtain ⟨-, hextends⟩ := (rebuild_ledger hq).step hnew hrecorded
      exact (Keeps.of_extends hextends).leases _ _ (ih hmem)
    · cases List.mem_singleton.mp hmem
      cases hrecorded with
      | @lease granted _ _ _ _ _ hread =>
        cases hpayload.symm.trans (lease_read hread).1
        show (q.leases.put lease).find lease.leaseId = some lease
        rw [KeyedTable.find_put, if_pos rfl]
      | order ht | proposal ht | graph ht | presence ht | manifest ht | estimate ht | expiration ht
      | completion ht | invalidation ht =>
        rw [htype] at ht
        cases ht
      | other ht => simp [htype] at ht

/-- The rows up to a row of the log have it as their head. -/
theorem WorkLog.Numbered.upto (hlog : log.Numbered) {row : WorkEvent} (hrow : row ∈ log.rows) :
    ∃ before after, log.rows = before ++ row :: after ∧ headOf (before ++ [row]) = row.seq := by
  obtain ⟨before, after, hrows⟩ := List.append_of_mem hrow
  refine ⟨before, after, hrows, ?_⟩
  have hincreasing := hlog.increasing
  rw [hrows, List.pairwise_append] at hincreasing
  apply Nat.le_antisymm
  · refine headOf_le fun other hother => ?_
    rcases List.mem_append.mp hother with hother | hother
    · exact (hincreasing.2.2 other hother row (List.mem_cons_self ..)).le
    · cases List.mem_singleton.mp hother
      exact Nat.le_refl _
  · exact PlanStore.seq_le_latest (List.mem_append_right _ (List.mem_singleton.mpr rfl))

/-- What is applied of one's own is in the log. -/
theorem Behind.own {log' : WorkLog} {q' : WorkProjection} {stored : WorkEvent}
    (h : Behind ids floats q log) (hlog : log.Numbered) (hcommits : log.Commits event stored log')
    (htype : stored.type = .leaseGranted ∨ stored.type = .leaseExpired ∨
      stored.type = .planInvalidated ∨ stored.IsDecision)
    (happly : q.apply ids floats stored = .ok q') : Behind ids floats q' log' := by
  have hgrown := h.rely hcommits.grows
  rcases apply_ok.mp happly with ⟨-, rfl⟩ | ⟨hnew, sequence, r, hsequence, -, hrecorded, rfl⟩
  · exact hgrown
  · have hkeeps : ∀ p, rebuild ids floats log'.rows = .ok p → Keeps (r.keep stored sequence) p := by
      intro p hp
      have hkept := hgrown.keeps p hp
      cases hrecorded with
      | expiration | invalidation | other => exact ⟨hkept.graphs, hkept.leases, hkept.completions⟩
      | @lease lease _ _ _ _ ht hread =>
        refine ⟨hkept.graphs, fun leaseId found hfound => ?_, hkept.completions⟩
        have hfound : (q.leases.put lease).find leaseId = some found := hfound
        rw [KeyedTable.find_put] at hfound
        split at hfound
        · rename_i hid
          cases hfound
          rw [← hid]
          exact find_lease hp hcommits.mem ht (lease_read hread).1
        · exact hkept.leases leaseId found hfound
      | order ht | proposal ht | graph ht | presence ht | manifest ht | estimate ht
      | completion ht => simp [ht, WorkEvent.IsDecision] at htype
    refine ⟨(h.ledger.step hnew hrecorded).1, ?_, hkeeps⟩
    obtain ⟨before, after, hrows, hhead⟩ := (hcommits.numbered hlog).upto hcommits.mem
    refine ⟨before ++ [stored], ⟨after, by rw [hrows, List.append_assoc]; rfl⟩, ?_⟩
    rw [hhead]
    show stored.sequence.getD 0 = sequence
    rw [hsequence, Option.getD_some]

/-! ## Evidence up to a head -/

/-- Each decision of the log follows the head that it names. -/
def WorkLog.DecisionsExact (log : WorkLog) : Prop :=
  ∀ before row after decision, log.rows = before ++ row :: after → row.IsDecision →
    row.payload = .decision decision → decision.causalEventCursor = headOf before

/-- Two logs with the same head that start alike are the same. -/
theorem WorkLog.Numbered.same_head (hlog : log.Numbered) {rows rows' : List WorkEvent}
    (hrows : rows <+: log.rows) (hrows' : rows' <+: log.rows) (hhead : headOf rows = headOf rows') :
    rows = rows' := by
  have hcases : ∀ {a b : List WorkEvent}, a <+: b → b <+: log.rows → headOf a = headOf b → a = b := by
    rintro a b ⟨later, rfl⟩ hb hsame
    cases later with
    | nil => rw [List.append_nil]
    | cons row later =>
      obtain ⟨rest, hrest⟩ := hb
      have hincreasing := hlog.increasing
      rw [← hrest, List.append_assoc, List.pairwise_append] at hincreasing
      have hrow : row ∈ a ++ row :: later := by simp
      have habove := PlanStore.seq_le_latest hrow
      have hpositive := hlog.positive_rows row (by simp [← hrest])
      have hbelow : headOf a ≤ row.seq - 1 := by
        refine headOf_le fun other hother => Nat.le_sub_one_of_lt ?_
        exact hincreasing.2.2 other hother row (by simp)
      have hlatest : headOf (a ++ row :: later) = ((a ++ row :: later).map WorkEvent.seq).foldr max 0 :=
        rfl
      omega
  rcases List.prefix_or_prefix_of_prefix hrows hrows' with h | h
  · exact hcases h hrows' hhead
  · exact (hcases h hrows hhead.symm).symm

/-- The admitted decisions are the last rows up to the head that is expected. -/
def Recent (source : String) (log : WorkLog) (state : Coordinator.Admitting) : Prop :=
  ∃ upto, upto <+: log.rows ∧ headOf upto = state.expectedHead ∧
    Evidence source upto state.admitted

/-- The log grows, and decisions follow the heads that they name. -/
structure Grew (s t : WorkLog) : Prop where
  grows : s.rows <+: t.rows
  numbered : t.Numbered
  exact : t.DecisionsExact

theorem Grew.trans {s t u : WorkLog} (h : Grew s t) (h' : Grew t u) : Grew s u :=
  ⟨h.grows.trans h'.grows, h'.numbered, h'.exact⟩

/-- A decision that is admitted follows the head that is expected, also if another has
stored it already. -/
theorem Recent.more {s s' : WorkLog} {state : Coordinator.Admitting} (hnumbered : s.Numbered)
    (hexact : s.DecisionsExact) (h : Recent source s state) {value : EvaluatedDecision}
    {decisionId : String} (hid : isOpaqueId decisionId = true) {stored : WorkEvent}
    (hcommits : s.Commits
      ((Coordinator.refreshed value decisionId state.expectedHead).toEvent source) stored s')
    (hhead : s.stored? ((Coordinator.refreshed value decisionId state.expectedHead).toEvent source).id =
      none → s.latestSequence = state.expectedHead)
    (hsame : { stored with sequence := none } =
      (Coordinator.refreshed value decisionId state.expectedHead).toEvent source)
    (hlater : state.expectedHead < stored.seq) (q : WorkProjection) :
    Recent source s' ⟨q, stored.seq,
      state.admitted ++ [(value, Coordinator.refreshed value decisionId state.expectedHead)]⟩ := by
  obtain ⟨upto, hupto, hexpected, hevidence⟩ := h
  -- The row lies directly behind the rows up to the expected head.
  have hrows : ∃ after, s'.rows = upto ++ stored :: after := by
    rcases hcommits with ⟨hstored, rfl⟩ | ⟨hnone, rfl, rfl⟩
    · obtain ⟨before, after, hsplit⟩ := List.append_of_mem (List.mem_of_find?_eq_some hstored)
      have hpayload : stored.payload = .decision
          (Coordinator.refreshed value decisionId state.expectedHead).decision :=
        payload_of_same hsame
      have hdecision : stored.IsDecision := by
        unfold WorkEvent.IsDecision
        rw [type_of_same hsame]
        exact (Coordinator.refreshed value decisionId state.expectedHead).isDecision source
      have hcursor : state.expectedHead = headOf before :=
        hexact before stored after _ hsplit hdecision hpayload
      have hbefore : before <+: s'.rows := ⟨stored :: after, hsplit.symm⟩
      rw [hnumbered.same_head hupto hbefore (hexpected.trans hcursor)]
      exact ⟨after, hsplit⟩
    · have hsameHead : headOf upto = headOf s.rows := hexpected.trans (hhead hnone).symm
      rw [hnumbered.same_head hupto List.prefix_rfl hsameHead]
      exact ⟨[], rfl⟩
  obtain ⟨after, hrows⟩ := hrows
  have hsequence : ∃ sequence, stored =
      ((Coordinator.refreshed value decisionId state.expectedHead).toEvent source).withSequence
        sequence := by
    rcases hcommits with ⟨-, rfl⟩ | ⟨-, rfl, rfl⟩
    · have hpositive := hnumbered.positive_rows stored (by simp [hrows])
      cases hnumber : stored.sequence with
      | none =>
        unfold WorkEvent.seq at hpositive
        rw [hnumber] at hpositive
        cases hpositive
      | some sequence =>
        refine ⟨sequence, ?_⟩
        rw [← hsame, WorkEvent.withSequence, ← hnumber]
    · exact ⟨_, rfl⟩
  have hat : AdmittedAt source upto (Coordinator.refreshed value decisionId state.expectedHead)
      stored := ⟨hsequence, hexpected.symm, hexpected ▸ hlater, hid⟩
  refine ⟨upto ++ [stored], ⟨after, by rw [hrows, List.append_assoc]; rfl⟩, ?_, hevidence.more hat⟩
  apply Nat.le_antisymm
  · refine headOf_le fun row hrow => ?_
    rcases List.mem_append.mp hrow with hrow | hrow
    · have hbound := PlanStore.seq_le_latest hrow
      have hlatest : headOf upto = (upto.map WorkEvent.seq).foldr max 0 := rfl
      show row.seq ≤ stored.seq
      omega
    · cases List.mem_singleton.mp hrow
      exact Nat.le_refl _
  · exact PlanStore.seq_le_latest (List.mem_append_right _ (List.mem_singleton.mpr rfl))

/-- **What a command may believe while others append.** -/
theorem shared_sight : Sight ids floats Grew (Behind ids floats) Recent where
  grows h := ⟨h.grows, h.numbered⟩
  read _ hq := Behind.read hq
  rely h hsees := hsees.rely h.grows
  own hr hsees hcommits hsame htype happly := by
    refine hsees.own hr.numbered hcommits ?_ happly
    unfold WorkEvent.IsDecision
    rw [type_of_same hsame]
    exact htype
  evident_none h := by
    obtain ⟨upto, hupto, hhead⟩ := h.cursor
    exact ⟨upto, hupto, hhead, Evidence.none upto⟩
  evident_rely h hevident := by
    obtain ⟨upto, hupto, hrest⟩ := hevident
    exact ⟨upto, hupto.trans h.grows, hrest⟩
  evident_more hr hevident hid hcommits hhead hsame hlater :=
    hevident.more hr.numbered hr.exact hid hcommits hhead hsame hlater _

end Noema
