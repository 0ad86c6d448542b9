import Mathlib.Data.List.Induction
import Noema.WorkLedger

/-!
# Safety of the work projection

The statements are about every accepted history and each of its prefixes.  What was so
when a lease was granted or a completion accepted is said of the state that the event
met (`GrantedAt`, `CompletedAt`).  `work_safe` collects the laws of leases and
completions, `verified_independently` is about verification nodes.
-/
namespace Noema
namespace WorkProjection

variable {ids : WorkIds} {floats : FloatProduct} {p p' q : WorkProjection}
  {history : List WorkEvent} {event : WorkEvent}

/-! ## Histories and their prefixes -/

theorem applyAll_append {events new : List WorkEvent} :
    p.applyAll ids floats (events ++ new) = .ok p' ↔
      ∃ q, p.applyAll ids floats events = .ok q ∧ q.applyAll ids floats new = .ok p' := by
  induction events generalizing p with
  | nil => exact ⟨fun h => ⟨p, rfl, h⟩, fun ⟨q, hq, h⟩ => by cases hq; exact h⟩
  | cons event events ih =>
    rw [List.cons_append, applyAll, applyAll, bind_ok_iff]
    constructor
    · rintro ⟨r, happly, h⟩
      obtain ⟨q, hq, hnew⟩ := ih.mp h
      exact ⟨q, bind_ok_iff.mpr ⟨r, happly, hq⟩, hnew⟩
    · rintro ⟨q, hq, hnew⟩
      obtain ⟨r, happly, hq⟩ := bind_ok_iff.mp hq
      exact ⟨r, happly, ih.mpr ⟨q, hq, hnew⟩⟩

theorem rebuild_append {before after : List WorkEvent} :
    rebuild ids floats (before ++ after) = .ok p ↔
      ∃ q, rebuild ids floats before = .ok q ∧ q.applyAll ids floats after = .ok p :=
  applyAll_append

/-- **Induction over an accepted history**: the last event was known already, or it was
recorded. -/
theorem rebuild_induction {I : List WorkEvent → WorkProjection → Prop} (hempty : I [] empty)
    (hknown : ∀ history event q, rebuild ids floats history = .ok q → I history q →
      q.events.find event.id = some event → I (history ++ [event]) q)
    (hnew : ∀ history event q q' sequence, rebuild ids floats history = .ok q → I history q →
      q.events.find event.id = none → event.sequence = some sequence →
      q.lastSequence < sequence → Recorded ids floats q event sequence q' →
      I (history ++ [event]) (q'.keep event sequence))
    (h : rebuild ids floats history = .ok p) : I history p := by
  induction history using List.reverseRecOn generalizing p with
  | nil =>
    cases h
    exact hempty
  | append_singleton history event ih =>
    obtain ⟨q, hq, hlast⟩ := rebuild_append.mp h
    obtain ⟨r, happly, hr⟩ := bind_eq_ok hlast
    cases hr
    rcases apply_ok.mp happly with
      ⟨hfind, rfl⟩ | ⟨hfind, sequence, q', hsequence, hlater, hrecorded, rfl⟩
    · exact hknown history event p hq (ih hq) hfind
    · exact hnew history event q q' sequence hq (ih hq) hfind hsequence hlater hrecorded

theorem applyAll_ledger {events : List WorkEvent} (hp : Ledger p)
    (h : p.applyAll ids floats events = .ok p') : Ledger p' ∧ Extends p p' := by
  induction events generalizing p with
  | nil =>
    cases h
    exact ⟨hp, Extends.refl p'⟩
  | cons event events ih =>
    obtain ⟨q, happly, h⟩ := bind_eq_ok h
    obtain ⟨hq, hextends⟩ := hp.apply happly
    obtain ⟨hp', hextends'⟩ := ih hq h
    exact ⟨hp', hextends.trans hextends'⟩

/-- **Every accepted history leaves a ledger.** -/
theorem rebuild_ledger (h : rebuild ids floats history = .ok p) : Ledger p :=
  (applyAll_ledger Ledger.empty h).1

theorem rebuild_extends {before after : List WorkEvent}
    (h : rebuild ids floats (before ++ after) = .ok p) (hq : rebuild ids floats before = .ok q) :
    Extends q p := by
  obtain ⟨r, hr, hafter⟩ := rebuild_append.mp h
  rw [hq] at hr
  cases hr
  exact (applyAll_ledger (rebuild_ledger hq) hafter).2

/-! ## What an event met -/

/-- The event was applied to `q`, and was not known there. -/
def AppliedTo (ids : WorkIds) (floats : FloatProduct) (history : List WorkEvent)
    (event : WorkEvent) (q : WorkProjection) : Prop :=
  ∃ before after, history = before ++ event :: after ∧ rebuild ids floats before = .ok q ∧
    q.events.find event.id = none

/-- The lease was granted in the state `q`. -/
def GrantedAt (ids : WorkIds) (floats : FloatProduct) (history : List WorkEvent)
    (lease : WorkLease) (q : WorkProjection) : Prop :=
  ∃ event, AppliedTo ids floats history event q ∧ event.type = .leaseGranted ∧
    event.payload = .lease lease

/-- The completion was accepted in the state `q`. -/
def CompletedAt (ids : WorkIds) (floats : FloatProduct) (history : List WorkEvent)
    (payload : CompletionPayload) (q : WorkProjection) : Prop :=
  ∃ event, AppliedTo ids floats history event q ∧ event.type = .nodeCompleted ∧
    event.payload = .completion payload

theorem AppliedTo.append (h : AppliedTo ids floats history event q) (new : List WorkEvent) :
    AppliedTo ids floats (history ++ new) event q := by
  obtain ⟨before, after, rfl, hq, hnew⟩ := h
  exact ⟨before, after ++ new, by simp, hq, hnew⟩

theorem AppliedTo.last (hq : rebuild ids floats history = .ok q)
    (hnew : q.events.find event.id = none) : AppliedTo ids floats (history ++ [event]) event q :=
  ⟨history, [], rfl, hq, hnew⟩

/-- What an event did, and what came of it. -/
theorem AppliedTo.spec (h : rebuild ids floats history = .ok p)
    (happlied : AppliedTo ids floats history event q) :
    Ledger q ∧ Extends q p ∧ ∃ sequence q', event.sequence = some sequence ∧
      q.lastSequence < sequence ∧ Recorded ids floats q event sequence q' ∧
      Extends (q'.keep event sequence) p := by
  obtain ⟨before, after, rfl, hq, hnew⟩ := happlied
  have hledger := rebuild_ledger hq
  have hextends := rebuild_extends h hq
  obtain ⟨r, hr, hafter⟩ := rebuild_append.mp h
  rw [hq] at hr
  cases hr
  obtain ⟨r, happly, hafter⟩ := bind_eq_ok hafter
  rcases apply_ok.mp happly with ⟨hknown, -⟩ | ⟨-, sequence, q', hsequence, hlast, hrecorded, rfl⟩
  · rw [hnew] at hknown
    cases hknown
  · obtain ⟨hstep, -⟩ := hledger.step hnew hrecorded
    exact ⟨hledger, hextends, sequence, q', hsequence, hlast, hrecorded,
      (applyAll_ledger hstep hafter).2⟩

/-- What a grant met. -/
theorem GrantedAt.spec (h : rebuild ids floats history = .ok p) {lease : WorkLease}
    (hgranted : GrantedAt ids floats history lease q) :
    Ledger q ∧ Extends q p ∧ q.leases.rows ++ [lease] <+: p.leases.rows ∧
      ∃ graph node presence estimates, NodeReady q lease graph node ∧
        AgentFit floats q lease node presence estimates := by
  obtain ⟨event, happlied, htype, hpayload⟩ := hgranted
  obtain ⟨hledger, hextends, sequence, q', -, -, hrecorded, hextends'⟩ := happlied.spec h
  obtain ⟨before, after, -, -, hnew⟩ := happlied
  cases hrecorded with
  | order ht | proposal ht | graph ht | presence ht | manifest ht | estimate ht | expiration ht
  | completion ht | invalidation ht =>
    rw [htype] at ht
    cases ht
  | other ht => simp [htype] at ht
  | @lease granted graph node presence estimates _ hread hcause hready hagent =>
    obtain ⟨hpayload', hid, -⟩ := lease_read hread
    cases hpayload.symm.trans hpayload'
    refine ⟨hledger, hextends, ?_, graph, node, presence, estimates, hready, hagent⟩
    rw [← leases_grant (hledger.lease_fresh (hid ▸ hnew))]
    exact hextends'.leases

/-- What a completion met. -/
theorem CompletedAt.spec (h : rebuild ids floats history = .ok p) {payload : CompletionPayload}
    (hcompleted : CompletedAt ids floats history payload q) :
    ∃ event lease graph node, CompletionFits q event payload lease graph node := by
  obtain ⟨event, happlied, htype, hpayload⟩ := hcompleted
  obtain ⟨-, -, sequence, q', -, -, hrecorded, -⟩ := happlied.spec h
  cases hrecorded with
  | order ht | proposal ht | graph ht | presence ht | manifest ht | estimate ht | lease ht
  | expiration ht | invalidation ht =>
    rw [htype] at ht
    cases ht
  | other ht => simp [htype] at ht
  | @completion payload' lease graph node _ hpayload' hfits =>
    cases hpayload.symm.trans hpayload'
    exact ⟨event, lease, graph, node, hfits⟩

/-- What a step adds to the leases and to the completions. -/
theorem Recorded.added {sequence : Nat} (hledger : Ledger p)
    (hnew : p.events.find event.id = none) (h : Recorded ids floats p event sequence q) :
    (∀ lease ∈ q.leases.rows, lease ∈ p.leases.rows ∨
      (event.type = .leaseGranted ∧ event.payload = .lease lease)) ∧
    (∀ completion ∈ q.completions.rows, completion ∈ p.completions.rows ∨
      ∃ lease ∈ p.leases.rows, lease.leaseId = completion.leaseId ∧
        lease.key = completion.key ∧ lease.agentId = completion.agentId) := by
  cases h with
  | order | proposal | graph | presence | manifest | estimate | invalidation | other | expiration =>
    exact ⟨fun _ h => Or.inl h, fun _ h => Or.inl h⟩
  | @lease lease graph node presence estimates htype hread hcause hready hagent =>
    obtain ⟨hpayload, hid, -⟩ := lease_read hread
    refine ⟨fun other hother => ?_, fun _ h => Or.inl h⟩
    have hrows := leases_grant (hledger.lease_fresh (hid ▸ hnew))
    have hother : other ∈ (p.grant lease).leases.rows := hother
    rw [hrows, List.mem_append, List.mem_singleton] at hother
    refine hother.imp id fun hsame => ⟨htype, ?_⟩
    rw [hsame]
    exact hpayload
  | @completion payload lease graph node htype hpayload hfits =>
    obtain ⟨hfind, -⟩ := activeLease_some.mp hfits.findLease
    refine ⟨fun _ h => Or.inl h, fun other hother => ?_⟩
    rcases KeyedTable.mem_put.mp hother with rfl | ⟨hold, -⟩
    · exact Or.inr ⟨lease, KeyedTable.mem_of_find hfind, rfl, rfl, rfl⟩
    · exact Or.inl hold

/-- Every lease was granted at some point, and every completion is of such a lease. -/
theorem granted_of_rebuild (h : rebuild ids floats history = .ok p) :
    (∀ lease ∈ p.leases.rows, ∃ q, GrantedAt ids floats history lease q) ∧
    (∀ completion ∈ p.completions.rows, ∃ lease ∈ p.leases.rows,
      lease.leaseId = completion.leaseId ∧ lease.key = completion.key ∧
        lease.agentId = completion.agentId) := by
  refine rebuild_induction (I := fun history p =>
    (∀ lease ∈ p.leases.rows, ∃ q, GrantedAt ids floats history lease q) ∧
    (∀ completion ∈ p.completions.rows, ∃ lease ∈ p.leases.rows,
      lease.leaseId = completion.leaseId ∧ lease.key = completion.key ∧
        lease.agentId = completion.agentId)) ?_ ?_ ?_ h
  · exact ⟨fun _ h => (nomatch h), fun _ h => (nomatch h)⟩
  · intro history event q hq ⟨hleases, hcompletions⟩ hknown
    refine ⟨fun lease hlease => ?_, hcompletions⟩
    obtain ⟨r, other, happlied, htype, hpayload⟩ := hleases lease hlease
    exact ⟨r, other, happlied.append [event], htype, hpayload⟩
  · intro history event q q' sequence hq ⟨hleases, hcompletions⟩ hnew hsequence hlater hrecorded
    obtain ⟨hadded, hcompleted⟩ := hrecorded.added (rebuild_ledger hq) hnew
    have hextends := ((rebuild_ledger hq).step hnew hrecorded).2
    constructor
    · intro lease hlease
      rcases hadded lease hlease with hlease | ⟨htype, hpayload⟩
      · obtain ⟨r, other, happlied, htype, hpayload⟩ := hleases lease hlease
        exact ⟨r, other, happlied.append [event], htype, hpayload⟩
      · exact ⟨q, event, AppliedTo.last hq hnew, htype, hpayload⟩
    · intro completion hcompletion
      have hsubset : ∀ lease ∈ q.leases.rows,
          lease ∈ (q'.keep event sequence).leases.rows := fun lease hlease =>
        hextends.leases.subset hlease
      rcases hcompleted completion hcompletion with hcompletion | ⟨lease, hlease, hsame⟩
      · obtain ⟨lease, hlease, hsame⟩ := hcompletions completion hcompletion
        exact ⟨lease, hsubset lease hlease, hsame⟩
      · exact ⟨lease, hsubset lease hlease, hsame⟩

/-! ## Safety -/

/-- The active leases of an agent, in the order of their grants. -/
def activeOf (p : WorkProjection) (agentId : String) : List WorkLease :=
  p.leases.rows.filter fun lease => p.isActive lease && lease.agentId = agentId

/-- The laws of leases and completions, for a history and the state it leaves. -/
structure Safe (ids : WorkIds) (floats : FloatProduct) (history : List WorkEvent)
    (p : WorkProjection) : Prop where
  oneActive : ∀ l ∈ p.leases.rows, ∀ m ∈ p.leases.rows, p.isActive l = true →
    p.isActive m = true → l.key = m.key → l = m
  /-- The rows are in the order of the grants. -/
  grantOrder : ∀ lease q, GrantedAt ids floats history lease q →
    q.leases.rows ++ [lease] <+: p.leases.rows
  tokens : ∀ ref, (p.grants ref).map (·.fencingToken) = List.range' 1 (p.grants ref).length
  settledOnce : ∀ before after q, history = before ++ after → rebuild ids floats before = .ok q →
    ∀ leaseId outcome, q.leaseOutcomes.get? leaseId = some outcome → outcome ≠ .active →
      p.leaseOutcomes.get? leaseId = some outcome
  completion : ∀ payload q, CompletedAt ids floats history payload q →
    ∃ lease, q.leases.find payload.leaseId = some lease ∧ q.isActive lease = true ∧
      q.graphIsActive lease.graphId = true ∧ payload.fencingToken = lease.fencingToken ∧
      lease.grantedAt.instant ≤ payload.acceptedAt.instant ∧
      payload.acceptedAt.instant < lease.expiresAt.instant
  completedStays : ∀ before after q, history = before ++ after →
    rebuild ids floats before = .ok q → ∀ ref completion,
      q.completions.find ref = some completion → p.completions.find ref = some completion
  notLeasedAgain : ∀ lease q, GrantedAt ids floats history lease q →
    q.completed lease.graphId lease.nodeId = false
  capacity : ∀ agentId lease, (p.activeOf agentId).getLast? = some lease →
    ∃ q presence, GrantedAt ids floats history lease q ∧
      q.presence.find agentId = some presence ∧
      p.activeLeaseCount agentId ≤ presence.maxConcurrency
  dependencies : ∀ completion ∈ p.completions.rows, ∃ lease q graph,
    GrantedAt ids floats history lease q ∧ lease.leaseId = completion.leaseId ∧
      lease.key = completion.key ∧ q.graphs.find completion.graphId = some graph ∧
      ∀ nodeId, Reaches graph.dependencies nodeId completion.nodeId →
        q.completed completion.graphId nodeId = true

/-- What is completed is closed under predecessors. -/
theorem Ledger.reaches_completed (h : Ledger p) {graph : WorkGraph} {graphId : String}
    (hgraph : p.graphs.find graphId = some graph) {m n : String}
    (hreaches : Reaches graph.dependencies m n) (hn : p.PredecessorsDone graphId n) :
    p.completed graphId m = true := by
  have hdirect : ∀ {k l : String}, DependsOn graph.dependencies k l →
      p.PredecessorsDone graphId l → p.completed graphId k = true := by
    rintro k l ⟨dependency, hmem, rfl, rfl⟩ ⟨graph', hfind, hdone⟩
    rw [hgraph] at hfind
    cases hfind
    exact hdone _ (List.mem_map_of_mem (List.mem_filter.mpr ⟨hmem, by simp⟩))
  induction hreaches with
  | single hdepends => exact hdirect hdepends hn
  | tail hreaches hdepends ih =>
    refine ih ?_
    obtain ⟨completion, hfind⟩ := Option.isSome_iff_exists.mp (hdirect hdepends hn)
    have hclosed := h.closed completion (KeyedTable.mem_of_find hfind)
    have hkey : completion.key = (graphId, _) := KeyedTable.find_key hfind
    obtain ⟨hgraphId, hnodeId⟩ := Prod.ext_iff.mp hkey
    dsimp only [NodeCompletion.key] at hgraphId hnodeId
    rwa [hgraphId, hnodeId] at hclosed

/-- The active leases of an agent were active when the last of them was granted. -/
theorem activeLeaseCount_le (hledger : Ledger q) (hextends : Extends q p) {lease : WorkLease}
    (hrows : q.leases.rows ++ [lease] <+: p.leases.rows) {agentId : String}
    (hlast : (p.activeOf agentId).getLast? = some lease) :
    p.activeLeaseCount agentId ≤ q.activeLeaseCount agentId + 1 := by
  obtain ⟨rest, hrest⟩ := hrows
  have hnodup : (p.leases.rows.map (·.leaseId)).Nodup := p.leases.unique
  have hmem := List.mem_of_getLast? hlast
  -- Nothing after the last active lease counts.
  have hnone : rest.filter (fun other => p.isActive other && other.agentId = agentId) = [] := by
    by_contra hne
    have happend : p.activeOf agentId = (q.leases.rows ++ [lease]).filter
        (fun other => p.isActive other && other.agentId = agentId) ++
        rest.filter (fun other => p.isActive other && other.agentId = agentId) := by
      rw [activeOf, ← hrest, List.filter_append]
    rw [happend, List.getLast?_append_of_ne_nil _ hne] at hlast
    have hin : lease ∈ rest := (List.mem_filter.mp (List.mem_of_getLast? hlast)).1
    rw [← hrest, List.map_append, List.nodup_append] at hnodup
    exact hnodup.2.2 lease.leaseId (by simp) lease.leaseId (List.mem_map_of_mem hin) rfl
  have hactive : ∀ other ∈ q.leases.rows,
      (p.isActive other && decide (other.agentId = agentId)) = true →
      (q.isActive other && decide (other.agentId = agentId)) = true := by
    intro other hother hstill
    rw [Bool.and_eq_true] at hstill ⊢
    refine ⟨?_, hstill.2⟩
    have hsome : (q.leaseOutcomes.get? other.leaseId).isSome = true := by
      rw [hledger.outcomes, KeyedTable.find_of_mem hother]
      rfl
    obtain ⟨outcome, houtcome⟩ := Option.isSome_iff_exists.mp hsome
    by_cases hsettled : outcome = .active
    · rw [isActive, houtcome, hsettled, decide_eq_true_eq]
    · have hlater := hextends.settled _ _ houtcome hsettled
      have hnow := hstill.1
      rw [isActive, hlater, decide_eq_true_eq] at hnow
      exact absurd (Option.some.inj hnow) hsettled
  have hcount := List.countP_mono_left hactive
  have hrest' : rest.countP (fun other => p.isActive other && other.agentId = agentId) = 0 := by
    rw [List.countP_eq_length_filter, hnone, List.length_nil]
  have hone : [lease].countP (fun other => p.isActive other && other.agentId = agentId) ≤ 1 :=
    List.countP_le_length
  rw [activeLeaseCount_eq, activeLeaseCount_eq, ← hrest, List.countP_append, List.countP_append]
  omega

/-- The lease of a completion was granted once the nodes that reach its node were
completed. -/
theorem completed_after_dependencies (h : rebuild ids floats history = .ok p)
    {completion : NodeCompletion} (hcompletion : completion ∈ p.completions.rows) :
    ∃ lease q graph, GrantedAt ids floats history lease q ∧ lease.leaseId = completion.leaseId ∧
      lease.key = completion.key ∧ lease.agentId = completion.agentId ∧
      q.graphs.find completion.graphId = some graph ∧
      ∀ nodeId, Reaches graph.dependencies nodeId completion.nodeId →
        q.completed completion.graphId nodeId = true := by
  obtain ⟨hleases, hcompletions⟩ := granted_of_rebuild h
  obtain ⟨lease, hlease, hid, hkey, hagent⟩ := hcompletions completion hcompletion
  obtain ⟨q, hgranted⟩ := hleases lease hlease
  obtain ⟨hledger, -, -, graph, node, presence, estimates, hready, -⟩ := hgranted.spec h
  obtain ⟨hgraphId, hnodeId⟩ := Prod.ext_iff.mp hkey
  dsimp only [WorkLease.key, NodeCompletion.key] at hgraphId hnodeId
  refine ⟨lease, q, graph, hgranted, hid, hkey, hagent, hgraphId ▸ hready.findGraph, ?_⟩
  intro nodeId hreaches
  have hdone : q.PredecessorsDone completion.graphId completion.nodeId := by
    rw [← hgraphId, ← hnodeId]
    exact ⟨graph, hready.findGraph, hready.predecessors⟩
  exact hledger.reaches_completed (hgraphId ▸ hready.findGraph) hreaches hdone

/-- The laws hold of an accepted history. -/
theorem safe_of_rebuild (h : rebuild ids floats history = .ok p) : Safe ids floats history p where
  oneActive := (rebuild_ledger h).oneActive
  grantOrder lease q hgranted := (hgranted.spec h).2.2.1
  tokens := (rebuild_ledger h).tokens
  settledOnce before after q hsplit hq := (rebuild_extends (hsplit ▸ h) hq).settled
  completion payload q hcompleted := by
    obtain ⟨event, lease, graph, node, hfits⟩ := hcompleted.spec h
    obtain ⟨hfind, hactive⟩ := activeLease_some.mp hfits.findLease
    exact ⟨lease, hfind, hactive, hfits.active, hfits.fields.2.2.2, hfits.time.2⟩
  completedStays before after q hsplit hq := (rebuild_extends (hsplit ▸ h) hq).completions
  notLeasedAgain lease q hgranted := by
    obtain ⟨-, -, -, graph, node, presence, estimates, hready, -⟩ := hgranted.spec h
    exact hready.incomplete
  capacity agentId lease hlast := by
    obtain ⟨hmem, hactive⟩ := List.mem_filter.mp (List.mem_of_getLast? hlast)
    obtain ⟨q, hgranted⟩ := (granted_of_rebuild h).1 lease hmem
    obtain ⟨hledger, hextends, hrows, graph, node, presence, estimates, -, hagent⟩ :=
      hgranted.spec h
    have hid : lease.agentId = agentId := by
      rw [Bool.and_eq_true, decide_eq_true_eq] at hactive
      exact hactive.2
    have hcapacity := hagent.capacity
    rw [hid] at hcapacity
    have hcount := activeLeaseCount_le hledger hextends hrows hlast
    exact ⟨q, presence, hgranted, hid ▸ hagent.findPresence, by omega⟩
  dependencies completion hcompletion := by
    obtain ⟨lease, q, graph, hgranted, hid, hkey, -, hgraph, hreaches⟩ :=
      completed_after_dependencies h hcompletion
    exact ⟨lease, q, graph, hgranted, hid, hkey, hgraph, hreaches⟩

/-- **Every prefix of an accepted history is accepted and safe.** -/
theorem work_safe (h : rebuild ids floats history = .ok p) :
    ∀ before after, history = before ++ after →
      ∃ q, rebuild ids floats before = .ok q ∧ Safe ids floats before q := by
  rintro before after rfl
  obtain ⟨q, hq, -⟩ := rebuild_append.mp h
  exact ⟨q, hq, safe_of_rebuild hq⟩

/-- **A completed verification node was completed by another worker than each of its
targets, which were completed before its lease was granted.** -/
theorem verified_independently (h : rebuild ids floats history = .ok p) {graph : WorkGraph}
    (hgraph : p.graphs.find graph.graphId = some graph) {node : WorkNode}
    (hnode : node ∈ graph.nodes) {completion : NodeCompletion}
    (hcompletion : p.completions.find (graph.graphId, node.nodeId) = some completion)
    {targetId : String} (htarget : targetId ∈ node.verificationOf) :
    ∃ lease q target, GrantedAt ids floats history lease q ∧
      lease.leaseId = completion.leaseId ∧
      q.completions.find (graph.graphId, targetId) = some target ∧
      p.completions.find (graph.graphId, targetId) = some target ∧
      target.agentId ≠ completion.agentId := by
  have hmem := KeyedTable.mem_of_find hcompletion
  have hkeys : completion.key = (graph.graphId, node.nodeId) := KeyedTable.find_key hcompletion
  obtain ⟨hgraphId, hnodeId⟩ := Prod.ext_iff.mp hkeys
  dsimp only [NodeCompletion.key] at hgraphId hnodeId
  obtain ⟨lease, q, graph', hgranted, hid, hkey, hagent, hgraph', hreaches⟩ :=
    completed_after_dependencies h hmem
  obtain ⟨hledger, hextends, -, graph'', node', presence, estimates, hready, hfit⟩ := hgranted.spec h
  have hlease : lease.key = (graph.graphId, node.nodeId) := hkey.trans hkeys
  obtain ⟨hleaseGraph, hleaseNode⟩ := Prod.ext_iff.mp hlease
  dsimp only [WorkLease.key] at hleaseGraph hleaseNode
  -- The graph is the one that was accepted then, and the node the one that was leased.
  have hlater := hextends.graphs _ _ hgraph'
  rw [hgraphId, hgraph] at hlater
  cases hlater
  have hfound := hready.findGraph
  rw [hleaseGraph, ← hgraphId, hgraph'] at hfound
  cases hfound
  obtain ⟨hnode'Id, hnode'⟩ := node_id hready.findNode
  have hsound := hledger.sound graph (KeyedTable.mem_of_find hgraph')
  have hsame : node' = node := List.inj_on_of_nodup_map hsound.nodes hnode' hnode
    (hnode'Id.trans hleaseNode)
  subst hsame
  have hdone : q.completed completion.graphId targetId = true :=
    hreaches targetId (hnodeId ▸ hsound.targets node' hnode targetId htarget)
  rw [hgraphId] at hdone
  obtain ⟨target, htargetDone⟩ := Option.isSome_iff_exists.mp hdone
  refine ⟨lease, q, target, hgranted, hid, htargetDone, hextends.completions _ _ htargetDone, ?_⟩
  intro hworker
  refine hfit.independent (List.mem_filterMap.mpr ⟨targetId, htarget, ?_⟩)
  rw [workerForNode, hleaseGraph, htargetDone, Option.map_some, hworker, hagent]

/-! ## A reviewed change

Two agents work on an order of two nodes: one writes, the other verifies. -/

/-- What a history is rebuilt to, if it is accepted. -/
def rebuilt (ids : WorkIds) (floats : FloatProduct) (history : List WorkEvent) : WorkProjection :=
  match rebuild ids floats history with
  | .ok p => p
  | .error _ => empty

theorem rebuild_rebuilt (h : (rebuild ids floats history).isOk = true) :
    rebuild ids floats history = .ok (rebuilt ids floats history) := by
  unfold rebuilt
  split
  · rename_i p hp
    exact hp
  · rename_i error herror
    rw [herror] at h
    cases h

theorem ada_named : blank "ada" = false := by decide

theorem validator_named : blank "validator" = false := by decide

/-- Ids that tell the records of the example apart. -/
def reviewIds : WorkIds where
  order content := content.purpose
  proposal content := content.plannerId ++ ":" ++ toString content.basedOnEventCursor
  graph content := content.workOrderId ++ ":" ++ toString content.version
  presence presence := presence.agentId ++ ":" ++ toString presence.observedAt.instant
  manifest content := content.agentId ++ ":" ++ toString content.recordedAt.instant
  estimate content := content.agentId ++ ":" ++ content.capability ++ ":" ++
    toString content.estimatedAt.instant

/-- Products that need no rounding. -/
def exactProduct : FloatProduct where
  mul a b := a * b
  mul_bounded ha hb := ⟨mul_nonneg ha.1 hb.1, mul_le_one₀ ha.2 hb.1 hb.2⟩
  isclose a b := a = b
  isclose_self a := by simp

theorem bounded_one : Bounded 1 := ⟨zero_le_one, le_refl 1⟩

def reviewOrder : WorkOrder where
  purpose := "change"
  governingGoalRefs := ["goal"]
  createdFrom := ["request"]
  priority := 1
  desiredOutcome := "changed"
  successCriteria := ["reviewed"]
  deadline := none
  opportunityWindowEnd := none
  authorityCeiling := .propose
  epistemicPrerequisites := []
  createdAt := .utc 0
  workOrderId := "work-order:change"
  nonblank := by decide
  goals := by decide
  provenance := by decide
  criteria := by decide
  priority_bounded := bounded_one
  times _ h := nomatch h
  prerequisites := List.nodup_nil

def reviewNode (nodeId : String) (kind : WorkNodeKind) (verificationOf : List String)
    (hid : blank nodeId = false) (htargets : UniqueText verificationOf false)
    (hkind : kind = .verify ↔ verificationOf ≠ []) (hself : nodeId ∉ verificationOf) : WorkNode where
  nodeId
  kind
  description := "step"
  requiredCapabilities := ["code"]
  completionCriteria := ["done"]
  epistemicPrerequisites := []
  verificationOf
  governedInformationRefs := []
  nonblank := ⟨hid, by decide⟩
  capabilities := by decide
  criteria := by decide
  targets := htargets
  governed := by decide
  governed_opaque _ h := nomatch h
  prerequisites := List.nodup_nil
  verify_iff := hkind
  not_self := hself

def writeNode : WorkNode :=
  reviewNode "write" .execute [] (by decide) (by decide) (by decide) (by decide)

def verifyNode : WorkNode :=
  reviewNode "verify" .verify ["write"] (by decide) (by decide) (by decide) (by decide)

def writeFirst : WorkDependency where
  predecessorId := "write"
  successorId := "verify"
  nonblank := by decide
  distinct := by decide

/-- A plan of the two steps, made at a causal cut for a graph version. -/
def reviewPlan (cursor version : Nat) (proposedAt : Int) : PlanProposal where
  plannerId := "planner"
  workOrderId := "work-order:change"
  basedOnEventCursor := cursor
  basedOnGraphVersion := version
  nodes := [verifyNode, writeNode]
  dependencies := [writeFirst]
  assumptions := []
  doneConditions := ["reviewed"]
  replanEventTypes := ["scope.changed"]
  proposedAt := .utc proposedAt
  proposalId := "plan-proposal:planner:" ++ toString cursor
  nonblank := ⟨blank_append (by decide), by decide, by decide⟩
  nodes_ne := by simp
  assumptions_unique := by decide
  done := by decide
  replan := by decide

/-- The graph that a plan becomes. -/
def reviewGraph (plan : PlanProposal) (version : Nat) (acceptedAt : Int) (h : 0 < version) :
    WorkGraph :=
  .create reviewIds plan version "validator" (.utc acceptedAt) h validator_named

def reviewManifest (agentId : String) (hid : blank agentId = false) : CapabilityManifest where
  agentId
  capabilities := ["code"]
  recordedAt := .utc 0
  manifestId := "capability-manifest:" ++ (agentId ++ ":0")
  nonblank := ⟨blank_append (by decide), hid⟩
  declared := by decide

def reviewPresence (agentId : String) (maxConcurrency : Nat) (observedAt : Int)
    (hid : blank agentId = false) (hmax : 0 < maxConcurrency) (hobserved : observedAt < 100) :
    AgentPresence where
  agentId
  status := .available
  maxConcurrency
  observedAt := .utc observedAt
  validUntil := .utc 100
  agentId_nonblank := hid
  maxConcurrency_pos := hmax
  validity := hobserved

def reviewEstimate (agentId : String) (hid : blank agentId = false) : CompetenceEstimate where
  agentId
  capability := "code"
  score := 1
  evidenceConfidence := 1
  basis := .seeded
  evidenceRefs := []
  estimatedAt := .utc 0
  estimateId := "competence-estimate:" ++ (agentId ++ ":code:0")
  nonblank := ⟨blank_append (by decide), hid, by decide⟩
  score_bounded := bounded_one
  confidence_bounded := bounded_one
  evidence := by decide
  basis_iff := by decide

/-- A lease for ten units of time. -/
def reviewLease (graphId nodeId agentId : String) (fencingToken : Nat) (grantedAt : Int)
    (hids : blank graphId = false ∧ blank nodeId = false ∧ blank agentId = false)
    (htoken : 0 < fencingToken) : WorkLease where
  graphId
  nodeId
  agentId
  fencingToken
  grantedAt := .utc grantedAt
  expiresAt := .utc (grantedAt + 10)
  matchScore := 1
  competenceEstimateRefs := ["competence-estimate:" ++ (agentId ++ ":code:0")]
  informationAccessDecisionRefs := []
  informationDisclosureDecisionRefs := []
  nonblank := hids
  fencingToken_pos := htoken
  term := by simp [Datetime.utc]
  matchScore_bounded := bounded_one
  competence := by
    refine ⟨fun value h => ?_, List.nodup_singleton _, fun _ => List.cons_ne_nil _ _⟩
    rw [List.mem_singleton.mp h]
    exact blank_append (by decide)
  access := ⟨by decide, fun _ h => (nomatch h)⟩
  disclosure := ⟨by decide, fun _ h => (nomatch h)⟩

/-- The completion of a lease at a time. -/
def reviewCompletion (lease : WorkLease) (acceptedAt : Int) (verificationPassed : Option Bool) :
    WorkEvent :=
  { id := lease.terminalId
    type := .nodeCompleted
    source := "coordinator"
    subject := some lease.nodeId
    timestamp := acceptedAt
    causationId := some lease.grantId
    payload := .completion
      { leaseId := lease.leaseId, graphId := lease.graphId, nodeId := lease.nodeId
        agentId := lease.agentId, fencingToken := lease.fencingToken, acceptedAt := .utc acceptedAt
        reportedFinishedAt := none, artifactRefs := ["artifact"], verificationPassed } }

/-- Number some events from 1 on. -/
def numbered (events : List WorkEvent) : List WorkEvent :=
  events.zipIdx.map fun entry => { entry.1 with sequence := some (entry.2 + 1) }

/-- The order, and the two agents. -/
def reviewSetup : List WorkEvent :=
  [reviewOrder.toEvent "coordinator",
   (reviewManifest "ada" ada_named).toEvent "coordinator",
   (reviewManifest "bob" (by decide)).toEvent "coordinator",
   (reviewEstimate "ada" ada_named).toEvent "coordinator",
   (reviewEstimate "bob" (by decide)).toEvent "coordinator",
   (reviewPresence "ada" 1 0 ada_named Nat.one_pos (by decide)).toEvent reviewIds "coordinator",
   (reviewPresence "bob" 1 0 (by decide) Nat.one_pos (by decide)).toEvent reviewIds "coordinator"]

def reviewGraphId : String := "work-graph:work-order:change:1"

def firstPlan : PlanProposal := reviewPlan 7 0 1

def firstGraph : WorkGraph := reviewGraph firstPlan 1 2 Nat.one_pos

def writeLease : WorkLease := reviewLease reviewGraphId "write" "ada" 1 3 (by decide) Nat.one_pos

def verifyLease : WorkLease := reviewLease reviewGraphId "verify" "bob" 1 5 (by decide) Nat.one_pos

/-- The plan is accepted, and both nodes are leased and completed in their turn. -/
def reviewHistory : List WorkEvent :=
  numbered (reviewSetup ++
    [firstPlan.toEvent "coordinator" (WorkOrder.eventId reviewOrder.workOrderId),
     firstGraph.toEvent "coordinator" (PlanProposal.eventId firstPlan.proposalId),
     writeLease.toEvent "coordinator" (WorkGraph.eventId reviewGraphId),
     reviewCompletion writeLease 4 none,
     verifyLease.toEvent "coordinator" (WorkGraph.eventId reviewGraphId),
     reviewCompletion verifyLease 6 (some true)])

theorem reviewHistory_accepted : rebuild reviewIds exactProduct reviewHistory =
    .ok (rebuilt reviewIds exactProduct reviewHistory) :=
  rebuild_rebuilt (by decide +kernel)

theorem review_safe : ∃ q, rebuild reviewIds exactProduct reviewHistory = .ok q ∧
    Safe reviewIds exactProduct reviewHistory q :=
  work_safe reviewHistory_accepted reviewHistory [] (List.append_nil _).symm

/-- The completion of the verification node. -/
def verifyCompletion : NodeCompletion where
  graphId := reviewGraphId
  nodeId := "verify"
  agentId := "bob"
  leaseId := verifyLease.leaseId
  fencingToken := 1
  acceptedAt := .utc 6
  reportedFinishedAt := none
  artifactRefs := ["artifact"]
  verificationPassed := some true

theorem review_independent : ∃ lease q target,
    GrantedAt reviewIds exactProduct reviewHistory lease q ∧
      lease.leaseId = verifyCompletion.leaseId ∧
      q.completions.find (firstGraph.graphId, "write") = some target ∧
      (rebuilt reviewIds exactProduct reviewHistory).completions.find
        (firstGraph.graphId, "write") = some target ∧
      target.agentId ≠ verifyCompletion.agentId := by
  have hgraph : (rebuilt reviewIds exactProduct reviewHistory).graphs.find firstGraph.graphId =
      some firstGraph := by decide +kernel
  have hnode : verifyNode ∈ firstGraph.nodes := List.mem_cons_self ..
  have hcompletion : (rebuilt reviewIds exactProduct reviewHistory).completions.find
      (firstGraph.graphId, verifyNode.nodeId) = some verifyCompletion := by decide +kernel
  exact verified_independently reviewHistory_accepted hgraph hnode hcompletion
    (List.mem_singleton.mpr rfl)

end WorkProjection
end Noema
