import Noema.WorkSteps

/-!
# The ledger of leases

`Ledger` is what every accepted history leaves: at most one active lease for a node,
fencing tokens in the order of the grants, no active lease of a completed node, and the
predecessors of a leased or completed node completed.  Every step keeps it and only adds
to the graphs, the leases, the completions and the outcomes that are settled
(`Extends`).
-/
namespace Noema

namespace WorkProjection

/-- The leases of a node, in the order of their grants. -/
def grants (p : WorkProjection) (ref : NodeRef) : List WorkLease :=
  p.leases.rows.filter fun lease => lease.key = ref

/-- The predecessors of a node are completed. -/
def PredecessorsDone (p : WorkProjection) (graphId nodeId : String) : Prop :=
  ∃ graph, p.graphs.find graphId = some graph ∧
    ∀ predecessorId ∈ graph.predecessors nodeId, p.completed graphId predecessorId = true

/-- Nodes are told apart by their ids, and verification nodes depend on their targets. -/
structure SoundGraph (graph : WorkGraph) : Prop where
  nodes : (graph.nodes.map (·.nodeId)).Nodup
  targets : ∀ node ∈ graph.nodes, ∀ targetId ∈ node.verificationOf,
    Reaches graph.dependencies targetId node.nodeId

/-- What holds of leases, completions and graphs. -/
structure Ledger (p : WorkProjection) : Prop where
  grantEvents : ∀ lease ∈ p.leases.rows, (p.events.find lease.grantId).isSome
  graphEvents : ∀ graph ∈ p.graphs.rows, (p.events.find (WorkGraph.eventId graph.graphId)).isSome
  outcomes : ∀ leaseId, (p.leaseOutcomes.get? leaseId).isSome = (p.leases.find leaseId).isSome
  oneActive : ∀ l ∈ p.leases.rows, ∀ m ∈ p.leases.rows, p.isActive l = true →
    p.isActive m = true → l.key = m.key → l = m
  tokens : ∀ ref, (p.grants ref).map (·.fencingToken) = List.range' 1 (p.grants ref).length
  highest : ∀ ref, p.nextFencingToken ref.1 ref.2 = (p.grants ref).length + 1
  idle : ∀ lease ∈ p.leases.rows, p.isActive lease = true →
    p.completed lease.graphId lease.nodeId = false
  ready : ∀ lease ∈ p.leases.rows, p.PredecessorsDone lease.graphId lease.nodeId
  closed : ∀ completion ∈ p.completions.rows,
    p.PredecessorsDone completion.graphId completion.nodeId
  sound : ∀ graph ∈ p.graphs.rows, SoundGraph graph

/-- A later state: nothing that is settled changes. -/
structure Extends (p p' : WorkProjection) : Prop where
  graphs : ∀ graphId graph, p.graphs.find graphId = some graph →
    p'.graphs.find graphId = some graph
  leases : p.leases.rows <+: p'.leases.rows
  completions : ∀ ref completion, p.completions.find ref = some completion →
    p'.completions.find ref = some completion
  settled : ∀ leaseId outcome, p.leaseOutcomes.get? leaseId = some outcome → outcome ≠ .active →
    p'.leaseOutcomes.get? leaseId = some outcome

variable {ids : WorkIds} {floats : FloatProduct} {p p' q : WorkProjection}

theorem Extends.refl (p : WorkProjection) : Extends p p :=
  ⟨fun _ _ h => h, List.prefix_rfl, fun _ _ h => h, fun _ _ h _ => h⟩

theorem Extends.trans {p p' p'' : WorkProjection} (h : Extends p p') (h' : Extends p' p'') :
    Extends p p'' where
  graphs _ _ hfind := h'.graphs _ _ (h.graphs _ _ hfind)
  leases := h.leases.trans h'.leases
  completions _ _ hfind := h'.completions _ _ (h.completions _ _ hfind)
  settled _ _ hget hne := h'.settled _ _ (h.settled _ _ hget hne) hne

theorem Extends.completed (h : Extends p p') {graphId nodeId : String}
    (hdone : p.completed graphId nodeId = true) : p'.completed graphId nodeId = true := by
  obtain ⟨completion, hfind⟩ := Option.isSome_iff_exists.mp hdone
  exact Option.isSome_of_eq_some (h.completions _ _ hfind)

theorem PredecessorsDone.mono (h : Extends p p') {graphId nodeId : String}
    (hdone : p.PredecessorsDone graphId nodeId) : p'.PredecessorsDone graphId nodeId := by
  obtain ⟨graph, hfind, hpredecessors⟩ := hdone
  exact ⟨graph, h.graphs _ _ hfind, fun predecessorId hmem =>
    h.completed (hpredecessors predecessorId hmem)⟩

theorem mem_activeLeases {lease : WorkLease} :
    lease ∈ p.activeLeases ↔ lease ∈ p.leases.rows ∧ p.isActive lease = true := by
  rw [activeLeases, List.mem_filter, List.mem_insertionSort]

/-- The order of `active_leases` plays no part in their number. -/
theorem activeLeaseCount_eq (p : WorkProjection) (agentId : String) :
    p.activeLeaseCount agentId =
      p.leases.rows.countP fun lease => p.isActive lease && lease.agentId = agentId := by
  have hperm := (List.perm_insertionSort (fun a b : WorkLease => leaseOrder a ≤ leaseOrder b)
    p.leases.rows).filter p.isActive
  unfold activeLeaseCount activeLeases
  rw [hperm.countP_eq, List.countP_filter]
  congr 1
  funext lease
  rw [Bool.and_comm]

theorem activeLease_some {leaseId : String} {lease : WorkLease} :
    p.activeLease leaseId = some lease ↔
      p.leases.find leaseId = some lease ∧ p.isActive lease = true := by
  rw [activeLease, Option.filter_eq_some_iff]

/-! ## Fresh ids -/

theorem append_right_injective {stem a b : String} (h : stem ++ a = stem ++ b) : a = b := by
  have hlist := congrArg String.toList h
  rw [String.toList_append, String.toList_append] at hlist
  exact String.toList_injective (List.append_cancel_left hlist)

theorem grantId_of_leaseId {l m : WorkLease} (h : l.leaseId = m.leaseId) : l.grantId = m.grantId := by
  have hidentity := append_right_injective (h : "work-lease:" ++ l.identity = _ ++ m.identity)
  exact congrArg ("work-lease-granted:" ++ ·) hidentity

/-- A lease whose grant is new has a new id. -/
theorem Ledger.lease_fresh (h : Ledger p) {lease : WorkLease}
    (hnew : p.events.find lease.grantId = none) : lease.leaseId ∉ p.leases.rows.map (·.leaseId) := by
  intro hmem
  obtain ⟨other, hother, hid⟩ := List.mem_map.mp hmem
  have hsome := h.grantEvents other hother
  rw [grantId_of_leaseId hid, hnew] at hsome
  cases hsome

/-- A graph whose acceptance is new has a new id. -/
theorem Ledger.graph_fresh (h : Ledger p) {graph : WorkGraph}
    (hnew : p.events.find (WorkGraph.eventId graph.graphId) = none) :
    p.graphs.find graph.graphId = none := by
  rw [Option.eq_none_iff_forall_ne_some]
  intro other hfind
  have hsome := h.graphEvents other (KeyedTable.mem_of_find hfind)
  rw [KeyedTable.find_key hfind, hnew] at hsome
  cases hsome

/-! ## The steps -/

/-- What the ledger does not speak of may change, and events are only added. -/
theorem Ledger.frame (h : Ledger p) {events : KeyedTable WorkEvent.id}
    (hevents : ∀ id, (p.events.find id).isSome = true → (events.find id).isSome = true)
    (lastSequence : Nat) (orders : KeyedTable WorkOrder.workOrderId)
    (proposals : KeyedTable PlanProposal.proposalId) (latestGraphByOrder : Dict String)
    (invalidations : KeyedTable PlanInvalidation.graphId)
    (presence : KeyedTable AgentPresence.agentId)
    (manifests : KeyedTable fun manifest : CapabilityManifest => manifest.agentId)
    (competence : KeyedTable CompetenceEstimate.key) :
    Ledger { p with
      events, lastSequence, orders, proposals, latestGraphByOrder, invalidations, presence
      manifests, competence } :=
  ⟨fun lease hlease => hevents _ (h.grantEvents lease hlease),
    fun graph hgraph => hevents _ (h.graphEvents graph hgraph), h.outcomes, h.oneActive, h.tokens,
    h.highest, h.idle, h.ready, h.closed, h.sound⟩

/-- An event is kept, and those before it stay. -/
theorem find_keep_isSome {events : KeyedTable WorkEvent.id} (event : WorkEvent) (id : String)
    (h : (events.find id).isSome = true) : ((events.put event).find id).isSome = true := by
  rw [KeyedTable.find_put]
  split
  · rfl
  · exact h

theorem Ledger.keep (h : Ledger p) (event : WorkEvent) (sequence : Nat) :
    Ledger (p.keep event sequence) :=
  h.frame (find_keep_isSome event) _ _ _ _ _ _ _ _

/-- The state in which an active lease has got another outcome. -/
def settle (p : WorkProjection) (lease : WorkLease) (outcome : LeaseOutcome) : WorkProjection :=
  { p with leaseOutcomes := p.leaseOutcomes.put (lease.leaseId, outcome) }

theorem isActive_settle {lease : WorkLease} {outcome : LeaseOutcome} (hne : outcome ≠ .active)
    (other : WorkLease) : (p.settle lease outcome).isActive other =
      (!decide (lease.leaseId = other.leaseId) && p.isActive other) := by
  unfold isActive settle
  dsimp only
  rw [Dict.get?_put]
  by_cases hid : lease.leaseId = other.leaseId
  · simp [hid, hne]
  · simp [hid]

/-- **An active lease is settled.** -/
theorem Ledger.settle (h : Ledger p) {lease : WorkLease} (hlease : lease ∈ p.leases.rows)
    {outcome : LeaseOutcome} (hne : outcome ≠ .active) : Ledger (p.settle lease outcome) := by
  have hactive : ∀ other, (p.settle lease outcome).isActive other = true →
      p.isActive other = true := by
    intro other hother
    rw [isActive_settle hne, Bool.and_eq_true] at hother
    exact hother.2
  constructor
  · exact h.grantEvents
  · exact h.graphEvents
  · intro leaseId
    show (Dict.get? (p.leaseOutcomes.put (lease.leaseId, outcome)) leaseId).isSome = _
    rw [Dict.get?_put]
    split
    · rename_i hid
      show true = (p.leases.find leaseId).isSome
      rw [← hid, KeyedTable.find_of_mem hlease]
      rfl
    · exact h.outcomes leaseId
  · intro l hl m hm hlactive hmactive hkey
    exact h.oneActive l hl m hm (hactive l hlactive) (hactive m hmactive) hkey
  · exact h.tokens
  · exact h.highest
  · exact fun l hl hlactive => h.idle l hl (hactive l hlactive)
  · exact h.ready
  · exact h.closed
  · exact h.sound

theorem Extends.settle {lease : WorkLease} (hactive : p.isActive lease = true)
    (outcome : LeaseOutcome) : Extends p (p.settle lease outcome) := by
  refine ⟨fun _ _ h => h, List.prefix_rfl, fun _ _ h => h, fun leaseId other hget hne => ?_⟩
  have hid : lease.leaseId ≠ leaseId := by
    rintro rfl
    rw [isActive, decide_eq_true_eq, hget] at hactive
    exact hne (Option.some.inj hactive)
  show Dict.get? (p.leaseOutcomes.put (lease.leaseId, outcome)) leaseId = some other
  rw [Dict.get?_put, if_neg hid]
  exact hget

theorem completed_put (completion : NodeCompletion) (graphId nodeId : String) :
    ({ p with completions := p.completions.put completion } : WorkProjection).completed graphId
      nodeId = (decide (completion.key = (graphId, nodeId)) || p.completed graphId nodeId) := by
  unfold completed
  dsimp only
  rw [KeyedTable.find_put]
  by_cases hkey : completion.key = (graphId, nodeId)
  · simp [hkey]
  · simp [hkey]

theorem Extends.complete {completion : NodeCompletion}
    (hnew : p.completed completion.graphId completion.nodeId = false) :
    Extends p { p with completions := p.completions.put completion } := by
  refine ⟨fun _ _ h => h, List.prefix_rfl, fun ref other hfind => ?_, fun _ _ h _ => h⟩
  show (p.completions.put completion).find ref = some other
  rw [KeyedTable.find_put, if_neg, hfind]
  rintro rfl
  have hdone : p.completed completion.graphId completion.nodeId = true :=
    Option.isSome_of_eq_some hfind
  rw [hnew] at hdone
  cases hdone

/-- **A node without an active lease is completed.** -/
theorem Ledger.complete (h : Ledger p) {completion : NodeCompletion}
    (hnew : p.completed completion.graphId completion.nodeId = false)
    (hidle : ∀ lease ∈ p.leases.rows, p.isActive lease = true → lease.key ≠ completion.key)
    (hdone : p.PredecessorsDone completion.graphId completion.nodeId) :
    Ledger { p with completions := p.completions.put completion } := by
  have hextends := Extends.complete hnew
  refine ⟨h.grantEvents, h.graphEvents, h.outcomes, h.oneActive, h.tokens, h.highest, ?_, ?_, ?_,
    h.sound⟩
  · intro lease hlease hactive
    rw [completed_put, h.idle lease hlease hactive, Bool.or_false, decide_eq_false_iff_not]
    exact fun hkey => hidle lease hlease hactive hkey.symm
  · exact fun lease hlease => (h.ready lease hlease).mono hextends
  · intro other hother
    rcases KeyedTable.mem_put.mp hother with rfl | ⟨hold, -⟩
    · exact hdone.mono hextends
    · exact (h.closed other hold).mono hextends

/-- The state in which a lease has been completed. -/
def complete (p : WorkProjection) (payload : CompletionPayload) (lease : WorkLease) :
    WorkProjection :=
  { p.settle lease .completed with
    completions := p.completions.put (completionOf payload lease) }

/-- The state in which a lease has been granted. -/
def grant (p : WorkProjection) (lease : WorkLease) : WorkProjection :=
  { p with
    leases := p.leases.put lease
    leaseOutcomes := p.leaseOutcomes.put (lease.leaseId, .active)
    highestFencingToken := p.highestFencingToken.put (lease.key, lease.fencingToken) }

theorem leases_grant {lease : WorkLease} (hfresh : lease.leaseId ∉ p.leases.rows.map (·.leaseId)) :
    (p.grant lease).leases.rows = p.leases.rows ++ [lease] :=
  KeyedTable.put_rows_of_new hfresh

theorem isActive_grant (lease other : WorkLease) : (p.grant lease).isActive other =
    (decide (lease.leaseId = other.leaseId) || p.isActive other) := by
  unfold isActive grant
  dsimp only
  rw [Dict.get?_put]
  by_cases hid : lease.leaseId = other.leaseId
  · simp [hid]
  · simp [hid]

/-- The leases that were there keep their outcomes. -/
theorem isActive_grant_of_mem {lease other : WorkLease}
    (hfresh : lease.leaseId ∉ p.leases.rows.map (·.leaseId)) (hother : other ∈ p.leases.rows) :
    (p.grant lease).isActive other = p.isActive other := by
  have hne : lease.leaseId ≠ other.leaseId := fun hid => hfresh (hid ▸ List.mem_map_of_mem hother)
  rw [isActive_grant, decide_eq_false hne, Bool.false_or]

theorem Ledger.outcome_fresh (h : Ledger p) {lease : WorkLease}
    (hfresh : lease.leaseId ∉ p.leases.rows.map (·.leaseId)) :
    p.leaseOutcomes.get? lease.leaseId = none := by
  rw [← Option.not_isSome_iff_eq_none, h.outcomes]
  intro hsome
  obtain ⟨other, hother⟩ := Option.isSome_iff_exists.mp hsome
  have hid := KeyedTable.find_key hother
  exact hfresh (hid ▸ List.mem_map_of_mem (KeyedTable.mem_of_find hother))

theorem Ledger.extends_grant (h : Ledger p) {lease : WorkLease}
    (hfresh : lease.leaseId ∉ p.leases.rows.map (·.leaseId)) : Extends p (p.grant lease) := by
  refine ⟨fun _ _ h => h, ?_, fun _ _ h => h, fun leaseId outcome hget hne => ?_⟩
  · rw [leases_grant hfresh]
    exact List.prefix_append _ _
  · show Dict.get? (p.leaseOutcomes.put (lease.leaseId, .active)) leaseId = some outcome
    rw [Dict.get?_put, if_neg, hget]
    rintro rfl
    rw [h.outcome_fresh hfresh] at hget
    cases hget

theorem grants_grant {lease : WorkLease} (hfresh : lease.leaseId ∉ p.leases.rows.map (·.leaseId))
    (ref : NodeRef) : (p.grant lease).grants ref =
      p.grants ref ++ if lease.key = ref then [lease] else [] := by
  unfold grants
  rw [leases_grant hfresh, List.filter_append]
  congr 1
  by_cases hkey : lease.key = ref
  · simp [hkey]
  · simp [hkey]

theorem nextFencingToken_grant (lease : WorkLease) (ref : NodeRef) :
    (p.grant lease).nextFencingToken ref.1 ref.2 =
      if lease.key = ref then lease.fencingToken + 1 else p.nextFencingToken ref.1 ref.2 := by
  unfold nextFencingToken grant
  dsimp only
  rw [KeyedTable.find_put]
  have hkey : tokenKey (lease.key, lease.fencingToken) = lease.key := rfl
  rw [hkey]
  by_cases hsame : lease.key = ref
  · rw [if_pos hsame, if_pos hsame]
    rfl
  · rw [if_neg hsame, if_neg hsame]

/-- **A ready node gets a lease of the next token.** -/
theorem Ledger.grant (h : Ledger p) {lease : WorkLease} {graph : WorkGraph} {node : WorkNode}
    (hready : NodeReady p lease graph node) {event : WorkEvent} (hid : event.id = lease.grantId)
    (hnew : p.events.find event.id = none) (sequence : Nat) :
    Ledger ((p.grant lease).keep event sequence) := by
  have hfresh : lease.leaseId ∉ p.leases.rows.map (·.leaseId) := h.lease_fresh (hid ▸ hnew)
  have hextends := h.extends_grant hfresh
  have hrows : ∀ {other}, other ∈ (p.grant lease).leases.rows →
      other ∈ p.leases.rows ∨ other = lease := by
    intro other hother
    rw [leases_grant hfresh, List.mem_append, List.mem_singleton] at hother
    exact hother
  have hfree : ∀ other ∈ p.leases.rows, p.isActive other = true → other.key ≠ lease.key := by
    intro other hother hactive hkey
    have hnone := List.find?_eq_none.mp hready.free other (mem_activeLeases.mpr ⟨hother, hactive⟩)
    simp only [decide_eq_true_eq] at hnone
    exact hnone (Prod.ext_iff.mp hkey)
  constructor
  · intro other hother
    rcases hrows hother with hold | rfl
    · exact find_keep_isSome event _ (h.grantEvents other hold)
    · show ((p.events.put event).find other.grantId).isSome = true
      rw [KeyedTable.find_put, if_pos hid]
      rfl
  · exact fun graph hgraph => find_keep_isSome event _ (h.graphEvents graph hgraph)
  · intro leaseId
    show (Dict.get? (p.leaseOutcomes.put (lease.leaseId, .active)) leaseId).isSome =
      ((p.leases.put lease).find leaseId).isSome
    rw [Dict.get?_put, KeyedTable.find_put]
    split
    · rfl
    · exact h.outcomes leaseId
  · intro l hl m hm hlactive hmactive hkey
    rcases hrows hl with hlold | hlnew <;> rcases hrows hm with hmold | hmnew
    · have hlactive : p.isActive l = true := by rwa [← isActive_grant_of_mem hfresh hlold]
      have hmactive : p.isActive m = true := by rwa [← isActive_grant_of_mem hfresh hmold]
      exact h.oneActive l hlold m hmold hlactive hmactive hkey
    · have hlactive : p.isActive l = true := by rwa [← isActive_grant_of_mem hfresh hlold]
      exact absurd (hkey.trans (congrArg WorkLease.key hmnew)) (hfree l hlold hlactive)
    · have hmactive : p.isActive m = true := by rwa [← isActive_grant_of_mem hfresh hmold]
      exact absurd (hkey.symm.trans (congrArg WorkLease.key hlnew)) (hfree m hmold hmactive)
    · exact hlnew.trans hmnew.symm
  · intro ref
    show ((p.grant lease).grants ref).map _ = List.range' 1 ((p.grant lease).grants ref).length
    rw [grants_grant hfresh]
    by_cases hkey : lease.key = ref
    · have htoken : lease.fencingToken = (p.grants ref).length + 1 := by
        rw [hready.token, ← h.highest ref, ← hkey]
        rfl
      rw [if_pos hkey, List.map_append, h.tokens, List.length_append, List.length_singleton,
        List.range'_concat, List.map_cons, List.map_nil, htoken, Nat.one_mul, Nat.add_comm 1]
    · rw [if_neg hkey, List.append_nil]
      exact h.tokens ref
  · intro ref
    show (p.grant lease).nextFencingToken ref.1 ref.2 = ((p.grant lease).grants ref).length + 1
    rw [nextFencingToken_grant, grants_grant hfresh]
    by_cases hkey : lease.key = ref
    · rw [if_pos hkey, if_pos hkey, List.length_append, List.length_singleton, hready.token,
        ← h.highest ref, ← hkey]
      rfl
    · rw [if_neg hkey, if_neg hkey, List.append_nil]
      exact h.highest ref
  · intro other hother hactive
    rcases hrows hother with hold | rfl
    · have hactive : p.isActive other = true := by rwa [← isActive_grant_of_mem hfresh hold]
      exact h.idle other hold hactive
    · exact hready.incomplete
  · intro other hother
    rcases hrows hother with hold | rfl
    · exact (h.ready other hold).mono hextends
    · exact ⟨graph, hready.findGraph, hready.predecessors⟩
  · exact fun completion hcompletion => (h.closed completion hcompletion).mono hextends
  · exact h.sound

/-- The state in which a graph has been accepted. -/
def accept (p : WorkProjection) (graph : WorkGraph) : WorkProjection :=
  { p with
    graphs := p.graphs.put graph
    latestGraphByOrder := p.latestGraphByOrder.put (graph.workOrderId, graph.graphId) }

theorem Extends.accept {graph : WorkGraph} (hfresh : p.graphs.find graph.graphId = none) :
    Extends p (p.accept graph) := by
  refine ⟨fun graphId other hfind => ?_, List.prefix_rfl, fun _ _ h => h, fun _ _ h _ => h⟩
  show (p.graphs.put graph).find graphId = some other
  rw [KeyedTable.find_put, if_neg, hfind]
  rintro rfl
  rw [hfresh] at hfind
  cases hfind

/-- **A sound graph is accepted.** -/
theorem Ledger.accept (h : Ledger p) {graph : WorkGraph} {event : WorkEvent}
    (hid : event.id = WorkGraph.eventId graph.graphId) (hnew : p.events.find event.id = none)
    (hsound : SoundGraph graph) (sequence : Nat) :
    Ledger ((p.accept graph).keep event sequence) := by
  have hextends := Extends.accept (h.graph_fresh (hid ▸ hnew))
  refine ⟨fun lease hlease => find_keep_isSome event _ (h.grantEvents lease hlease), ?_, h.outcomes,
    h.oneActive, h.tokens, h.highest, h.idle, fun lease hlease => (h.ready lease hlease).mono hextends,
    fun completion hcompletion => (h.closed completion hcompletion).mono hextends, ?_⟩
  · intro other hother
    rcases KeyedTable.mem_put.mp hother with rfl | ⟨hold, -⟩
    · show ((p.events.put event).find (WorkGraph.eventId other.graphId)).isSome = true
      rw [KeyedTable.find_put, if_pos hid]
      rfl
    · exact find_keep_isSome event _ (h.graphEvents other hold)
  · intro other hother
    rcases KeyedTable.mem_put.mp hother with rfl | ⟨hold, -⟩
    · exact hsound
    · exact h.sound other hold

/-! ## Every step -/

theorem lease_read {event : WorkEvent} {lease : WorkLease}
    (h : WorkLease.fromEvent event = .ok lease) :
    event.payload = .lease lease ∧ event.id = lease.grantId ∧
      event.timestamp = lease.grantedAt.instant := by
  unfold WorkLease.fromEvent at h
  split at h
  · rename_i stated hpayload
    rw [bind_ok_iff] at h
    obtain ⟨_, henvelope, h⟩ := h
    obtain ⟨hid, -, htime⟩ := checkEnvelope_ok.mp henvelope
    rw [require_bind_ok] at h
    obtain ⟨-, h⟩ := h
    cases h
    exact ⟨hpayload, hid, htime⟩
  · cases h

theorem graph_read {event : WorkEvent} {graph : WorkGraph}
    (h : WorkGraph.fromEvent ids event = .ok graph) :
    event.payload = .graph graph ∧ event.id = WorkGraph.eventId graph.graphId := by
  unfold WorkGraph.fromEvent at h
  split at h
  · rename_i stated hpayload
    rw [require_bind_ok, bind_ok_iff] at h
    obtain ⟨-, _, henvelope, h⟩ := h
    obtain ⟨hid, -, -⟩ := checkEnvelope_ok.mp henvelope
    rw [require_bind_ok] at h
    obtain ⟨-, h⟩ := h
    cases h
    exact ⟨hpayload, hid⟩
  · cases h

/-- An accepted graph is sound. -/
theorem GraphFits.sound {event : WorkEvent} {sequence : Nat} {graph : WorkGraph}
    {proposal : PlanProposal} {order : WorkOrder} {available : List String}
    (h : GraphFits ids p event sequence graph proposal order available) : SoundGraph graph := by
  obtain ⟨hadmits, hgraph⟩ := PlanValidator.validate_ok.mp h.valid
  have hnodes : graph.nodes = proposal.nodes := by rw [hgraph]; rfl
  have hdependencies : graph.dependencies = proposal.dependencies := by rw [hgraph]; rfl
  constructor
  · rw [hnodes]
    exact hadmits.nodes
  · intro node hnode targetId htarget
    rw [hdependencies]
    exact hadmits.targets_reach (hnodes ▸ hnode) htarget

theorem Extends.keep (h : Extends p q) (event : WorkEvent) (sequence : Nat) :
    Extends p (q.keep event sequence) :=
  ⟨h.graphs, h.leases, h.completions, h.settled⟩

/-- **Every accepted event keeps the ledger and settles no more than it must.** -/
theorem Ledger.step (h : Ledger p) {event : WorkEvent} {sequence : Nat}
    (hnew : p.events.find event.id = none) (hrecorded : Recorded ids floats p event sequence q) :
    Ledger (q.keep event sequence) ∧ Extends p (q.keep event sequence) := by
  cases hrecorded with
  | order | proposal | presence | manifest | estimate | invalidation =>
    refine ⟨h.frame (find_keep_isSome event) _ _ _ _ _ _ _ _, ?_⟩
    exact ⟨fun _ _ h => h, List.prefix_rfl, fun _ _ h => h, fun _ _ h _ => h⟩
  | other => exact ⟨h.keep event sequence, (Extends.refl p).keep event sequence⟩
  | @graph graph _ _ _ htype hfits =>
    obtain ⟨-, hid⟩ := graph_read hfits.read
    have hfresh := h.graph_fresh (hid ▸ hnew)
    exact ⟨h.accept hid hnew hfits.sound sequence, (Extends.accept hfresh).keep event sequence⟩
  | @lease lease graph node presence estimates htype hread hcause hready hagent =>
    obtain ⟨-, hid, -⟩ := lease_read hread
    have hfresh := h.lease_fresh (hid ▸ hnew)
    exact ⟨h.grant hready hid hnew sequence, (h.extends_grant hfresh).keep event sequence⟩
  | @expiration stated expiredAt reason lease htype hpayload hfits =>
    obtain ⟨hfind, hactive⟩ := activeLease_some.mp hfits.findLease
    have hmem := KeyedTable.mem_of_find hfind
    exact ⟨(h.settle hmem (by decide)).keep event sequence,
      (Extends.settle hactive .expired).keep event sequence⟩
  | @completion payload lease graph node htype hpayload hfits =>
    obtain ⟨hfind, hactive⟩ := activeLease_some.mp hfits.findLease
    have hmem := KeyedTable.mem_of_find hfind
    have hsettled : Ledger (p.settle lease .completed) := h.settle hmem (by decide)
    have hincomplete := h.idle lease hmem hactive
    have hidle : ∀ other ∈ p.leases.rows,
        (p.settle lease .completed).isActive other = true → other.key ≠ lease.key := by
      intro other hother hstill hkey
      rw [isActive_settle (by decide), Bool.and_eq_true, Bool.not_eq_true',
        decide_eq_false_iff_not] at hstill
      have hsame := h.oneActive other hother lease hmem hstill.2 hactive hkey
      exact hstill.1 (congrArg WorkLease.leaseId hsame.symm)
    have hcomplete : Ledger (p.complete payload lease) :=
      hsettled.complete hincomplete hidle (h.ready lease hmem)
    have hextends : Extends (p.settle lease .completed) (p.complete payload lease) :=
      Extends.complete hincomplete
    exact ⟨hcomplete.keep event sequence,
      ((Extends.settle hactive .completed).trans hextends).keep event sequence⟩

theorem Ledger.empty : Ledger empty where
  grantEvents _ h := nomatch h
  graphEvents _ h := nomatch h
  outcomes _ := rfl
  oneActive _ h := nomatch h
  tokens _ := rfl
  highest _ := rfl
  idle _ h := nomatch h
  ready _ h := nomatch h
  closed _ h := nomatch h
  sound _ h := nomatch h

/-- The same, for an event that may be known already. -/
theorem Ledger.apply (h : Ledger p) {event : WorkEvent} (happly : p.apply ids floats event = .ok p') :
    Ledger p' ∧ Extends p p' := by
  rcases apply_ok.mp happly with ⟨-, rfl⟩ | ⟨hnew, sequence, q, -, -, hrecorded, rfl⟩
  · exact ⟨h, Extends.refl p'⟩
  · exact h.step hnew hrecorded

end WorkProjection
end Noema
