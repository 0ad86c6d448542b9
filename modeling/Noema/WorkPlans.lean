import Noema.WorkSafety

/-!
# Versions and causal cuts

The graphs of a work order have the versions 1, 2, … in the order of their acceptance,
and no replan condition lies between a proposal's causal cut and the acceptance.  A
proposal names its cut and a version separately, and the version is compared with the
one at the acceptance: so another graph of the order can lie in between, exactly if the
version is not the one at the cut (`noStalePlan_iff`).
-/
namespace Noema

/-- The acceptance of a graph of the order. -/
def WorkEvent.isGraphOf (event : WorkEvent) (workOrderId : String) : Bool :=
  event.type = .graphAccepted &&
    match event.payload with
    | .graph graph => graph.workOrderId = workOrderId
    | _ => false

namespace WorkProjection

/-- The graphs of an order, in the order of their acceptance. -/
def graphsOf (p : WorkProjection) (workOrderId : String) : List WorkGraph :=
  p.graphs.rows.filter fun graph => graph.workOrderId = workOrderId

/-- How many graphs of an order were accepted at or before a cut. -/
def versionAt (p : WorkProjection) (workOrderId : String) (cut : Nat) : Nat :=
  p.events.rows.countP fun event => event.isGraphOf workOrderId && event.sequence.getD 0 ≤ cut

/-- The versions are counted up, the latest graph is the last one, and each acceptance is
among the events. -/
structure Versions (p : WorkProjection) : Prop where
  counted : ∀ workOrderId, (p.graphsOf workOrderId).map (·.version) =
    List.range' 1 (p.graphsOf workOrderId).length
  latest : ∀ workOrderId, p.latestGraph workOrderId = (p.graphsOf workOrderId).getLast?
  accepted : ∀ workOrderId, (p.graphsOf workOrderId).length =
    p.events.rows.countP fun event => event.isGraphOf workOrderId
  known : ∀ workOrderId graphId, p.latestGraphByOrder.get? workOrderId = some graphId →
    (p.graphs.find graphId).isSome = true

variable {ids : WorkIds} {floats : FloatProduct} {p p' q : WorkProjection}
  {history : List WorkEvent} {event : WorkEvent}

theorem Versions.latestVersion (h : Versions p) (workOrderId : String) :
    p.latestVersion workOrderId = (p.graphsOf workOrderId).length := by
  have hcounted := congrArg List.getLast? (h.counted workOrderId)
  rw [List.getLast?_map, ← h.latest] at hcounted
  unfold WorkProjection.latestVersion
  rw [hcounted]
  cases (p.graphsOf workOrderId).length with
  | zero => rfl
  | succ n =>
    rw [List.range'_concat, List.getLast?_concat, Option.getD_some]
    omega

/-- A new event is put behind the others. -/
theorem keep_rows (hnew : p.events.find event.id = none) (sequence : Nat) :
    (p.keep event sequence).events.rows = p.events.rows ++ [event] :=
  KeyedTable.put_rows_of_new (KeyedTable.not_mem_keys_of_find hnew)

theorem isGraphOf_of_type (htype : event.type ≠ .graphAccepted) (workOrderId : String) :
    event.isGraphOf workOrderId = false := by
  rw [WorkEvent.isGraphOf, decide_eq_false htype, Bool.false_and]

theorem isGraphOf_of_payload {graph : WorkGraph} (htype : event.type = .graphAccepted)
    (hpayload : event.payload = .graph graph) (workOrderId : String) :
    event.isGraphOf workOrderId = decide (graph.workOrderId = workOrderId) := by
  rw [WorkEvent.isGraphOf, htype, hpayload]
  rfl

/-- A step that accepts no graph. -/
theorem Versions.frame (h : Versions p) (hnew : p.events.find event.id = none)
    (htype : event.type ≠ .graphAccepted) (hgraphs : q.graphs = p.graphs)
    (hlatest : q.latestGraphByOrder = p.latestGraphByOrder) (hevents : q.events = p.events)
    (sequence : Nat) : Versions (q.keep event sequence) := by
  have hgraphsOf : ∀ workOrderId,
      (q.keep event sequence).graphsOf workOrderId = p.graphsOf workOrderId := by
    intro workOrderId
    show q.graphs.rows.filter _ = p.graphs.rows.filter _
    rw [hgraphs]
  constructor
  · intro workOrderId
    rw [hgraphsOf]
    exact h.counted workOrderId
  · intro workOrderId
    rw [hgraphsOf, ← h.latest]
    show (q.latestGraphByOrder.get? workOrderId).bind q.graphs.find = _
    rw [hgraphs, hlatest]
    rfl
  · intro workOrderId
    rw [hgraphsOf, h.accepted, keep_rows (hevents ▸ hnew) sequence, hevents, List.countP_append,
      List.countP_singleton, isGraphOf_of_type htype, if_neg Bool.false_ne_true, Nat.add_zero]
  · intro workOrderId graphId hget
    show (q.graphs.find graphId).isSome = true
    rw [hgraphs]
    exact h.known workOrderId graphId (hlatest ▸ hget)

theorem graphsOf_accept {graph : WorkGraph} (hfresh : p.graphs.find graph.graphId = none)
    (workOrderId : String) : (p.accept graph).graphsOf workOrderId =
      p.graphsOf workOrderId ++ if graph.workOrderId = workOrderId then [graph] else [] := by
  have hrows : (p.accept graph).graphs.rows = p.graphs.rows ++ [graph] :=
    KeyedTable.put_rows_of_new (KeyedTable.not_mem_keys_of_find hfresh)
  rw [graphsOf, hrows, List.filter_append]
  congr 1
  by_cases hsame : graph.workOrderId = workOrderId
  · simp [hsame]
  · simp [hsame]

theorem latestGraph_accept {graph : WorkGraph} (hfresh : p.graphs.find graph.graphId = none)
    (hknown : ∀ workOrderId graphId, p.latestGraphByOrder.get? workOrderId = some graphId →
      (p.graphs.find graphId).isSome = true) (workOrderId : String) :
    (p.accept graph).latestGraph workOrderId =
      if graph.workOrderId = workOrderId then some graph else p.latestGraph workOrderId := by
  unfold latestGraph accept
  dsimp only
  rw [Dict.get?_put]
  by_cases hsame : graph.workOrderId = workOrderId
  · rw [if_pos hsame, if_pos hsame, Option.bind_some, KeyedTable.find_put, if_pos rfl]
  · rw [if_neg hsame, if_neg hsame]
    cases hget : p.latestGraphByOrder.get? workOrderId with
    | none => rfl
    | some graphId =>
      rw [Option.bind_some, Option.bind_some, KeyedTable.find_put, if_neg]
      rintro rfl
      have hsome := hknown _ _ hget
      rw [hfresh] at hsome
      cases hsome

/-- What an accepted graph is made from. -/
theorem GraphFits.spec {sequence : Nat} {graph : WorkGraph} {proposal : PlanProposal}
    {order : WorkOrder} {available : List String}
    (h : GraphFits ids p event sequence graph proposal order available) :
    PlanValidator.Admits proposal order
      (p.graphAdmission proposal graph.workOrderId available sequence graph.acceptedAt) ∧
    graph.workOrderId = proposal.workOrderId ∧
    graph.version = p.latestVersion graph.workOrderId + 1 := by
  obtain ⟨hadmits, hgraph⟩ := PlanValidator.validate_ok.mp h.valid
  have horder : graph.workOrderId = proposal.workOrderId := by
    rw [hgraph]
    rfl
  refine ⟨hadmits, horder, ?_⟩
  have hversion : graph.version = (p.graphAdmission proposal graph.workOrderId available sequence
      graph.acceptedAt).currentGraphVersion + 1 := congrArg (·.version) hgraph
  exact hversion

/-- A graph of the next version is accepted. -/
theorem Versions.accept (h : Versions p) {graph : WorkGraph}
    (hfresh : p.graphs.find graph.graphId = none) (hnew : p.events.find event.id = none)
    (htype : event.type = .graphAccepted) (hpayload : event.payload = .graph graph)
    (hversion : graph.version = p.latestVersion graph.workOrderId + 1) (sequence : Nat) :
    Versions ((p.accept graph).keep event sequence) := by
  have hgraphsOf : ∀ workOrderId, ((p.accept graph).keep event sequence).graphsOf workOrderId =
      p.graphsOf workOrderId ++ if graph.workOrderId = workOrderId then [graph] else [] :=
    graphsOf_accept hfresh
  constructor
  · intro workOrderId
    rw [hgraphsOf]
    by_cases hsame : graph.workOrderId = workOrderId
    · have hnext : graph.version = (p.graphsOf workOrderId).length + 1 := by
        rw [hversion, h.latestVersion, hsame]
      rw [if_pos hsame, List.map_append, h.counted, List.length_append, List.length_singleton,
        List.range'_concat, List.map_cons, List.map_nil, hnext, Nat.one_mul, Nat.add_comm 1]
    · rw [if_neg hsame, List.append_nil]
      exact h.counted workOrderId
  · intro workOrderId
    rw [hgraphsOf]
    refine (latestGraph_accept hfresh h.known workOrderId).trans ?_
    by_cases hsame : graph.workOrderId = workOrderId
    · rw [if_pos hsame, if_pos hsame, List.getLast?_concat]
    · rw [if_neg hsame, if_neg hsame, List.append_nil]
      exact h.latest workOrderId
  · intro workOrderId
    have hrows : ((p.accept graph).keep event sequence).events.rows = p.events.rows ++ [event] :=
      keep_rows hnew sequence
    rw [hgraphsOf, hrows, List.countP_append, List.countP_singleton,
      isGraphOf_of_payload htype hpayload, List.length_append, h.accepted]
    by_cases hsame : graph.workOrderId = workOrderId
    · simp [hsame]
    · simp [hsame]
  · intro workOrderId graphId hget
    have hget : Dict.get? (p.latestGraphByOrder.put (graph.workOrderId, graph.graphId))
        workOrderId = some graphId := hget
    show ((p.graphs.put graph).find graphId).isSome = true
    rw [KeyedTable.find_put]
    by_cases hid : graph.graphId = graphId
    · rw [if_pos hid]
      rfl
    · rw [if_neg hid]
      rw [Dict.get?_put] at hget
      split at hget
      · exact absurd (Option.some.inj hget) hid
      · exact h.known workOrderId graphId hget

/-- **Every accepted event keeps the versions.** -/
theorem Versions.step (h : Versions p) (hledger : Ledger p)
    (hnew : p.events.find event.id = none) {sequence : Nat}
    (hrecorded : Recorded ids floats p event sequence q) : Versions (q.keep event sequence) := by
  cases hrecorded with
  | order ht | proposal ht | presence ht | manifest ht | estimate ht | lease ht | expiration ht
  | completion ht | invalidation ht =>
    refine h.frame hnew (by rw [ht]; decide) ?_ ?_ ?_ sequence <;> rfl
  | other ht =>
    refine h.frame hnew ?_ rfl rfl rfl sequence
    rcases ht with ht | ht | ⟨type, ht⟩ <;> rw [ht] <;> simp
  | graph htype hfits =>
    obtain ⟨hpayload, hid⟩ := graph_read hfits.read
    obtain ⟨-, -, hversion⟩ := hfits.spec
    exact h.accept (hledger.graph_fresh (hid ▸ hnew)) hnew htype hpayload hversion sequence

theorem Versions.empty : Versions empty :=
  ⟨fun _ => rfl, fun _ => rfl, fun _ => rfl, fun _ _ h => nomatch h⟩

/-- **The graphs of an order have the versions 1, 2, ….** -/
theorem rebuild_versions (h : rebuild ids floats history = .ok p) : Versions p := by
  refine rebuild_induction (I := fun _ p => Versions p) Versions.empty ?_ ?_ h
  · intro _ _ _ _ ih _
    exact ih
  · intro _ _ q q' sequence hq ih hnew _ _ hrecorded
    exact ih.step (rebuild_ledger hq) hnew hrecorded

/-! ## The events between the cut and the acceptance -/

/-- The events have sequences up to the last one. -/
def Sequenced (p : WorkProjection) : Prop :=
  ∀ event ∈ p.events.rows, event.sequence.getD 0 ≤ p.lastSequence

theorem Recorded.same_events {sequence : Nat} (h : Recorded ids floats p event sequence q) :
    q.events = p.events ∧ q.lastSequence = p.lastSequence := by
  cases h <;> exact ⟨rfl, rfl⟩

theorem Sequenced.step (h : Sequenced p) {sequence : Nat} (hsequence : event.sequence = some sequence)
    (hlast : p.lastSequence < sequence) (hrecorded : Recorded ids floats p event sequence q) :
    Sequenced (q.keep event sequence) := by
  intro other hother
  show other.sequence.getD 0 ≤ sequence
  rcases KeyedTable.mem_put.mp hother with rfl | ⟨hold, -⟩
  · rw [hsequence, Option.getD_some]
  · rw [hrecorded.same_events.1] at hold
    exact (h other hold).trans hlast.le

theorem rebuild_sequenced (h : rebuild ids floats history = .ok p) : Sequenced p := by
  refine rebuild_induction (I := fun _ p => Sequenced p) (fun _ h => (nomatch h)) ?_ ?_ h
  · intro _ _ _ _ ih _
    exact ih
  · intro _ _ q q' sequence _ ih _ hsequence hlater hrecorded
    exact ih.step hsequence hlater hrecorded

/-- The graph was accepted in the state `q`, from a proposal. -/
def AcceptedAt (ids : WorkIds) (floats : FloatProduct) (history : List WorkEvent)
    (graph : WorkGraph) (proposal : PlanProposal) (q : WorkProjection) : Prop :=
  ∃ event, AppliedTo ids floats history event q ∧ event.type = .graphAccepted ∧
    event.payload = .graph graph ∧ q.proposals.find graph.proposalId = some proposal

/-- What an acceptance met. -/
theorem AcceptedAt.spec (h : rebuild ids floats history = .ok p) {graph : WorkGraph}
    {proposal : PlanProposal} (haccepted : AcceptedAt ids floats history graph proposal q) :
    Versions q ∧ Sequenced q ∧ ∃ event sequence order available, q.lastSequence < sequence ∧
      GraphFits ids q event sequence graph proposal order available := by
  obtain ⟨event, happlied, htype, hpayload, hproposal⟩ := haccepted
  obtain ⟨-, -, sequence, q', -, hlast, hrecorded, -⟩ := happlied.spec h
  obtain ⟨before, after, -, hq, -⟩ := happlied
  refine ⟨rebuild_versions hq, rebuild_sequenced hq, ?_⟩
  cases hrecorded with
  | order ht | proposal ht | lease ht | presence ht | manifest ht | estimate ht | expiration ht
  | completion ht | invalidation ht =>
    rw [htype] at ht
    cases ht
  | other ht => simp [htype] at ht
  | @graph graph' proposal' order available _ hfits =>
    obtain ⟨hpayload', -⟩ := graph_read hfits.read
    cases hpayload.symm.trans hpayload'
    have hfound := hfits.findProposal
    rw [hproposal] at hfound
    cases hfound
    exact ⟨event, sequence, order, available, hlast, hfits⟩

/-- No event after the cut is a replan condition. -/
theorem GraphFits.fresh {sequence : Nat} {graph : WorkGraph} {proposal : PlanProposal}
    {order : WorkOrder} {available : List String}
    (h : GraphFits ids p event sequence graph proposal order available) (hsequenced : Sequenced p)
    (hlast : p.lastSequence < sequence) {other : WorkEvent} (hother : other ∈ p.events.rows)
    (hcut : proposal.basedOnEventCursor < other.sequence.getD 0) :
    other.type.text ∉ proposal.replanEventTypes := by
  obtain ⟨hadmits, -, -⟩ := h.spec
  intro hreplan
  have hnone := List.filter_eq_nil_iff.mp hadmits.fresh other
  have hbound := hsequenced other hother
  have hbefore : other.sequence.getD 0 ≤ sequence - 1 := by omega
  refine hnone (List.mem_filter.mpr ⟨hother, ?_⟩) ?_
  · simp [hcut, hbefore]
  · simp [hreplan, hcut]

/-! ## Stale plans -/

/-- The graph versions count up, and between a proposal's cut and the acceptance of its
graph there is no replan condition and no other graph of the order. -/
structure NoStalePlan (ids : WorkIds) (floats : FloatProduct) (history : List WorkEvent)
    (p : WorkProjection) : Prop where
  versions : ∀ workOrderId, (p.graphsOf workOrderId).map (·.version) =
    List.range' 1 (p.graphsOf workOrderId).length
  replan : ∀ graph proposal q, AcceptedAt ids floats history graph proposal q →
    ∀ event ∈ q.events.rows, proposal.basedOnEventCursor < event.sequence.getD 0 →
      event.type.text ∉ proposal.replanEventTypes
  graphs : ∀ graph proposal q, AcceptedAt ids floats history graph proposal q →
    ∀ event ∈ q.events.rows, proposal.basedOnEventCursor < event.sequence.getD 0 →
      event.isGraphOf graph.workOrderId = false

/-- Every accepted graph's proposal states the version that its order had at the cut. -/
def StatesVersionAtCut (ids : WorkIds) (floats : FloatProduct) (history : List WorkEvent) : Prop :=
  ∀ graph proposal q, AcceptedAt ids floats history graph proposal q →
    proposal.basedOnGraphVersion = q.versionAt graph.workOrderId proposal.basedOnEventCursor

/-- The version at a cut is the present one exactly if no graph was accepted since. -/
theorem versionAt_eq_iff (h : Versions p) (workOrderId : String) (cut : Nat) :
    p.latestVersion workOrderId = p.versionAt workOrderId cut ↔
      ∀ event ∈ p.events.rows, cut < event.sequence.getD 0 →
        event.isGraphOf workOrderId = false := by
  rw [h.latestVersion, h.accepted, versionAt]
  generalize p.events.rows = rows
  induction rows with
  | nil => exact ⟨fun _ _ h => (nomatch h), fun _ => rfl⟩
  | cons event rows ih =>
    have hle : rows.countP (fun event =>
        event.isGraphOf workOrderId && event.sequence.getD 0 ≤ cut) ≤
        rows.countP fun event => event.isGraphOf workOrderId := by
      refine List.countP_mono_left fun other _ hother => ?_
      rw [Bool.and_eq_true] at hother
      exact hother.1
    rw [List.forall_mem_cons, ← ih, List.countP_cons, List.countP_cons]
    cases hgraph : event.isGraphOf workOrderId with
    | false => simp
    | true =>
      by_cases hcut : event.sequence.getD 0 ≤ cut
      · simp [hcut, Nat.not_lt.mpr hcut]
      · simp only [hcut, decide_false, Bool.and_false, Bool.false_eq_true, if_false, if_true,
          Nat.add_zero]
        constructor
        · intro heq
          omega
        · rintro ⟨hbefore, -⟩
          exact absurd (hbefore (Nat.lt_of_not_le hcut)) (by decide)

/-- **No accepted plan is stale exactly if each states the version at its cut.** -/
theorem noStalePlan_iff (h : rebuild ids floats history = .ok p) :
    NoStalePlan ids floats history p ↔ StatesVersionAtCut ids floats history := by
  have hversion : ∀ graph proposal q, AcceptedAt ids floats history graph proposal q →
      Versions q ∧ proposal.basedOnGraphVersion = q.latestVersion graph.workOrderId := by
    intro graph proposal q haccepted
    obtain ⟨hversions, -, event, sequence, order, available, -, hfits⟩ := haccepted.spec h
    exact ⟨hversions, hfits.spec.1.version⟩
  constructor
  · intro hfresh graph proposal q haccepted
    obtain ⟨hversions, hstated⟩ := hversion graph proposal q haccepted
    rw [hstated]
    exact (versionAt_eq_iff hversions _ _).mpr (hfresh.graphs graph proposal q haccepted)
  · intro hstates
    refine ⟨(rebuild_versions h).counted, ?_, ?_⟩
    · intro graph proposal q haccepted event hevent hcut
      obtain ⟨-, hsequenced, other, sequence, order, available, hlast, hfits⟩ := haccepted.spec h
      exact hfits.fresh hsequenced hlast hevent hcut
    · intro graph proposal q haccepted
      obtain ⟨hversions, hstated⟩ := hversion graph proposal q haccepted
      have hcut := hstates graph proposal q haccepted
      rw [hstated] at hcut
      exact (versionAt_eq_iff hversions _ _).mp hcut

end WorkProjection
end Noema
