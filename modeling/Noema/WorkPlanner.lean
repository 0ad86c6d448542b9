import Noema.Lib.Machine
import Noema.Lib.TaskPool
import Noema.WorkPlans

/-!
# Concurrent plan calls

Any number of `DurableWorkCoordinator.plan` calls, each of a coordinator of its own, run
on one log together with any other appends.  An `INSERT` draws the row's sequence and
the row is seen after its commit, so the sequences may have gaps and rows may be
committed out of order; a conditional append locks the table and so waits for every open
insert.  A planner answers any proposal, and a call may raise or be cancelled wherever
it waits.

If rows are committed in the order of their sequences, the replay of the log accepts
every graph that a call appends (`planned_accepted`).  A manifest that is committed late
can take a capability away that the call had seen (`plans_go_stale`).
-/
namespace Noema
open Machine TaskPool

/-- Where a call of `plan` is. -/
inductive PlanPc
  | reloading
  /-- `planner.propose`, with the causal cursor. -/
  | proposing (order : WorkOrder) (cursor : Nat)
  /-- The second `_reload`. -/
  | proposed (order : WorkOrder) (cursor : Nat) (proposal : PlanProposal)
  /-- `_emit` of the proposal, with the projection. -/
  | emitting (order : WorkOrder) (cursor : Nat) (proposal : PlanProposal)
      (projection : WorkProjection)
  /-- The `_reload` of the loop. -/
  | admitting (order : WorkOrder) (cursor : Nat) (proposal : PlanProposal)
  /-- `_append_graph_if_head`. -/
  | appending (order : WorkOrder) (cursor : Nat) (proposal : PlanProposal) (graph : WorkGraph)
      (head : Nat)
  | ended

/-- A call of `plan` and the coordinator that runs it. -/
structure PlanCall where
  validator : PlanValidator
  source : String
  workOrderId : String
  pc : PlanPc

/-- The committed rows in the order of their sequences, the rows that are inserted but
not committed, the calls, and the graph events they appended. -/
structure PlanStore where
  rows : List WorkEvent
  nextSequence : Nat
  open' : List WorkEvent
  calls : List PlanCall
  appended : List WorkEvent

inductive PlanLabel
  | plan (validator : PlanValidator) (source workOrderId : String)
  | reload (index : Nat)
  | propose (index : Nat) (proposal : PlanProposal)
  | reloadAgain (index : Nat)
  | stored (index : Nat)
  | validate (index : Nat) (acceptedAt : Datetime)
  | append (index : Nat)
  | abort (index : Nat)
  | insert (event : WorkEvent)
  | commit (index : Nat)
  | rollback (index : Nat)

/-- The sequence of a stored row. -/
def WorkEvent.seq (event : WorkEvent) : Nat := event.sequence.getD 0

def WorkEvent.withSequence (event : WorkEvent) (sequence : Nat) : WorkEvent :=
  { event with sequence := some sequence }

namespace PlanStore

def initial : PlanStore := ⟨[], 1, [], [], []⟩

variable (ids : WorkIds) (floats : FloatProduct) (s : PlanStore)

/-- `COALESCE(MAX(sequence), 0)`. -/
def latestSequence : Nat := (s.rows.map WorkEvent.seq).foldr max 0

def stored? (id : String) : Option WorkEvent := s.rows.find? fun row => row.id = id

def setPc (index : Nat) (call : PlanCall) (pc : PlanPc) : PlanStore :=
  { s with calls := s.calls.set index { call with pc } }

/-- After the first `_reload`. -/
def afterReload (call : PlanCall) : PlanPc :=
  match WorkProjection.rebuild ids floats s.rows with
  | .error _ => .ended
  | .ok projection =>
    match projection.orders.find call.workOrderId with
    | none => .ended
    | some order => .proposing order projection.lastSequence

/-- What `validate` is told in the loop. -/
def admission (projection : WorkProjection) (call : PlanCall) (cursor : Nat)
    (available : List String) (acceptedAt : Datetime) : PlanAdmission where
  causalEventCursor := cursor
  acceptanceEventCursor := projection.lastSequence
  currentGraphVersion := projection.latestVersion call.workOrderId
  availableCapabilityTypes := available
  interveningEvents := projection.eventsAfter cursor none
  acceptedAt

/-- `validate`, in the loop. -/
def validated (projection : WorkProjection) (call : PlanCall) (order : WorkOrder) (cursor : Nat)
    (proposal : PlanProposal) (acceptedAt : Datetime) : Except PyError WorkGraph := do
  let available ← projection.availableCapabilityTypes ids cursor
  call.validator.validate ids proposal order (admission projection call cursor available acceptedAt)

/-- After a `_reload` of the loop. -/
def afterAdmit (call : PlanCall) (order : WorkOrder) (cursor : Nat) (proposal : PlanProposal)
    (acceptedAt : Datetime) : PlanPc :=
  match WorkProjection.rebuild ids floats s.rows with
  | .error _ => .ended
  | .ok projection =>
    match validated ids projection call order cursor proposal acceptedAt with
    | .error _ => .ended
    | .ok graph => .appending order cursor proposal graph projection.lastSequence

/-- The proposal's event. -/
def proposalEvent (call : PlanCall) (order : WorkOrder) (proposal : PlanProposal) : WorkEvent :=
  proposal.toEvent call.source (WorkOrder.eventId order.workOrderId)

/-- After `_emit` of the proposal: the row with its id may be another event. -/
def afterStored (call : PlanCall) (order : WorkOrder) (cursor : Nat) (proposal : PlanProposal)
    (projection : WorkProjection) (row : WorkEvent) : PlanPc :=
  if { row with sequence := none } ≠ proposalEvent call order proposal then .ended
  else
    match projection.apply ids floats row with
    | .error _ => .ended
    | .ok _ => .admitting order cursor proposal

/-- The graph's event. -/
def graphEvent (call : PlanCall) (proposal : PlanProposal) (graph : WorkGraph) : WorkEvent :=
  graph.toEvent call.source (PlanProposal.eventId proposal.proposalId)

def step (s : PlanStore) : PlanLabel → Option PlanStore
  | .plan validator source workOrderId =>
    some { s with calls := s.calls ++ [⟨validator, source, workOrderId, .reloading⟩] }
  | .reload index => do
    let call ← s.calls[index]?
    match call.pc with
    | .reloading => some (s.setPc index call (s.afterReload ids floats call))
    | _ => none
  | .propose index proposal => do
    let call ← s.calls[index]?
    match call.pc with
    | .proposing order cursor => some (s.setPc index call (.proposed order cursor proposal))
    | _ => none
  | .reloadAgain index => do
    let call ← s.calls[index]?
    match call.pc with
    | .proposed order cursor proposal =>
      match WorkProjection.rebuild ids floats s.rows with
      | .error _ => some (s.setPc index call .ended)
      | .ok projection => some (s.setPc index call (.emitting order cursor proposal projection))
    | _ => none
  -- The insert and the commit of the proposal are steps of their own.
  | .stored index => do
    let call ← s.calls[index]?
    match call.pc with
    | .emitting order cursor proposal projection => do
      let row ← s.stored? (proposalEvent call order proposal).id
      return s.setPc index call (afterStored ids floats call order cursor proposal projection row)
    | _ => none
  | .validate index acceptedAt => do
    let call ← s.calls[index]?
    match call.pc with
    | .admitting order cursor proposal =>
      some (s.setPc index call (s.afterAdmit ids floats call order cursor proposal acceptedAt))
    | _ => none
  | .append index => do
    let call ← s.calls[index]?
    match call.pc with
    | .appending order cursor proposal graph head =>
      let event := graphEvent call proposal graph
      if s.open' ≠ [] then none
      else if (s.stored? event.id).isSome then some (s.setPc index call .ended)
      else if s.latestSequence ≠ head then
        -- `ConcurrentAppendError`
        some (s.setPc index call (.admitting order cursor proposal))
      else
        some { s.setPc index call .ended with
          rows := s.rows ++ [event.withSequence s.nextSequence]
          nextSequence := s.nextSequence + 1
          appended := s.appended ++ [event.withSequence s.nextSequence] }
    | _ => none
  | .abort index => do
    let call ← s.calls[index]?
    return s.setPc index call .ended
  | .insert event =>
    -- Another open insert of the id is waited for.
    if s.open'.any fun other => other.id = event.id then none
    else if (s.stored? event.id).isSome then some { s with nextSequence := s.nextSequence + 1 }
    else
      some { s with
        open' := s.open' ++ [event.withSequence s.nextSequence]
        nextSequence := s.nextSequence + 1 }
  | .commit index => do
    let row ← s.open'[index]?
    return { s with
      rows := s.rows.orderedInsert (fun a b => a.seq ≤ b.seq) row
      open' := s.open'.eraseIdx index }
  | .rollback index => some { s with open' := s.open'.eraseIdx index }

/-- A row is committed above those that are there. -/
def InOrder (s : PlanStore) : PlanLabel → Prop
  | .commit index => ∀ row, s.open'[index]? = some row → ∀ other ∈ s.rows, other.seq < row.seq
  | _ => True

instance (s : PlanStore) : ∀ l, Decidable (InOrder s l)
  | .commit index => inferInstanceAs
      (Decidable (∀ row, s.open'[index]? = some row → ∀ other ∈ s.rows, other.seq < row.seq))
  | .plan .. | .reload _ | .propose .. | .reloadAgain _ | .stored _ | .validate .. | .append _
  | .abort _ | .insert _ | .rollback _ => inferInstanceAs (Decidable True)

/-- The replay of the log gets to the event and accepts it. -/
def AcceptedOnReplay (s : PlanStore) (event : WorkEvent) : Prop :=
  ∃ before after q q', s.rows = before ++ event :: after ∧
    WorkProjection.rebuild ids floats before = .ok q ∧ q.apply ids floats event = .ok q'

end PlanStore

/-! ## What a projection keeps -/

namespace WorkProjection

variable {ids : WorkIds} {floats : FloatProduct} {p p' q : WorkProjection}
  {history : List WorkEvent} {event : WorkEvent}

/-- A put of a row keeps the others, and its own if it was there. -/
theorem find_put_same {α κ : Type} [DecidableEq α] [DecidableEq κ] {key : α → κ}
    {t : KeyedTable key} {r stored : α} {k : κ}
    (hsame : (t.find (key r)).all (fun stored => decide (stored = r)) = true)
    (hfind : t.find k = some stored) : (t.put r).find k = some stored := by
  rw [KeyedTable.find_put]
  by_cases hkey : key r = k
  · rw [← hkey] at hfind
    rw [hfind, Option.all_some, decide_eq_true_eq] at hsame
    rw [if_pos hkey, hsame]
  · rw [if_neg hkey]
    exact hfind

theorem Recorded.order_stays {sequence : Nat} (h : Recorded ids floats p event sequence q)
    {workOrderId : String} {order : WorkOrder} (hfind : p.orders.find workOrderId = some order) :
    q.orders.find workOrderId = some order := by
  cases h with
  | order _ _ hsame => exact find_put_same hsame hfind
  | _ => exact hfind

theorem Recorded.proposal_stays {sequence : Nat} (h : Recorded ids floats p event sequence q)
    {proposalId : String} {proposal : PlanProposal}
    (hfind : p.proposals.find proposalId = some proposal) :
    q.proposals.find proposalId = some proposal := by
  cases h with
  | proposal _ _ _ _ hsame => exact find_put_same hsame hfind
  | _ => exact hfind

/-- An order that was read is read again. -/
theorem applyAll_order {events : List WorkEvent} (h : p.applyAll ids floats events = .ok p')
    {workOrderId : String} {order : WorkOrder} (hfind : p.orders.find workOrderId = some order) :
    p'.orders.find workOrderId = some order := by
  induction events generalizing p with
  | nil =>
    cases h
    exact hfind
  | cons event events ih =>
    obtain ⟨q, happly, hrest⟩ := bind_eq_ok h
    rcases apply_ok.mp happly with ⟨-, rfl⟩ | ⟨-, sequence, q', -, -, hrecorded, rfl⟩
    · exact ih hrest hfind
    · exact ih hrest (hrecorded.order_stays hfind)

/-- The projection knows the events of the log. -/
theorem mem_events (h : rebuild ids floats history = .ok p) (event : WorkEvent) :
    event ∈ p.events.rows ↔ event ∈ history := by
  refine rebuild_induction (I := fun history p => event ∈ p.events.rows ↔ event ∈ history)
    Iff.rfl ?_ ?_ h
  · intro history other q _ ih hknown
    rw [List.mem_append, List.mem_singleton, ih]
    refine ⟨Or.inl, ?_⟩
    rintro (hmem | rfl)
    · exact hmem
    · exact ih.mp (KeyedTable.mem_of_find hknown)
  · intro history other q q' sequence _ ih hnew _ _ hrecorded
    have hrows : (q'.keep other sequence).events.rows = q'.events.rows ++ [other] :=
      keep_rows (hrecorded.same_events.1 ▸ hnew) sequence
    rw [hrows, hrecorded.same_events.1, List.mem_append, List.mem_append, ih]

theorem proposal_read {proposal : PlanProposal} (h : PlanProposal.fromEvent ids event = .ok proposal) :
    event.payload = .proposal proposal := by
  unfold PlanProposal.fromEvent at h
  split at h
  · rename_i stated hpayload
    rw [require_bind_ok, bind_ok_iff] at h
    obtain ⟨-, _, -, h⟩ := h
    rw [require_bind_ok] at h
    obtain ⟨-, h⟩ := h
    cases h
    exact hpayload
  · cases h

/-- A proposal that is in the log is known. -/
theorem find_proposal (h : rebuild ids floats history = .ok p) (hmem : event ∈ history)
    (htype : event.type = .planProposed) {proposal : PlanProposal}
    (hpayload : event.payload = .proposal proposal) :
    p.proposals.find proposal.proposalId = some proposal := by
  refine rebuild_induction (I := fun history p => event ∈ history →
    p.proposals.find proposal.proposalId = some proposal) (fun h => (nomatch h)) ?_ ?_ h hmem
  · intro history other q hq ih hknown hmem
    rcases List.mem_append.mp hmem with hmem | hmem
    · exact ih hmem
    · cases List.mem_singleton.mp hmem
      exact ih ((mem_events hq event).mp (KeyedTable.mem_of_find hknown))
  · intro history other q q' sequence _ ih _ _ _ hrecorded hmem
    rcases List.mem_append.mp hmem with hmem | hmem
    · exact hrecorded.proposal_stays (ih hmem)
    · cases List.mem_singleton.mp hmem
      cases hrecorded with
      | @proposal read _ hread =>
        cases hpayload.symm.trans (proposal_read hread)
        show (q.proposals.put proposal).find proposal.proposalId = some proposal
        rw [KeyedTable.find_put, if_pos rfl]
      | order ht | graph ht | lease ht | presence ht | manifest ht | estimate ht | expiration ht
      | completion ht | invalidation ht =>
        rw [htype] at ht
        cases ht
      | other ht => simp [htype] at ht

/-- The cursor of a projection is the sequence of an event of the log, or zero. -/
theorem lastSequence_le (h : rebuild ids floats history = .ok p) {bound : Nat}
    (hbound : ∀ event ∈ history, event.sequence.getD 0 ≤ bound) : p.lastSequence ≤ bound := by
  refine rebuild_induction (I := fun history p =>
    (∀ event ∈ history, event.sequence.getD 0 ≤ bound) → p.lastSequence ≤ bound)
    (fun _ => Nat.zero_le bound) ?_ ?_ h hbound
  · intro history event q _ ih _ hbound
    exact ih fun other hother => hbound other (List.mem_append_left _ hother)
  · intro history event q q' sequence _ _ _ hsequence _ _ hbound
    have hlast := hbound event (by simp)
    rwa [hsequence, Option.getD_some] at hlast

end WorkProjection

/-! ## What a call has read -/

namespace PlanStore

variable {ids : WorkIds} {floats : FloatProduct} {s s' : PlanStore} {rows rows' : List WorkEvent}
  {call : PlanCall}

/-- The order was in some projection of the log. -/
def OrderRead (ids : WorkIds) (floats : FloatProduct) (rows : List WorkEvent) (workOrderId : String)
    (order : WorkOrder) : Prop :=
  ∃ read q, read <+: rows ∧ WorkProjection.rebuild ids floats read = .ok q ∧
    q.orders.find workOrderId = some order

/-- The call's proposal is in the log. -/
def ProposalStored (rows : List WorkEvent) (proposal : PlanProposal) : Prop :=
  ∃ row ∈ rows, row.type = .planProposed ∧ row.payload = .proposal proposal

/-- A graph is what the proposal became in a projection of the log. -/
def GraphMade (ids : WorkIds) (floats : FloatProduct) (rows : List WorkEvent) (call : PlanCall)
    (order : WorkOrder) (cursor : Nat) (proposal : PlanProposal) (graph : WorkGraph) (head : Nat) :
    Prop :=
  ∃ read q acceptedAt, read <+: rows ∧ WorkProjection.rebuild ids floats read = .ok q ∧
    q.orders.find call.workOrderId = some order ∧
    q.proposals.find proposal.proposalId = some proposal ∧ q.lastSequence = head ∧
    validated ids q call order cursor proposal acceptedAt = .ok graph

/-- What a call knows. -/
def Told (ids : WorkIds) (floats : FloatProduct) (rows : List WorkEvent) (call : PlanCall) :
    PlanPc → Prop
  | .reloading | .ended => True
  | .proposing order _ | .proposed order _ _ | .emitting order _ _ _ =>
    OrderRead ids floats rows call.workOrderId order
  | .admitting order _ proposal =>
    OrderRead ids floats rows call.workOrderId order ∧ ProposalStored rows proposal
  | .appending order cursor proposal graph head =>
    OrderRead ids floats rows call.workOrderId order ∧ ProposalStored rows proposal ∧
      GraphMade ids floats rows call order cursor proposal graph head

theorem Told.mono (hrows : rows <+: rows') {pc : PlanPc} (h : Told ids floats rows call pc) :
    Told ids floats rows' call pc := by
  have horder : ∀ {order}, OrderRead ids floats rows call.workOrderId order →
      OrderRead ids floats rows' call.workOrderId order := by
    rintro order ⟨read, q, hread, hq⟩
    exact ⟨read, q, hread.trans hrows, hq⟩
  have hstored : ∀ {proposal}, ProposalStored rows proposal → ProposalStored rows' proposal := by
    rintro proposal ⟨row, hrow, hproposal⟩
    exact ⟨row, hrows.subset hrow, hproposal⟩
  cases pc with
  | reloading | ended => trivial
  | proposing | proposed | emitting => exact horder h
  | admitting => exact ⟨horder h.1, hstored h.2⟩
  | appending =>
    obtain ⟨hread, hproposal, read, q, acceptedAt, hbefore, hq⟩ := h
    exact ⟨horder hread, hstored hproposal, read, q, acceptedAt, hbefore.trans hrows, hq⟩

theorem told_afterReload (s : PlanStore) (call : PlanCall) :
    Told ids floats s.rows call (s.afterReload ids floats call) := by
  unfold afterReload
  split
  · trivial
  · rename_i projection hread
    split
    · trivial
    · rename_i order horder
      exact ⟨s.rows, projection, List.prefix_rfl, hread, horder⟩

/-- The order is still there when the log is read again. -/
theorem OrderRead.again {q : WorkProjection} {workOrderId : String} {order : WorkOrder}
    (h : OrderRead ids floats rows workOrderId order)
    (hq : WorkProjection.rebuild ids floats rows = .ok q) :
    q.orders.find workOrderId = some order := by
  obtain ⟨read, q', ⟨later, rfl⟩, hread, horder⟩ := h
  obtain ⟨r, hr, hlater⟩ := WorkProjection.rebuild_append.mp hq
  rw [hread] at hr
  cases hr
  exact WorkProjection.applyAll_order hlater horder

theorem told_afterAdmit {order : WorkOrder} {cursor : Nat} {proposal : PlanProposal}
    (h : Told ids floats s.rows call (.admitting order cursor proposal)) (acceptedAt : Datetime) :
    Told ids floats s.rows call
      (s.afterAdmit ids floats call order cursor proposal acceptedAt) := by
  obtain ⟨horder, hstored⟩ := h
  unfold afterAdmit
  split
  · trivial
  · rename_i projection hread
    split
    · trivial
    · rename_i graph hgraph
      refine ⟨horder, hstored, s.rows, projection, acceptedAt, List.prefix_rfl, hread,
        horder.again hread, ?_, rfl, hgraph⟩
      obtain ⟨row, hrow, htype, hpayload⟩ := hstored
      exact WorkProjection.find_proposal hread hrow htype hpayload

theorem told_afterStored {order : WorkOrder} {cursor : Nat} {proposal : PlanProposal}
    {projection : WorkProjection} {row : WorkEvent}
    (h : OrderRead ids floats s.rows call.workOrderId order) (hrow : row ∈ s.rows) :
    Told ids floats s.rows call
      (afterStored ids floats call order cursor proposal projection row) := by
  unfold afterStored
  split
  · trivial
  · rename_i hsame
    have hsame := not_not.mp hsame
    split
    · trivial
    · exact ⟨h, row, hrow, congrArg WorkEvent.type hsame, congrArg WorkEvent.payload hsame⟩

/-! ## Runs with commits in order -/

/-- The rows are in the order of their sequences, each call knows what it has read, and
the graphs it appended are accepted. -/
structure Consistent (ids : WorkIds) (floats : FloatProduct) (s : PlanStore) : Prop where
  increasing : s.rows.Pairwise fun a b => a.seq < b.seq
  numbered : ∀ row ∈ s.rows ++ s.open', 0 < row.seq ∧ row.seq < s.nextSequence
  positive : 0 < s.nextSequence
  calls : ∀ call ∈ s.calls, Told ids floats s.rows call call.pc
  appended : ∀ event ∈ s.appended, AcceptedOnReplay ids floats s event

theorem Consistent.initial : Consistent ids floats initial :=
  ⟨.nil, fun _ h => (nomatch h), Nat.one_pos, fun _ h => (nomatch h), fun _ h => (nomatch h)⟩

/-- A step of a call that leaves the log alone. -/
theorem Consistent.setPc (h : Consistent ids floats s) {index : Nat} {pc : PlanPc}
    (hpc : Told ids floats s.rows call pc) : Consistent ids floats (s.setPc index call pc) := by
  refine ⟨h.increasing, h.numbered, h.positive, ?_, h.appended⟩
  intro other hother
  rcases List.mem_or_eq_of_mem_set hother with hother | rfl
  · exact h.calls other hother
  · -- What a call knows is about its order, which stays.
    cases pc <;> exact hpc

theorem Consistent.ended (h : Consistent ids floats s) (index : Nat) (call : PlanCall) :
    Consistent ids floats (s.setPc index call .ended) :=
  h.setPc trivial

theorem AcceptedOnReplay.mono {event : WorkEvent} (h : AcceptedOnReplay ids floats s event)
    (hrows : s.rows <+: s'.rows) : AcceptedOnReplay ids floats s' event := by
  obtain ⟨before, after, q, q', hsplit, haccepted⟩ := h
  obtain ⟨later, hlater⟩ := hrows
  refine ⟨before, after ++ later, q, q', ?_, haccepted⟩
  rw [← hlater, hsplit, List.append_assoc, List.cons_append]

/-- A row is put behind the others. -/
theorem Consistent.grow (h : Consistent ids floats s) {row : WorkEvent}
    (habove : ∀ other ∈ s.rows, other.seq < row.seq) (hrows : s'.rows = s.rows ++ [row])
    (hcalls : ∀ call ∈ s'.calls, Told ids floats s.rows call call.pc)
    (hnumbered : ∀ row ∈ s'.rows ++ s'.open', 0 < row.seq ∧ row.seq < s'.nextSequence)
    (hpositive : 0 < s'.nextSequence)
    (happended : ∀ event ∈ s'.appended, event ∈ s.appended ∨ AcceptedOnReplay ids floats s' event) :
    Consistent ids floats s' := by
  have hbefore : s.rows <+: s'.rows := by
    rw [hrows]
    exact List.prefix_append _ _
  refine ⟨?_, hnumbered, hpositive, fun call hcall => (hcalls call hcall).mono hbefore, ?_⟩
  · rw [hrows, List.pairwise_append]
    refine ⟨h.increasing, List.pairwise_singleton _ _, ?_⟩
    intro other hother last hlast
    cases List.mem_singleton.mp hlast
    exact habove other hother
  · intro event hevent
    exact (happended event hevent).elim (fun hold => (h.appended event hold).mono hbefore) id

/-- A row above the others is committed behind them. -/
theorem orderedInsert_above {row : WorkEvent} (habove : ∀ other ∈ rows, other.seq < row.seq) :
    rows.orderedInsert (fun a b => a.seq ≤ b.seq) row = rows ++ [row] := by
  induction rows with
  | nil => rfl
  | cons other rows ih =>
    have hbelow := habove other (List.mem_cons_self ..)
    rw [List.orderedInsert, if_neg (Nat.not_le.mpr hbelow),
      ih fun other hother => habove other (List.mem_cons_of_mem _ hother), List.cons_append]

theorem seq_le_latest {row : WorkEvent} (hrow : row ∈ rows) :
    row.seq ≤ (rows.map WorkEvent.seq).foldr max 0 := by
  induction rows with
  | nil => cases hrow
  | cons other rows ih =>
    rw [List.map_cons, List.foldr_cons]
    rcases List.mem_cons.mp hrow with rfl | hrow
    · exact Nat.le_max_left _ _
    · exact (ih hrow).trans (Nat.le_max_right _ _)

/-- A projection whose cursor is the head of the log has read all of it. -/
theorem read_all (hincreasing : rows.Pairwise fun a b => a.seq < b.seq)
    (hpositive : ∀ row ∈ rows, 0 < row.seq) {read : List WorkEvent} {q : WorkProjection}
    (hbefore : read <+: rows) (hq : WorkProjection.rebuild ids floats read = .ok q)
    (hhead : (rows.map WorkEvent.seq).foldr max 0 = q.lastSequence) : read = rows := by
  obtain ⟨later, hlater⟩ := hbefore
  cases later with
  | nil => rwa [List.append_nil] at hlater
  | cons row later =>
    have hrow : row ∈ rows := by simp [← hlater]
    rw [← hlater, List.pairwise_append] at hincreasing
    have hbound : q.lastSequence ≤ row.seq - 1 := by
      refine WorkProjection.lastSequence_le hq fun event hevent => ?_
      have hbelow := hincreasing.2.2 event hevent row (List.mem_cons_self ..)
      unfold WorkEvent.seq at hbelow ⊢
      omega
    have hlatest := seq_le_latest hrow
    have hfirst := hpositive row hrow
    omega

/-- The event of a canonical graph is read back. -/
theorem fromEvent_graphEvent {graph : WorkGraph} {proposal : PlanProposal} {sequence : Nat}
    (hid : graph.graphId = WorkGraph.canonicalId ids graph.toGraphContent) :
    WorkGraph.fromEvent ids ((graphEvent call proposal graph).withSequence sequence) =
      .ok graph := by
  show (require (graph.graphId = WorkGraph.canonicalId ids graph.toGraphContent) _ >>= _) = _
  rw [require_bind_ok]
  refine ⟨hid, bind_ok_iff.mpr ⟨(), WorkProjection.checkEnvelope_ok.mpr ⟨rfl, rfl, rfl⟩, ?_⟩⟩
  rw [require_bind_ok]
  exact ⟨rfl, rfl⟩

/-- Nothing lies between the cursor and a later sequence. -/
theorem eventsAfter_later {q : WorkProjection} (hsequenced : WorkProjection.Sequenced q)
    {sequence : Nat} (hlater : q.lastSequence < sequence) (cursor : Nat) :
    q.eventsAfter cursor (some (sequence - 1)) = q.eventsAfter cursor none := by
  refine List.filter_congr fun event hevent => ?_
  have hbound := hsequenced event hevent
  have hbefore : event.sequence.getD 0 ≤ sequence - 1 := by omega
  simp [hbefore]

/-- **The replay makes the graph that the call made.** -/
theorem graphEvent_fits {q : WorkProjection} (hsequenced : WorkProjection.Sequenced q)
    {order : WorkOrder} {cursor sequence : Nat} {proposal : PlanProposal} {graph : WorkGraph}
    {acceptedAt : Datetime} (hlater : q.lastSequence < sequence)
    (horder : q.orders.find call.workOrderId = some order)
    (hproposal : q.proposals.find proposal.proposalId = some proposal)
    (hgraph : validated ids q call order cursor proposal acceptedAt = .ok graph) :
    ∃ available, WorkProjection.GraphFits ids q
      ((graphEvent call proposal graph).withSequence sequence) sequence graph proposal order
      available := by
  obtain ⟨available, havailable, hvalid⟩ := bind_eq_ok hgraph
  obtain ⟨hadmits, hcreate⟩ := PlanValidator.validate_ok.mp hvalid
  have hsame : order.workOrderId = call.workOrderId := KeyedTable.find_key horder
  have hworkOrder : graph.workOrderId = call.workOrderId := by
    rw [hcreate, ← hsame, ← hadmits.order]
    rfl
  have hcut : proposal.basedOnEventCursor = cursor := hadmits.cut
  have hid : graph.proposalId = proposal.proposalId := by
    rw [hcreate]
    rfl
  refine ⟨available, ?_, ?_, ?_, ?_, ?_, ?_⟩
  · refine fromEvent_graphEvent ?_
    rw [hcreate]
    rfl
  · rw [hid]
    exact hproposal
  · rw [hworkOrder]
    exact horder
  · rw [hid]
    rfl
  · rw [hcut]
    exact havailable
  · have hadmission : q.graphAdmission proposal graph.workOrderId available sequence
        graph.acceptedAt = admission q call cursor available acceptedAt := by
      rw [WorkProjection.graphAdmission, admission, eventsAfter_later hsequenced hlater, hcut,
        hworkOrder, hcreate]
      rfl
    have hvalidator : (⟨graph.validatorId, graph.nonblank.2.2.2⟩ : PlanValidator) =
        call.validator := by
      subst hcreate
      rfl
    show PlanValidator.validate ids ⟨graph.validatorId, graph.nonblank.2.2.2⟩ proposal order
      (q.graphAdmission proposal graph.workOrderId available sequence graph.acceptedAt) = .ok graph
    rw [hadmission, hvalidator]
    exact hvalid

/-- The event of an append to the head of the log is accepted. -/
theorem append_accepted (h : Consistent ids floats s) {order : WorkOrder} {cursor : Nat}
    {proposal : PlanProposal} {graph : WorkGraph} {head : Nat}
    (hmade : GraphMade ids floats s.rows call order cursor proposal graph head)
    (hnew : s.stored? (graphEvent call proposal graph).id = none)
    (hhead : s.latestSequence = head) :
    ∃ q q', WorkProjection.rebuild ids floats s.rows = .ok q ∧
      q.apply ids floats ((graphEvent call proposal graph).withSequence s.nextSequence) =
        .ok q' := by
  obtain ⟨read, q, acceptedAt, hbefore, hq, horder, hproposal, rfl, hgraph⟩ := hmade
  have hpositive : ∀ row ∈ s.rows, 0 < row.seq := fun row hrow =>
    (h.numbered row (List.mem_append_left _ hrow)).1
  obtain rfl := read_all h.increasing hpositive hbefore hq hhead
  have hlater : q.lastSequence < s.nextSequence := by
    have hbound : q.lastSequence ≤ s.nextSequence - 1 := by
      refine WorkProjection.lastSequence_le hq fun row hrow => ?_
      have hbelow := (h.numbered row (List.mem_append_left _ hrow)).2
      unfold WorkEvent.seq at hbelow
      omega
    have hpositive := h.positive
    omega
  have hunknown : q.events.find (graphEvent call proposal graph).id = none := by
    cases hfind : q.events.find (graphEvent call proposal graph).id with
    | none => rfl
    | some row =>
      have hrow := (WorkProjection.mem_events hq row).mp (KeyedTable.mem_of_find hfind)
      have hnone := List.find?_eq_none.mp hnew row hrow
      rw [decide_eq_true_eq] at hnone
      exact absurd (KeyedTable.find_key hfind) hnone
  obtain ⟨available, hfits⟩ := graphEvent_fits (WorkProjection.rebuild_sequenced hq) hlater horder
    hproposal hgraph
  exact ⟨q, _, hq, WorkProjection.apply_ok.mpr (Or.inr ⟨hunknown, s.nextSequence, _, rfl, hlater,
    .graph rfl hfits, rfl⟩)⟩

theorem Consistent.append (h : Consistent ids floats s) {index : Nat} {order : WorkOrder}
    {cursor : Nat} {proposal : PlanProposal} {graph : WorkGraph} {head : Nat}
    (htold : Told ids floats s.rows call (.appending order cursor proposal graph head))
    (hopen : s.open' = []) (hnew : s.stored? (graphEvent call proposal graph).id = none)
    (hhead : s.latestSequence = head) :
    Consistent ids floats { s.setPc index call .ended with
      rows := s.rows ++ [(graphEvent call proposal graph).withSequence s.nextSequence]
      nextSequence := s.nextSequence + 1
      appended := s.appended ++ [(graphEvent call proposal graph).withSequence s.nextSequence] } := by
  obtain ⟨q, q', hq, haccepted⟩ := append_accepted h htold.2.2 hnew hhead
  have hnumbered := h.numbered
  rw [hopen, List.append_nil] at hnumbered
  have habove : ∀ other ∈ s.rows,
      other.seq < ((graphEvent call proposal graph).withSequence s.nextSequence).seq :=
    fun other hother => (hnumbered other hother).2
  refine h.grow habove rfl (h.ended index call).calls ?_ (Nat.succ_pos _) ?_
  · intro row hrow
    show 0 < row.seq ∧ row.seq < s.nextSequence + 1
    have hrow : row ∈ (s.rows ++ [(graphEvent call proposal graph).withSequence s.nextSequence]) ++
      s.open' := hrow
    rw [hopen, List.append_nil, List.mem_append, List.mem_singleton] at hrow
    rcases hrow with hrow | rfl
    · exact ⟨(hnumbered row hrow).1, (hnumbered row hrow).2.trans (Nat.lt_succ_self _)⟩
    · exact ⟨h.positive, Nat.lt_succ_self _⟩
  · intro event hevent
    rcases List.mem_append.mp hevent with hevent | hevent
    · exact Or.inl hevent
    · cases List.mem_singleton.mp hevent
      exact Or.inr ⟨s.rows, [], q, q', rfl, hq, haccepted⟩

theorem Consistent.insert (h : Consistent ids floats s) (event : WorkEvent) :
    Consistent ids floats { s with
      open' := s.open' ++ [event.withSequence s.nextSequence]
      nextSequence := s.nextSequence + 1 } := by
  refine ⟨h.increasing, ?_, Nat.succ_pos _, h.calls, fun event hevent => h.appended event hevent⟩
  intro row hrow
  show 0 < row.seq ∧ row.seq < s.nextSequence + 1
  have hrow : row ∈ s.rows ++ (s.open' ++ [event.withSequence s.nextSequence]) := hrow
  rw [← List.append_assoc, List.mem_append, List.mem_singleton] at hrow
  rcases hrow with hrow | rfl
  · exact ⟨(h.numbered row hrow).1, (h.numbered row hrow).2.trans (Nat.lt_succ_self _)⟩
  · exact ⟨h.positive, Nat.lt_succ_self _⟩

theorem Consistent.commit (h : Consistent ids floats s) {index : Nat} {row : WorkEvent}
    (hrow : s.open'[index]? = some row) (habove : ∀ other ∈ s.rows, other.seq < row.seq) :
    Consistent ids floats { s with
      rows := s.rows.orderedInsert (fun a b => a.seq ≤ b.seq) row
      open' := s.open'.eraseIdx index } := by
  refine h.grow habove (orderedInsert_above habove) h.calls ?_ h.positive fun _ => Or.inl
  intro other hother
  refine h.numbered other ?_
  rw [List.mem_append] at hother ⊢
  rcases hother with hother | hother
  · rcases (List.mem_orderedInsert _).mp hother with rfl | hother
    · exact Or.inr (List.mem_of_getElem? hrow)
    · exact Or.inl hother
  · exact Or.inr (List.mem_of_mem_eraseIdx hother)

/-- **Every step keeps the log consistent**, commits in order provided. -/
theorem Consistent.step (h : Consistent ids floats s) {l : PlanLabel} (hok : InOrder s l)
    (hs : step ids floats s l = some s') : Consistent ids floats s' := by
  cases l with
  | plan validator source workOrderId =>
    cases hs
    refine ⟨h.increasing, h.numbered, h.positive, ?_, h.appended⟩
    intro call hcall
    rcases List.mem_append.mp hcall with hcall | hcall
    · exact h.calls call hcall
    · cases List.mem_singleton.mp hcall
      trivial
  | reload index =>
    obtain ⟨call, hcall, hs⟩ := Option.bind_eq_some_iff.mp hs
    split at hs
    · cases hs
      exact h.setPc (told_afterReload s call)
    · cases hs
  | propose index proposal =>
    obtain ⟨call, hcall, hs⟩ := Option.bind_eq_some_iff.mp hs
    have htold := h.calls call (List.mem_of_getElem? hcall)
    split at hs
    · rename_i order cursor hpc
      rw [hpc] at htold
      cases hs
      show Consistent ids floats (s.setPc index call (.proposed order cursor proposal))
      exact h.setPc htold
    · cases hs
  | reloadAgain index =>
    obtain ⟨call, hcall, hs⟩ := Option.bind_eq_some_iff.mp hs
    have htold := h.calls call (List.mem_of_getElem? hcall)
    split at hs
    · rename_i order cursor proposal hpc
      rw [hpc] at htold
      split at hs
      · cases hs
        exact h.ended index call
      · rename_i projection hread
        cases hs
        show Consistent ids floats (s.setPc index call (.emitting order cursor proposal projection))
        exact h.setPc htold
    · cases hs
  | stored index =>
    obtain ⟨call, hcall, hs⟩ := Option.bind_eq_some_iff.mp hs
    have htold := h.calls call (List.mem_of_getElem? hcall)
    split at hs
    · rename_i order cursor proposal projection hpc
      rw [hpc] at htold
      obtain ⟨row, hrow, hs⟩ := Option.bind_eq_some_iff.mp hs
      cases hs
      exact h.setPc (told_afterStored htold (List.mem_of_find?_eq_some hrow))
    · cases hs
  | validate index acceptedAt =>
    obtain ⟨call, hcall, hs⟩ := Option.bind_eq_some_iff.mp hs
    have htold := h.calls call (List.mem_of_getElem? hcall)
    split at hs
    · rename_i order cursor proposal hpc
      rw [hpc] at htold
      cases hs
      exact h.setPc (told_afterAdmit htold acceptedAt)
    · cases hs
  | append index =>
    obtain ⟨call, hcall, hs⟩ := Option.bind_eq_some_iff.mp hs
    have htold := h.calls call (List.mem_of_getElem? hcall)
    split at hs
    · rename_i order cursor proposal graph head hpc
      rw [hpc] at htold
      dsimp only at hs
      split at hs
      · cases hs
      · rename_i hopen
        split at hs
        · cases hs
          exact h.ended index call
        · rename_i hnew
          split at hs
          · cases hs
            show Consistent ids floats (s.setPc index call (.admitting order cursor proposal))
            exact h.setPc ⟨htold.1, htold.2.1⟩
          · rename_i hhead
            cases hs
            exact h.append htold (not_not.mp hopen)
              (Option.not_isSome_iff_eq_none.mp hnew) (not_not.mp hhead)
    · cases hs
  | abort index =>
    obtain ⟨call, hcall, hs⟩ := Option.bind_eq_some_iff.mp hs
    cases hs
    exact h.ended index call
  | insert event =>
    simp only [PlanStore.step] at hs
    split at hs
    · cases hs
    · split at hs
      · cases hs
        refine ⟨h.increasing, fun row hrow => ?_, Nat.succ_pos _, h.calls, h.appended⟩
        exact ⟨(h.numbered row hrow).1, (h.numbered row hrow).2.trans (Nat.lt_succ_self _)⟩
      · cases hs
        exact h.insert event
  | commit index =>
    obtain ⟨row, hrow, hs⟩ := Option.bind_eq_some_iff.mp hs
    cases hs
    exact h.commit hrow (hok row hrow)
  | rollback index =>
    cases hs
    refine ⟨h.increasing, fun row hrow => h.numbered row ?_, h.positive, h.calls, h.appended⟩
    exact (List.mem_append.mp hrow).elim (List.mem_append_left _)
      fun hrow => List.mem_append_right _ (List.mem_of_mem_eraseIdx hrow)

/-- **The graphs that concurrent calls append are accepted on replay.** -/
theorem planned_accepted {ls : List PlanLabel}
    (h : Machine.Run (step ids floats) InOrder initial ls s) :
    ∀ event ∈ s.appended, AcceptedOnReplay ids floats s event :=
  (h.invariant Consistent.initial fun _ _ _ hs hok hstep => hs.step hok hstep).appended

/-- **No plan is stale exactly if each states the version at its cut, and while rows are
committed in order, the graphs that concurrent calls append are accepted on replay.** -/
theorem plans_fresh (ids : WorkIds) (floats : FloatProduct) :
    (∀ history p, WorkProjection.rebuild ids floats history = .ok p →
      (WorkProjection.NoStalePlan ids floats history p ↔
        WorkProjection.StatesVersionAtCut ids floats history)) ∧
    ∀ ls s, Machine.Run (step ids floats) InOrder initial ls s →
      ∀ event ∈ s.appended, AcceptedOnReplay ids floats s event :=
  ⟨fun _ _ h => WorkProjection.noStalePlan_iff h, fun _ _ h => planned_accepted h⟩

/-! ## Two plans that go wrong -/

open WorkProjection

/-- An evaluation of `AcceptedOnReplay`. -/
theorem not_accepted {event : WorkEvent} (h : ∀ i ∈ List.range s.rows.length,
    s.rows[i]? = some event → (rebuild ids floats (s.rows.take (i + 1))).toOption = none) :
    ¬ AcceptedOnReplay ids floats s event := by
  rintro ⟨before, after, q, q', hsplit, hq, haccepted⟩
  have hnone := h before.length (by simp [hsplit]) (by simp [hsplit])
  have htake : s.rows.take (before.length + 1) = before ++ [event] := by
    rw [hsplit, List.take_append, List.take_of_length_le (Nat.le_succ _), Nat.add_sub_cancel_left,
      List.take_succ_cons, List.take_zero]
  have haccept : rebuild ids floats (before ++ [event]) = .ok q' :=
    rebuild_append.mpr ⟨q, hq, bind_ok_iff.mpr ⟨q', haccepted, rfl⟩⟩
  rw [htake, haccept] at hnone
  cases hnone

/-- A plan made at the cut of the first one, for the version the first one will have. -/
def secondPlan : PlanProposal := reviewPlan 8 1 3

def secondGraph : WorkGraph := reviewGraph secondPlan 2 4 Nat.two_pos

/-- The first graph is accepted between the second plan's cut and its acceptance. -/
def overtakenHistory : List WorkEvent :=
  numbered (reviewSetup ++
    [firstPlan.toEvent "coordinator" (WorkOrder.eventId reviewOrder.workOrderId),
     firstGraph.toEvent "coordinator" (PlanProposal.eventId firstPlan.proposalId),
     secondPlan.toEvent "coordinator" (WorkOrder.eventId reviewOrder.workOrderId),
     secondGraph.toEvent "coordinator" (PlanProposal.eventId secondPlan.proposalId)])

theorem overtakenHistory_accepted : rebuild reviewIds exactProduct overtakenHistory =
    .ok (rebuilt reviewIds exactProduct overtakenHistory) :=
  rebuild_rebuilt (by decide +kernel)

/-- The agent no longer has the capability. -/
def lateManifest : CapabilityManifest where
  agentId := "ada"
  capabilities := ["docs"]
  recordedAt := .utc 1
  manifestId := "capability-manifest:ada:1"
  nonblank := by decide
  declared := by decide

def planValidator : PlanValidator := ⟨"validator", validator_named⟩

/-- A call of `plan` up to the validation; what `late` inserts is not yet committed. -/
def planLabels (late : List WorkEvent) : List PlanLabel :=
  let plan := reviewPlan (3 + late.length) 0 1
  [.insert (reviewOrder.toEvent "coordinator"), .commit 0,
   .insert ((reviewManifest "ada" ada_named).toEvent "coordinator"), .commit 0] ++
  late.map .insert ++
  [.insert ((reviewEstimate "ada" ada_named).toEvent "coordinator"), .commit late.length,
   .plan planValidator "coordinator" reviewOrder.workOrderId, .reload 0, .propose 0 plan,
   .reloadAgain 0,
   .insert (plan.toEvent "coordinator" (WorkOrder.eventId reviewOrder.workOrderId)),
   .commit late.length, .stored 0, .validate 0 (.utc 2)]

theorem review_plans_fresh :
    (NoStalePlan reviewIds exactProduct reviewHistory
        (rebuilt reviewIds exactProduct reviewHistory) ↔
      StatesVersionAtCut reviewIds exactProduct reviewHistory) ∧
    ∃ s event, Machine.Run (step reviewIds exactProduct) InOrder initial
      (planLabels [] ++ [.append 0]) s ∧ event ∈ s.appended ∧
      AcceptedOnReplay reviewIds exactProduct s event := by
  obtain ⟨hhistory, hruns⟩ := plans_fresh reviewIds exactProduct
  refine ⟨hhistory _ _ reviewHistory_accepted, ?_⟩
  have hrun : (Machine.exec (step reviewIds exactProduct) InOrder initial
      (planLabels [] ++ [.append 0])).any (fun s => decide (s.appended ≠ [])) = true := by
    decide +kernel
  obtain ⟨s, hs, happended⟩ := (Option.any_eq_true _ _).mp hrun
  obtain ⟨event, hevent⟩ := List.exists_mem_of_ne_nil _ (of_decide_eq_true happended)
  exact ⟨s, event, .of_exec hs, hevent, hruns _ s (.of_exec hs) event hevent⟩

/-- **A plan is accepted over a graph that it does not know, and a graph that a call
appended is rejected on replay.** -/
theorem plans_go_stale :
    rebuild reviewIds exactProduct overtakenHistory =
      .ok (rebuilt reviewIds exactProduct overtakenHistory) ∧
    ¬ NoStalePlan reviewIds exactProduct overtakenHistory
      (rebuilt reviewIds exactProduct overtakenHistory) ∧
    ∃ s event, Machine.Run (step reviewIds exactProduct) Machine.Free initial
      (planLabels [lateManifest.toEvent "coordinator"] ++ [.commit 0, .append 0]) s ∧
      event ∈ s.appended ∧ ¬ AcceptedOnReplay reviewIds exactProduct s event := by
  refine ⟨overtakenHistory_accepted, ?_, ?_⟩
  · intro hfresh
    have hread : rebuild reviewIds exactProduct (overtakenHistory.take 10) =
        .ok (rebuilt reviewIds exactProduct (overtakenHistory.take 10)) :=
      rebuild_rebuilt (by decide +kernel)
    have haccepted : AcceptedAt reviewIds exactProduct overtakenHistory secondGraph secondPlan
        (rebuilt reviewIds exactProduct (overtakenHistory.take 10)) := by
      refine ⟨_, ⟨overtakenHistory.take 10, [], rfl, hread, ?_⟩, rfl, rfl, ?_⟩
      · decide +kernel
      · decide +kernel
    have hgraphs := hfresh.graphs _ _ _ haccepted
    revert hgraphs
    decide +kernel
  · have hrun : (Machine.exec (step reviewIds exactProduct) Machine.Free initial
        (planLabels [lateManifest.toEvent "coordinator"] ++ [.commit 0, .append 0])).any
          (fun s => s.appended.any fun event => decide (∀ i ∈ List.range s.rows.length,
            s.rows[i]? = some event → (rebuild reviewIds exactProduct
              (s.rows.take (i + 1))).toOption.isNone = true)) = true := by
      decide +kernel
    obtain ⟨s, hs, happended⟩ := (Option.any_eq_true _ _).mp hrun
    obtain ⟨event, hevent, hrejected⟩ := List.any_eq_true.mp happended
    refine ⟨s, event, .of_exec hs, hevent, not_accepted fun i hi hrow => ?_⟩
    exact Option.isNone_iff_eq_none.mp (of_decide_eq_true hrejected i hi hrow)

end PlanStore

end Noema
