import Noema.GoalAuthority
import Noema.Lib.RevisionChain

/-!
# The revisions of goals and roadmaps, and the work in progress

Native goal revisions, migrated goal events and roadmap revisions extend chains: each is
recorded under the version after the current one's and names that as superseded.  A work
proposal is recorded only below its limit of proposals without an admitted order.  Other
events leave the chains and the proposals as they were.
-/
namespace Noema

/-- Goal revisions, by goal. -/
abbrev goalForm : RevisionForm GoalRevision String String where
  id := GoalRevision.revisionId
  subject revision := revision.goalId
  version revision := revision.version
  supersedes revision := revision.supersedesRevisionId

/-- Roadmap revisions, by roadmap. -/
abbrev roadmapForm : RevisionForm RoadmapRevision String String where
  id := RoadmapRevision.revisionId
  subject revision := revision.roadmapId
  version revision := revision.version
  supersedes revision := revision.supersedesRevisionId

theorem RoadmapRevision.revisionId_ne (r : RoadmapRevision) : r.revisionId ≠ "" := by
  intro hempty
  obtain ⟨answer, htext, -⟩ := bind_eq_ok r.checked
  rw [hempty] at htext
  cases htext

namespace StrategicProjection

/-! ## The chains -/

/-- The goal revisions of a projection. -/
def goals (p : StrategicProjection) : goalForm.Register where
  table := p.goalRevisions
  history := p.goalHistoryIds.listOf
  head := p.currentGoalRevisionIds.get?

def roadmaps (p : StrategicProjection) : roadmapForm.Register where
  table := p.roadmapRevisions
  history := p.roadmapHistoryIds.listOf
  head := p.currentRoadmapRevisionIds.get?

variable {b : IntentBuiltins} {p p' : StrategicProjection} {event : Event} {handled : Bool}

theorem currentGoalRevision_eq (goalId : String) :
    p.currentGoalRevision goalId = p.goals.current goalId := by
  unfold currentGoalRevision RevisionForm.Register.current
  show _ = (p.currentGoalRevisionIds.get? goalId).bind p.goalRevisions.find
  split
  · rename_i hnone
    rw [hnone]
    rfl
  · rename_i hempty
    rw [hempty]
    symm
    -- No revision has the empty id that the code takes for none.
    refine Option.eq_none_iff_forall_not_mem.mpr fun revision hfind => ?_
    exact revision.revisionId_ne (KeyedTable.find_key hfind)
  · rename_i id _ hid
    rw [hid]
    rfl

theorem currentRoadmapRevision_eq (roadmapId : String) :
    p.currentRoadmapRevision roadmapId = p.roadmaps.current roadmapId := by
  unfold currentRoadmapRevision RevisionForm.Register.current
  show _ = (p.currentRoadmapRevisionIds.get? roadmapId).bind p.roadmapRevisions.find
  split
  · rename_i hnone
    rw [hnone]
    rfl
  · rename_i hempty
    rw [hempty]
    symm
    refine Option.eq_none_iff_forall_not_mem.mpr fun revision hfind => ?_
    exact revision.revisionId_ne (KeyedTable.find_key hfind)
  · rename_i id _ hid
    rw [hid]
    rfl

/-- The version after that of a revision, if there is one. -/
theorem versionAfter_map {R : Type} (current : Option R) (version : R → Int) :
    versionAfter (current.map version) = current.elim 1 fun revision => version revision + 1 := by
  cases current <;> rfl

theorem recordImmutable_ok {α : Type} [DecidableEq α] {key : α → String}
    {values stored : KeyedTable key} {value : α} {label : String} (h : recordImmutable values value label = .ok stored) :
    values.insertOnce value = some stored := by
  unfold recordImmutable at h
  split at h
  · rename_i hinsert
    cases h
    exact hinsert
  · cases h

theorem recordGoalRevision_extends {revision : GoalRevision}
    (h : p.recordGoalRevision revision event = .ok p') :
    p.goals.Extends revision p'.goals := by
  obtain ⟨_, -, h⟩ := bind_eq_ok h
  obtain ⟨_, hnext, h⟩ := bind_eq_ok h
  obtain ⟨_, -, h⟩ := bind_eq_ok h
  obtain ⟨goalRevisions, hstored, h⟩ := bind_eq_ok h
  cases h
  obtain ⟨hversion, hsupersedes⟩ := not_or.mp (refuse_ok hnext)
  rw [currentGoalRevision_eq] at hversion hsupersedes
  refine ⟨recordImmutable_ok hstored, ?_, not_not.mp hsupersedes, ?_, ?_⟩
  · exact (not_not.mp hversion).trans (versionAfter_map _ _)
  · exact fun goalId => Dict.listOf_push _ _ _ _
  · exact fun goalId => Dict.get?_put _ _ _ _

theorem recordRoadmapRevision_extends {revision : RoadmapRevision}
    (h : p.recordRoadmapRevision revision event = .ok p') :
    p.roadmaps.Extends revision p'.roadmaps ∧ p'.workProposals = p.workProposals := by
  obtain ⟨_, -, h⟩ := bind_eq_ok h
  obtain ⟨_, hnext, h⟩ := bind_eq_ok h
  obtain ⟨_, -, h⟩ := bind_eq_ok h
  obtain ⟨roadmapRevisions, hstored, h⟩ := bind_eq_ok h
  cases h
  obtain ⟨hversion, hsupersedes⟩ := not_or.mp (refuse_ok hnext)
  rw [currentRoadmapRevision_eq] at hversion hsupersedes
  refine ⟨⟨recordImmutable_ok hstored, ?_, not_not.mp hsupersedes, ?_, ?_⟩, rfl⟩
  · exact (not_not.mp hversion).trans (versionAfter_map _ _)
  · exact fun roadmapId => Dict.listOf_push _ _ _ _
  · exact fun roadmapId => Dict.get?_put _ _ _ _

theorem SameGoals.goals_eq (h : SameGoals p p') : p'.goals = p.goals := by
  unfold goals
  rw [h.revisions, h.history, h.current]

/-- An event extends the chain of one goal, or no chain. -/
theorem Recorded.goals_kept (h : Recorded b p event p') (hchained : p.goals.Chained) :
    p'.goals.Chained := by
  cases h with
  | goal _ _ _ _ hrecord => exact hchained.extend (recordGoalRevision_extends hrecord)
  | legacyGoal _ _ _ _ _ _ _ hrecord => exact hchained.extend (recordGoalRevision_extends hrecord)
  | commitment | legacyCreate | legacyNothing => exact hchained
  | transition _ _ _ _ _ hsame =>
    rw [hsame.toSameGoals.goals_eq]
    exact hchained
  | legacyPatch _ _ _ _ _ hsame =>
    rw [hsame.toSameGoals.goals_eq]
    exact hchained
  | elsewhere _ _ hsame =>
    rw [hsame.toSameGoals.goals_eq]
    exact hchained

/-! ## The roadmaps and the proposals -/

/-- The proposals whose work order is not admitted. -/
def pendingProposals (p : StrategicProjection) : List WorkOrderProposal :=
  p.workProposals.rows.filter fun value =>
    (p.admittedWorkOrders.find value.workOrder.workOrderId).isNone

/-- The roadmaps and the proposals are the same. -/
structure SamePlans (p p' : StrategicProjection) : Prop where
  roadmaps : p'.roadmaps = p.roadmaps
  proposals : p'.workProposals = p.workProposals

/-- What an event did to the roadmaps and the proposals. -/
inductive Planned (p : StrategicProjection) (event : Event) : StrategicProjection → Prop
  | roadmap {revision : RoadmapRevision} {p' : StrategicProjection}
      (hrecord : p.recordRoadmapRevision revision event = .ok p') :
      Planned p event p'
  | proposal {proposal : WorkOrderProposal}
      {workProposals : KeyedTable WorkOrderProposal.proposalId}
      (hvalid : p.validateWorkProposalStructure proposal proposal.proposedAt = .ok ())
      (hstored : p.workProposals.insertOnce proposal = some workProposals) :
      Planned p event { p with workProposals }
  | elsewhere {p' : StrategicProjection} (h : SamePlans p p') : Planned p event p'

theorem SamePlans.refl (p : StrategicProjection) : SamePlans p p := ⟨rfl, rfl⟩

theorem recordGoalRevision_plans {revision : GoalRevision}
    (h : p.recordGoalRevision revision event = .ok p') : SamePlans p p' := by
  obtain ⟨_, -, rfl⟩ := recordGoalRevision_ok h
  exact ⟨rfl, rfl⟩

theorem recordTransition_plans {transition : CommitmentTransition}
    (h : p.recordTransition transition event = .ok p') : SamePlans p p' := by
  unfold recordTransition at h
  split at h
  · cases h
  · obtain ⟨_, -, h⟩ := bind_eq_ok h
    obtain ⟨_, -, h⟩ := bind_eq_ok h
    cases h
    exact ⟨rfl, rfl⟩

theorem applyLegacy_plans (h : p.applyLegacy b event = .ok (p', handled)) : SamePlans p p' := by
  obtain ⟨context, -, h⟩ := bind_eq_ok h
  obtain ⟨operation, -, h⟩ := bind_eq_ok h
  split at h
  · obtain ⟨goalId, -, h⟩ := bind_eq_ok h
    dsimp only at h
    split at h
    · cases h
      exact .refl p
    · obtain ⟨revision, -, h⟩ := bind_eq_ok h
      obtain ⟨q, hrecord, h⟩ := bind_eq_ok h
      cases h
      exact recordGoalRevision_plans hrecord
  · split at h
    · obtain ⟨commitmentId, -, h⟩ := bind_eq_ok h
      split at h
      · split at h
        · cases h
          exact .refl p
        · obtain ⟨value, -, h⟩ := bind_eq_ok h
          cases h
          exact ⟨rfl, rfl⟩
      · obtain ⟨updated, -, h⟩ := bind_eq_ok h
        obtain ⟨q, hrecord, h⟩ := bind_eq_ok h
        cases h
        unfold recordLegacyTransition at hrecord
        split at hrecord
        · cases hrecord
          exact ⟨rfl, rfl⟩
        · obtain ⟨transition, -, hrecord⟩ := bind_eq_ok hrecord
          cases hrecord
          exact ⟨rfl, rfl⟩
    · cases h
      exact .refl p

theorem applyWorkProposal_planned (h : p.applyWorkProposal b event = .ok p') :
    Planned p event p' := by
  obtain ⟨proposal, -, h⟩ := bind_eq_ok h
  obtain ⟨_, -, h⟩ := bind_eq_ok h
  obtain ⟨_, hvalid, h⟩ := bind_eq_ok h
  obtain ⟨workProposals, hstored, h⟩ := bind_eq_ok h
  cases h
  exact .proposal hvalid (recordImmutable_ok hstored)

theorem applyRoadmapRevision_planned (h : p.applyRoadmapRevision b event = .ok p') :
    Planned p event p' := by
  obtain ⟨revision, -, h⟩ := bind_eq_ok h
  obtain ⟨_, -, h⟩ := bind_eq_ok h
  obtain ⟨_, -, h⟩ := bind_eq_ok h
  exact .roadmap h

/-- The native events that are neither. -/
theorem applyNative_planned (h : p.applyNative b event = .ok (p', handled)) :
    Planned p event p' := by
  unfold applyNative at h
  dsimp only at h
  split at h
  case h_11 =>
    cases h
    exact .elsewhere (.refl p)
  all_goals
    obtain ⟨q, happly, h⟩ := bind_eq_ok h
    cases h
  case h_2 => exact applyRoadmapRevision_planned happly
  case h_8 => exact applyWorkProposal_planned happly
  all_goals refine .elsewhere ?_
  case h_1 =>
    obtain ⟨revision, -, happly⟩ := bind_eq_ok happly
    obtain ⟨_, -, happly⟩ := bind_eq_ok happly
    obtain ⟨_, -, happly⟩ := bind_eq_ok happly
    exact recordGoalRevision_plans happly
  case h_3 =>
    obtain ⟨id, -, happly⟩ := bind_eq_ok happly
    obtain ⟨createdAt, -, happly⟩ := bind_eq_ok happly
    obtain ⟨updatedAt, -, happly⟩ := bind_eq_ok happly
    obtain ⟨value, -, happly⟩ := bind_eq_ok happly
    obtain ⟨_, -, happly⟩ := bind_eq_ok happly
    obtain ⟨authority, -, happly⟩ := bind_eq_ok happly
    obtain ⟨_, -, happly⟩ := bind_eq_ok happly
    obtain ⟨_, -, happly⟩ := bind_eq_ok happly
    obtain ⟨_, -, happly⟩ := bind_eq_ok happly
    cases happly
    exact ⟨rfl, rfl⟩
  case h_4 =>
    obtain ⟨transition, -, happly⟩ := bind_eq_ok happly
    obtain ⟨_, -, happly⟩ := bind_eq_ok happly
    obtain ⟨authority, -, happly⟩ := bind_eq_ok happly
    obtain ⟨_, -, happly⟩ := bind_eq_ok happly
    exact recordTransition_plans happly
  case h_5 | h_6 =>
    obtain ⟨record, -, happly⟩ := bind_eq_ok happly
    obtain ⟨_, -, happly⟩ := bind_eq_ok happly
    obtain ⟨_, -, happly⟩ := bind_eq_ok happly
    obtain ⟨stored, -, happly⟩ := bind_eq_ok happly
    cases happly
    exact ⟨rfl, rfl⟩
  case h_7 =>
    obtain ⟨observation, -, happly⟩ := bind_eq_ok happly
    obtain ⟨_, -, happly⟩ := bind_eq_ok happly
    obtain ⟨_, -, happly⟩ := bind_eq_ok happly
    obtain ⟨_, -, happly⟩ := bind_eq_ok happly
    obtain ⟨_, -, happly⟩ := bind_eq_ok happly
    cases happly
    exact ⟨rfl, rfl⟩
  case h_9 =>
    obtain ⟨order, -, happly⟩ := bind_eq_ok happly
    obtain ⟨_, -, happly⟩ := bind_eq_ok happly
    obtain ⟨admitted, -, happly⟩ := bind_eq_ok happly
    cases happly
    exact ⟨rfl, rfl⟩
  case h_10 =>
    obtain ⟨graph, -, happly⟩ := bind_eq_ok happly
    cases happly
    exact ⟨rfl, rfl⟩

/-- **An accepted event was applied before, or did to roadmaps and proposals what `Planned`
says.** -/
theorem step_planned (h : step b p event = .ok p') :
    p' = p ∨ ∃ q sequence, Planned p event q ∧
      p' = { q with events := q.events.put event, lastSequence := sequence } := by
  obtain ⟨⟨r, handled⟩, happly, h⟩ := bind_eq_ok h
  cases h
  unfold apply at happly
  split at happly
  · split at happly
    · cases happly
      exact .inl rfl
    · cases happly
  · split at happly
    · cases happly
    · rename_i sequence _
      obtain ⟨_, -, happly⟩ := bind_eq_ok happly
      obtain ⟨⟨q, answer⟩, hevent, happly⟩ := bind_eq_ok happly
      cases happly
      refine .inr ⟨q, sequence, ?_, rfl⟩
      unfold applyEvent at hevent
      split at hevent
      · exact .elsewhere (applyLegacy_plans hevent)
      · exact applyNative_planned hevent

theorem Planned.roadmaps_kept (h : Planned p event p') (hchained : p.roadmaps.Chained) :
    p'.roadmaps.Chained := by
  cases h with
  | roadmap hrecord => exact hchained.extend (recordRoadmapRevision_extends hrecord).1
  | proposal => exact hchained
  | elsewhere hsame =>
    rw [hsame.roadmaps]
    exact hchained

/-- A valid proposal is below its limit. -/
theorem pending_lt_limit {proposal : WorkOrderProposal} {at' : Datetime}
    (h : p.validateWorkProposalStructure proposal at' = .ok ()) :
    (p.pendingProposals.length : Int) < proposal.wipLimit := by
  unfold validateWorkProposalStructure at h
  split at h
  · cases h
  · iterate 10
      obtain ⟨_, -, h⟩ := bind_eq_ok h
    exact not_le.mp (refuse_ok h)

/-- The proposals in progress, with one that counts in any case. -/
def inProgress (p : StrategicProjection) (proposal : WorkOrderProposal) :
    List WorkOrderProposal :=
  p.workProposals.rows.filter fun value => value = proposal ∨
    (p.admittedWorkOrders.find value.workOrder.workOrderId).isNone

/-- A proposal that an event brought in is within its limit. -/
theorem Planned.inProgress_le (h : Planned p event p') {proposal : WorkOrderProposal}
    (hnew : proposal ∉ p.workProposals.rows) (hmem : proposal ∈ p'.workProposals.rows) :
    ((p'.inProgress proposal).length : Int) ≤ proposal.wipLimit := by
  cases h with
  | roadmap hrecord =>
    rw [(recordRoadmapRevision_extends hrecord).2] at hmem
    exact absurd hmem hnew
  | elsewhere hsame =>
    rw [hsame.proposals] at hmem
    exact absurd hmem hnew
  | @proposal accepted workProposals hvalid hstored =>
    have hlimit := pending_lt_limit hvalid
    obtain rfl : proposal = accepted :=
      ((KeyedTable.mem_insertOnce hstored).mp hmem).resolve_left hnew
    rcases KeyedTable.insertOnce_cases hstored with ⟨-, hfind⟩ | ⟨-, hrows⟩
    · exact absurd (KeyedTable.mem_of_find hfind) hnew
    · have hold : (p.workProposals.rows.filter fun value => value = proposal ∨
          (p.admittedWorkOrders.find value.workOrder.workOrderId).isNone) =
          p.pendingProposals := by
        refine List.filter_congr fun value hvalue => ?_
        have hne : value ≠ proposal := by
          rintro rfl
          exact hnew hvalue
        simp only [hne, false_or, Bool.decide_eq_true]
      have hcount : (inProgress { p with workProposals } proposal).length =
          p.pendingProposals.length + 1 := by
        show (workProposals.rows.filter _).length = _
        rw [hrows, List.filter_append, hold, List.length_append]
        simp
      rw [hcount]
      push_cast
      omega

/-! ## Runs -/

theorem empty_chained : empty.goals.Chained ∧ empty.roadmaps.Chained := by
  constructor
  · refine ⟨?_, ?_, fun goalId => goalForm.contiguous_nil, fun goalId => rfl⟩
    · intro goalId id hid
      cases hid
    · intro revision hmem
      cases hmem
  · refine ⟨?_, ?_, fun roadmapId => roadmapForm.contiguous_nil, fun roadmapId => rfl⟩
    · intro roadmapId id hid
      cases hid
    · intro revision hmem
      cases hmem

theorem step_chained (hp : p.goals.Chained ∧ p.roadmaps.Chained)
    (h : step b p event = .ok p') : p'.goals.Chained ∧ p'.roadmaps.Chained := by
  constructor
  · rcases step_recorded h with ⟨-, rfl⟩ | ⟨-, q, sequence, hrecorded, -, -, rfl⟩
    · exact hp.1
    · exact hrecorded.goals_kept hp.1
  · rcases step_planned h with rfl | ⟨q, sequence, hplanned, rfl⟩
    · exact hp.2
    · exact hplanned.roadmaps_kept hp.2

/-- Every accepted log, native and migrated events mixed, leaves the chains contiguous. -/
theorem rebuild_chained {events : List Event} (h : rebuild b events = .ok p) :
    p.goals.Chained ∧ p.roadmaps.Chained :=
  Folding.run_induction (I := fun _ q => q.goals.Chained ∧ q.roadmaps.Chained) empty_chained
    (fun _ _ _ _ _ hq hstep => step_chained hq hstep) h

/-- A proposal that came with an event is within its limit. -/
theorem step_inProgress_le (h : step b p event = .ok p') {proposal : WorkOrderProposal}
    (hnew : proposal ∉ p.workProposals.rows) (hmem : proposal ∈ p'.workProposals.rows) :
    ((p'.inProgress proposal).length : Int) ≤ proposal.wipLimit := by
  rcases step_planned h with rfl | ⟨q, sequence, hplanned, rfl⟩
  · exact absurd hmem hnew
  · exact hplanned.inProgress_le hnew hmem

/-- **Revision chains are contiguous and work in progress is bounded.**  After every log
that the projection accepts, the revisions of a goal, and of a roadmap, are those of its
history: numbered from one, each superseding the one before, with the head the last.  A
proposal that the next event brings in is within its limit, itself counted. -/
theorem revisions_contiguous (b : IntentBuiltins) (events : List Event) (p : StrategicProjection)
    (h : rebuild b events = .ok p) :
    (∀ goalId, goalForm.ChainOf
      (p.goalRevisions.rows.filter fun revision => revision.goalId = goalId)
      (p.goalHistory goalId) (p.currentGoalRevision goalId)) ∧
    (∀ roadmapId, roadmapForm.ChainOf
      (p.roadmapRevisions.rows.filter fun revision => revision.roadmapId = roadmapId)
      (p.roadmapHistory roadmapId) (p.currentRoadmapRevision roadmapId)) ∧
    ∀ event p', step b p event = .ok p' → ∀ proposal ∈ p'.workProposals.rows,
      proposal ∉ p.workProposals.rows →
        ((p'.inProgress proposal).length : Int) ≤ proposal.wipLimit := by
  obtain ⟨hgoals, hroadmaps⟩ := rebuild_chained h
  refine ⟨fun goalId => ?_, fun roadmapId => ?_, fun event p' hstep proposal hmem hnew => ?_⟩
  · rw [currentGoalRevision_eq]
    exact hgoals.chainOf goalId
  · rw [currentRoadmapRevision_eq]
    exact hroadmaps.chainOf roadmapId
  · exact step_inProgress_le hstep hnew hmem

/-- The paper's second revision follows Ada's first. -/
theorem paper_revisions : ∃ events p, rebuild plainIntent events = .ok p ∧
    goalForm.ChainOf (p.goalRevisions.rows.filter fun revision => revision.goalId = "paper")
      (p.goalHistory "paper") (p.currentGoalRevision "paper") ∧
    (p.goalHistory "paper").map (fun revision => revision.version) = [1, 2] := by
  have hrun : ([paperRecorded, paperUpdated].mapM intentSchemas.normalize >>= fun normalized => do
      let p ← rebuild plainIntent normalized
      return (p.goalHistory "paper").map fun revision => revision.version) =
        .ok [1, 2] := by
    decide +kernel
  obtain ⟨events, -, hrun⟩ := bind_eq_ok hrun
  obtain ⟨p, hp, hrun⟩ := bind_eq_ok hrun
  exact ⟨events, p, hp, (revisions_contiguous plainIntent events p hp).1 "paper",
    Except.ok.inj hrun⟩

end StrategicProjection
end Noema
