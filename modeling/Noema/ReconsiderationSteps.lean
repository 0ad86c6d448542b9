import Noema.EndogenousSteps
import Noema.ReconsiderationProjection

/-!
# What an accepted event of reconsideration did

`Transition` says of each branch of the projection what an accepted event checked and what
it did; `step_cases` says it of a whole step, which takes an event under a new id.
-/
namespace Noema

theorem Dict.get?_ofList_ne_none {α : Type} {rows : List (String × α)} {key : String} {value : α}
    (h : (key, value) ∈ rows) : Dict.get? (.ofList rows) key ≠ none := by
  rw [Dict.get?_ofList]
  intro hnone
  rw [Option.map_eq_none_iff, List.find?_eq_none] at hnone
  exact hnone (key, value) (List.mem_reverse.mpr h) (decide_eq_true rfl)

/-! ## Allocations as records -/

/-- An allocation is within the budget of its scan. -/
structure ReconsiderationAllocation.WithinScan (allocation : ReconsiderationAllocation)
    (scan : ReconsiderationScanRequest) : Prop where
  budget : allocation.budget = scan.budget
  fits : allocation.consumed.fitsWithin scan.budget.ceiling = true
  selected : (allocation.selectedCandidateIds.length : Int) ≤ scan.budget.maxCandidates

theorem ReconsiderationAllocation.of_beq {allocation expected : ReconsiderationAllocation}
    (h : (allocation == expected) = true) :
    allocation.budget = expected.budget ∧ allocation.decisions = expected.decisions ∧
      allocation.consumed = expected.consumed := by
  obtain ⟨hcontent, -⟩ := Bool.and_eq_true_iff.mp h
  have hfields : (_ && (_ && (_ && (_ && (_ && (_ && (_ && (_ && _)))))))) = true := hcontent
  simp only [Bool.and_eq_true] at hfields
  exact ⟨eq_of_beq hfields.2.2.2.2.1, eq_of_beq hfields.2.2.2.2.2.1,
    eq_of_beq hfields.2.2.2.2.2.2.2.1⟩

theorem ReconsiderationAllocation.fromDict_checked {b : ReconsiderationBuiltins} {data : Payload}
    {allocation : ReconsiderationAllocation}
    (h : ReconsiderationAllocation.fromDict b data = .ok allocation) :
    allocation.check b.reconsiderationIds = .ok () := by
  unfold ReconsiderationAllocation.fromDict at h
  simp only [bind_ok_iff] at h
  obtain ⟨_, -, _, -, _, -, _, -, _, -, _, -, _, -, _, -, _, -, _, -, _, -, _, -, _, -, _, -, _, -,
    _, -, made, hmade, h⟩ := h
  obtain ⟨_, -, h⟩ := bind_eq_ok h
  obtain ⟨_, -, h⟩ := bind_eq_ok h
  cases h
  obtain ⟨_, hchecked, hmade⟩ := bind_eq_ok hmade
  cases hmade
  exact hchecked

theorem ReconsiderationAllocation.check_selected {allocation : ReconsiderationAllocation}
    {ids : ReconsiderationIds} (h : allocation.check ids = .ok ()) :
    (allocation.selectedCandidateIds.length : Int) ≤ allocation.budget.maxCandidates := by
  unfold ReconsiderationAllocation.check at h
  simp only [bind_ok_iff] at h
  obtain ⟨_, -, _, -, _, -, _, -, _, -, _, -, _, -, _, hcount, -⟩ := h
  have hcount := refuse_ok hcount
  omega

theorem ReconsiderationAllocation.mem_selectedCandidateIds {allocation : ReconsiderationAllocation} {candidateId : String} :
    candidateId ∈ allocation.selectedCandidateIds ↔ ∃ decision ∈ allocation.decisions,
      decision.candidateId = candidateId ∧ decision.label = .selected := by
  unfold ReconsiderationAllocationContent.selectedCandidateIds
  simp only [List.mem_map, List.mem_filter, decide_eq_true_eq]
  constructor
  · rintro ⟨decision, ⟨hmem, hlabel⟩, hid⟩
    exact ⟨decision, hmem, hid, hlabel⟩
  · rintro ⟨decision, hmem, hid, hlabel⟩
    exact ⟨decision, ⟨hmem, hlabel⟩, hid⟩

/-! ## The mandates -/

namespace ReconsiderationMandateProjection

variable {b : ReconsiderationBuiltins} {m n : ReconsiderationMandateProjection} {event : Event}

/-- What an accepted event did to the mandates. -/
inductive Transition (m : ReconsiderationMandateProjection) (event : Event) :
    ReconsiderationMandateProjection → Prop
  | recorded (mandate : ReconsiderationMandate)
      (type : event.type = "reconsideration.mandate_recorded")
      (id : event.id = "reconsideration-mandate-recorded:" ++ mandate.revisionId) :
      Transition m event { m with
        revisions := m.revisions.put mandate
        currentRevision := m.currentRevision.put (mandate.mandateId, mandate.revisionId) }
  | revoked (revocation : ReconsiderationMandateRevocation)
      (type : event.type = "reconsideration.mandate_revoked") :
      Transition m event { m with revocations := m.revocations.put revocation }
  | unhandled : Transition m event m

theorem validateEnvelope_id {eventId subject : String} {timestamp : Datetime} {answer : Unit}
    (h : validateEnvelope event eventId subject timestamp = .ok answer) : event.id = eventId := by
  have hsame := refuse_ok h
  simp only [not_or, not_not] at hsame
  exact hsame.1

theorem applyRecorded_transition (htype : event.type = "reconsideration.mandate_recorded")
    (h : m.applyRecorded b event = .ok n) : m.Transition event n := by
  unfold applyRecorded at h
  simp only [bind_ok_iff] at h
  obtain ⟨_, -, mandate, -, _, henvelope, h⟩ := h
  obtain ⟨_, -, _, -, _, -, h⟩ := h
  -- Whatever the revision before it, the mandate becomes the current one.
  have hput : ∃ revisions, EndogenousProjection.recordImmutable m.revisions mandate
      "mandate revision" mandate.revisionId = .ok revisions ∧
      { m with
        revisions
        currentRevision := m.currentRevision.put (mandate.mandateId, mandate.revisionId) } = n := by
    split at h
    all_goals
      obtain ⟨_, -, h⟩ := bind_eq_ok h
      obtain ⟨revisions, hrevisions, h⟩ := bind_eq_ok h
      exact ⟨revisions, hrevisions, return_iff.mp h⟩
  obtain ⟨revisions, hrevisions, rfl⟩ := hput
  obtain ⟨-, rfl⟩ := EndogenousProjection.recordImmutable_iff.mp hrevisions
  exact .recorded mandate htype (validateEnvelope_id henvelope)

theorem applyRevoked_transition (htype : event.type = "reconsideration.mandate_revoked")
    (h : m.applyRevoked b event = .ok n) : m.Transition event n := by
  unfold applyRevoked at h
  simp only [bind_ok_iff] at h
  obtain ⟨_, -, revocation, -, _, -, _, -, _, -, _, -, _, -, _, -, revocations, hrevocations, h⟩ := h
  obtain ⟨-, rfl⟩ := EndogenousProjection.recordImmutable_iff.mp hrevocations
  cases h
  exact .revoked revocation htype

theorem applyEvent_transition {handled : Bool} (h : m.applyEvent b event = .ok (n, handled)) :
    m.Transition event n := by
  unfold applyEvent at h
  split at h
  · rename_i htype
    obtain ⟨_, happlied, h⟩ := bind_eq_ok h
    cases h
    exact applyRecorded_transition htype happlied
  · rename_i htype
    obtain ⟨_, happlied, h⟩ := bind_eq_ok h
    cases h
    exact applyRevoked_transition htype happlied
  · cases h
    exact .unhandled

/-- An event under a new id is kept. -/
theorem apply_of_new {handled : Bool} (hnew : m.events.find event.id = none)
    (h : m.apply b event = .ok (n, handled)) :
    ∃ applied lastSequence, m.Transition event applied ∧
      n = { applied with events := applied.events.put event, lastSequence } := by
  unfold apply at h
  rw [hnew] at h
  cases hsequence : event.sequence with
  | none =>
    rw [hsequence] at h
    cases h
  | some sequence =>
    rw [hsequence] at h
    simp only [bind_ok_iff] at h
    obtain ⟨_, -, ⟨applied, _⟩, happlied, h⟩ := h
    cases h
    exact ⟨applied, sequence, applyEvent_transition happlied, rfl⟩

end ReconsiderationMandateProjection

namespace ReconsiderationProjection

/-! ## The checks that the branches share -/

section Checks

variable {ids : InformationIds} {p : ReconsiderationProjection ids} {event : Event}

/-- The live intent or the mandate that a basis names is current. -/
def BasisCurrent (p : ReconsiderationProjection ids) (basis : CognitiveBasis) (at' : Datetime) :
    Prop :=
  match basis with
  | .liveGoverningIntent ref => p.endogenous.IntentRefCurrent ref
  | .reconsiderationMandate revisionId => p.mandates.IsActiveRevision revisionId at'

theorem validateBasis_iff {basis : CognitiveBasis} {at' : Datetime} {answer : Unit} :
    p.validateBasis basis at' = .ok answer ↔ p.BasisCurrent basis at' := by
  cases basis with
  | liveGoverningIntent ref =>
    rw [validateBasis, refuse_iff, not_not, BasisCurrent, EndogenousProjection.IntentRefsAreCurrent]
    simp
  | reconsiderationMandate revisionId => rw [validateBasis, refuse_iff, not_not, BasisCurrent]

theorem basisIsCurrent_iff {basis : CognitiveBasis} {at' : Datetime} :
    p.basisIsCurrent basis at' = true ↔ p.BasisCurrent basis at' := by
  unfold basisIsCurrent
  constructor
  · intro h
    cases hvalid : p.validateBasis basis at' with
    | ok answer => exact validateBasis_iff.mp hvalid
    | error refusal =>
      rw [hvalid] at h
      cases h
  · intro h
    have hvalid : p.validateBasis basis at' = .ok () := validateBasis_iff.mpr h
    rw [hvalid]
    rfl

theorem validateEnvelope_id {eventId subject : String} {timestamp : Option Datetime} {answer : Unit}
    (h : validateEnvelope event eventId subject timestamp = .ok answer) : event.id = eventId := by
  obtain ⟨_, hsame, -⟩ := bind_eq_ok h
  have hsame := refuse_ok hsame
  simp only [not_or, not_not] at hsame
  exact hsame.1

/-- The sequence of the event under an id. -/
def sequenceOf (p : ReconsiderationProjection ids) (eventId : String) : Option Nat :=
  (p.events.find eventId).bind Event.sequence

end Checks

/-! ## Scans -/

section Scans

variable {ids : InformationIds} {p : ReconsiderationProjection ids}
  {scan : ReconsiderationScanRequest} {mandate : ReconsiderationMandate}

/-- A number of seconds after an earlier moment is no less after one that is earlier still. -/
theorem totalSeconds_atMost {later earlier earliest : Int} (h : earliest ≤ earlier) :
    (totalSeconds later earlier).atMost (totalSeconds later earliest) = true := by
  refine PyFloat.ofRat_atMost ?_
  have hcast : ((later - earlier : Int) : ℚ) ≤ (later - earliest : Int) := by
    exact_mod_cast Int.sub_le_sub_left h later
  exact div_le_div_of_nonneg_right hcast (by norm_num)

/-- What a scan under a mandate keeps of it. -/
structure Mandated (p : ReconsiderationProjection ids) (scan : ReconsiderationScanRequest)
    (mandate : ReconsiderationMandate) : Prop where
  budget : scan.budget.fitsWithin mandate.budget = true
  cadence : ∀ previous ∈ p.scansUnder mandate.revisionId, mandate.minimumIntervalSeconds.atMost
    (totalSeconds scan.requestedAt.instant previous.requestedAt.instant) = true
  triggered : ∀ triggerEventId, scan.triggerEventId = some triggerEventId →
    ∃ recorded triggered,
      p.sequenceOf ("reconsideration-mandate-recorded:" ++ mandate.revisionId) = some recorded ∧
      p.sequenceOf triggerEventId = some triggered ∧ recorded < triggered
  unused : ∀ previous ∈ p.scansUnder mandate.revisionId, ∀ triggerEventId,
    scan.triggerEventId = some triggerEventId → previous.triggerEventId ≠ some triggerEventId

theorem validateMandateScan_ok {revisionId : String} {answer : Unit}
    (hbasis : scan.basis.basis = .reconsiderationMandate revisionId)
    (h : p.validateMandateScan scan = .ok answer) :
    ∃ mandate, p.mandates.revisions.find revisionId = some mandate ∧
      scan.budget.fitsWithin mandate.budget = true ∧
      ∀ previous ∈ p.scansUnder mandate.revisionId, mandate.minimumIntervalSeconds.atMost
        (totalSeconds scan.requestedAt.instant previous.requestedAt.instant) = true := by
  unfold validateMandateScan at h
  rw [hbasis] at h
  dsimp only [ReconsiderationMandateProjection.revision] at h
  cases hmandate : p.mandates.revisions.find revisionId with
  | none =>
    rw [hmandate] at h
    cases h
  | some mandate =>
    rw [hmandate] at h
    simp only [bind_ok_iff] at h
    obtain ⟨_, hbudget, _, -, _, -, _, -, hcadence⟩ := h
    refine ⟨mandate, rfl, by simpa using refuse_ok hbudget, fun previous hprevious => ?_⟩
    have hmem : previous.requestedAt.instant ∈ (p.scansUnder mandate.revisionId).map
        fun previous => previous.requestedAt.instant := List.mem_map_of_mem hprevious
    cases hlatest : ((p.scansUnder mandate.revisionId).map
        fun previous => previous.requestedAt.instant).max? with
    | none =>
      rw [List.max?_eq_none_iff.mp hlatest] at hmem
      cases hmem
    | some latest =>
      have hnot := refuse_ok hcadence
      rw [hlatest] at hnot
      have hspaced : mandate.minimumIntervalSeconds.atMost
          (totalSeconds scan.requestedAt.instant latest) = true := by
        by_contra hless
        exact hnot ⟨latest, rfl, Bool.eq_false_of_not_eq_true hless⟩
      exact PyFloat.atMost_trans hspaced
        (totalSeconds_atMost ((List.max?_eq_some_iff.mp hlatest).2 _ hmem))

theorem mandateTrigger_ok {trigger : Event} (h : p.mandateTrigger scan mandate = .ok trigger) :
    ∃ triggerEventId, scan.triggerEventId = some triggerEventId ∧
      p.events.find triggerEventId = some trigger := by
  unfold mandateTrigger at h
  cases htrigger : scan.triggerEventId with
  | none =>
    rw [htrigger] at h
    cases h
  | some triggerEventId =>
    rw [htrigger] at h
    dsimp only at h
    refine ⟨triggerEventId, rfl, ?_⟩
    cases hfound : (p.events.find triggerEventId).filter fun trigger =>
        trigger.type ∈ mandate.triggerEventTypes with
    | none =>
      rw [hfound] at h
      cases h
    | some found =>
      rw [hfound] at h
      cases h
      exact (Option.filter_eq_some_iff.mp hfound).1

theorem validateScanTrigger_ok {revisionId : String} {answer : Unit}
    (hbasis : scan.basis.basis = .reconsiderationMandate revisionId)
    (hmandate : p.mandates.revisions.find revisionId = some mandate)
    (h : p.validateScanTrigger scan = .ok answer) :
    ∀ triggerEventId, scan.triggerEventId = some triggerEventId →
      (∃ recorded triggered,
        p.sequenceOf ("reconsideration-mandate-recorded:" ++ mandate.revisionId) = some recorded ∧
        p.sequenceOf triggerEventId = some triggered ∧ recorded < triggered) ∧
      ∀ previous ∈ p.scansUnder mandate.revisionId,
        previous.triggerEventId ≠ some triggerEventId := by
  intro triggerEventId htrigger
  unfold validateScanTrigger at h
  rw [hbasis] at h
  dsimp only [ReconsiderationMandateProjection.revision] at h
  rw [hmandate] at h
  dsimp only at h
  by_cases htypes : mandate.triggerEventTypes = []
  · -- A scan by cadence alone has no trigger.
    rw [if_pos htypes] at h
    exact absurd (htrigger ▸ by simp) (refuse_ok h)
  · rw [if_neg htypes] at h
    simp only [bind_ok_iff] at h
    obtain ⟨trigger, htaken, _, hafter, _, hunused, -⟩ := h
    obtain ⟨found, hfound, hevent⟩ := mandateTrigger_ok htaken
    obtain rfl : found = triggerEventId := Option.some.inj (hfound.symm.trans htrigger)
    have hafter := refuse_ok hafter
    rw [not_not] at hafter
    obtain ⟨recorded, hrecorded, triggered, htriggered, hlt⟩ := hafter
    refine ⟨⟨recorded, triggered, hrecorded, ?_, hlt⟩, fun previous hprevious hsame => ?_⟩
    · unfold sequenceOf
      rw [hevent]
      exact htriggered
    · exact refuse_ok hunused ⟨previous, hprevious, hsame.trans htrigger.symm⟩

/-- A scan that is recorded. -/
structure ScanStep (p : ReconsiderationProjection ids) (event : Event)
    (scan : ReconsiderationScanRequest) : Prop where
  id : event.id = "reconsideration-scan-requested:" ++ scan.requestId
  current : p.BasisCurrent scan.basis.basis scan.requestedAt
  mandated : ∀ revisionId, scan.basis.basis.mandateRevisionId = some revisionId →
    ∃ mandate, p.mandates.revisions.find revisionId = some mandate ∧ p.Mandated scan mandate

end Scans

/-! ## Allocations, traces and proposals -/

section Allocations

variable {b : ReconsiderationBuiltins} {p q : ReconsiderationProjection b.informationIds}
  {event : Event}

/-- A candidate that no terminal constraint stops is over a current basis, and new. -/
theorem unconstrained {scan : ReconsiderationScanRequest} {candidates : List ReconsiderationCandidate}
    {at' : Datetime} {candidateId : String}
    (hmem : ∃ candidate ∈ candidates, candidate.candidateId = candidateId)
    (h : (p.allocationTerminalConstraints scan candidates at').get? candidateId = none) :
    p.BasisCurrent scan.basis.basis at' ∧ ¬p.CandidateWasSelected candidateId := by
  obtain ⟨candidate, hcandidate, rfl⟩ := hmem
  unfold allocationTerminalConstraints at h
  by_cases hcurrent : p.basisIsCurrent scan.basis.basis at' = false
  · rw [if_pos hcurrent] at h
    exact absurd h (Dict.get?_ofList_ne_none
      (List.mem_map_of_mem hcandidate))
  · rw [if_neg hcurrent] at h
    refine ⟨basisIsCurrent_iff.mp (Bool.eq_true_of_not_eq_false hcurrent), fun hselected => ?_⟩
    exact absurd h (Dict.get?_ofList_ne_none
      (List.mem_map_of_mem (List.mem_filter.mpr ⟨hcandidate, decide_eq_true hselected⟩)))

/-- An allocation that is recorded. -/
structure AllocationStep (p : ReconsiderationProjection b.informationIds) (event : Event)
    (allocation : ReconsiderationAllocation) (scan : ReconsiderationScanRequest) : Prop where
  id : event.id = "reconsideration-allocation-recorded:" ++ allocation.allocationId
  first : p.allocationByScan.get? allocation.scanRequestId = none
  scanned : p.scans.find allocation.scanRequestId = some scan
  within : allocation.WithinScan scan
  selected : ∀ candidateId ∈ allocation.selectedCandidateIds,
    p.BasisCurrent scan.basis.basis allocation.allocatedAt ∧ ¬p.CandidateWasSelected candidateId

theorem scanAndPolicy_ok {allocation : ReconsiderationAllocation}
    {scan : ReconsiderationScanRequest} {policy : ReconsiderationPolicySnapshot}
    (h : p.scanAndPolicy b allocation = .ok (scan, policy)) :
    p.scans.find allocation.scanRequestId = some scan := by
  unfold scanAndPolicy at h
  split at h
  · rename_i hscan _
    cases h
    exact hscan
  · cases h

theorem applyAllocation_ok (h : p.applyAllocation b event = .ok q) :
    ∃ allocation scan, p.AllocationStep event allocation scan ∧
      q = { p with
        allocations := p.allocations.put allocation
        allocationByScan :=
          p.allocationByScan.put (allocation.scanRequestId, allocation.allocationId) } := by
  unfold applyAllocation at h
  simp only [bind_ok_iff] at h
  obtain ⟨_, -, allocation, hread, _, henvelope, _, hfirst, ⟨scan, policy⟩, hscan, h⟩ := h
  obtain ⟨_, -, _, -, _, -, _, -, _, -, _, -, expected, hexpected, _, hequal, h⟩ := h
  cases h
  have hscan := scanAndPolicy_ok hscan
  have hrequest : scan.requestId = allocation.scanRequestId := KeyedTable.find_key hscan
  have hfirst : p.allocationByScan.get? allocation.scanRequestId = none := by
    simpa using refuse_ok hfirst
  have hequal : (allocation == expected) = true := by simpa using refuse_ok hequal
  obtain ⟨hbudget, hdecisions, hconsumed⟩ := ReconsiderationAllocation.of_beq hequal
  have hallocates := allocateReconsideration_ok hexpected
  refine ⟨allocation, scan, ⟨validateEnvelope_id henvelope, hfirst, hscan, ?_, ?_⟩, ?_⟩
  · have hcount := ReconsiderationAllocation.check_selected
      (ReconsiderationAllocation.fromDict_checked hread)
    have hsame : allocation.budget = scan.budget := hbudget.trans hallocates.budget
    exact ⟨hsame, hconsumed ▸ hallocates.fits, hsame ▸ hcount⟩
  · intro candidateId hselected
    obtain ⟨decision, hdecision, rfl, hlabel⟩ := ReconsiderationAllocation.mem_selectedCandidateIds.mp hselected
    rw [hdecisions] at hdecision
    exact unconstrained (allocateReconsideration_decided hexpected decision hdecision)
      (hallocates.selected decision hdecision hlabel).1
  · rw [hrequest]

/-- A trace that is recorded. -/
structure TraceStep (p : ReconsiderationProjection b.informationIds) (event : Event)
    (trace : CognitiveAllocationTrace) : Prop where
  id : event.id = "cognitive-allocation-trace-recorded:" ++ trace.traceId
  first : p.traceByDecision.find (trace.candidateId, trace.allocationId) = none

theorem applyTrace_ok (h : p.applyTrace b event = .ok q) :
    ∃ trace, p.TraceStep event trace ∧
      q = { p with
        traces := p.traces.put trace
        traceByDecision := p.traceByDecision.put
          ((trace.candidateId, trace.allocationId), trace.traceId) } := by
  unfold applyTrace at h
  simp only [bind_ok_iff] at h
  obtain ⟨_, -, trace, -, _, henvelope, ⟨allocation, candidate⟩, -, h⟩ := h
  dsimp only at h
  split at h
  · cases h
  · simp only [bind_ok_iff] at h
    obtain ⟨_, -, _, -, _, -, _, -, _, hfirst, h⟩ := h
    cases h
    exact ⟨trace, ⟨validateEnvelope_id henvelope, by simpa using refuse_ok hfirst⟩, rfl⟩

/-- A proposal that is recorded. -/
structure ProposalStep (p : ReconsiderationProjection b.informationIds) (event : Event)
    (proposal : ReconsiderationShadowProposal) : Prop where
  id : event.id = "reconsideration-shadow-proposal-recorded:" ++ proposal.proposalId
  first : ∀ proposalId, p.proposalByTrace.get? proposal.allocationTraceId = some proposalId →
    proposalId = proposal.proposalId
  current : ∃ candidate, p.candidates.find proposal.candidateId = some candidate ∧
    p.BasisCurrent candidate.currentBasis.basis proposal.createdAt
  selected : ∃ allocation, p.allocations.find proposal.allocationId = some allocation ∧
    proposal.candidateId ∈ allocation.selectedCandidateIds

theorem proposedState_ok {proposal : ReconsiderationShadowProposal}
    {candidate : ReconsiderationCandidate} {allocation : ReconsiderationAllocation}
    {trace : CognitiveAllocationTrace}
    (h : p.proposedState b proposal = .ok (candidate, allocation, trace)) :
    p.candidates.find proposal.candidateId = some candidate ∧
      p.allocations.find proposal.allocationId = some allocation := by
  unfold proposedState at h
  split at h
  · rename_i hcandidate hallocation _
    cases h
    exact ⟨hcandidate, hallocation⟩
  · cases h

theorem applyProposal_ok (h : p.applyProposal b event = .ok q) :
    ∃ proposal, p.ProposalStep event proposal ∧
      q = { p with
        proposals := p.proposals.put proposal
        proposalByTrace :=
          p.proposalByTrace.put (proposal.allocationTraceId, proposal.proposalId) } := by
  unfold applyProposal at h
  simp only [bind_ok_iff] at h
  obtain ⟨_, -, proposal, -, _, henvelope, ⟨candidate, allocation, trace⟩, hstate, h⟩ := h
  obtain ⟨_, hbasis, _, hselected, _, -, _, -, proposals, hproposals, _, hfirst, h⟩ := h
  cases h
  obtain ⟨-, rfl⟩ := EndogenousProjection.recordImmutable_iff.mp hproposals
  obtain ⟨hcandidate, hallocation⟩ := proposedState_ok hstate
  have hselected : proposal.candidateId ∈ allocation.selectedCandidateIds := by
    simpa using refuse_ok hselected
  exact ⟨proposal, ⟨validateEnvelope_id henvelope,
    EndogenousProjection.not_any_iff.mp (refuse_ok hfirst),
    ⟨candidate, hcandidate, validateBasis_iff.mp hbasis⟩, ⟨allocation, hallocation, hselected⟩⟩, rfl⟩

end Allocations

/-! ## Steps -/

section Steps

variable {b : ReconsiderationBuiltins} {p q : ReconsiderationProjection b.informationIds}
  {event : Event}

/-- What an accepted event did in the branches of the projection itself. -/
inductive Transition (p : ReconsiderationProjection b.informationIds) (event : Event) :
    ReconsiderationProjection b.informationIds → Prop
  | policy (policies : KeyedTable ReconsiderationPolicySnapshot.policyId) :
      Transition p event { p with policies }
  | scan (scan : ReconsiderationScanRequest) (candidatesByScan : Dict (List String))
      (step : p.ScanStep event scan) :
      Transition p event { p with scans := p.scans.put scan, candidatesByScan }
  | candidate (candidates : KeyedTable ReconsiderationCandidate.candidateId) :
      Transition p event { p with candidates }
  | allocation (allocation : ReconsiderationAllocation) (scan : ReconsiderationScanRequest)
      (step : p.AllocationStep event allocation scan) :
      Transition p event { p with
        allocations := p.allocations.put allocation
        allocationByScan :=
          p.allocationByScan.put (allocation.scanRequestId, allocation.allocationId) }
  | trace (trace : CognitiveAllocationTrace) (step : p.TraceStep event trace) :
      Transition p event { p with
        traces := p.traces.put trace
        traceByDecision := p.traceByDecision.put
          ((trace.candidateId, trace.allocationId), trace.traceId) }
  | outcomeLink (outcomeLinks : KeyedTable CognitiveAllocationOutcomeLink.linkId) :
      Transition p event { p with outcomeLinks }
  | proposal (proposal : ReconsiderationShadowProposal) (step : p.ProposalStep event proposal) :
      Transition p event { p with
        proposals := p.proposals.put proposal
        proposalByTrace :=
          p.proposalByTrace.put (proposal.allocationTraceId, proposal.proposalId) }
  | unhandled : Transition p event p

theorem applyPolicy_transition (h : p.applyPolicy b event = .ok q) : p.Transition event q := by
  unfold applyPolicy at h
  simp only [bind_ok_iff] at h
  obtain ⟨_, -, _, -, _, -, policies, -, h⟩ := h
  cases h
  exact .policy policies

theorem applyScan_transition {sequence : Nat} (h : p.applyScan b event sequence = .ok q) :
    p.Transition event q := by
  unfold applyScan at h
  simp only [bind_ok_iff] at h
  obtain ⟨_, -, scan, -, _, henvelope, h⟩ := h
  split at h
  · cases h
  · simp only [bind_ok_iff] at h
    obtain ⟨_, hbasis, _, hmandate, _, htrigger, _, -, _, -, scans, hscans, h⟩ := h
    obtain ⟨-, rfl⟩ := EndogenousProjection.recordImmutable_iff.mp hscans
    cases h
    refine .scan scan _ ⟨validateEnvelope_id henvelope, validateBasis_iff.mp hbasis, ?_⟩
    intro revisionId hrevision
    cases hkind : scan.basis.basis with
    | liveGoverningIntent ref =>
      rw [hkind] at hrevision
      cases hrevision
    | reconsiderationMandate named =>
      rw [hkind] at hrevision
      obtain rfl : named = revisionId := Option.some.inj hrevision
      obtain ⟨mandate, hfound, hbudget, hcadence⟩ := validateMandateScan_ok hkind hmandate
      have hfresh := validateScanTrigger_ok hkind hfound htrigger
      exact ⟨mandate, hfound, hbudget, hcadence, fun triggerEventId h => (hfresh _ h).1,
        fun previous hprevious triggerEventId h => (hfresh _ h).2 previous hprevious⟩

theorem applyCandidate_transition (h : p.applyCandidate b event = .ok q) :
    p.Transition event q := by
  unfold applyCandidate at h
  simp only [bind_ok_iff] at h
  obtain ⟨_, -, candidate, -, _, -, ⟨scan, sequence⟩, -, _, -, h⟩ := h
  split at h
  · cases h
  · simp only [bind_ok_iff] at h
    obtain ⟨_, -, _, -, candidates, -, h⟩ := h
    cases h
    exact .candidate candidates

theorem applyOutcomeLink_transition (h : p.applyOutcomeLink b event = .ok q) :
    p.Transition event q := by
  unfold applyOutcomeLink at h
  simp only [bind_ok_iff] at h
  obtain ⟨_, -, link, -, _, -, h⟩ := h
  split at h
  · cases h
  · simp only [bind_ok_iff] at h
    obtain ⟨_, -, _, -, _, -, _, -, outcomeLinks, -, h⟩ := h
    cases h
    exact .outcomeLink outcomeLinks

theorem applyEvent_transition {sequence : Nat} {handled : Bool}
    (h : p.applyEvent b event sequence = .ok (q, handled)) : p.Transition event q := by
  unfold applyEvent at h
  dsimp only at h
  split at h
  case h_8 =>
    cases h
    exact .unhandled
  all_goals
    obtain ⟨_, happlied, h⟩ := bind_eq_ok h
    cases h
  · exact applyPolicy_transition happlied
  · exact applyScan_transition happlied
  · exact applyCandidate_transition happlied
  · obtain ⟨allocation, scan, hstep, rfl⟩ := applyAllocation_ok happlied
    exact .allocation allocation scan hstep
  · obtain ⟨trace, hstep, rfl⟩ := applyTrace_ok happlied
    exact .trace trace hstep
  · exact applyOutcomeLink_transition happlied
  · obtain ⟨proposal, hstep, rfl⟩ := applyProposal_ok happlied
    exact .proposal proposal hstep

theorem Transition.mandates (h : p.Transition event q) : q.mandates = p.mandates := by
  cases h <;> rfl

/-- The events about mandates have no branch here. -/
theorem applyEvent_of_mandate {sequence : Nat} {handled : Bool}
    (htype : event.type = "reconsideration.mandate_recorded" ∨
      event.type = "reconsideration.mandate_revoked")
    (h : p.applyEvent b event sequence = .ok (q, handled)) : q = p := by
  unfold applyEvent at h
  rcases htype with htype | htype
  · rw [htype] at h
    cases h
    rfl
  · rw [htype] at h
    cases h
    rfl

/-- What an accepted event did: to the mandates, or to the rest. -/
inductive Change (p : ReconsiderationProjection b.informationIds) (event : Event) :
    ReconsiderationProjection b.informationIds → Prop
  | own {q : ReconsiderationProjection b.informationIds} (transition : p.Transition event q) :
      Change p event q
  | mandates {m : ReconsiderationMandateProjection} (transition : p.mandates.Transition event m) :
      Change p event { p with mandates := m }

/-- A step on an event under a new id. -/
structure Stepped (p : ReconsiderationProjection b.informationIds) (event : Event)
    (applied : ReconsiderationProjection b.informationIds) (sequence : Nat) : Prop where
  fresh : p.events.find event.id = none
  sequenced : event.sequence = some sequence
  later : p.lastSequence < sequence
  applied : p.Change event applied

/-- The projection that keeps the event, after what it did. -/
def keeping (applied : ReconsiderationProjection b.informationIds) (event : Event)
    (endogenous : EndogenousProjection) (information : InformationGovernance b.informationIds)
    (lastSequence sequence : Nat) : ReconsiderationProjection b.informationIds :=
  { applied with
    endogenous, information
    mandates := { applied.mandates with
      events := applied.mandates.events.put event, lastSequence }
    events := applied.events.put event
    lastSequence := sequence }

/-- **An accepted event was known, or did one of the transitions.** -/
theorem step_cases (hsame : p.mandates.events = p.events) (h : step b p event = .ok q) :
    q = p ∨ ∃ applied sequence endogenous information lastSequence,
      p.Stepped event applied sequence ∧
      q = keeping applied event endogenous information lastSequence sequence := by
  obtain ⟨⟨_, handled⟩, happly, h⟩ := bind_eq_ok h
  cases h
  unfold apply at happly
  cases hfresh : p.events.find event.id with
  | some existing =>
    rw [hfresh] at happly
    dsimp only at happly
    split at happly
    · cases happly
      exact .inl rfl
    · cases happly
  | none =>
    rw [hfresh] at happly
    cases hsequence : event.sequence with
    | none =>
      rw [hsequence] at happly
      cases happly
    | some sequence =>
      rw [hsequence] at happly
      simp only [bind_ok_iff] at happly
      obtain ⟨_, hlater, ⟨applied, _⟩, happlied, endogenous, -, information, -, ⟨mandates, _⟩,
        hmandates, happly⟩ := happly
      cases happly
      have hlater : p.lastSequence < sequence := not_le.mp (refuse_ok hlater)
      have transition := applyEvent_transition happlied
      rw [transition.mandates] at hmandates
      obtain ⟨revised, lastSequence, hrevised, rfl⟩ :=
        ReconsiderationMandateProjection.apply_of_new (hsame ▸ hfresh) hmandates
      by_cases htype : event.type = "reconsideration.mandate_recorded" ∨
          event.type = "reconsideration.mandate_revoked"
      · obtain rfl := applyEvent_of_mandate htype happlied
        exact .inr ⟨_, sequence, endogenous, information, lastSequence,
          ⟨hfresh, hsequence, hlater, .mandates hrevised⟩, rfl⟩
      · obtain rfl : revised = p.mandates := by
          rw [not_or] at htype
          cases hrevised with
          | recorded mandate hrecorded => exact absurd hrecorded htype.1
          | revoked revocation hrevoked => exact absurd hrevoked htype.2
          | unhandled => rfl
        refine .inr ⟨applied, sequence, endogenous, information, lastSequence,
          ⟨hfresh, hsequence, hlater, .own transition⟩, ?_⟩
        unfold keeping
        rw [transition.mandates]

end Steps

end ReconsiderationProjection

end Noema
