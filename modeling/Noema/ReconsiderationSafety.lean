import Noema.DormantInquiries
import Noema.InformationRestriction
import Noema.ReconsiderationSteps

/-!
# The safety of reconsideration

An event is taken once, so a scan is allocated, a candidate selected, a decision traced and
a trace proposed at most once.  A mandate is current until it is revoked or followed by its
next revision, so the scans of one revision are spaced and none of its revisions takes a
trigger of an earlier one: a trigger has to follow the revision, which follows the scans
before it.
-/
namespace Noema

namespace ReconsiderationProjection

section Promises

variable {ids : InformationIds}

/-! ## What the projection promises -/

/-- The mandate that a scan runs under. -/
def mandateOf (p : ReconsiderationProjection ids) (scan : ReconsiderationScanRequest) :
    Option ReconsiderationMandate :=
  scan.basis.basis.mandateRevisionId.bind p.mandates.revisions.find

/-- A number of seconds lies at least between two scans. -/
def SpacedBy (seconds : PyFloat) (scan other : ReconsiderationScanRequest) : Prop :=
  seconds.atMost (totalSeconds scan.requestedAt.instant other.requestedAt.instant) = true ∨
    seconds.atMost (totalSeconds other.requestedAt.instant scan.requestedAt.instant) = true

/-- What holds of every state. -/
structure Safe (p : ReconsiderationProjection ids) : Prop where
  oneAllocation : ∀ allocation ∈ p.allocations.rows, ∀ other ∈ p.allocations.rows,
    allocation.scanRequestId = other.scanRequestId → allocation = other
  selectedOnce : ∀ allocation ∈ p.allocations.rows, ∀ other ∈ p.allocations.rows,
    ∀ candidateId ∈ allocation.selectedCandidateIds, candidateId ∈ other.selectedCandidateIds →
      allocation = other
  oneTrace : ∀ trace ∈ p.traces.rows, ∀ other ∈ p.traces.rows,
    trace.candidateId = other.candidateId → trace.allocationId = other.allocationId → trace = other
  oneProposal : ∀ proposal ∈ p.proposals.rows, ∀ other ∈ p.proposals.rows,
    proposal.allocationTraceId = other.allocationTraceId → proposal = other
  proposed : ∀ proposal ∈ p.proposals.rows, ∃ allocation,
    p.allocations.find proposal.allocationId = some allocation ∧
      proposal.candidateId ∈ allocation.selectedCandidateIds
  withinScan : ∀ allocation ∈ p.allocations.rows, ∃ scan,
    p.scans.find allocation.scanRequestId = some scan ∧ allocation.WithinScan scan
  withinMandate : ∀ scan ∈ p.scans.rows, ∀ revisionId,
    scan.basis.basis.mandateRevisionId = some revisionId → ∃ mandate,
      p.mandates.revisions.find revisionId = some mandate ∧
        scan.budget.fitsWithin mandate.budget = true
  spaced : ∀ scan ∈ p.scans.rows, ∀ other ∈ p.scans.rows, scan ≠ other → ∀ mandate,
    p.mandateOf scan = some mandate → p.mandateOf other = some mandate →
      SpacedBy mandate.minimumIntervalSeconds scan other
  triggerOnce : ∀ scan ∈ p.scans.rows, ∀ other ∈ p.scans.rows, ∀ mandate revision,
    p.mandateOf scan = some mandate → p.mandateOf other = some revision →
      mandate.mandateId = revision.mandateId → ∀ triggerEventId,
        scan.triggerEventId = some triggerEventId → other.triggerEventId = some triggerEventId →
          scan = other
  triggerAfter : ∀ scan ∈ p.scans.rows, ∀ mandate, p.mandateOf scan = some mandate →
    ∀ triggerEventId, scan.triggerEventId = some triggerEventId → ∃ recorded triggered,
      p.sequenceOf ("reconsideration-mandate-recorded:" ++ mandate.revisionId) = some recorded ∧
      p.sequenceOf triggerEventId = some triggered ∧ recorded < triggered

/-- A mandate revision is revoked, or not the current one of its mandate any more. -/
def Ended (p : ReconsiderationProjection ids) (revisionId : String) : Prop :=
  p.mandates.revocations.find revisionId ≠ none ∨
    ∃ mandate, p.mandates.revisions.find revisionId = some mandate ∧
      p.mandates.currentRevision.get? mandate.mandateId ≠ some revisionId

/-- What holds when an event is taken: what it adds is over a basis that is current just
before, and no mandate revision that ended is back. -/
structure Admits (p q : ReconsiderationProjection ids) : Prop where
  scans : ∀ scan ∈ q.scans.rows, scan ∉ p.scans.rows →
    p.BasisCurrent scan.basis.basis scan.requestedAt
  selections : ∀ allocation ∈ q.allocations.rows, allocation ∉ p.allocations.rows →
    ∀ candidateId ∈ allocation.selectedCandidateIds, ∃ scan,
      p.scans.find allocation.scanRequestId = some scan ∧
        p.BasisCurrent scan.basis.basis allocation.allocatedAt
  proposals : ∀ proposal ∈ q.proposals.rows, proposal ∉ p.proposals.rows → ∃ candidate,
    p.candidates.find proposal.candidateId = some candidate ∧
      p.BasisCurrent candidate.currentBasis.basis proposal.createdAt
  ended : ∀ revisionId, p.Ended revisionId → q.Ended revisionId

end Promises

/-! ## What every state keeps -/

/-- Every row of a table was put there by an event of its own. -/
def RecordedAs {α : Type} {key : α → String} (events : KeyedTable Event.id) (kind : String)
    (table : KeyedTable key) : Prop :=
  ∀ row ∈ table.rows, (events.find (kind ++ key row)).isSome = true

section Recorded

variable {α : Type} {key : α → String} {events : KeyedTable Event.id} {kind : String}
  {table : KeyedTable key}

/-- What an event under a new id records is new. -/
theorem RecordedAs.fresh {row : α} (h : RecordedAs events kind table)
    (hnew : events.find (kind ++ key row) = none) : table.find (key row) = none := by
  cases hfind : table.find (key row) with
  | none => rfl
  | some found =>
    have hknown := h found (KeyedTable.mem_of_find hfind)
    rw [KeyedTable.find_key hfind, hnew] at hknown
    cases hknown

theorem RecordedAs.later (h : RecordedAs events kind table) (event : Event) :
    RecordedAs (events.put event) kind table := by
  intro row hrow
  rw [KeyedTable.find_put]
  split
  · rfl
  · exact h row hrow

theorem RecordedAs.put {row : α} (h : RecordedAs events kind table)
    (hknown : (events.find (kind ++ key row)).isSome = true) :
    RecordedAs events kind (table.put row) := by
  intro other hother
  rcases KeyedTable.mem_put.mp hother with rfl | ⟨hother, -⟩
  · exact hknown
  · exact h other hother

end Recorded

/-- What the steps keep, besides the safety. -/
structure Consistent {ids : InformationIds} (p : ReconsiderationProjection ids) : Prop extends
    Safe p where
  synced : p.mandates.events = p.events
  sequenced : ∀ event ∈ p.events.rows, ∀ sequence, event.sequence = some sequence →
    sequence ≤ p.lastSequence
  scansRecorded : RecordedAs p.events "reconsideration-scan-requested:" p.scans
  allocationsRecorded : RecordedAs p.events "reconsideration-allocation-recorded:" p.allocations
  tracesRecorded : RecordedAs p.events "cognitive-allocation-trace-recorded:" p.traces
  proposalsRecorded :
    RecordedAs p.events "reconsideration-shadow-proposal-recorded:" p.proposals
  mandatesRecorded :
    RecordedAs p.events "reconsideration-mandate-recorded:" p.mandates.revisions
  allocationByScan : p.allocations.Indexed (fun allocation => allocation.scanRequestId)
    p.allocationByScan.get?
  traceByDecision : p.traces.Indexed (fun trace => (trace.candidateId, trace.allocationId))
    fun decision => (p.traceByDecision.find decision).map Prod.snd
  proposalByTrace : p.proposals.Indexed (fun proposal => proposal.allocationTraceId)
    p.proposalByTrace.get?
  /-- A revision that follows the one of a scan also follows the scan's trigger. -/
  consumed : ∀ scan ∈ p.scans.rows, ∀ mandate, p.mandateOf scan = some mandate →
    ∀ triggerEventId, scan.triggerEventId = some triggerEventId → ∀ revisionId,
      p.mandates.currentRevision.get? mandate.mandateId = some revisionId →
      revisionId ≠ mandate.revisionId → ∃ triggered recorded,
        p.sequenceOf triggerEventId = some triggered ∧
        p.sequenceOf ("reconsideration-mandate-recorded:" ++ revisionId) = some recorded ∧
        triggered < recorded

section Steps

variable {b : ReconsiderationBuiltins} {p q : ReconsiderationProjection b.informationIds}
  {event : Event}

theorem empty_consistent : Consistent (empty b.informationIds) where
  oneAllocation _ hrow := by cases hrow
  selectedOnce _ hrow := by cases hrow
  oneTrace _ hrow := by cases hrow
  oneProposal _ hrow := by cases hrow
  proposed _ hrow := by cases hrow
  withinScan _ hrow := by cases hrow
  withinMandate _ hrow := by cases hrow
  spaced _ hrow := by cases hrow
  triggerOnce _ hrow := by cases hrow
  triggerAfter _ hrow := by cases hrow
  synced := rfl
  sequenced _ hrow := by cases hrow
  scansRecorded _ hrow := by cases hrow
  allocationsRecorded _ hrow := by cases hrow
  tracesRecorded _ hrow := by cases hrow
  proposalsRecorded _ hrow := by cases hrow
  mandatesRecorded _ hrow := by cases hrow
  allocationByScan _ hrow := by cases hrow
  traceByDecision _ hrow := by cases hrow
  proposalByTrace _ hrow := by cases hrow
  consumed _ hrow := by cases hrow

variable {endogenous : EndogenousProjection} {information : InformationGovernance b.informationIds}
  {lastSequence sequence : Nat}

/-- What is known of an event stays so. -/
theorem sequenceOf_keeping {eventId : String} {known : Nat}
    (hfresh : p.events.find event.id = none) (h : p.sequenceOf eventId = some known) :
    (keeping p event endogenous information lastSequence sequence).sequenceOf eventId =
      some known := by
  obtain ⟨found, hfound, hknown⟩ := Option.bind_eq_some_iff.mp h
  unfold sequenceOf keeping
  rw [KeyedTable.find_put, if_neg, hfound]
  · exact hknown
  · rintro rfl
    rw [hfresh] at hfound
    cases hfound

/-- The mandate that a known scan runs under is known by the id that the scan names. -/
theorem mandateOf_revisionId {scan : ReconsiderationScanRequest} {mandate : ReconsiderationMandate}
    (h : p.mandateOf scan = some mandate) :
    scan.basis.basis.mandateRevisionId = some mandate.revisionId ∧
      p.mandates.revisions.find mandate.revisionId = some mandate := by
  obtain ⟨revisionId, hnamed, hfound⟩ := Option.bind_eq_some_iff.mp h
  obtain rfl : mandate.revisionId = revisionId := KeyedTable.find_key hfound
  exact ⟨hnamed, hfound⟩

/-- The revision that a new scan runs under is the current one of its mandate. -/
theorem ScanStep.currentRevision {scan : ReconsiderationScanRequest}
    {mandate : ReconsiderationMandate} (h : p.ScanStep event scan)
    (hmandate : p.mandateOf scan = some mandate) :
    p.mandates.currentRevision.get? mandate.mandateId = some mandate.revisionId := by
  obtain ⟨hnamed, hfound⟩ := mandateOf_revisionId hmandate
  have hcurrent := h.current
  cases hkind : scan.basis.basis with
  | liveGoverningIntent ref =>
    rw [hkind] at hnamed
    cases hnamed
  | reconsiderationMandate revisionId =>
    rw [hkind] at hnamed hcurrent
    obtain rfl : revisionId = mandate.revisionId := Option.some.inj hnamed
    obtain ⟨other, hother, hactive, -⟩ := hcurrent
    obtain rfl : mandate = other := Option.some.inj (hfound.symm.trans hother)
    exact hactive

theorem Mandated.keep {scan : ReconsiderationScanRequest} {mandate : ReconsiderationMandate}
    (h : p.Mandated scan mandate) (hfresh : p.events.find event.id = none) :
    (keeping p event endogenous information lastSequence sequence).Mandated scan mandate where
  budget := h.budget
  cadence := h.cadence
  triggered triggerEventId htrigger := by
    obtain ⟨recorded, triggered, hrecorded, htriggered, hlt⟩ := h.triggered triggerEventId htrigger
    exact ⟨recorded, triggered, sequenceOf_keeping hfresh hrecorded,
      sequenceOf_keeping hfresh htriggered, hlt⟩
  unused := h.unused

namespace Consistent

/-- The event itself is kept, with a sequence beyond all others. -/
theorem keep (hp : Consistent p) (hfresh : p.events.find event.id = none)
    (hsequence : event.sequence = some sequence) (hlater : p.lastSequence < sequence) :
    Consistent (keeping p event endogenous information lastSequence sequence) where
  oneAllocation := hp.oneAllocation
  selectedOnce := hp.selectedOnce
  oneTrace := hp.oneTrace
  oneProposal := hp.oneProposal
  proposed := hp.proposed
  withinScan := hp.withinScan
  withinMandate := hp.withinMandate
  spaced := hp.spaced
  triggerOnce := hp.triggerOnce
  triggerAfter scan hscan mandate hmandate triggerEventId htrigger := by
    obtain ⟨recorded, triggered, hrecorded, htriggered, hlt⟩ :=
      hp.triggerAfter scan hscan mandate hmandate triggerEventId htrigger
    exact ⟨recorded, triggered, sequenceOf_keeping hfresh hrecorded,
      sequenceOf_keeping hfresh htriggered, hlt⟩
  synced := congrArg (KeyedTable.put · event) hp.synced
  sequenced other hother known hknown := by
    rcases KeyedTable.mem_put.mp hother with rfl | ⟨hother, -⟩
    · rw [hsequence] at hknown
      exact (Option.some.inj hknown).ge
    · exact (hp.sequenced other hother known hknown).trans hlater.le
  scansRecorded := hp.scansRecorded.later event
  allocationsRecorded := hp.allocationsRecorded.later event
  tracesRecorded := hp.tracesRecorded.later event
  proposalsRecorded := hp.proposalsRecorded.later event
  mandatesRecorded := hp.mandatesRecorded.later event
  allocationByScan := hp.allocationByScan
  traceByDecision := hp.traceByDecision
  proposalByTrace := hp.proposalByTrace
  consumed scan hscan mandate hmandate triggerEventId htrigger revisionId hcurrent hne := by
    obtain ⟨triggered, recorded, htriggered, hrecorded, hlt⟩ :=
      hp.consumed scan hscan mandate hmandate triggerEventId htrigger revisionId hcurrent hne
    exact ⟨triggered, recorded, sequenceOf_keeping hfresh htriggered,
      sequenceOf_keeping hfresh hrecorded, hlt⟩

theorem recordAllocation {allocation : ReconsiderationAllocation}
    {scan : ReconsiderationScanRequest} (hp : Consistent p)
    (hknown : (p.events.find
      ("reconsideration-allocation-recorded:" ++ allocation.allocationId)).isSome = true)
    (hnew : p.allocations.find allocation.allocationId = none)
    (hfirst : p.allocationByScan.get? allocation.scanRequestId = none)
    (hscan : p.scans.find allocation.scanRequestId = some scan)
    (hwithin : allocation.WithinScan scan)
    (hselected : ∀ candidateId ∈ allocation.selectedCandidateIds,
      ¬p.CandidateWasSelected candidateId) :
    Consistent { p with
      allocations := p.allocations.put allocation
      allocationByScan :=
        p.allocationByScan.put (allocation.scanRequestId, allocation.allocationId) } := by
  have hindex : (p.allocations.put allocation).Indexed (fun allocation => allocation.scanRequestId)
      (Dict.get? (p.allocationByScan.put (allocation.scanRequestId, allocation.allocationId))) := by
    refine hp.allocationByScan.put (fun other hother hsame => ?_) ?_ fun scanId hne => ?_
    · have hindexed : p.allocationByScan.get? other.scanRequestId = some other.allocationId :=
        hp.allocationByScan other hother
      rw [hsame, hfirst] at hindexed
      cases hindexed
    · rw [Dict.get?_put, if_pos rfl]
    · rw [Dict.get?_put, if_neg hne.symm]
  -- What was selected before was selected by an allocation that is there.
  have hfree : ∀ other ∈ p.allocations.rows, ∀ candidateId ∈ allocation.selectedCandidateIds,
      candidateId ∉ other.selectedCandidateIds := by
    intro other hother candidateId hmem hselectedBefore
    obtain ⟨decision, hdecision, hid, hlabel⟩ :=
      ReconsiderationAllocation.mem_selectedCandidateIds.mp hselectedBefore
    exact hselected candidateId hmem ⟨other, hother, decision, hdecision, hid, hlabel⟩
  exact { hp with
    oneAllocation := fun one hone two htwo hsame => hindex.unique hone htwo hsame
    selectedOnce := by
      intro one hone two htwo candidateId hmemOne hmemTwo
      rcases KeyedTable.mem_put.mp hone with hnewOne | ⟨holdOne, -⟩
      · rcases KeyedTable.mem_put.mp htwo with hnewTwo | ⟨holdTwo, -⟩
        · rw [hnewOne, hnewTwo]
        · exact absurd hmemTwo (hfree two holdTwo candidateId (hnewOne ▸ hmemOne))
      · rcases KeyedTable.mem_put.mp htwo with hnewTwo | ⟨holdTwo, -⟩
        · exact absurd hmemOne (hfree one holdOne candidateId (hnewTwo ▸ hmemTwo))
        · exact hp.selectedOnce one holdOne two holdTwo candidateId hmemOne hmemTwo
    proposed := by
      intro proposal hproposal
      obtain ⟨found, hfound, hmem⟩ := hp.proposed proposal hproposal
      refine ⟨found, ?_, hmem⟩
      rw [KeyedTable.find_put, if_neg]
      · exact hfound
      · intro heq
        rw [← heq, hnew] at hfound
        cases hfound
    withinScan := by
      intro other hother
      rcases KeyedTable.mem_put.mp hother with rfl | ⟨hother, -⟩
      · exact ⟨scan, hscan, hwithin⟩
      · exact hp.withinScan other hother
    allocationsRecorded := hp.allocationsRecorded.put hknown
    allocationByScan := hindex }

theorem recordTrace {trace : CognitiveAllocationTrace} (hp : Consistent p)
    (hknown : (p.events.find
      ("cognitive-allocation-trace-recorded:" ++ trace.traceId)).isSome = true)
    (hfirst : p.traceByDecision.find (trace.candidateId, trace.allocationId) = none) :
    Consistent { p with
      traces := p.traces.put trace
      traceByDecision := p.traceByDecision.put
        ((trace.candidateId, trace.allocationId), trace.traceId) } := by
  have hindex : (p.traces.put trace).Indexed (fun trace => (trace.candidateId, trace.allocationId))
      fun decision => ((p.traceByDecision.put
        ((trace.candidateId, trace.allocationId), trace.traceId)).find decision).map Prod.snd := by
    refine hp.traceByDecision.put (fun other hother hsame => ?_) ?_ fun decision hne => ?_
    · have hindexed := hp.traceByDecision other hother
      dsimp only at hindexed hsame
      rw [hsame, hfirst] at hindexed
      cases hindexed
    · rw [KeyedTable.find_put, if_pos rfl]
      rfl
    · rw [KeyedTable.find_put, if_neg hne.symm]
  exact { hp with
    oneTrace := fun one hone two htwo hcandidate hallocation =>
      hindex.unique hone htwo (Prod.ext hcandidate hallocation)
    tracesRecorded := hp.tracesRecorded.put hknown
    traceByDecision := hindex }

theorem recordProposal {proposal : ReconsiderationShadowProposal} (hp : Consistent p)
    (hknown : (p.events.find
      ("reconsideration-shadow-proposal-recorded:" ++ proposal.proposalId)).isSome = true)
    (hnew : p.proposals.find proposal.proposalId = none)
    (hfirst : ∀ proposalId, p.proposalByTrace.get? proposal.allocationTraceId = some proposalId →
      proposalId = proposal.proposalId)
    (hselected : ∃ allocation, p.allocations.find proposal.allocationId = some allocation ∧
      proposal.candidateId ∈ allocation.selectedCandidateIds) :
    Consistent { p with
      proposals := p.proposals.put proposal
      proposalByTrace :=
        p.proposalByTrace.put (proposal.allocationTraceId, proposal.proposalId) } := by
  have hindex : (p.proposals.put proposal).Indexed (fun proposal => proposal.allocationTraceId)
      (Dict.get? (p.proposalByTrace.put (proposal.allocationTraceId, proposal.proposalId))) := by
    refine hp.proposalByTrace.put (fun other hother hsame => ?_) ?_ fun traceId hne => ?_
    · have hindexed : p.proposalByTrace.get? other.allocationTraceId = some other.proposalId :=
        hp.proposalByTrace other hother
      -- Another proposal of the trace would have the id of this one, which is new.
      have hid : other.proposalId = proposal.proposalId := by
        refine hfirst _ ?_
        rw [← hindexed]
        exact congrArg p.proposalByTrace.get? hsame.symm
      have hfound := KeyedTable.find_of_mem hother
      rw [hid, hnew] at hfound
      cases hfound
    · rw [Dict.get?_put, if_pos rfl]
    · rw [Dict.get?_put, if_neg hne.symm]
  exact { hp with
    oneProposal := fun one hone two htwo hsame => hindex.unique hone htwo hsame
    proposed := by
      intro other hother
      rcases KeyedTable.mem_put.mp hother with rfl | ⟨hother, -⟩
      · exact hselected
      · exact hp.proposed other hother
    proposalsRecorded := hp.proposalsRecorded.put hknown
    proposalByTrace := hindex }

theorem mem_scansUnder {scan : ReconsiderationScanRequest} {mandate : ReconsiderationMandate}
    (hscan : scan ∈ p.scans.rows) (hmandate : p.mandateOf scan = some mandate) :
    scan ∈ p.scansUnder mandate.revisionId :=
  List.mem_filter.mpr ⟨hscan, decide_eq_true (mandateOf_revisionId hmandate).1⟩

theorem recordScan {scan : ReconsiderationScanRequest} {candidatesByScan : Dict (List String)}
    (hp : Consistent p)
    (hknown : (p.events.find ("reconsideration-scan-requested:" ++ scan.requestId)).isSome = true)
    (hnew : p.scans.find scan.requestId = none)
    (hcurrent : ∀ mandate, p.mandateOf scan = some mandate →
      p.mandates.currentRevision.get? mandate.mandateId = some mandate.revisionId)
    (hmandated : ∀ revisionId, scan.basis.basis.mandateRevisionId = some revisionId →
      ∃ mandate, p.mandates.revisions.find revisionId = some mandate ∧ p.Mandated scan mandate) :
    Consistent { p with scans := p.scans.put scan, candidatesByScan } := by
  have hown : ∀ mandate, p.mandateOf scan = some mandate → p.Mandated scan mandate := by
    intro mandate hmandate
    obtain ⟨hnamed, hfound⟩ := mandateOf_revisionId hmandate
    obtain ⟨other, hother, hkept⟩ := hmandated mandate.revisionId hnamed
    obtain rfl : mandate = other := Option.some.inj (hfound.symm.trans hother)
    exact hkept
  have hspaced : ∀ other ∈ p.scans.rows, ∀ mandate, p.mandateOf scan = some mandate →
      p.mandateOf other = some mandate → SpacedBy mandate.minimumIntervalSeconds scan other :=
    fun other hother mandate hmandate hsame =>
      .inl ((hown mandate hmandate).cadence other (mem_scansUnder hother hsame))
  have hunused : ∀ other ∈ p.scans.rows, ∀ mandate revision, p.mandateOf scan = some mandate →
      p.mandateOf other = some revision → mandate.mandateId = revision.mandateId →
      ∀ triggerEventId, scan.triggerEventId = some triggerEventId →
        other.triggerEventId ≠ some triggerEventId := by
    intro other hother mandate revision hmandate hrevision hsame triggerEventId htrigger hagain
    have hkept := hown mandate hmandate
    by_cases hid : mandate.revisionId = revision.revisionId
    · have hmem := mem_scansUnder hother hrevision
      rw [← hid] at hmem
      exact hkept.unused other hmem triggerEventId htrigger hagain
    · obtain ⟨triggered, recorded, htriggered, hrecorded, hlt⟩ := hp.consumed other hother revision
        hrevision triggerEventId hagain mandate.revisionId
        (hsame ▸ hcurrent mandate hmandate) hid
      obtain ⟨recorded', triggered', hrecorded', htriggered', hlt'⟩ :=
        hkept.triggered triggerEventId htrigger
      obtain rfl : recorded = recorded' := Option.some.inj (hrecorded.symm.trans hrecorded')
      obtain rfl : triggered = triggered' := Option.some.inj (htriggered.symm.trans htriggered')
      omega
  exact { hp with
    withinScan := by
      intro allocation hallocation
      obtain ⟨found, hfound, hwithin⟩ := hp.withinScan allocation hallocation
      refine ⟨found, ?_, hwithin⟩
      rw [KeyedTable.find_put, if_neg]
      · exact hfound
      · intro heq
        rw [← heq, hnew] at hfound
        cases hfound
    withinMandate := by
      intro other hother revisionId hnamed
      rcases KeyedTable.mem_put.mp hother with rfl | ⟨hother, -⟩
      · obtain ⟨mandate, hfound, hkept⟩ := hmandated revisionId hnamed
        exact ⟨mandate, hfound, hkept.budget⟩
      · exact hp.withinMandate other hother revisionId hnamed
    spaced := by
      intro one hone two htwo hne mandate hmandateOne hmandateTwo
      rcases KeyedTable.mem_put.mp hone with hnewOne | ⟨holdOne, -⟩
      · rcases KeyedTable.mem_put.mp htwo with hnewTwo | ⟨holdTwo, -⟩
        · exact absurd (hnewOne.trans hnewTwo.symm) hne
        · exact hnewOne ▸ hspaced two holdTwo mandate (hnewOne ▸ hmandateOne) hmandateTwo
      · rcases KeyedTable.mem_put.mp htwo with hnewTwo | ⟨holdTwo, -⟩
        · exact hnewTwo ▸ (hspaced one holdOne mandate (hnewTwo ▸ hmandateTwo) hmandateOne).symm
        · exact hp.spaced one holdOne two holdTwo hne mandate hmandateOne hmandateTwo
    triggerOnce := by
      intro one hone two htwo mandate revision hmandate hrevision hsame triggerEventId htrigger
        hagain
      rcases KeyedTable.mem_put.mp hone with hnewOne | ⟨holdOne, -⟩
      · rcases KeyedTable.mem_put.mp htwo with hnewTwo | ⟨holdTwo, -⟩
        · exact hnewOne.trans hnewTwo.symm
        · exact absurd hagain (hunused two holdTwo mandate revision (hnewOne ▸ hmandate) hrevision
            hsame triggerEventId (hnewOne ▸ htrigger))
      · rcases KeyedTable.mem_put.mp htwo with hnewTwo | ⟨holdTwo, -⟩
        · exact absurd htrigger (hunused one holdOne revision mandate (hnewTwo ▸ hrevision) hmandate
            hsame.symm triggerEventId (hnewTwo ▸ hagain))
        · exact hp.triggerOnce one holdOne two holdTwo mandate revision hmandate hrevision hsame
            triggerEventId htrigger hagain
    triggerAfter := by
      intro other hother mandate hmandate triggerEventId htrigger
      rcases KeyedTable.mem_put.mp hother with rfl | ⟨hother, -⟩
      · exact (hown mandate hmandate).triggered triggerEventId htrigger
      · exact hp.triggerAfter other hother mandate hmandate triggerEventId htrigger
    scansRecorded := hp.scansRecorded.put hknown
    consumed := by
      intro other hother mandate hmandate triggerEventId htrigger revisionId hcurrentId hne
      rcases KeyedTable.mem_put.mp hother with rfl | ⟨hother, -⟩
      · have hsame := hcurrent mandate hmandate
        exact absurd (Option.some.inj (hcurrentId.symm.trans hsame)) hne
      · exact hp.consumed other hother mandate hmandate triggerEventId htrigger revisionId
          hcurrentId hne }

/-- The mandates of the known scans are as before the recording of a new revision. -/
theorem mandateOf_recorded {mandate found : ReconsiderationMandate}
    {scan : ReconsiderationScanRequest} {m : ReconsiderationMandateProjection} (hp : Consistent p)
    (hm : m.revisions = p.mandates.revisions.put mandate)
    (hnew : p.mandates.revisions.find mandate.revisionId = none) (hscan : scan ∈ p.scans.rows)
    (h : ({ p with mandates := m } : ReconsiderationProjection b.informationIds).mandateOf scan =
      some found) : p.mandateOf scan = some found := by
  obtain ⟨revisionId, hnamed, hfound⟩ := Option.bind_eq_some_iff.mp h
  obtain ⟨known, hknown, -⟩ := hp.withinMandate scan hscan revisionId hnamed
  dsimp only at hfound
  rw [hm, KeyedTable.find_put, if_neg] at hfound
  · unfold mandateOf
    rw [hnamed]
    exact hfound
  · intro heq
    rw [← heq, hnew] at hknown
    cases hknown

theorem recordMandate {mandate : ReconsiderationMandate} (hp : Consistent p)
    (hknown : (p.events.find
      ("reconsideration-mandate-recorded:" ++ mandate.revisionId)).isSome = true)
    (hnew : p.mandates.revisions.find mandate.revisionId = none)
    (hlast : ∀ scan ∈ p.scans.rows, ∀ found, p.mandateOf scan = some found → ∀ triggerEventId,
      scan.triggerEventId = some triggerEventId → ∃ triggered recorded,
        p.sequenceOf triggerEventId = some triggered ∧
        p.sequenceOf ("reconsideration-mandate-recorded:" ++ mandate.revisionId) = some recorded ∧
        triggered < recorded) :
    Consistent { p with mandates := { p.mandates with
      revisions := p.mandates.revisions.put mandate
      currentRevision :=
        p.mandates.currentRevision.put (mandate.mandateId, mandate.revisionId) } } := by
  exact { hp with
    withinMandate := by
      intro scan hscan revisionId hnamed
      obtain ⟨found, hfound, hfits⟩ := hp.withinMandate scan hscan revisionId hnamed
      refine ⟨found, ?_, hfits⟩
      rw [KeyedTable.find_put, if_neg]
      · exact hfound
      · intro heq
        rw [← heq, hnew] at hfound
        cases hfound
    spaced := fun one hone two htwo hne found hmandateOne hmandateTwo =>
      hp.spaced one hone two htwo hne found (hp.mandateOf_recorded rfl hnew hone hmandateOne)
        (hp.mandateOf_recorded rfl hnew htwo hmandateTwo)
    triggerOnce := fun one hone two htwo found revision hmandate hrevision =>
      hp.triggerOnce one hone two htwo found revision
        (hp.mandateOf_recorded rfl hnew hone hmandate)
        (hp.mandateOf_recorded rfl hnew htwo hrevision)
    triggerAfter := fun scan hscan found hmandate =>
      hp.triggerAfter scan hscan found (hp.mandateOf_recorded rfl hnew hscan hmandate)
    mandatesRecorded := hp.mandatesRecorded.put hknown
    consumed := by
      intro scan hscan found hmandate triggerEventId htrigger revisionId hcurrent hne
      have hmandate := hp.mandateOf_recorded rfl hnew hscan hmandate
      dsimp only at hcurrent
      rw [Dict.get?_put] at hcurrent
      by_cases hid : mandate.mandateId = found.mandateId
      · rw [if_pos hid] at hcurrent
        obtain rfl : mandate.revisionId = revisionId := Option.some.inj hcurrent
        exact hlast scan hscan found hmandate triggerEventId htrigger
      · rw [if_neg hid] at hcurrent
        exact hp.consumed scan hscan found hmandate triggerEventId htrigger revisionId hcurrent
          hne }

/-- What was known of an event before is at most the sequence before. -/
theorem sequenceOf_le {eventId : String} {known : Nat} (hp : Consistent p)
    (h : p.sequenceOf eventId = some known) : known ≤ p.lastSequence := by
  obtain ⟨found, hfound, hknown⟩ := Option.bind_eq_some_iff.mp h
  exact hp.sequenced found (KeyedTable.mem_of_find hfound) known hknown

theorem find_keeping {eventId : String} (h : event.id = eventId) :
    (p.events.put event).find eventId = some event := by
  rw [KeyedTable.find_put, if_pos h]

/-- **Every step keeps the projection consistent.** -/
theorem step {applied : ReconsiderationProjection b.informationIds} (hp : Consistent p)
    (h : p.Stepped event applied sequence) :
    Consistent (keeping applied event endogenous information lastSequence sequence) := by
  have hkept : Consistent (keeping p event endogenous information lastSequence sequence) :=
    hp.keep h.fresh h.sequenced h.later
  obtain ⟨hfresh, hsequence, hlater, hchange⟩ := h
  cases hchange with
  | own transition =>
    cases transition with
    | policy policies => exact { hkept with }
    | scan scan candidatesByScan hstep =>
      refine hkept.recordScan (by rw [keeping, find_keeping hstep.id]; rfl)
        (hp.scansRecorded.fresh (hstep.id ▸ hfresh)) (fun mandate => hstep.currentRevision)
        fun revisionId hnamed => ?_
      obtain ⟨mandate, hfound, hkept⟩ := hstep.mandated revisionId hnamed
      exact ⟨mandate, hfound, hkept.keep hfresh⟩
    | candidate candidates => exact { hkept with }
    | allocation allocation scan hstep =>
      exact hkept.recordAllocation (by rw [keeping, find_keeping hstep.id]; rfl)
        (hp.allocationsRecorded.fresh (hstep.id ▸ hfresh)) hstep.first hstep.scanned hstep.within
        fun candidateId hmem => (hstep.selected candidateId hmem).2
    | trace trace hstep =>
      exact hkept.recordTrace (by rw [keeping, find_keeping hstep.id]; rfl) hstep.first
    | outcomeLink outcomeLinks => exact { hkept with }
    | proposal proposal hstep =>
      exact hkept.recordProposal (by rw [keeping, find_keeping hstep.id]; rfl)
        (hp.proposalsRecorded.fresh (hstep.id ▸ hfresh)) hstep.first hstep.selected
    | unhandled => exact hkept
  | mandates transition =>
    cases transition with
    | recorded mandate _ hid =>
      refine hkept.recordMandate (by rw [keeping, find_keeping hid]; rfl)
        (hp.mandatesRecorded.fresh (hid ▸ hfresh)) fun scan hscan found hmandate triggerEventId
          htrigger => ?_
      -- The trigger was known before the revision was recorded.
      obtain ⟨-, triggered, -, htriggered, -⟩ :=
        hp.triggerAfter scan hscan found hmandate triggerEventId htrigger
      refine ⟨triggered, sequence, sequenceOf_keeping hfresh htriggered, ?_,
        (hp.sequenceOf_le htriggered).trans_lt hlater⟩
      unfold sequenceOf keeping
      rw [find_keeping hid]
      exact hsequence
    | revoked revocation _ => exact { hkept with }
    | unhandled => exact hkept

end Consistent

/-! ## What a step admits -/

theorem admits_same : p.Admits p where
  scans _ hscan hnew := absurd hscan hnew
  selections _ hallocation hnew := absurd hallocation hnew
  proposals _ hproposal hnew := absurd hproposal hnew
  ended _ h := h

/-- A revision that ended stays so when another one is recorded. -/
theorem Ended.recorded {mandate : ReconsiderationMandate} {revisionId : String}
    (hnew : p.mandates.revisions.find mandate.revisionId = none) (h : p.Ended revisionId) :
    Ended { p with mandates := { p.mandates with
      revisions := p.mandates.revisions.put mandate
      currentRevision :=
        p.mandates.currentRevision.put (mandate.mandateId, mandate.revisionId) } } revisionId := by
  rcases h with hrevoked | ⟨found, hfound, hsuperseded⟩
  · exact .inl hrevoked
  · have hne : mandate.revisionId ≠ revisionId := by
      rintro rfl
      rw [hnew] at hfound
      cases hfound
    refine .inr ⟨found, ?_, ?_⟩
    · rw [KeyedTable.find_put, if_neg hne]
      exact hfound
    · dsimp only
      rw [Dict.get?_put]
      split
      · exact fun heq => hne (Option.some.inj heq)
      · exact hsuperseded

theorem Ended.revoked {revocation : ReconsiderationMandateRevocation} {revisionId : String}
    (h : p.Ended revisionId) :
    Ended { p with mandates := { p.mandates with
      revocations := p.mandates.revocations.put revocation } } revisionId := by
  rcases h with hrevoked | hsuperseded
  · refine .inl ?_
    dsimp only
    rw [KeyedTable.find_put]
    split
    · exact Option.some_ne_none _
    · exact hrevoked
  · exact .inr hsuperseded

/-- **Every step admits scans, selections and proposals over a current basis only.** -/
theorem Stepped.admits {applied : ReconsiderationProjection b.informationIds} (hp : Consistent p)
    (h : p.Stepped event applied sequence) :
    p.Admits (keeping applied event endogenous information lastSequence sequence) := by
  obtain ⟨hfresh, -, -, hchange⟩ := h
  have hsame : p.Admits p := admits_same
  cases hchange with
  | own transition =>
    cases transition with
    | policy policies => exact { hsame with }
    | scan scan candidatesByScan hstep =>
      exact { hsame with
        scans := by
          intro other hother hnew
          rcases KeyedTable.mem_put.mp hother with rfl | ⟨hother, -⟩
          · exact hstep.current
          · exact absurd hother hnew }
    | candidate candidates => exact { hsame with }
    | allocation allocation scan hstep =>
      exact { hsame with
        selections := by
          intro other hother hnew candidateId hselected
          rcases KeyedTable.mem_put.mp hother with rfl | ⟨hother, -⟩
          · exact ⟨scan, hstep.scanned, (hstep.selected candidateId hselected).1⟩
          · exact absurd hother hnew }
    | trace trace hstep => exact { hsame with }
    | outcomeLink outcomeLinks => exact { hsame with }
    | proposal proposal hstep =>
      exact { hsame with
        proposals := by
          intro other hother hnew
          rcases KeyedTable.mem_put.mp hother with rfl | ⟨hother, -⟩
          · exact hstep.current
          · exact absurd hother hnew }
    | unhandled => exact { hsame with }
  | mandates transition =>
    cases transition with
    | recorded mandate _ hid =>
      exact { hsame with
        ended := fun revisionId hended =>
          hended.recorded (hp.mandatesRecorded.fresh (hid ▸ hfresh)) }
    | revoked revocation _ => exact { hsame with ended := fun revisionId hended => hended.revoked }
    | unhandled => exact { hsame with }

theorem step_consistent (hp : Consistent p) (h : step b p event = .ok q) : Consistent q := by
  rcases step_cases hp.synced h with rfl | ⟨applied, sequence, _, _, _, hstepped, rfl⟩
  · exact hp
  · exact hp.step hstepped

theorem step_admits (hp : Consistent p) (h : step b p event = .ok q) : p.Admits q := by
  rcases step_cases hp.synced h with rfl | ⟨applied, sequence, _, _, _, hstepped, rfl⟩
  · exact admits_same
  · exact hstepped.admits hp

theorem rebuild_consistent {events : List Event} (h : rebuild b events = .ok p) : Consistent p :=
  Folding.run_induction (I := fun _ p => Consistent p) empty_consistent
    (fun _ _ _ _ _ hp hstep => step_consistent hp hstep) h

/-- **The projection is safe at every prefix of an accepted log**, and every event of it adds
only what is over a current basis. -/
theorem rebuild_safe {events : List Event} (h : rebuild b events = .ok p) :
    (∀ before rest, before ++ rest = events → ∃ q, rebuild b before = .ok q ∧ q.Safe) ∧
      Folding.Every (step b) (empty b.informationIds)
        (fun q event => ∀ r, step b q event = .ok r → q.Admits r) events := by
  constructor
  · rintro before rest rfl
    obtain ⟨q, hq, -⟩ := Folding.run_append.mp h
    exact ⟨q, hq, (rebuild_consistent hq).toSafe⟩
  · rintro before event rest q - hq r hstep
    exact step_admits (rebuild_consistent hq) hstep

end Steps

/-! ## A question that is put to Ada again -/

/-- Conversions on which the example runs. -/
def plainReconsideration : ReconsiderationBuiltins where
  toEndogenousBuiltins :=
    { EndogenousProjection.plainEndogenous with
      fromisoformat := fun text =>
        if text = "1970-01-01T02:00:00+00:00" then .ok (7200000000, some 0)
        else EndogenousProjection.plainEndogenous.fromisoformat text }
  isoformat := plainInformation.isoformat
  informationIds :=
    { plainInformation.informationIds with
      principal := fun _ => digestOf "", context := fun _ => digestOf ""
      composition := fun _ => digestOf "", accessRequest := fun _ => digestOf ""
      accessDecision := fun _ => digestOf "" }
  floatSum values := values.foldl .plus (.finite 0)
  reconsiderationIds := EndogenousProjection.noReconsideration

def startText : String := "1970-01-01T00:00:00+00:00"

def hourText : String := "1970-01-01T01:00:00+00:00"

def laterText : String := "1970-01-01T02:00:00+00:00"

/-- An event after an hour, admitted at the head. -/
def eventAt (sequence : Nat) (type id subject : String) (payload : Payload) : Event :=
  { StrategicProjection.paperRecorded with
    type, id, subject := some subject, sequence := some sequence, payload
    timestamp := .utc 3600000000
    metadata := .ofList [("validated_at_event_cursor", .int (sequence - 1))] }

def reasonId : String := (digestOf "").id "iadecision"

/-- Ada may reason about the note. -/
def noteReasoned (sequence : Nat) : Event :=
  { reviewPolicyRecorded with
    type := "information.access_decided", id := "information-access-decided:" ++ reasonId
    subject := some reasonId, sequence := some sequence
    payload := .ofList
      [("decision_id", .str reasonId),
       ("request", .obj
         [("request_id", .str ((digestOf "").id "iarequest")),
          ("information_ref", .obj [("information_id", .str noteId)]),
          ("context", .obj
            [("context_id", .str ((digestOf "").id "access")), ("actor_id", .str "agent"),
             ("principal", .obj
               [("snapshot_id", .str ((digestOf "").id "principal")), ("principal_id", .str "ada"),
                ("roles", .list []), ("groups", .list []), ("trust_domains", .texts ["home"]),
                ("captured_at", .str startText)]),
             ("purpose", .str "review"), ("operation", .str "reason"),
             ("source_trust_domain", .str "home"), ("destination_trust_domain", .null),
             ("recipient", .null), ("decision_time", .str startText),
             ("policy_ids", .texts [reviewPolicyId]), ("source_lineage_refs", .texts [noteId]),
             ("locality", .str "desk"), ("provider_id", .null),
             ("provider_security_posture", .list []), ("disclosure_form", .null)])]),
       ("composition_id", .str ((digestOf "").id "composition")),
       ("policy_decision", .obj
         [("operation", .str "reason"), ("disposition", .str "allow"),
          ("reasons", .texts ["permitted"]), ("conflicts", .list [])]),
       ("decided_at", .str startText), ("causal_event_cursor", .int (sequence - 1))] }

/-- One candidate, at no cost. -/
def oneCandidate : JSONValue :=
  .obj [("budget_id", .str "scarce-cognition-budget:"), ("max_candidates", .int 1),
    ("ceiling", .obj [])]

/-- Ada lets the agent come back to old questions about the paper when she returns. -/
def mandateRecorded (sequence : Nat) : Event :=
  { eventAt sequence "reconsideration.mandate_recorded"
      "reconsideration-mandate-recorded:reconsideration-mandate:" "revisit" (.ofList
      [("mandate_id", .str "revisit"), ("revision", .int 1),
       ("revision_id", .str "reconsideration-mandate:"), ("issuer_id", .str "ada"),
       ("issuer_kind", .str "user"), ("authority_id", .str "ada-herself"),
       ("authorization_ref", .str "event:approval"), ("scope", .str "old questions"),
       ("candidate_classes", .texts ["inquiry"]), ("candidate_domains", .texts ["paper"]),
       ("budget", oneCandidate), ("minimum_interval_seconds", .float (.finite 60)),
       ("trigger_event_types", .texts ["user.returned"]), ("issued_at", .str hourText),
       ("expires_at", .str laterText), ("maximum_interruption_units", .float (.finite 0)),
       ("surfacing_policy", .str "shadow_question_only"),
       ("information_use_purpose", .str "review"),
       ("information_policy_ids", .texts [reviewPolicyId])]) with
    causationId := some "approval"
    metadata := .ofList
      [("validated_at_event_cursor", .int (sequence - 1)),
       ("validated_mandate_authority_id", .str "ada-herself")] }

def policyRecorded (sequence : Nat) : Event :=
  eventAt sequence "reconsideration.policy_recorded"
    "reconsideration-policy-recorded:reconsideration-policy:" "reconsideration-policy:" (.ofList
    [("policy_id", .str "reconsideration-policy:"), ("version", .str "plain"),
     ("feature_weights", .obj []), ("cost_weights", .obj []), ("minimum_net_voc", .float (.finite 0)),
     ("foreground_event_types", .texts ["user.asked"])])

def one : JSONValue := .float (.finite 1)

/-- The question that the night left open, with what is known of it after an hour. -/
def paperQuestion : JSONValue :=
  let estimate : JSONValue := .obj
    [("value", one), ("kind", .str "explicit"), ("confidence", one),
     ("evidence_refs", .texts ["event:returned"]), ("observed_at", .str startText),
     ("valid_until", .str laterText)]
  .obj
    [("candidate_id", .str "reconsideration-candidate:"),
     ("historical", .obj
       [("kind", .str "inquiry"), ("inquiry_id", .str "inquiry:is it done?"),
        ("epoch_id", .str "dream-epoch:night"), ("historical_causal_cursor", .int 3),
        ("historical_governing_intent_refs", EndogenousProjection.paperIntent),
        ("historical_evidence_refs", EndogenousProjection.paperEvidence),
        ("governed_information_ids", .texts [noteId])]),
     ("derived_information_id", .str summaryId),
     ("seed", .obj
       [("inquiry_id", .str "inquiry:is it done?"), ("domain", .str "paper"),
        ("current_evidence_refs", .texts ["event:returned"]),
        ("governed_information_ids", .texts [noteId]),
        ("features", .obj
          [("unresolvedness", one), ("evidence_freshness", one), ("meaningful_new_evidence", one),
           ("opportunity_window", one), ("current_basis_validity", one),
           ("value_alignment_estimate", estimate), ("expected_outcome_value", estimate),
           ("motivation_estimate", estimate), ("provenance_refs", .texts ["event:returned"])]),
        ("costs", .obj [])]),
     ("information_access_decision_ids", .texts [reasonId])]

def scanRequested (sequence : Nat) : Event :=
  eventAt sequence "reconsideration.scan_requested"
    "reconsideration-scan-requested:reconsideration-scan:" "reconsideration-scan:" (.ofList
    [("request_id", .str "reconsideration-scan:"),
     ("basis", .obj
       [("kind", .str "reconsideration_mandate"), ("basis_id", .str "cognitive-basis:"),
        ("mandate_revision_id", .str "reconsideration-mandate:")]),
     ("policy_id", .str "reconsideration-policy:"), ("budget", oneCandidate),
     ("maximum_interruption_units", .float (.finite 0)),
     ("candidate_inputs", .list [paperQuestion]), ("information_use_purpose", .str "review"),
     ("information_policy_ids", .texts [reviewPolicyId]), ("requested_at", .str hourText),
     ("trigger_event_id", .str "returned"), ("foreground_demand_refs", .list [])])

/-- An inquiry of the night expires; Ada returns, and a scan under her mandate declares it. -/
def revisited : List Event :=
  [StrategicProjection.paperRecorded, EndogenousProjection.freePolicyRecorded,
   EndogenousProjection.scanRequested, EndogenousProjection.epochStarted,
   EndogenousProjection.inquiryRecorded, { reviewPolicyRecorded with sequence := some 6 },
   lineageRecorded 7 noteId "source" [], policyBound 8 noteId,
   lineageRecorded 9 summaryId "derivation" [noteId], policyBound 10 summaryId, noteReasoned 11,
   eventAt 12 "user.approved" "approval" "ada" .empty, mandateRecorded 13, policyRecorded 14,
   eventAt 15 "user.returned" "returned" "ada" .empty, scanRequested 16]

/-- The scan is accepted, over a mandate that is current. -/
theorem revisited_safe : ∃ p, rebuild plainReconsideration revisited = .ok p ∧
    p.scans.rows ≠ [] ∧
    (∀ before rest, before ++ rest = revisited →
      ∃ q, rebuild plainReconsideration before = .ok q ∧ q.Safe) ∧
    Folding.Every (step plainReconsideration) (empty plainReconsideration.informationIds)
      (fun q event => ∀ r, step plainReconsideration q event = .ok r → q.Admits r) revisited := by
  have hrun : (rebuild plainReconsideration revisited).map (fun p => p.scans.rows.length) =
      .ok 1 := by
    decide +kernel
  cases hp : rebuild plainReconsideration revisited with
  | error error =>
    rw [hp] at hrun
    cases hrun
  | ok p =>
    rw [hp] at hrun
    obtain ⟨hsafe, hadmits⟩ := rebuild_safe hp
    refine ⟨p, rfl, fun hnone => ?_, hsafe, hadmits⟩
    have hlength : p.scans.rows.length = 1 := Except.ok.inj hrun
    rw [hnone] at hlength
    cases hlength

end ReconsiderationProjection

end Noema
