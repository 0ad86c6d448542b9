import Noema.EndogenousProjection
import Noema.InformationProjection
import Noema.ReconsiderationPolicy

/-!
# The reconsideration projection

`ReconsiderationProjection` folds the canonical events into the policies, scans,
candidates, allocations, traces, outcome links and proposals of reconsideration.  It keeps
an endogenous projection, an information governance and a mandate projection of the same
events, by which a basis is current.  Each handler reads the state before the event.

What an `apply` that raises leaves behind is not modelled: a rebuild ends there.
-/
namespace Noema

/-! ## Mandates -/

/-- `ReconsiderationMandateProjection`. -/
structure ReconsiderationMandateProjection where
  events : KeyedTable Event.id
  lastSequence : Nat
  revisions : KeyedTable ReconsiderationMandate.revisionId
  currentRevision : Dict String
  revocations : KeyedTable fun revocation : ReconsiderationMandateRevocation =>
    revocation.mandateRevisionId

namespace ReconsiderationMandateProjection

/-- `_reset`. -/
def empty : ReconsiderationMandateProjection where
  events := .empty
  lastSequence := 0
  revisions := .empty
  currentRevision := .empty
  revocations := .empty

variable (m : ReconsiderationMandateProjection)

def revision (revisionId : String) : Option ReconsiderationMandate := m.revisions.find revisionId

/-- `current`. -/
def current (mandateId : String) : Option ReconsiderationMandate := do
  m.revisions.find (← m.currentRevision.get? mandateId)

/-- `is_active_revision`. -/
def IsActiveRevision (revisionId : String) (at' : Datetime) : Prop :=
  ∃ mandate ∈ m.revisions.find revisionId,
    m.currentRevision.get? mandate.mandateId = some revisionId ∧
      m.revocations.find revisionId = none ∧
      mandate.issuedAt.instant ≤ at'.instant ∧ at'.instant < mandate.expiresAt.instant

instance (revisionId : String) (at' : Datetime) : Decidable (m.IsActiveRevision revisionId at') :=
  inferInstanceAs (Decidable (∃ mandate ∈ m.revisions.find revisionId, _))

/-- `_require_exact_head`. -/
def requireExactHead (event : Event) : Except PyError Unit :=
  refuse ((event.metadata.get "validated_at_event_cursor").equalsInt m.lastSequence = false)
    "mandate transition lacks exact-head admission evidence"

/-- `_validate_envelope`. -/
def validateEnvelope (event : Event) (eventId subject : String) (timestamp : Datetime) :
    Except PyError Unit :=
  refuse (event.id ≠ eventId ∨ event.subject ≠ some subject ∨ (event.timestamp == timestamp) = false)
    "mandate event envelope is inconsistent"

/-- The event that causes another one is known. -/
def causeKnown (event : Event) : Bool :=
  match event.causationId with
  | some causationId => (m.events.find causationId).isSome
  | none => false

section Events

variable (b : ReconsiderationBuiltins) (event : Event)

/-- `MANDATE_RECORDED_EVENT`. -/
def applyRecorded : Except PyError ReconsiderationMandateProjection := do
  m.requireExactHead event
  let mandate ← ReconsiderationMandate.fromDict b event.payload
  validateEnvelope event ("reconsideration-mandate-recorded:" ++ mandate.revisionId)
    mandate.mandateId mandate.issuedAt
  refuse (event.causationId ≠ some (referredEvent mandate.authorizationRef))
    "mandate event must cite its authorization evidence"
  refuse (m.causeKnown event = false) "mandate authorization evidence is not canonical"
  refuse ((event.metadata.get "validated_mandate_authority_id").equalsText mandate.authorityId = false)
    "mandate lacks an authenticated authority receipt"
  match m.current mandate.mandateId with
  | none => refuse (mandate.revision ≠ 1) "first mandate revision must be one"
  | some current =>
    refuse (mandate.revision ≠ current.revision + 1) "mandate revisions must advance exactly once"
  let revisions ← EndogenousProjection.recordImmutable m.revisions mandate "mandate revision"
    mandate.revisionId
  return { m with
    revisions, currentRevision := m.currentRevision.put (mandate.mandateId, mandate.revisionId) }

/-- The mandate that a revocation is about. -/
def revokedMandate (revocation : ReconsiderationMandateRevocation) :
    Except PyError ReconsiderationMandate :=
  match m.revisions.find revocation.mandateRevisionId with
  | some mandate =>
    if mandate.mandateId ≠ revocation.mandateId ∨
        m.currentRevision.get? revocation.mandateId ≠ some revocation.mandateRevisionId then
      .error (.valueError "revocation requires the current canonical mandate revision")
    else .ok mandate
  | none => .error (.valueError "revocation requires the current canonical mandate revision")

/-- `MANDATE_REVOKED_EVENT`. -/
def applyRevoked : Except PyError ReconsiderationMandateProjection := do
  m.requireExactHead event
  let revocation ← ReconsiderationMandateRevocation.fromDict b event.payload
  validateEnvelope event ("reconsideration-mandate-revoked:" ++ revocation.revocationId)
    revocation.mandateId revocation.revokedAt
  let revokedMandate ← m.revokedMandate revocation
  refuse (revocation.revokedAt.instant < revokedMandate.issuedAt.instant)
    "mandate cannot be revoked before issuance"
  refuse (event.causationId ≠ some (referredEvent revocation.authorizationRef))
    "revocation must cite its authorization evidence"
  refuse (m.causeKnown event = false) "revocation authorization evidence is not canonical"
  refuse ((event.metadata.get "validated_mandate_authority_id").equalsText revocation.authorityId
      = false)
    "revocation lacks an authenticated authority receipt"
  let revocations ← EndogenousProjection.recordImmutable m.revocations revocation
    "mandate revocation" revocation.mandateRevisionId
  return { m with revocations }

/-- The branches of `apply`, and whether there is one for the event. -/
def applyEvent : Except PyError (ReconsiderationMandateProjection × Bool) :=
  match event.type with
  | "reconsideration.mandate_recorded" => do return (← m.applyRecorded b event, true)
  | "reconsideration.mandate_revoked" => do return (← m.applyRevoked b event, true)
  | _ => .ok (m, false)

/-- `apply`. -/
def apply : Except PyError (ReconsiderationMandateProjection × Bool) :=
  match m.events.find event.id with
  | some existing =>
    if b.sameEvent existing event then .ok (m, false)
    else .error (.valueError s!"conflicting mandate event identity: {event.id}")
  | none =>
    match event.sequence with
    | none => .error (.valueError "mandate projection requires canonical sequenced events")
    | some sequence => do
      refuse (sequence ≤ m.lastSequence) "mandate events must be applied in canonical order"
      let (applied, handled) ← m.applyEvent b event
      return ({ applied with events := applied.events.put event, lastSequence := sequence }, handled)

end Events

end ReconsiderationMandateProjection

/-! ## Scans, candidates, allocations, traces and proposals -/

/-- `ReconsiderationProjection`. -/
structure ReconsiderationProjection (ids : InformationIds) where
  events : KeyedTable Event.id
  lastSequence : Nat
  endogenous : EndogenousProjection
  information : InformationGovernance ids
  mandates : ReconsiderationMandateProjection
  policies : KeyedTable ReconsiderationPolicySnapshot.policyId
  scans : KeyedTable ReconsiderationScanRequest.requestId
  candidates : KeyedTable ReconsiderationCandidate.candidateId
  candidatesByScan : Dict (List String)
  allocations : KeyedTable ReconsiderationAllocation.allocationId
  allocationByScan : Dict String
  traces : KeyedTable CognitiveAllocationTrace.traceId
  traceByDecision : KeyedTable fun row : (String × String) × String => row.1
  outcomeLinks : KeyedTable CognitiveAllocationOutcomeLink.linkId
  proposals : KeyedTable ReconsiderationShadowProposal.proposalId
  proposalByTrace : Dict String

namespace ReconsiderationProjection

/-- `_reset`. -/
def empty (ids : InformationIds) : ReconsiderationProjection ids where
  events := .empty
  lastSequence := 0
  endogenous := .empty
  information := .empty ids
  mandates := .empty
  policies := .empty
  scans := .empty
  candidates := .empty
  candidatesByScan := .empty
  allocations := .empty
  allocationByScan := .empty
  traces := .empty
  traceByDecision := .empty
  outcomeLinks := .empty
  proposals := .empty
  proposalByTrace := .empty

section Queries

variable {ids : InformationIds} (p : ReconsiderationProjection ids)

def event (eventId : String) : Option Event := p.events.find eventId

def scan (requestId : String) : Option ReconsiderationScanRequest := p.scans.find requestId

/-- `candidates_for_scan`. -/
def candidatesForScan (requestId : String) : List ReconsiderationCandidate :=
  (ordered (p.candidatesByScan.listOf requestId)).filterMap p.candidates.find

/-- `candidate_was_selected`. -/
def CandidateWasSelected (candidateId : String) : Prop :=
  ∃ allocation ∈ p.allocations.rows, ∃ decision ∈ allocation.decisions,
    decision.candidateId = candidateId ∧ decision.label = .selected

instance (candidateId : String) : Decidable (p.CandidateWasSelected candidateId) :=
  inferInstanceAs (Decidable (∃ allocation ∈ p.allocations.rows, _))

/-- `_validate_basis`. -/
def validateBasis (basis : CognitiveBasis) (at' : Datetime) : Except PyError Unit :=
  match basis with
  | .liveGoverningIntent ref =>
    refuse (¬p.endogenous.IntentRefsAreCurrent [ref])
      "live cognitive basis requires exact ACTIVE or BLOCKED intent"
  | .reconsiderationMandate revisionId =>
    refuse (¬p.mandates.IsActiveRevision revisionId at')
      "mandate cognitive basis is not current, active, and unexpired"

/-- `basis_is_current`. -/
def basisIsCurrent (basis : CognitiveBasis) (at' : Datetime) : Bool :=
  (p.validateBasis basis at').isOk

/-- `_event_ref`. -/
def eventRef (ref : String) : Except PyError Event :=
  if isEventRef ref then
    match p.events.find (referredEvent ref) with
    | some event => .ok event
    | none => .error (.valueError s!"unknown reconsideration evidence event: {ref}")
  else .error (.valueError s!"unsupported reconsideration evidence reference: {ref}")

/-- `_require_exact_head`. -/
def requireExactHead (event : Event) : Except PyError Unit :=
  refuse ((event.metadata.get "validated_at_event_cursor").equalsInt p.lastSequence = false)
    "reconsideration transition lacks exact-head admission evidence"

/-- `_validate_envelope`. -/
def validateEnvelope (event : Event) (eventId subject : String) (timestamp : Option Datetime) :
    Except PyError Unit := do
  refuse (event.id ≠ eventId ∨ event.subject ≠ some subject)
    "reconsideration event envelope is inconsistent"
  refuse (∃ time ∈ timestamp, (event.timestamp == time) = false)
    "reconsideration event timestamp is inconsistent"

/-- The scans under a mandate revision. -/
def scansUnder (revisionId : String) : List ReconsiderationScanRequest :=
  p.scans.rows.filter fun scan => scan.basis.basis.mandateRevisionId = some revisionId

/-- `(later - earlier).total_seconds()`. -/
def totalSeconds (later earlier : Int) : PyFloat := .ofRat ((later - earlier : Int) / 1000000)

/-- `_validate_mandate_scan`. -/
def validateMandateScan (scan : ReconsiderationScanRequest) : Except PyError Unit :=
  match scan.basis.basis with
  | .liveGoverningIntent _ => .ok ()
  | .reconsiderationMandate revisionId =>
    match p.mandates.revision revisionId with
    | none => .error (.valueError "scan references an unknown mandate")
    | some mandate => do
      refuse (scan.budget.fitsWithin mandate.budget = false) "scan budget exceeds its mandate"
      refuse (scan.maximumInterruptionUnits ≠ mandate.maximumInterruptionUnits)
        "scan interruption ceiling differs from its mandate"
      refuse (scan.informationUsePurpose ≠ mandate.informationUsePurpose)
        "scan information purpose differs from its mandate"
      refuse (scan.informationPolicyIds ≠ mandate.informationPolicyIds)
        "scan information policies differ from its mandate"
      let latestRequest := ((p.scansUnder mandate.revisionId).map fun previous =>
        previous.requestedAt.instant).max?
      refuse (∃ latest ∈ latestRequest, mandate.minimumIntervalSeconds.atMost
          (totalSeconds scan.requestedAt.instant latest) = false)
        "reconsideration scan violates mandate cadence"

/-- The trigger that a scan names, which a mandate takes. -/
def mandateTrigger (scan : ReconsiderationScanRequest) (mandate : ReconsiderationMandate) :
    Except PyError Event :=
  match scan.triggerEventId with
  | none => .error (.valueError "mandate scan requires an explicit canonical trigger")
  | some triggerEventId =>
    match (p.events.find triggerEventId).filter fun trigger =>
        trigger.type ∈ mandate.triggerEventTypes with
    | some trigger => .ok trigger
    | none => .error (.valueError "mandate scan trigger is absent or out of scope")

/-- `_validate_scan_trigger`; a revision that is not known was refused before. -/
def validateScanTrigger (scan : ReconsiderationScanRequest) : Except PyError Unit :=
  match scan.basis.basis with
  | .liveGoverningIntent _ => .ok ()
  | .reconsiderationMandate revisionId =>
    match p.mandates.revision revisionId with
    | none => .error (.other "AssertionError")
    | some mandate =>
      if mandate.triggerEventTypes = [] then
        refuse (scan.triggerEventId ≠ none) "cadence-only mandate scan cannot claim a trigger"
      else do
        let trigger ← p.mandateTrigger scan mandate
        let mandateEvent := p.events.find ("reconsideration-mandate-recorded:" ++ mandate.revisionId)
        refuse (¬∃ mandateSequence ∈ mandateEvent.bind Event.sequence,
            ∃ sequence ∈ trigger.sequence, mandateSequence < sequence)
          "mandate scan trigger predates mandate activation"
        let previousScans := p.scansUnder mandate.revisionId
        refuse (∃ previous ∈ previousScans, previous.triggerEventId = scan.triggerEventId)
          "mandate scan trigger was already consumed"
        let previousSequences := previousScans.filterMap fun previous =>
          (p.events.find ("reconsideration-scan-requested:" ++ previous.requestId)).map
            fun event => event.sequence.getD 0
        -- It is at most the greatest of them.
        refuse (∃ previous ∈ previousSequences, trigger.sequence.getD 0 ≤ previous)
          "mandate scan trigger is stale"

/-- `_validate_evidence_cut`. -/
def validateEvidenceCut (candidate : ReconsiderationCandidate) (maximumSequence : Nat) :
    Except PyError Unit :=
  (candidate.currentEvidenceRefs ++ candidate.features.provenanceRefs ++
    candidate.features.estimates.flatMap EvidenceBackedEstimate.evidenceRefs).forM fun ref => do
      let evidence ← p.eventRef ref
      let sequence := evidence.sequence.getD 0
      refuse ((sequence : Int) ≤ candidate.historical.historicalCausalCursor)
        "reconsideration evidence does not follow the historical cut"
      refuse (maximumSequence < sequence) "reconsideration evidence postdates the scan causal cut"

/-- `_validate_candidate_scope`. -/
def validateCandidateScope (candidate : ReconsiderationCandidate) : Except PyError Unit :=
  match candidate.currentBasis.basis with
  | .liveGoverningIntent _ => .ok ()
  | .reconsiderationMandate revisionId =>
    match p.mandates.revision revisionId with
    | none => .error (.other "AssertionError")
    | some mandate => do
      refuse (HistoricalCognitionKind.inquiry.text ∉ mandate.candidateClasses)
        "historical Inquiry is outside mandate candidate classes"
      refuse (candidate.domain ∉ mandate.candidateDomains)
        "candidate domain is outside mandate scope"
      refuse (candidate.costs.interruptionUnits.atMost mandate.maximumInterruptionUnits = false)
        "candidate exceeds mandate interruption ceiling"

/-- `_validate_derived_information`. -/
def validateDerivedInformation (informationId : String) (sourceInformationIds policyIds : List String) :
    Except PyError Unit :=
  match (p.information.lineage informationId).filter fun lineage =>
      lineage.transformation = .derivation ∧
        lineage.sourceInformationIds = ordered sourceInformationIds with
  | none =>
    .error (.valueError "reconsideration derived information lacks exact source lineage")
  | some lineage =>
    refuse ((p.information.binding informationId).all fun binding =>
        binding.lineageId ≠ lineage.lineageId ∨ binding.policyIds ≠ ordered policyIds)
      "reconsideration derived information lacks inherited policy binding"

/-- `allocation_terminal_constraints`. -/
def allocationTerminalConstraints (scan : ReconsiderationScanRequest)
    (candidates : List ReconsiderationCandidate) (at' : Datetime) : Dict String :=
  if p.basisIsCurrent scan.basis.basis at' = false then
    .ofList (candidates.map fun candidate => (candidate.candidateId, "basis_no_longer_current"))
  else
    .ofList ((candidates.filter fun candidate => p.CandidateWasSelected candidate.candidateId).map
      fun candidate => (candidate.candidateId, "candidate_already_selected"))

end Queries

section Inputs

variable (b : ReconsiderationBuiltins) (p : ReconsiderationProjection b.informationIds)
  (scan : ReconsiderationScanRequest)

/-- `_candidate_from_input`. -/
def candidateFromInput (input : ReconsiderationCandidateInput) (scanSequence : Nat) :
    Except PyError ReconsiderationCandidate :=
  ReconsiderationCandidate.create b.reconsiderationIds
    { candidateId := "", scanRequestId := scan.requestId
      derivedInformationId := input.derivedInformationId, historical := input.historical
      currentBasis := scan.basis, domain := input.seed.domain
      currentCausalCursor := scanSequence, currentEvidenceRefs := input.seed.currentEvidenceRefs
      informationAccessDecisionIds := input.informationAccessDecisionIds
      features := input.seed.features, costs := input.seed.costs, createdAt := scan.requestedAt }

/-- What `_validate_access_decisions` asks of a decision, and the information it is about. -/
def validateAccessDecision (decisionId : String) : Except PyError String :=
  match (p.information.accessDecisions.find decisionId).filter fun decision => decision.allowed with
  | none => .error (.valueError "reconsideration requires current allowed information use")
  | some decision => do
    let current ← p.information.decideAccess b.informationIds decision.request
    refuse (current.allowed = false) "reconsideration information use is no longer allowed"
    refuse (decision.request.context.operation ≠ .reason)
      "reconsideration information use must be admitted for reasoning"
    refuse (decision.request.context.purpose ≠ scan.informationUsePurpose)
      "information decision purpose differs from reconsideration"
    refuse (decision.request.context.policyIds ≠ scan.informationPolicyIds)
      "information decision policy lineage differs from scan"
    return decision.request.informationRef.informationId

/-- `_validate_access_decisions`. -/
def validateAccessDecisions (input : ReconsiderationCandidateInput) : Except PyError Unit := do
  let informationIds ← input.informationAccessDecisionIds.mapM (p.validateAccessDecision b scan)
  refuse (informationIds.insertionSort (· ≤ ·) ≠
      input.seed.governedInformationIds.insertionSort (· ≤ ·))
    "information decisions do not cover every governed source"

/-- The inquiry that a candidate is about, and the event that recorded it. -/
def historicalInquiry (inquiryId : String) : Except PyError (Inquiry × Event) :=
  match p.endogenous.inquiries.find inquiryId,
      (p.events.find ("inquiry-recorded:" ++ inquiryId)).filter fun event =>
        event.type = "endogenous.inquiry_recorded" with
  | some inquiry, some event => .ok (inquiry, event)
  | _, _ => .error (.valueError "historical inquiry is not canonical")

/-- `_validate_historical_inquiry`; a historical reference is to an inquiry. -/
def validateHistoricalInquiry (candidate : ReconsiderationCandidate) : Except PyError Unit := do
  let historical := candidate.historical
  let (inquiry, inquiryEvent) ← p.historicalInquiry b historical.inquiryId
  let epochId ← itemText b.toBuiltins inquiryEvent.payload "epoch_id"
  refuse (epochId ≠ historical.epochId ∨ inquiry.causalCursor ≠ historical.historicalCausalCursor ∨
      inquiry.governingIntentRefs ≠ historical.historicalGoverningIntentRefs ∨
      inquiry.evidenceRefs ≠ historical.historicalEvidenceRefs)
    "historical inquiry provenance is inconsistent"
  refuse ((p.endogenous.eligibleInquiries candidate.createdAt).any (· == inquiry))
    "a current inquiry cannot be reconsidered as historical"
  refuse (∃ ref ∈ candidate.currentBasis.basis.liveIntentRef,
      ref.goalId ∉ inquiry.governingIntentRefs.map GoverningIntentRef.goalId)
    "live-intent reconsideration requires the same stable goal lineage"

/-- `_validate_scan_candidate_input`. -/
def validateScanCandidateInput (input : ReconsiderationCandidateInput) (scanSequence : Nat) :
    Except PyError Unit := do
  let candidate ← candidateFromInput b scan input scanSequence
  refuse (candidate.candidateId ≠ input.candidateId)
    "scan candidate identity differs from its semantic input"
  p.validateHistoricalInquiry b candidate
  p.validateEvidenceCut candidate p.lastSequence
  p.validateAccessDecisions b scan input
  p.validateCandidateScope candidate
  p.validateDerivedInformation candidate.derivedInformationId
    candidate.historical.governedInformationIds scan.informationPolicyIds

end Inputs

section Events

variable (b : ReconsiderationBuiltins) (p : ReconsiderationProjection b.informationIds)
  (event : Event)

/-- `POLICY_RECORDED_EVENT`. -/
def applyPolicy : Except PyError (ReconsiderationProjection b.informationIds) := do
  let policy ← ReconsiderationPolicySnapshot.fromDict b event.payload
  validateEnvelope event ("reconsideration-policy-recorded:" ++ policy.policyId) policy.policyId none
  ensureAllocatorSupported policy
  let policies ← EndogenousProjection.recordImmutable p.policies policy "policy" policy.policyId
  return { p with policies }

/-- What is asked of the foreground demand that a scan cites. -/
def validateForeground (policy : ReconsiderationPolicySnapshot) (ref : String) :
    Except PyError Unit := do
  let foreground ← p.eventRef ref
  refuse (foreground.type ∉ policy.foregroundEventTypes)
    "scan cites an event that is not configured foreground demand"

/-- What is asked of a candidate that a scan declares. -/
def admitInput (scan : ReconsiderationScanRequest) (sequence : Nat)
    (input : ReconsiderationCandidateInput) : Except PyError Unit := do
  p.validateScanCandidateInput b scan input sequence
  refuse (p.CandidateWasSelected input.candidateId)
    "a surfaced candidate is terminal for its semantic basis"

/-- `SCAN_REQUESTED_EVENT`. -/
def applyScan (sequence : Nat) : Except PyError (ReconsiderationProjection b.informationIds) := do
  p.requireExactHead event
  let scan ← ReconsiderationScanRequest.fromDict b event.payload
  validateEnvelope event ("reconsideration-scan-requested:" ++ scan.requestId) scan.requestId
    scan.requestedAt
  match p.policies.find scan.policyId with
  | none => .error (.valueError "reconsideration scan references an unknown policy")
  | some policy => do
    p.validateBasis scan.basis.basis scan.requestedAt
    p.validateMandateScan scan
    p.validateScanTrigger scan
    scan.foregroundDemandRefs.forM (p.validateForeground b policy)
    scan.candidateInputs.forM (p.admitInput b scan sequence)
    let scans ← EndogenousProjection.recordImmutable p.scans scan "scan" scan.requestId
    return { p with
      scans
      candidatesByScan := p.candidatesByScan.put
        (scan.requestId, scan.candidateInputs.map ReconsiderationCandidateInput.candidateId) }

/-- The scan of a candidate or of an allocation, and the sequence of its event. -/
def canonicalScan (requestId message : String) : Except PyError (ReconsiderationScanRequest × Nat) :=
  match p.scans.find requestId,
      (p.events.find ("reconsideration-scan-requested:" ++ requestId)).bind Event.sequence with
  | some scan, some sequence => .ok (scan, sequence)
  | _, _ => .error (.valueError message)

/-- `CANDIDATE_RECORDED_EVENT`. -/
def applyCandidate : Except PyError (ReconsiderationProjection b.informationIds) := do
  p.requireExactHead event
  let candidate ← ReconsiderationCandidate.fromDict b event.payload
  validateEnvelope event ("reconsideration-candidate-recorded:" ++ candidate.candidateId)
    candidate.candidateId candidate.createdAt
  let (scan, sequence) ← p.canonicalScan b candidate.scanRequestId
    "candidate references an unknown canonical scan"
  refuse (candidate.currentCausalCursor ≠ sequence)
    "candidate does not cite its current scan causal cut"
  match scan.candidateInputs.find? fun input => input.candidateId = candidate.candidateId with
  | none => .error (.valueError "candidate was not declared by its scan")
  | some input => do
    let expected ← candidateFromInput b scan input sequence
    refuse ((candidate == expected) = false) "candidate differs from its deterministic scan input"
    let candidates ← EndogenousProjection.recordImmutable p.candidates candidate "candidate"
      candidate.candidateId
    return { p with candidates }

/-- The scan and the policy of an allocation. -/
def scanAndPolicy (allocation : ReconsiderationAllocation) :
    Except PyError (ReconsiderationScanRequest × ReconsiderationPolicySnapshot) :=
  match p.scans.find allocation.scanRequestId, p.policies.find allocation.policyId with
  | some scan, some policy => .ok (scan, policy)
  | _, _ => .error (.valueError "allocation references an unknown scan or policy")

/-- The sequence of the event of a scan that is known. -/
def scanSequence (requestId : String) : Except PyError Nat :=
  let eventId := "reconsideration-scan-requested:" ++ requestId
  match p.events.find eventId with
  | none => .error (.keyError eventId)
  | some scanEvent =>
    match scanEvent.sequence with
    | none => .error (.other "AssertionError")
    | some sequence => .ok sequence

/-- What is asked of the foreground demand that an allocation cites. -/
def validateAllocationForeground (scan : ReconsiderationScanRequest)
    (policy : ReconsiderationPolicySnapshot) (scanSequence : Nat) (ref : String) :
    Except PyError Unit := do
  let foreground ← p.eventRef ref
  match foreground.sequence.filter fun sequence =>
      foreground.type ∈ policy.foregroundEventTypes ∧ sequence ≤ p.lastSequence with
  | none => .error (.valueError "allocation foreground evidence is invalid")
  | some sequence =>
    refuse (ref ∉ scan.foregroundDemandRefs ∧ sequence ≤ scanSequence)
      "intervening foreground evidence must follow the scan cut"

/-- `ALLOCATION_RECORDED_EVENT`. -/
def applyAllocation : Except PyError (ReconsiderationProjection b.informationIds) := do
  p.requireExactHead event
  let allocation ← ReconsiderationAllocation.fromDict b event.payload
  validateEnvelope event ("reconsideration-allocation-recorded:" ++ allocation.allocationId)
    allocation.scanRequestId allocation.allocatedAt
  refuse ((p.allocationByScan.get? allocation.scanRequestId).isSome = true)
    "one reconsideration scan cannot allocate twice"
  let (scan, policy) ← p.scanAndPolicy b allocation
  refuse (allocation.allocatedAt.instant < scan.requestedAt.instant)
    "allocation cannot predate its canonical scan"
  let candidates := p.candidatesForScan scan.requestId
  refuse (candidates.length ≠ scan.candidateInputs.length)
    "allocation requires every declared candidate"
  let scanSequence ← p.scanSequence b scan.requestId
  allocation.foregroundDemandRefs.forM (p.validateAllocationForeground b scan policy scanSequence)
  refuse (∃ ref ∈ scan.foregroundDemandRefs, ref ∉ allocation.foregroundDemandRefs)
    "allocation lost foreground evidence pinned by its scan"
  p.validateDerivedInformation allocation.derivedInformationId
    (candidates.map fun candidate => candidate.derivedInformationId) scan.informationPolicyIds
  let expected ← allocateReconsideration scan policy b candidates allocation.derivedInformationId
    allocation.foregroundDemandRefs
    (p.allocationTerminalConstraints scan candidates allocation.allocatedAt) allocation.allocatedAt
  refuse ((allocation == expected) = false) "allocation differs from deterministic policy replay"
  return { p with
    allocations := p.allocations.put allocation
    allocationByScan := p.allocationByScan.put (scan.requestId, allocation.allocationId) }

/-- The allocation and the candidate of a trace. -/
def tracedState (trace : CognitiveAllocationTrace) :
    Except PyError (ReconsiderationAllocation × ReconsiderationCandidate) :=
  match p.allocations.find trace.allocationId, p.candidates.find trace.candidateId with
  | some allocation, some candidate => .ok (allocation, candidate)
  | _, _ => .error (.valueError "allocation trace references unknown state")

/-- The scan of a recorded allocation. -/
def scanOf (allocation : ReconsiderationAllocation) : Except PyError ReconsiderationScanRequest :=
  match p.scans.find allocation.scanRequestId with
  | some scan => .ok scan
  | none => .error (.keyError allocation.scanRequestId)

/-- `ALLOCATION_TRACE_RECORDED_EVENT`. -/
def applyTrace : Except PyError (ReconsiderationProjection b.informationIds) := do
  p.requireExactHead event
  let trace ← CognitiveAllocationTrace.fromDict b event.payload
  validateEnvelope event ("cognitive-allocation-trace-recorded:" ++ trace.traceId) trace.candidateId
    trace.recordedAt
  let (allocation, candidate) ← p.tracedState b trace
  match allocation.decisions.find? fun decision => decision.candidateId = trace.candidateId with
  | none => .error (.valueError "allocation trace candidate was not decided")
  | some decision => do
    let expected ← CognitiveAllocationTrace.create b.reconsiderationIds trace.derivedInformationId
      allocation candidate decision
    refuse ((trace == expected) = false) "allocation trace differs from its canonical decision"
    let scan ← p.scanOf b allocation
    p.validateDerivedInformation trace.derivedInformationId [allocation.derivedInformationId]
      scan.informationPolicyIds
    let decisionKey := (trace.candidateId, trace.allocationId)
    refuse ((p.traceByDecision.find decisionKey).isSome = true)
      "candidate allocation decision already has a trace"
    return { p with
      traces := p.traces.put trace
      traceByDecision := p.traceByDecision.put (decisionKey, trace.traceId) }

/-- `ALLOCATION_OUTCOME_LINKED_EVENT`. -/
def applyOutcomeLink : Except PyError (ReconsiderationProjection b.informationIds) := do
  p.requireExactHead event
  let link ← CognitiveAllocationOutcomeLink.fromDict b event.payload
  validateEnvelope event ("cognitive-allocation-outcome-linked:" ++ link.linkId) link.traceId
    link.linkedAt
  match p.traces.find link.traceId with
  | none => .error (.valueError "allocation outcome link references an unknown trace")
  | some trace => do
    refuse (event.causationId ≠ some (referredEvent link.outcomeRef))
      "allocation outcome link causation is inconsistent"
    let outcomeEvent ← p.eventRef link.outcomeRef
    let traceEvent := p.events.find ("cognitive-allocation-trace-recorded:" ++ link.traceId)
    refuse (¬∃ traceSequence ∈ traceEvent.bind Event.sequence,
        ∃ sequence ∈ outcomeEvent.sequence, traceSequence < sequence)
      "allocation outcome must causally follow its trace"
    refuse (outcomeEvent.timestamp.instant < trace.recordedAt.instant ∨
        link.linkedAt.instant < outcomeEvent.timestamp.instant)
      "allocation outcome timestamps are not causally coherent"
    let outcomeLinks ← EndogenousProjection.recordImmutable p.outcomeLinks link
      "allocation outcome link" link.linkId
    return { p with outcomeLinks }

/-- The candidate, the allocation and the trace of a proposal. -/
def proposedState (proposal : ReconsiderationShadowProposal) : Except PyError
    (ReconsiderationCandidate × ReconsiderationAllocation × CognitiveAllocationTrace) :=
  match p.candidates.find proposal.candidateId, p.allocations.find proposal.allocationId,
      p.traces.find proposal.allocationTraceId with
  | some candidate, some allocation, some trace => .ok (candidate, allocation, trace)
  | _, _, _ => .error (.valueError "shadow proposal references unknown reconsideration state")

/-- `SHADOW_PROPOSAL_RECORDED_EVENT`. -/
def applyProposal : Except PyError (ReconsiderationProjection b.informationIds) := do
  p.requireExactHead event
  let proposal ← ReconsiderationShadowProposal.fromDict b event.payload
  validateEnvelope event ("reconsideration-shadow-proposal-recorded:" ++ proposal.proposalId)
    proposal.candidateId proposal.createdAt
  let (candidate, allocation, trace) ← p.proposedState b proposal
  p.validateBasis candidate.currentBasis.basis proposal.createdAt
  refuse (proposal.candidateId ∉ allocation.selectedCandidateIds)
    "only a selected candidate may produce a shadow proposal"
  let expected ← ReconsiderationShadowProposal.create b.reconsiderationIds candidate allocation trace
  refuse ((proposal == expected) = false) "shadow proposal differs from its selected candidate"
  let proposals ← EndogenousProjection.recordImmutable p.proposals proposal "shadow proposal"
    proposal.proposalId
  refuse ((p.proposalByTrace.get? proposal.allocationTraceId).any fun existing =>
      existing ≠ proposal.proposalId)
    "allocation trace already has a shadow proposal"
  return { p with
    proposals
    proposalByTrace := p.proposalByTrace.put (proposal.allocationTraceId, proposal.proposalId) }

/-- `_apply_event`, and whether there is a branch for the event. -/
def applyEvent (sequence : Nat) :
    Except PyError (ReconsiderationProjection b.informationIds × Bool) :=
  let handled (applied : Except PyError (ReconsiderationProjection b.informationIds)) := do
    return (← applied, true)
  match event.type with
  | "reconsideration.policy_recorded" => handled (p.applyPolicy b event)
  | "reconsideration.scan_requested" => handled (p.applyScan b event sequence)
  | "reconsideration.candidate_recorded" => handled (p.applyCandidate b event)
  | "reconsideration.allocation_recorded" => handled (p.applyAllocation b event)
  | "reconsideration.allocation_trace_recorded" => handled (p.applyTrace b event)
  | "reconsideration.allocation_outcome_linked" => handled (p.applyOutcomeLink b event)
  | "reconsideration.shadow_proposal_recorded" => handled (p.applyProposal b event)
  | _ => .ok (p, false)

/-- `apply`. -/
def apply : Except PyError (ReconsiderationProjection b.informationIds × Bool) :=
  match p.events.find event.id with
  | some existing =>
    if b.sameEvent existing event then .ok (p, false)
    else .error (.valueError s!"conflicting reconsideration event identity: {event.id}")
  | none =>
    match event.sequence with
    | none => .error (.valueError "reconsideration projection requires canonical events")
    | some sequence => do
      refuse (sequence ≤ p.lastSequence)
        "reconsideration events must be applied in canonical order"
      let (applied, handled) ← p.applyEvent b event sequence
      let endogenous ← applied.endogenous.step b.toEndogenousBuiltins event
      let information ← applied.information.step b.toInformationBuiltins event
      let (mandates, mandateHandled) ← applied.mandates.apply b event
      let applied := { applied with
        endogenous, information, mandates, events := applied.events.put event
        lastSequence := sequence }
      return (applied, handled || mandateHandled)

/-- The state that `apply` leaves. -/
def step (p : ReconsiderationProjection b.informationIds) (event : Event) :
    Except PyError (ReconsiderationProjection b.informationIds) := do
  let (p, _) ← p.apply b event
  return p

/-- `rebuild`. -/
def rebuild (events : List Event) : Except PyError (ReconsiderationProjection b.informationIds) :=
  Folding.run (step b) (empty b.informationIds) events

end Events

end ReconsiderationProjection

end Noema
