import Noema.EndogenousPayloads
import Noema.InformationPayloads

/-!
# The records of reconsideration

Mandates with their revocations, bases, candidates, policies, scan requests, allocations,
traces, outcome links and proposals, with what their constructors check.  A basis names
either live intent or a mandate, by its constructor.  The ids are digests of the content
(`ReconsiderationIds`), of which nothing is assumed.  All times carry a time zone.
-/
namespace Noema

/-! ## Enumerations -/

inductive MandateIssuerKind
  | user
  | constitutional
deriving DecidableEq, Repr

inductive HistoricalCognitionKind
  | inquiry
deriving DecidableEq, Repr

inductive SurfacingPolicy
  | shadowQuestionOnly
deriving DecidableEq, Repr

inductive AllocationLabel
  | selected
  | deferredByConstraint
  | suppressed
  | explicitlyRejected
deriving DecidableEq, Repr

inductive EstimateEvidenceKind
  | explicit
  | voluntaryReengagement
  | repeatedInterest
  | inferred
deriving DecidableEq, Repr

def MandateIssuerKind.text : MandateIssuerKind → String
  | user => "user"
  | constitutional => "constitutional"

def MandateIssuerKind.ofText : String → Except PyError MandateIssuerKind :=
  enumOf "MandateIssuerKind" [user, constitutional] text

def HistoricalCognitionKind.text : HistoricalCognitionKind → String
  | inquiry => "inquiry"

def HistoricalCognitionKind.ofText : String → Except PyError HistoricalCognitionKind :=
  enumOf "HistoricalCognitionKind" [inquiry] text

def SurfacingPolicy.text : SurfacingPolicy → String
  | shadowQuestionOnly => "shadow_question_only"

def SurfacingPolicy.ofText : String → Except PyError SurfacingPolicy :=
  enumOf "SurfacingPolicy" [shadowQuestionOnly] text

def AllocationLabel.text : AllocationLabel → String
  | selected => "SELECTED"
  | deferredByConstraint => "DEFERRED_BY_CONSTRAINT"
  | suppressed => "SUPPRESSED"
  | explicitlyRejected => "EXPLICITLY_REJECTED"

def AllocationLabel.ofText : String → Except PyError AllocationLabel :=
  enumOf "AllocationLabel" [selected, deferredByConstraint, suppressed, explicitlyRejected] text

def EstimateEvidenceKind.text : EstimateEvidenceKind → String
  | explicit => "explicit"
  | voluntaryReengagement => "voluntary_reengagement"
  | repeatedInterest => "repeated_interest"
  | inferred => "inferred"

def EstimateEvidenceKind.ofText : String → Except PyError EstimateEvidenceKind :=
  enumOf "EstimateEvidenceKind" [explicit, voluntaryReengagement, repeatedInterest, inferred] text

/-! ## Costs and budgets -/

/-- A number for each scarce resource. -/
structure ScarceCosts where
  computeUnits : PyFloat
  wallTimeSeconds : PyFloat
  monetaryCost : PyFloat
  attentionUnits : PyFloat
  contextSwitchingUnits : PyFloat
  intrusionUnits : PyFloat
  interruptionUnits : PyFloat
  privacyExposureUnits : PyFloat
  opportunityCostUnits : PyFloat
  revalidationUnits : PyFloat
deriving DecidableEq

namespace ScarceCosts

/-- The numbers with the names of their fields, in order. -/
def named (costs : ScarceCosts) : List (String × PyFloat) :=
  [("compute_units", costs.computeUnits), ("wall_time_seconds", costs.wallTimeSeconds),
   ("monetary_cost", costs.monetaryCost), ("attention_units", costs.attentionUnits),
   ("context_switching_units", costs.contextSwitchingUnits),
   ("intrusion_units", costs.intrusionUnits), ("interruption_units", costs.interruptionUnits),
   ("privacy_exposure_units", costs.privacyExposureUnits),
   ("opportunity_cost_units", costs.opportunityCostUnits),
   ("revalidation_units", costs.revalidationUnits)]

def values (costs : ScarceCosts) : List PyFloat := costs.named.map Prod.snd

def map (f : PyFloat → PyFloat) (costs : ScarceCosts) : ScarceCosts where
  computeUnits := f costs.computeUnits
  wallTimeSeconds := f costs.wallTimeSeconds
  monetaryCost := f costs.monetaryCost
  attentionUnits := f costs.attentionUnits
  contextSwitchingUnits := f costs.contextSwitchingUnits
  intrusionUnits := f costs.intrusionUnits
  interruptionUnits := f costs.interruptionUnits
  privacyExposureUnits := f costs.privacyExposureUnits
  opportunityCostUnits := f costs.opportunityCostUnits
  revalidationUnits := f costs.revalidationUnits

def zipWith (f : PyFloat → PyFloat → PyFloat) (costs other : ScarceCosts) : ScarceCosts where
  computeUnits := f costs.computeUnits other.computeUnits
  wallTimeSeconds := f costs.wallTimeSeconds other.wallTimeSeconds
  monetaryCost := f costs.monetaryCost other.monetaryCost
  attentionUnits := f costs.attentionUnits other.attentionUnits
  contextSwitchingUnits := f costs.contextSwitchingUnits other.contextSwitchingUnits
  intrusionUnits := f costs.intrusionUnits other.intrusionUnits
  interruptionUnits := f costs.interruptionUnits other.interruptionUnits
  privacyExposureUnits := f costs.privacyExposureUnits other.privacyExposureUnits
  opportunityCostUnits := f costs.opportunityCostUnits other.opportunityCostUnits
  revalidationUnits := f costs.revalidationUnits other.revalidationUnits

/-- The fields read off a mapping that has exactly them. -/
def ofDict? (numbers : Dict PyFloat) : Option ScarceCosts := do
  guard (numbers.rows.length = 10)
  return {
    computeUnits := ← numbers.get? "compute_units"
    wallTimeSeconds := ← numbers.get? "wall_time_seconds"
    monetaryCost := ← numbers.get? "monetary_cost"
    attentionUnits := ← numbers.get? "attention_units"
    contextSwitchingUnits := ← numbers.get? "context_switching_units"
    intrusionUnits := ← numbers.get? "intrusion_units"
    interruptionUnits := ← numbers.get? "interruption_units"
    privacyExposureUnits := ← numbers.get? "privacy_exposure_units"
    opportunityCostUnits := ← numbers.get? "opportunity_cost_units"
    revalidationUnits := ← numbers.get? "revalidation_units" }

def check (costs : ScarceCosts) : Except PyError Unit := do
  requireNonNegative costs.computeUnits "compute units"
  requireNonNegative costs.wallTimeSeconds "wall time"
  requireNonNegative costs.monetaryCost "monetary cost"
  requireNonNegative costs.attentionUnits "attention units"
  requireNonNegative costs.contextSwitchingUnits "context switching cost"
  requireNonNegative costs.intrusionUnits "intrusion cost"
  requireNonNegative costs.interruptionUnits "interruption units"
  requireNonNegative costs.privacyExposureUnits "privacy exposure"
  requireNonNegative costs.opportunityCostUnits "opportunity cost"
  requireNonNegative costs.revalidationUnits "revalidation cost"

end ScarceCosts

/-- `ScarceCognitionCostSnapshot`. -/
structure ScarceCognitionCostSnapshot extends ScarceCosts where
  checked : toScarceCosts.check = .ok ()
deriving DecidableEq

namespace ScarceCognitionCostSnapshot

def create (costs : ScarceCosts) : Except PyError ScarceCognitionCostSnapshot :=
  checkedBy costs.check fun checked => ⟨costs, checked⟩

/-- `ScarceCognitionCostSnapshot()`. -/
def zero : ScarceCognitionCostSnapshot :=
  ⟨⟨.finite 0, .finite 0, .finite 0, .finite 0, .finite 0, .finite 0, .finite 0, .finite 0,
    .finite 0, .finite 0⟩, by decide⟩

/-- `plus`. -/
def plus (r other : ScarceCognitionCostSnapshot) : Except PyError ScarceCognitionCostSnapshot :=
  create (r.zipWith (fun a c => (a.plus c).rounded) other.toScarceCosts)

/-- `minus`. -/
def minus (r other : ScarceCognitionCostSnapshot) : Except PyError ScarceCognitionCostSnapshot := do
  let left := r.zipWith (fun a c => (a.minus c).rounded) other.toScarceCosts
  let floor := PyFloat.ofRat (-1 / 10 ^ 9)
  refuse (left.values.any fun value => !floor.atMost value)
    "scarce cognition use exceeds its budget"
  create (left.map (PyFloat.maximum (.finite 0)))

/-- `fits_within`. -/
def fitsWithin (r ceiling : ScarceCognitionCostSnapshot) : Bool :=
  (r.values.zip ceiling.values).all fun (value, limit) => value.atMost (limit.plus .tolerance)

end ScarceCognitionCostSnapshot

/-- What the id of a budget is made of. -/
structure ScarceBudgetContent where
  maxCandidates : Int
  ceiling : ScarceCognitionCostSnapshot
deriving DecidableEq

/-- `ScarceCognitionBudget`. -/
structure ScarceCognitionBudget extends ScarceBudgetContent where
  budgetId : String
deriving DecidableEq

/-- `fits_within`. -/
def ScarceCognitionBudget.fitsWithin (budget other : ScarceCognitionBudget) : Bool :=
  budget.maxCandidates ≤ other.maxCandidates && budget.ceiling.fitsWithin other.ceiling

/-! ## Mandates and bases -/

/-- What the id of a mandate revision is made of. -/
structure MandateContent where
  mandateId : String
  revision : Int
  issuerId : String
  issuerKind : MandateIssuerKind
  authorityId : String
  authorizationRef : String
  scope : String
  candidateClasses : List String
  candidateDomains : List String
  budget : ScarceCognitionBudget
  minimumIntervalSeconds : PyFloat
  triggerEventTypes : List String
  issuedAt : Datetime
  expiresAt : Datetime
  maximumInterruptionUnits : PyFloat
  surfacingPolicy : SurfacingPolicy
  informationUsePurpose : String
  informationPolicyIds : List String
deriving BEq, ReflBEq

/-- `ReconsiderationMandate`. -/
structure ReconsiderationMandate extends MandateContent where
  revisionId : String
deriving BEq, ReflBEq

/-- What the id of a revocation is made of. -/
structure RevocationContent where
  mandateId : String
  mandateRevisionId : String
  issuerId : String
  authorityId : String
  authorizationRef : String
  reason : String
  revokedAt : Datetime
deriving BEq, ReflBEq

/-- `ReconsiderationMandateRevocation`. -/
structure ReconsiderationMandateRevocation extends RevocationContent where
  revocationId : String
deriving BEq, ReflBEq

/-- What a basis names: exactly one of the two. -/
inductive CognitiveBasis
  | liveGoverningIntent (ref : GoverningIntentRef)
  | reconsiderationMandate (revisionId : String)
deriving DecidableEq

/-- `mandate_revision_id`. -/
def CognitiveBasis.mandateRevisionId : CognitiveBasis → Option String
  | reconsiderationMandate revisionId => some revisionId
  | liveGoverningIntent _ => none

/-- `live_intent_ref`. -/
def CognitiveBasis.liveIntentRef : CognitiveBasis → Option GoverningIntentRef
  | liveGoverningIntent ref => some ref
  | reconsiderationMandate _ => none

/-- `CurrentCognitiveBasis`. -/
structure CurrentCognitiveBasis where
  basis : CognitiveBasis
  basisId : String
deriving DecidableEq

/-! ## Candidates -/

/-- `HistoricalCognitionRef`. -/
structure HistoricalCognitionRef where
  kind : HistoricalCognitionKind
  inquiryId : String
  epochId : String
  historicalCausalCursor : Int
  historicalGoverningIntentRefs : List GoverningIntentRef
  historicalEvidenceRefs : List String
  governedInformationIds : List String
deriving DecidableEq

/-- `EvidenceBackedEstimate`. -/
structure EvidenceBackedEstimate where
  value : PyFloat
  kind : EstimateEvidenceKind
  confidence : PyFloat
  evidenceRefs : List String
  observedAt : Datetime
  validUntil : Datetime
deriving BEq, ReflBEq

/-- `ReconsiderationFeatureSnapshot`. -/
structure ReconsiderationFeatureSnapshot where
  unresolvedness : PyFloat
  evidenceFreshness : PyFloat
  meaningfulNewEvidence : PyFloat
  opportunityWindow : PyFloat
  currentBasisValidity : PyFloat
  valueAlignmentEstimate : Option EvidenceBackedEstimate
  expectedOutcomeValue : Option EvidenceBackedEstimate
  motivationEstimate : Option EvidenceBackedEstimate
  provenanceRefs : List String
deriving BEq, ReflBEq

namespace ReconsiderationFeatureSnapshot

variable (features : ReconsiderationFeatureSnapshot)

/-- `estimates`. -/
def estimates : List EvidenceBackedEstimate :=
  [features.valueAlignmentEstimate, features.expectedOutcomeValue,
   features.motivationEstimate].filterMap id

/-- `critical_features_known`. -/
def criticalFeaturesKnown : Bool :=
  features.valueAlignmentEstimate.isSome && features.expectedOutcomeValue.isSome &&
    features.motivationEstimate.isSome

end ReconsiderationFeatureSnapshot

/-- `ReconsiderationSeed`; the constructor sorts the references and the ids. -/
structure ReconsiderationSeed where
  inquiryId : String
  domain : String
  currentEvidenceRefs : List String
  governedInformationIds : List String
  features : ReconsiderationFeatureSnapshot
  costs : ScarceCognitionCostSnapshot
deriving BEq, ReflBEq

/-- `ReconsiderationCandidateInput`; the constructor sorts the decisions. -/
structure ReconsiderationCandidateInput where
  candidateId : String
  historical : HistoricalCognitionRef
  derivedInformationId : String
  seed : ReconsiderationSeed
  informationAccessDecisionIds : List String
deriving BEq, ReflBEq

/-- What the id of a candidate is made of: neither its scan nor its cut. -/
structure CandidateIdentity where
  historical : HistoricalCognitionRef
  currentBasis : CurrentCognitiveBasis
  domain : String
  currentEvidenceRefs : List String
  features : ReconsiderationFeatureSnapshot
  costs : ScarceCognitionCostSnapshot
deriving BEq, ReflBEq

/-- `ReconsiderationCandidate`. -/
structure ReconsiderationCandidate extends CandidateIdentity where
  candidateId : String
  derivedInformationId : String
  scanRequestId : String
  currentCausalCursor : Int
  informationAccessDecisionIds : List String
  createdAt : Datetime
deriving BEq, ReflBEq

/-! ## Policies and scans -/

/-- `feature_weights`. -/
structure FeatureWeights where
  unresolvedness : PyFloat
  evidenceFreshness : PyFloat
  meaningfulNewEvidence : PyFloat
  opportunityWindow : PyFloat
  currentBasisValidity : PyFloat
  valueAlignmentEstimate : PyFloat
  expectedOutcomeValue : PyFloat
  motivationEstimate : PyFloat
deriving DecidableEq

/-- The fields read off a mapping that has exactly them. -/
def FeatureWeights.ofDict? (weights : Dict PyFloat) : Option FeatureWeights := do
  guard (weights.rows.length = 8)
  return {
    unresolvedness := ← weights.get? "unresolvedness"
    evidenceFreshness := ← weights.get? "evidence_freshness"
    meaningfulNewEvidence := ← weights.get? "meaningful_new_evidence"
    opportunityWindow := ← weights.get? "opportunity_window"
    currentBasisValidity := ← weights.get? "current_basis_validity"
    valueAlignmentEstimate := ← weights.get? "value_alignment_estimate"
    expectedOutcomeValue := ← weights.get? "expected_outcome_value"
    motivationEstimate := ← weights.get? "motivation_estimate" }

def FeatureWeights.values (weights : FeatureWeights) : List PyFloat :=
  [weights.unresolvedness, weights.evidenceFreshness, weights.meaningfulNewEvidence,
   weights.opportunityWindow, weights.currentBasisValidity, weights.valueAlignmentEstimate,
   weights.expectedOutcomeValue, weights.motivationEstimate]

/-- The default `feature_weights`. -/
def defaultFeatureWeights : FeatureWeights where
  unresolvedness := .finite 1
  evidenceFreshness := .finite (1 / 2)
  meaningfulNewEvidence := .finite 1
  opportunityWindow := .finite (1 / 2)
  currentBasisValidity := .finite 1
  valueAlignmentEstimate := .finite 1
  expectedOutcomeValue := .finite 1
  motivationEstimate := .finite (1 / 2)

/-- The default `cost_weights`. -/
def defaultCostWeights : ScarceCosts where
  computeUnits := .finite 1
  wallTimeSeconds := .ofRat (1 / 100)
  monetaryCost := .finite 1
  attentionUnits := .finite 1
  contextSwitchingUnits := .finite 1
  intrusionUnits := .finite 1
  interruptionUnits := .finite 1
  privacyExposureUnits := .finite 1
  opportunityCostUnits := .finite 1
  revalidationUnits := .finite 1

/-- What the id of a policy is made of. -/
structure ReconsiderationPolicyContent where
  version : String
  allocatorId : String
  allocatorVersion : Int
  featureWeights : FeatureWeights
  costWeights : ScarceCosts
  minimumNetVoc : PyFloat
  foregroundEventTypes : List String
deriving DecidableEq

/-- `ReconsiderationPolicySnapshot`. -/
structure ReconsiderationPolicySnapshot extends ReconsiderationPolicyContent where
  policyId : String
deriving DecidableEq

/-- What the id of a scan is made of. -/
structure ReconsiderationScanContent where
  basis : CurrentCognitiveBasis
  policyId : String
  budget : ScarceCognitionBudget
  maximumInterruptionUnits : PyFloat
  candidateInputs : List ReconsiderationCandidateInput
  informationUsePurpose : String
  informationPolicyIds : List String
  requestedAt : Datetime
  triggerEventId : Option String
  foregroundDemandRefs : List String
deriving BEq, ReflBEq

/-- `ReconsiderationScanRequest`. -/
structure ReconsiderationScanRequest extends ReconsiderationScanContent where
  requestId : String
deriving BEq, ReflBEq

/-! ## Allocations, traces and proposals -/

/-- `HardGateOutcome`. -/
structure HardGateOutcome where
  gate : String
  passed : Bool
  reason : String
deriving DecidableEq

/-- `ReconsiderationDecision`. -/
structure ReconsiderationDecision where
  candidateId : String
  label : AllocationLabel
  expectedBenefit : PyFloat
  totalCost : PyFloat
  netVoc : PyFloat
  hardGates : List HardGateOutcome
  causalReason : String
  bindingConstraint : Option String
deriving DecidableEq

/-- What the id of an allocation is made of. -/
structure ReconsiderationAllocationContent where
  derivedInformationId : String
  scanRequestId : String
  policyId : String
  policyVersion : String
  budget : ScarceCognitionBudget
  decisions : List ReconsiderationDecision
  consumedCandidates : Int
  consumed : ScarceCognitionCostSnapshot
  remaining : ScarceCognitionCostSnapshot
  foregroundDemandRefs : List String
  allocatedAt : Datetime
deriving BEq, ReflBEq

/-- `ReconsiderationAllocation`. -/
structure ReconsiderationAllocation extends ReconsiderationAllocationContent where
  allocationId : String
deriving BEq, ReflBEq

/-- `selected_candidate_ids`. -/
def ReconsiderationAllocationContent.selectedCandidateIds
    (allocation : ReconsiderationAllocationContent) : List String :=
  (allocation.decisions.filter fun decision => decision.label = .selected).map
    ReconsiderationDecision.candidateId

/-- What the id of a trace is made of. -/
structure AllocationTraceContent where
  derivedInformationId : String
  allocationId : String
  candidateId : String
  candidateProvenance : HistoricalCognitionRef
  currentBasis : CurrentCognitiveBasis
  featureSnapshot : ReconsiderationFeatureSnapshot
  costSnapshot : ScarceCognitionCostSnapshot
  hardGateOutcomes : List HardGateOutcome
  policyId : String
  policyVersion : String
  estimatorVersion : String
  budget : ScarceCognitionBudget
  decision : AllocationLabel
  causalReason : String
  bindingConstraint : Option String
  behaviorPolicyProbability : Option PyFloat
  subsequentOutcomeRefs : List String
  recordedAt : Datetime
deriving BEq, ReflBEq

/-- `CognitiveAllocationTrace`. -/
structure CognitiveAllocationTrace extends AllocationTraceContent where
  traceId : String
deriving BEq, ReflBEq

/-- What the id of an outcome link is made of. -/
structure OutcomeLinkContent where
  traceId : String
  outcomeRef : String
  outcomeKind : String
  linkedAt : Datetime
deriving BEq, ReflBEq

/-- `CognitiveAllocationOutcomeLink`. -/
structure CognitiveAllocationOutcomeLink extends OutcomeLinkContent where
  linkId : String
deriving BEq, ReflBEq

/-- What the id of a proposal is made of. -/
structure ShadowProposalContent where
  candidateId : String
  allocationId : String
  allocationTraceId : String
  historicalInquiryId : String
  templateKind : String
  authorityCeiling : SurfacingPolicy
  createdAt : Datetime
deriving BEq, ReflBEq

/-- `ReconsiderationShadowProposal`. -/
structure ReconsiderationShadowProposal extends ShadowProposalContent where
  proposalId : String
deriving BEq, ReflBEq

/-! ## What the constructors check -/

/-- `_canonical_id` on each kind of content: the digests, without their prefixes. -/
structure ReconsiderationIds where
  budget : ScarceBudgetContent → String
  mandate : MandateContent → String
  revocation : RevocationContent → String
  basis : CognitiveBasis → String
  policy : ReconsiderationPolicyContent → String
  scan : ReconsiderationScanContent → String
  candidate : CandidateIdentity → String
  allocation : ReconsiderationAllocationContent → String
  trace : AllocationTraceContent → String
  link : OutcomeLinkContent → String
  proposal : ShadowProposalContent → String

/-- `json.dumps` with `allow_nan=False`, of these floats. -/
def requireCompliant (values : List PyFloat) : Except PyError Unit :=
  refuse (∃ value ∈ values, value.isFinite = false) "Out of range float values are not JSON compliant"

/-- A reference to a canonical event. -/
def isEventRef (ref : String) : Prop := "event:".toList <+: ref.toList

instance (ref : String) : Decidable (isEventRef ref) :=
  inferInstanceAs (Decidable ("event:".toList <+: ref.toList))

/-- `ref.removeprefix("event:")`. -/
def referredEvent (ref : String) : String :=
  if isEventRef ref then String.ofList (ref.toList.drop 6) else ref

def HistoricalCognitionRef.check (historical : HistoricalCognitionRef) : Except PyError Unit := do
  requireText historical.inquiryId "historical inquiry id"
  requireText historical.epochId "historical epoch id"
  refuse (historical.historicalCausalCursor ≤ 0)
    "historical causal cursor must identify a canonical cut"
  refuse (historical.historicalGoverningIntentRefs = [])
    "historical cognition requires its original governing intent"
  requireUnique historical.historicalEvidenceRefs "historical evidence refs" true
  requireUnique historical.governedInformationIds "governed historical information" true

def EvidenceBackedEstimate.check (estimate : EvidenceBackedEstimate) : Except PyError Unit := do
  requireBounded estimate.value "estimate value"
  requireBounded estimate.confidence "estimate confidence"
  requireUnique estimate.evidenceRefs "estimate evidence refs" true
  refuse (estimate.validUntil.instant ≤ estimate.observedAt.instant)
    "estimate validity must follow its observation"

def ReconsiderationFeatureSnapshot.check (features : ReconsiderationFeatureSnapshot) :
    Except PyError Unit := do
  requireBounded features.unresolvedness "unresolvedness"
  requireBounded features.evidenceFreshness "evidence freshness"
  requireBounded features.meaningfulNewEvidence "meaningful new evidence"
  requireBounded features.opportunityWindow "opportunity window"
  requireBounded features.currentBasisValidity "current basis validity"
  requireUnique features.provenanceRefs "feature provenance refs" true

/-- `ReconsiderationSeed.__post_init__`. -/
def ReconsiderationSeed.create (seed : ReconsiderationSeed) : Except PyError ReconsiderationSeed := do
  requireText seed.inquiryId "reconsideration seed inquiry id"
  requireText seed.domain "reconsideration seed domain"
  requireUnique seed.currentEvidenceRefs "current revalidation evidence" true
  requireUnique seed.governedInformationIds "seed governed information" true
  return { seed with
    currentEvidenceRefs := seed.currentEvidenceRefs.insertionSort (· ≤ ·)
    governedInformationIds := seed.governedInformationIds.insertionSort (· ≤ ·) }

/-- `ReconsiderationCandidateInput.__post_init__`. -/
def ReconsiderationCandidateInput.create (input : ReconsiderationCandidateInput) :
    Except PyError ReconsiderationCandidateInput := do
  requireText input.candidateId "reconsideration input candidate id"
  requireOpaqueId input.derivedInformationId "reconsideration candidate derived information id"
  refuse (input.historical.inquiryId ≠ input.seed.inquiryId)
    "candidate input historical Inquiry differs from its seed"
  requireUnique input.informationAccessDecisionIds "reconsideration access decisions" true
  return { input with
    informationAccessDecisionIds := input.informationAccessDecisionIds.insertionSort (· ≤ ·) }

def HardGateOutcome.check (gate : HardGateOutcome) : Except PyError Unit := do
  requireText gate.gate "hard gate name"
  requireText gate.reason "hard gate reason"

def ReconsiderationDecision.check (decision : ReconsiderationDecision) : Except PyError Unit := do
  requireText decision.candidateId "allocation candidate id"
  requireNonNegative decision.expectedBenefit "expected reconsideration benefit"
  requireNonNegative decision.totalCost "total reconsideration cost"
  refuse (decision.netVoc.isFinite = false) "reconsideration NetVOC must be finite"
  refuse ((decision.expectedBenefit.minus decision.totalCost).rounded ≠ decision.netVoc)
    "reconsideration NetVOC does not match its terms"
  refuse (decision.hardGates = []) "allocation decision requires hard-gate outcomes"
  requireText decision.causalReason "allocation causal reason"

def CognitiveAllocationTrace.check (trace : CognitiveAllocationTrace) : Except PyError Unit := do
  requireText trace.traceId "allocation trace id"
  requireText trace.allocationId "trace allocation id"
  requireText trace.candidateId "trace candidate id"
  requireText trace.policyId "trace policy id"
  requireText trace.policyVersion "trace policy version"
  requireText trace.estimatorVersion "trace estimator version"
  requireText trace.causalReason "trace causal reason"
  requireOpaqueId trace.derivedInformationId "trace derived information id"
  trace.behaviorPolicyProbability.toList.forM (requireBounded · "behavior policy probability")
  requireUnique trace.subsequentOutcomeRefs "subsequent outcome refs" false

def ReconsiderationShadowProposal.check (proposal : ReconsiderationShadowProposal) :
    Except PyError Unit := do
  requireText proposal.proposalId "shadow proposal id"
  requireText proposal.candidateId "shadow proposal candidate"
  requireText proposal.allocationId "shadow proposal allocation"
  requireText proposal.allocationTraceId "shadow proposal trace"
  requireText proposal.historicalInquiryId "shadow proposal historical inquiry"
  requireText proposal.templateKind "shadow proposal template kind"

section Checks

variable (ids : ReconsiderationIds)

def ScarceCognitionBudget.check (budget : ScarceCognitionBudget) : Except PyError Unit := do
  requireText budget.budgetId "scarce cognition budget id"
  refuse (budget.maxCandidates ≤ 0) "scarce cognition budget must permit at least one candidate"
  refuse (budget.budgetId ≠ "scarce-cognition-budget:" ++ ids.budget budget.toScarceBudgetContent)
    "scarce cognition budget id does not match its ceiling"

def ReconsiderationMandate.check (mandate : ReconsiderationMandate) : Except PyError Unit := do
  requireText mandate.mandateId "mandate id"
  requireText mandate.revisionId "mandate revision id"
  requireText mandate.issuerId "mandate issuer"
  requireText mandate.authorityId "mandate authority"
  requireText mandate.authorizationRef "mandate authorization ref"
  requireText mandate.scope "mandate scope"
  requireText mandate.informationUsePurpose "mandate information-use purpose"
  refuse (mandate.revision ≤ 0) "mandate revision must be positive"
  refuse (¬isEventRef mandate.authorizationRef) "mandate authorization must cite a canonical event"
  requireUnique mandate.candidateClasses "mandate candidate classes" true
  requireUnique mandate.candidateDomains "mandate candidate domains" true
  requireUnique mandate.triggerEventTypes "mandate trigger event types" false
  requireUnique mandate.informationPolicyIds "mandate information policy ids" true
  requireNonNegative mandate.minimumIntervalSeconds "mandate minimum interval"
  requireNonNegative mandate.maximumInterruptionUnits "mandate interruption ceiling"
  refuse (mandate.expiresAt.instant ≤ mandate.issuedAt.instant) "mandate expiry must follow issuance"
  refuse (mandate.revisionId ≠ "reconsideration-mandate:" ++ ids.mandate mandate.toMandateContent)
    "mandate revision id does not match immutable content"

/-- `ReconsiderationMandate.create`. -/
def ReconsiderationMandate.create (content : MandateContent) :
    Except PyError ReconsiderationMandate := do
  requireCompliant [content.minimumIntervalSeconds, content.maximumInterruptionUnits]
  let content : MandateContent := { content with
    candidateClasses := ordered content.candidateClasses
    candidateDomains := ordered content.candidateDomains
    triggerEventTypes := ordered content.triggerEventTypes
    informationPolicyIds := ordered content.informationPolicyIds }
  constructed (ReconsiderationMandate.check ids)
    { content with revisionId := "reconsideration-mandate:" ++ ids.mandate content }

def ReconsiderationMandateRevocation.check (revocation : ReconsiderationMandateRevocation) :
    Except PyError Unit := do
  requireText revocation.revocationId "mandate revocation id"
  requireText revocation.mandateId "revoked mandate id"
  requireText revocation.mandateRevisionId "revoked mandate revision"
  requireText revocation.issuerId "revocation issuer"
  requireText revocation.authorityId "revocation authority"
  requireText revocation.authorizationRef "revocation authorization ref"
  requireText revocation.reason "revocation reason"
  refuse (¬isEventRef revocation.authorizationRef)
    "revocation authorization must cite a canonical event"
  refuse (revocation.revocationId ≠
      "reconsideration-revocation:" ++ ids.revocation revocation.toRevocationContent)
    "mandate revocation id does not match immutable content"

/-- `ReconsiderationMandateRevocation.create`. -/
def ReconsiderationMandateRevocation.create (content : RevocationContent) :
    Except PyError ReconsiderationMandateRevocation :=
  constructed (ReconsiderationMandateRevocation.check ids)
    { content with revocationId := "reconsideration-revocation:" ++ ids.revocation content }

/-- `CurrentCognitiveBasis.from_live_intent` and `from_mandate`. -/
def CurrentCognitiveBasis.create (basis : CognitiveBasis) : CurrentCognitiveBasis where
  basis
  basisId := "cognitive-basis:" ++ ids.basis basis

/-- `ReconsiderationCandidate.identity_for`. -/
def CandidateIdentity.idFor (identity : CandidateIdentity) : String :=
  "reconsideration-candidate:" ++
    ids.candidate { identity with currentEvidenceRefs := ordered identity.currentEvidenceRefs }

def ReconsiderationCandidate.check (candidate : ReconsiderationCandidate) : Except PyError Unit := do
  requireText candidate.candidateId "reconsideration candidate id"
  requireText candidate.scanRequestId "reconsideration scan id"
  requireText candidate.domain "reconsideration candidate domain"
  requireOpaqueId candidate.derivedInformationId "candidate derived information id"
  refuse (candidate.currentCausalCursor ≤ candidate.historical.historicalCausalCursor)
    "reconsideration requires a fresh current causal cut"
  requireUnique candidate.currentEvidenceRefs "candidate current evidence" true
  requireUnique candidate.informationAccessDecisionIds "candidate information access decisions" true
  refuse (candidate.candidateId ≠ candidate.toCandidateIdentity.idFor ids)
    "reconsideration candidate id does not match semantic basis"

/-- `ReconsiderationCandidate.create`; its `candidateId` is not used. -/
def ReconsiderationCandidate.create (candidate : ReconsiderationCandidate) :
    Except PyError ReconsiderationCandidate :=
  let identity := { candidate.toCandidateIdentity with
    currentEvidenceRefs := ordered candidate.currentEvidenceRefs }
  constructed (ReconsiderationCandidate.check ids) { candidate with
    toCandidateIdentity := identity
    candidateId := identity.idFor ids
    informationAccessDecisionIds := ordered candidate.informationAccessDecisionIds }

def stableReconsiderationAllocatorId : String := "stable-greedy-reconsideration"

def stableReconsiderationAllocatorVersion : Int := 1

/-- `ReconsiderationPolicySnapshot.__post_init__`; that the weights are complete is checked
where they are read. -/
def ReconsiderationPolicySnapshot.check (policy : ReconsiderationPolicySnapshot) :
    Except PyError Unit := do
  requireText policy.policyId "reconsideration policy id"
  requireText policy.version "reconsideration policy version"
  requireText policy.allocatorId "reconsideration allocator id"
  refuse (policy.allocatorVersion ≤ 0) "reconsideration allocator version must be positive"
  (policy.featureWeights.values ++ policy.costWeights.values).forM
    (requireNonNegative · "reconsideration policy weight")
  requireNonNegative policy.minimumNetVoc "minimum reconsideration NetVOC"
  requireUnique policy.foregroundEventTypes "foreground event types" true
  refuse (policy.policyId ≠
      "reconsideration-policy:" ++ ids.policy policy.toReconsiderationPolicyContent)
    "reconsideration policy identity is inconsistent"

/-- `weights or default`, which must be complete. -/
def weightsOr {ω : Type} (numbers : Dict PyFloat) (ofDict? : Dict PyFloat → Option ω)
    (default : ω) (message : String) : Except PyError ω :=
  if numbers.rows.isEmpty then .ok default
  else match ofDict? numbers with
    | some weights => .ok weights
    | none => .error (.valueError message)

/-- `ReconsiderationPolicySnapshot.create`. -/
def ReconsiderationPolicySnapshot.create (version : String) (featureWeights : Dict PyFloat)
    (costWeights : Dict PyFloat) (minimumNetVoc : PyFloat) (foregroundEventTypes : List String) :
    Except PyError ReconsiderationPolicySnapshot := do
  requireCompliant
    (featureWeights.rows.map Prod.snd ++ costWeights.rows.map Prod.snd ++ [minimumNetVoc])
  requireText version "reconsideration policy version"
  let featureWeights ← weightsOr featureWeights FeatureWeights.ofDict? defaultFeatureWeights
    "reconsideration feature weights are incomplete"
  let costWeights ← weightsOr costWeights ScarceCosts.ofDict? defaultCostWeights
    "reconsideration cost weights are incomplete"
  let content : ReconsiderationPolicyContent :=
    { version, allocatorId := stableReconsiderationAllocatorId
      allocatorVersion := stableReconsiderationAllocatorVersion, featureWeights, costWeights
      minimumNetVoc, foregroundEventTypes := ordered foregroundEventTypes }
  constructed (ReconsiderationPolicySnapshot.check ids)
    { content with policyId := "reconsideration-policy:" ++ ids.policy content }

def ReconsiderationScanRequest.check (scan : ReconsiderationScanRequest) : Except PyError Unit := do
  requireText scan.requestId "reconsideration scan id"
  requireText scan.policyId "reconsideration scan policy"
  requireText scan.informationUsePurpose "reconsideration information purpose"
  requireNonNegative scan.maximumInterruptionUnits "scan interruption ceiling"
  refuse (scan.candidateInputs = []) "reconsideration scan requires candidate inputs"
  requireUnique (scan.candidateInputs.map fun input => input.seed.inquiryId)
    "reconsideration scan inquiry ids" true
  requireUnique (scan.candidateInputs.map fun input => input.candidateId)
    "reconsideration scan candidate ids" true
  requireUnique scan.informationPolicyIds "scan information policy ids" true
  requireUnique scan.foregroundDemandRefs "scan foreground demand refs" false
  refuse (scan.requestId ≠ "reconsideration-scan:" ++ ids.scan scan.toReconsiderationScanContent)
    "reconsideration scan id does not match immutable content"

/-- `ReconsiderationScanRequest.create`. -/
def ReconsiderationScanRequest.create (content : ReconsiderationScanContent) :
    Except PyError ReconsiderationScanRequest := do
  requireCompliant [content.maximumInterruptionUnits]
  let content : ReconsiderationScanContent := { content with
    candidateInputs := content.candidateInputs.insertionSort
      fun a c => a.seed.inquiryId ≤ c.seed.inquiryId
    informationPolicyIds := ordered content.informationPolicyIds
    foregroundDemandRefs := ordered content.foregroundDemandRefs }
  constructed (ReconsiderationScanRequest.check ids)
    { content with requestId := "reconsideration-scan:" ++ ids.scan content }

def ReconsiderationAllocation.check (allocation : ReconsiderationAllocation) :
    Except PyError Unit := do
  requireText allocation.allocationId "reconsideration allocation id"
  requireText allocation.scanRequestId "allocation scan id"
  requireText allocation.policyId "allocation policy id"
  requireText allocation.policyVersion "allocation policy version"
  requireOpaqueId allocation.derivedInformationId "allocation derived information id"
  refuse (allocation.decisions = []) "reconsideration allocation requires decisions"
  requireUnique (allocation.decisions.map ReconsiderationDecision.candidateId)
    "allocation candidate ids" true
  refuse ((allocation.selectedCandidateIds.length : Int) ≠ allocation.consumedCandidates ∨
      (allocation.selectedCandidateIds.length : Int) > allocation.budget.maxCandidates)
    "allocation candidate consumption is inconsistent"
  requireUnique allocation.foregroundDemandRefs "allocation foreground demand refs" false
  refuse (allocation.allocationId ≠
      "reconsideration-allocation:" ++ ids.allocation allocation.toReconsiderationAllocationContent)
    "allocation id does not match deterministic decision"

/-- `ReconsiderationAllocation.create`. -/
def ReconsiderationAllocation.create (content : ReconsiderationAllocationContent) :
    Except PyError ReconsiderationAllocation :=
  let content : ReconsiderationAllocationContent :=
    { content with foregroundDemandRefs := ordered content.foregroundDemandRefs }
  constructed (ReconsiderationAllocation.check ids)
    { content with allocationId := "reconsideration-allocation:" ++ ids.allocation content }

/-- `CognitiveAllocationTrace.create`. -/
def CognitiveAllocationTrace.create (derivedInformationId : String)
    (allocation : ReconsiderationAllocation) (candidate : ReconsiderationCandidate)
    (decision : ReconsiderationDecision) : Except PyError CognitiveAllocationTrace :=
  let content : AllocationTraceContent :=
    { derivedInformationId, allocationId := allocation.allocationId
      candidateId := candidate.candidateId, candidateProvenance := candidate.historical
      currentBasis := candidate.currentBasis, featureSnapshot := candidate.features
      costSnapshot := candidate.costs, hardGateOutcomes := decision.hardGates
      policyId := allocation.policyId, policyVersion := allocation.policyVersion
      estimatorVersion := "deterministic/none", budget := allocation.budget
      decision := decision.label, causalReason := decision.causalReason
      bindingConstraint := decision.bindingConstraint, behaviorPolicyProbability := none
      subsequentOutcomeRefs := [], recordedAt := allocation.allocatedAt }
  constructed CognitiveAllocationTrace.check
    { content with traceId := "cognitive-allocation-trace:" ++ ids.trace content }

def CognitiveAllocationOutcomeLink.check (link : CognitiveAllocationOutcomeLink) :
    Except PyError Unit := do
  requireText link.linkId "allocation outcome link id"
  requireText link.traceId "allocation trace id"
  requireText link.outcomeRef "allocation outcome ref"
  requireText link.outcomeKind "allocation outcome kind"
  refuse (¬isEventRef link.outcomeRef) "allocation outcome must cite a canonical event"
  refuse (link.linkId ≠ "cognitive-allocation-outcome:" ++ ids.link link.toOutcomeLinkContent)
    "allocation outcome link id does not match immutable content"

/-- `CognitiveAllocationOutcomeLink.create`. -/
def CognitiveAllocationOutcomeLink.create (content : OutcomeLinkContent) :
    Except PyError CognitiveAllocationOutcomeLink :=
  constructed (CognitiveAllocationOutcomeLink.check ids)
    { content with linkId := "cognitive-allocation-outcome:" ++ ids.link content }

/-- `ReconsiderationShadowProposal.create`. -/
def ReconsiderationShadowProposal.create (candidate : ReconsiderationCandidate)
    (allocation : ReconsiderationAllocation) (trace : CognitiveAllocationTrace) :
    Except PyError ReconsiderationShadowProposal :=
  let content : ShadowProposalContent :=
    { candidateId := candidate.candidateId, allocationId := allocation.allocationId
      allocationTraceId := trace.traceId, historicalInquiryId := candidate.historical.inquiryId
      templateKind := "historical_inquiry_reconsideration"
      authorityCeiling := .shadowQuestionOnly, createdAt := allocation.allocatedAt }
  constructed ReconsiderationShadowProposal.check
    { content with proposalId := "reconsideration-shadow-proposal:" ++ ids.proposal content }

end Checks

end Noema
