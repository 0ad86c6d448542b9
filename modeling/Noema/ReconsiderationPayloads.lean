import Noema.ReconsiderationModels

/-!
# Reading the records of reconsideration

Most `fromDict`s make the record again with `create`, which also sorts, and compare its id
with the recorded one; traces and proposals are read as they are.
-/
namespace Noema

/-- What the reconsideration projection runs on besides the builtins of endogenous cognition
and of information governance: `sum` of floats, which is not the same on all versions of
Python, and the ids. -/
structure ReconsiderationBuiltins extends EndogenousBuiltins, InformationBuiltins where
  floatSum : List PyFloat → PyFloat
  reconsiderationIds : ReconsiderationIds

section Reading

variable (b : ReconsiderationBuiltins) (data : Payload)

/-- `str(data[key])`, if `data.get(key)` is not `None`. -/
def textUnlessNone (key : String) : Except PyError (Option String) :=
  match data.get key with
  | .null => .ok none
  | value => do return some (← b.str value)

/-- The recorded id of a record that was made again. -/
def withRecordedId {α : Type} (idOf : α → String) (key message : String) (value : α) :
    Except PyError α := do
  refuse (idOf value ≠ (← itemText b.toBuiltins data key)) message
  return value

def ScarceCognitionCostSnapshot.fromDict : Except PyError ScarceCognitionCostSnapshot := do
  let number (key : String) := floatOr b.toBuiltins data key (.finite 0)
  let computeUnits ← number "compute_units"
  let wallTimeSeconds ← number "wall_time_seconds"
  let monetaryCost ← number "monetary_cost"
  let attentionUnits ← number "attention_units"
  let contextSwitchingUnits ← number "context_switching_units"
  let intrusionUnits ← number "intrusion_units"
  let interruptionUnits ← number "interruption_units"
  let privacyExposureUnits ← number "privacy_exposure_units"
  let opportunityCostUnits ← number "opportunity_cost_units"
  let revalidationUnits ← number "revalidation_units"
  ScarceCognitionCostSnapshot.create
    { computeUnits, wallTimeSeconds, monetaryCost, attentionUnits, contextSwitchingUnits,
      intrusionUnits, interruptionUnits, privacyExposureUnits, opportunityCostUnits,
      revalidationUnits }

def ScarceCognitionBudget.fromDict : Except PyError ScarceCognitionBudget := do
  let budgetId ← itemText b.toBuiltins data "budget_id"
  let maxCandidates ← itemInt b.toIntentBuiltins data "max_candidates"
  let ceiling ← ScarceCognitionCostSnapshot.fromDict b (← itemMapping data "ceiling")
  constructed (ScarceCognitionBudget.check b.reconsiderationIds)
    { budgetId, maxCandidates, ceiling }

def ReconsiderationMandate.fromDict : Except PyError ReconsiderationMandate := do
  let mandateId ← itemText b.toBuiltins data "mandate_id"
  let revision ← itemInt b.toIntentBuiltins data "revision"
  let issuerId ← itemText b.toBuiltins data "issuer_id"
  let issuerKind ← MandateIssuerKind.ofText (← itemText b.toBuiltins data "issuer_kind")
  let authorityId ← itemText b.toBuiltins data "authority_id"
  let authorizationRef ← itemText b.toBuiltins data "authorization_ref"
  let scope ← itemText b.toBuiltins data "scope"
  let candidateClasses ← strings b.toIntentBuiltins data "candidate_classes"
  let candidateDomains ← strings b.toIntentBuiltins data "candidate_domains"
  let budget ← ScarceCognitionBudget.fromDict b (← itemMapping data "budget")
  let minimumIntervalSeconds ← itemFloat b.toBuiltins data "minimum_interval_seconds"
  let triggerEventTypes ← strings b.toIntentBuiltins data "trigger_event_types"
  let issuedAt ← requiredDatetime b.toIntentBuiltins data "issued_at"
  let expiresAt ← requiredDatetime b.toIntentBuiltins data "expires_at"
  let maximumInterruptionUnits ← itemFloat b.toBuiltins data "maximum_interruption_units"
  let surfacingPolicy ← SurfacingPolicy.ofText (← itemText b.toBuiltins data "surfacing_policy")
  let informationUsePurpose ← itemText b.toBuiltins data "information_use_purpose"
  let informationPolicyIds ← strings b.toIntentBuiltins data "information_policy_ids"
  let mandate ← ReconsiderationMandate.create b.reconsiderationIds
    { mandateId, revision, issuerId, issuerKind, authorityId, authorizationRef, scope,
      candidateClasses, candidateDomains, budget, minimumIntervalSeconds, triggerEventTypes,
      issuedAt, expiresAt, maximumInterruptionUnits, surfacingPolicy, informationUsePurpose,
      informationPolicyIds }
  withRecordedId b data ReconsiderationMandate.revisionId "revision_id"
    "mandate revision id does not match immutable content" mandate

def ReconsiderationMandateRevocation.fromDict :
    Except PyError ReconsiderationMandateRevocation := do
  let mandateId ← itemText b.toBuiltins data "mandate_id"
  let mandateRevisionId ← itemText b.toBuiltins data "mandate_revision_id"
  let issuerId ← itemText b.toBuiltins data "issuer_id"
  let authorityId ← itemText b.toBuiltins data "authority_id"
  let authorizationRef ← itemText b.toBuiltins data "authorization_ref"
  let reason ← itemText b.toBuiltins data "reason"
  let revokedAt ← requiredDatetime b.toIntentBuiltins data "revoked_at"
  let revocation ← ReconsiderationMandateRevocation.create b.reconsiderationIds
    { mandateId, mandateRevisionId, issuerId, authorityId, authorizationRef, reason, revokedAt }
  withRecordedId b data ReconsiderationMandateRevocation.revocationId "revocation_id"
    "mandate revocation id does not match immutable content" revocation

/-- What a basis names, by its kind. -/
def CognitiveBasis.fromDict : Except PyError CognitiveBasis := do
  match ← itemText b.toBuiltins data "kind" with
  | "live_governing_intent" =>
    let ref ← GoverningIntentRef.fromDict b.toEndogenousBuiltins
      (← itemMapping data "live_intent_ref")
    return .liveGoverningIntent ref
  | "reconsideration_mandate" =>
    return .reconsiderationMandate (← itemText b.toBuiltins data "mandate_revision_id")
  | kind => .error (.valueError s!"'{kind}' is not a valid CognitiveBasisKind")

def CurrentCognitiveBasis.fromDict : Except PyError CurrentCognitiveBasis := do
  let basis ← CognitiveBasis.fromDict b data
  withRecordedId b data CurrentCognitiveBasis.basisId "basis_id"
    "current cognitive basis id does not match immutable content"
    (.create b.reconsiderationIds basis)

def HistoricalCognitionRef.fromDict : Except PyError HistoricalCognitionRef := do
  let refs ← data.item "historical_governing_intent_refs"
  let kind ← HistoricalCognitionKind.ofText (← itemText b.toBuiltins data "kind")
  let inquiryId ← itemText b.toBuiltins data "inquiry_id"
  let epochId ← itemText b.toBuiltins data "epoch_id"
  let historicalCausalCursor ← itemInt b.toIntentBuiltins data "historical_causal_cursor"
  let historicalGoverningIntentRefs ← (← refs.iterate).mapM fun ref => do
    GoverningIntentRef.fromDict b.toEndogenousBuiltins (← ref.mapping)
  let historicalEvidenceRefs ← strings b.toIntentBuiltins data "historical_evidence_refs"
  let governedInformationIds ← strings b.toIntentBuiltins data "governed_information_ids"
  constructed HistoricalCognitionRef.check
    { kind, inquiryId, epochId, historicalCausalCursor, historicalGoverningIntentRefs,
      historicalEvidenceRefs, governedInformationIds }

def EvidenceBackedEstimate.fromDict : Except PyError EvidenceBackedEstimate := do
  let value ← itemFloat b.toBuiltins data "value"
  let kind ← EstimateEvidenceKind.ofText (← itemText b.toBuiltins data "kind")
  let confidence ← itemFloat b.toBuiltins data "confidence"
  let evidenceRefs ← strings b.toIntentBuiltins data "evidence_refs"
  let observedAt ← requiredDatetime b.toIntentBuiltins data "observed_at"
  let validUntil ← requiredDatetime b.toIntentBuiltins data "valid_until"
  constructed EvidenceBackedEstimate.check
    { value, kind, confidence, evidenceRefs, observedAt, validUntil }

/-- The estimate under a key, if there is one. -/
def estimateIn (key : String) : Except PyError (Option EvidenceBackedEstimate) :=
  match data.get key with
  | .null => .ok none
  | value => do return some (← EvidenceBackedEstimate.fromDict b (← value.mapping))

def ReconsiderationFeatureSnapshot.fromDict : Except PyError ReconsiderationFeatureSnapshot := do
  let unresolvedness ← itemFloat b.toBuiltins data "unresolvedness"
  let evidenceFreshness ← itemFloat b.toBuiltins data "evidence_freshness"
  let meaningfulNewEvidence ← itemFloat b.toBuiltins data "meaningful_new_evidence"
  let opportunityWindow ← itemFloat b.toBuiltins data "opportunity_window"
  let currentBasisValidity ← itemFloat b.toBuiltins data "current_basis_validity"
  let valueAlignmentEstimate ← estimateIn b data "value_alignment_estimate"
  let expectedOutcomeValue ← estimateIn b data "expected_outcome_value"
  let motivationEstimate ← estimateIn b data "motivation_estimate"
  let provenanceRefs ← strings b.toIntentBuiltins data "provenance_refs"
  constructed ReconsiderationFeatureSnapshot.check
    { unresolvedness, evidenceFreshness, meaningfulNewEvidence, opportunityWindow,
      currentBasisValidity, valueAlignmentEstimate, expectedOutcomeValue, motivationEstimate,
      provenanceRefs }

/-- The seed of a candidate input. -/
def ReconsiderationSeed.fromDict : Except PyError ReconsiderationSeed := do
  let inquiryId ← itemText b.toBuiltins data "inquiry_id"
  let domain ← itemText b.toBuiltins data "domain"
  let currentEvidenceRefs ← strings b.toIntentBuiltins data "current_evidence_refs"
  let governedInformationIds ← strings b.toIntentBuiltins data "governed_information_ids"
  let features ← ReconsiderationFeatureSnapshot.fromDict b (← itemMapping data "features")
  let costs ← ScarceCognitionCostSnapshot.fromDict b (← itemMapping data "costs")
  ReconsiderationSeed.create
    { inquiryId, domain, currentEvidenceRefs, governedInformationIds, features, costs }

def ReconsiderationCandidateInput.fromDict : Except PyError ReconsiderationCandidateInput := do
  let seed ← ReconsiderationSeed.fromDict b (← itemMapping data "seed")
  let candidateId ← itemText b.toBuiltins data "candidate_id"
  let historical ← HistoricalCognitionRef.fromDict b (← itemMapping data "historical")
  let derivedInformationId ← itemText b.toBuiltins data "derived_information_id"
  let informationAccessDecisionIds ←
    strings b.toIntentBuiltins data "information_access_decision_ids"
  ReconsiderationCandidateInput.create
    { candidateId, historical, derivedInformationId, seed, informationAccessDecisionIds }

/-- The numbers of a mapping. -/
def numbersIn (key : String) : Except PyError (Dict PyFloat) := do
  let rows ← (← itemMapping data key).rows.mapM fun row => do
    return (row.1, ← b.float row.2)
  return .ofList rows

def ReconsiderationPolicySnapshot.fromDict : Except PyError ReconsiderationPolicySnapshot := do
  let version ← itemText b.toBuiltins data "version"
  let featureWeights ← numbersIn b data "feature_weights"
  let costWeights ← numbersIn b data "cost_weights"
  let minimumNetVoc ← itemFloat b.toBuiltins data "minimum_net_voc"
  let foregroundEventTypes ← strings b.toIntentBuiltins data "foreground_event_types"
  let policy ← ReconsiderationPolicySnapshot.create b.reconsiderationIds version featureWeights
    costWeights minimumNetVoc foregroundEventTypes
  withRecordedId b data ReconsiderationPolicySnapshot.policyId "policy_id"
    "reconsideration policy id does not match immutable content" policy

def ReconsiderationScanRequest.fromDict : Except PyError ReconsiderationScanRequest := do
  let inputs ← data.item "candidate_inputs"
  let basis ← CurrentCognitiveBasis.fromDict b (← itemMapping data "basis")
  let policyId ← itemText b.toBuiltins data "policy_id"
  let budget ← ScarceCognitionBudget.fromDict b (← itemMapping data "budget")
  let maximumInterruptionUnits ← itemFloat b.toBuiltins data "maximum_interruption_units"
  let candidateInputs ← (← inputs.iterate).mapM fun input => do
    ReconsiderationCandidateInput.fromDict b (← input.mapping)
  let informationUsePurpose ← itemText b.toBuiltins data "information_use_purpose"
  let informationPolicyIds ← strings b.toIntentBuiltins data "information_policy_ids"
  let requestedAt ← requiredDatetime b.toIntentBuiltins data "requested_at"
  let triggerEventId ← textUnlessNone b data "trigger_event_id"
  let foregroundDemandRefs ← strings b.toIntentBuiltins data "foreground_demand_refs"
  let scan ← ReconsiderationScanRequest.create b.reconsiderationIds
    { basis, policyId, budget, maximumInterruptionUnits, candidateInputs, informationUsePurpose,
      informationPolicyIds, requestedAt, triggerEventId, foregroundDemandRefs }
  withRecordedId b data ReconsiderationScanRequest.requestId "request_id"
    "reconsideration scan id does not match immutable content" scan

def ReconsiderationCandidate.fromDict : Except PyError ReconsiderationCandidate := do
  let scanRequestId ← itemText b.toBuiltins data "scan_request_id"
  let derivedInformationId ← itemText b.toBuiltins data "derived_information_id"
  let historical ← HistoricalCognitionRef.fromDict b (← itemMapping data "historical")
  let currentBasis ← CurrentCognitiveBasis.fromDict b (← itemMapping data "current_basis")
  let domain ← itemText b.toBuiltins data "domain"
  let currentCausalCursor ← itemInt b.toIntentBuiltins data "current_causal_cursor"
  let currentEvidenceRefs ← strings b.toIntentBuiltins data "current_evidence_refs"
  let informationAccessDecisionIds ←
    strings b.toIntentBuiltins data "information_access_decision_ids"
  let features ← ReconsiderationFeatureSnapshot.fromDict b (← itemMapping data "features")
  let costs ← ScarceCognitionCostSnapshot.fromDict b (← itemMapping data "costs")
  let createdAt ← requiredDatetime b.toIntentBuiltins data "created_at"
  let candidate ← ReconsiderationCandidate.create b.reconsiderationIds
    { candidateId := "", scanRequestId, derivedInformationId, historical, currentBasis, domain,
      currentCausalCursor, currentEvidenceRefs, informationAccessDecisionIds, features, costs,
      createdAt }
  withRecordedId b data ReconsiderationCandidate.candidateId "candidate_id"
    "reconsideration candidate id does not match semantic basis" candidate

def HardGateOutcome.fromDict : Except PyError HardGateOutcome := do
  let gate ← itemText b.toBuiltins data "gate"
  let passed ← itemBool data "passed"
  let reason ← itemText b.toBuiltins data "reason"
  constructed HardGateOutcome.check { gate, passed, reason }

def ReconsiderationDecision.fromDict : Except PyError ReconsiderationDecision := do
  let gates ← data.item "hard_gates"
  let candidateId ← itemText b.toBuiltins data "candidate_id"
  let label ← AllocationLabel.ofText (← itemText b.toBuiltins data "label")
  let expectedBenefit ← itemFloat b.toBuiltins data "expected_benefit"
  let totalCost ← itemFloat b.toBuiltins data "total_cost"
  let netVoc ← itemFloat b.toBuiltins data "net_voc"
  let hardGates ← (← gates.iterate).mapM fun gate => do
    HardGateOutcome.fromDict b (← gate.mapping)
  let causalReason ← itemText b.toBuiltins data "causal_reason"
  let bindingConstraint ← textUnlessNone b data "binding_constraint"
  constructed ReconsiderationDecision.check
    { candidateId, label, expectedBenefit, totalCost, netVoc, hardGates, causalReason,
      bindingConstraint }

def ReconsiderationAllocation.fromDict : Except PyError ReconsiderationAllocation := do
  let items ← data.item "decisions"
  let derivedInformationId ← itemText b.toBuiltins data "derived_information_id"
  let scanRequestId ← itemText b.toBuiltins data "scan_request_id"
  let policyId ← itemText b.toBuiltins data "policy_id"
  let policyVersion ← itemText b.toBuiltins data "policy_version"
  let budget ← ScarceCognitionBudget.fromDict b (← itemMapping data "budget")
  let decisions ← (← items.iterate).mapM fun item => do
    ReconsiderationDecision.fromDict b (← item.mapping)
  let consumedCandidates ← itemInt b.toIntentBuiltins data "consumed_candidates"
  let consumed ← ScarceCognitionCostSnapshot.fromDict b (← itemMapping data "consumed")
  let remaining ← ScarceCognitionCostSnapshot.fromDict b (← itemMapping data "remaining")
  let foregroundDemandRefs ← strings b.toIntentBuiltins data "foreground_demand_refs"
  let allocatedAt ← requiredDatetime b.toIntentBuiltins data "allocated_at"
  let allocation ← ReconsiderationAllocation.create b.reconsiderationIds
    { derivedInformationId, scanRequestId, policyId, policyVersion, budget, decisions,
      consumedCandidates, consumed, remaining, foregroundDemandRefs, allocatedAt }
  withRecordedId b data ReconsiderationAllocation.allocationId "allocation_id"
    "allocation id does not match deterministic decision" allocation

def CognitiveAllocationTrace.fromDict : Except PyError CognitiveAllocationTrace := do
  let gates ← data.item "hard_gate_outcomes"
  let traceId ← itemText b.toBuiltins data "trace_id"
  let derivedInformationId ← itemText b.toBuiltins data "derived_information_id"
  let allocationId ← itemText b.toBuiltins data "allocation_id"
  let candidateId ← itemText b.toBuiltins data "candidate_id"
  let candidateProvenance ← HistoricalCognitionRef.fromDict b
    (← itemMapping data "candidate_provenance")
  let currentBasis ← CurrentCognitiveBasis.fromDict b (← itemMapping data "current_basis")
  let featureSnapshot ← ReconsiderationFeatureSnapshot.fromDict b
    (← itemMapping data "feature_snapshot")
  let costSnapshot ← ScarceCognitionCostSnapshot.fromDict b (← itemMapping data "cost_snapshot")
  let hardGateOutcomes ← (← gates.iterate).mapM fun gate => do
    HardGateOutcome.fromDict b (← gate.mapping)
  let policyId ← itemText b.toBuiltins data "policy_id"
  let policyVersion ← itemText b.toBuiltins data "policy_version"
  let estimatorVersion ← itemText b.toBuiltins data "estimator_version"
  let budget ← ScarceCognitionBudget.fromDict b (← itemMapping data "budget")
  let decision ← AllocationLabel.ofText (← itemText b.toBuiltins data "decision")
  let causalReason ← itemText b.toBuiltins data "causal_reason"
  let bindingConstraint ← textUnlessNone b data "binding_constraint"
  let behaviorPolicyProbability ← match data.get "behavior_policy_probability" with
    | .null => .ok none
    | value => some <$> b.float value
  let subsequentOutcomeRefs ← strings b.toIntentBuiltins data "subsequent_outcome_refs"
  let recordedAt ← requiredDatetime b.toIntentBuiltins data "recorded_at"
  let trace ← constructed CognitiveAllocationTrace.check
    { traceId, derivedInformationId, allocationId, candidateId, candidateProvenance, currentBasis,
      featureSnapshot, costSnapshot, hardGateOutcomes, policyId, policyVersion, estimatorVersion,
      budget, decision, causalReason, bindingConstraint, behaviorPolicyProbability,
      subsequentOutcomeRefs, recordedAt }
  refuse (trace.behaviorPolicyProbability.isSome = true)
    "deterministic v1 traces cannot record behavior propensities"
  return trace

def CognitiveAllocationOutcomeLink.fromDict : Except PyError CognitiveAllocationOutcomeLink := do
  let traceId ← itemText b.toBuiltins data "trace_id"
  let outcomeRef ← itemText b.toBuiltins data "outcome_ref"
  let outcomeKind ← itemText b.toBuiltins data "outcome_kind"
  let linkedAt ← requiredDatetime b.toIntentBuiltins data "linked_at"
  let link ← CognitiveAllocationOutcomeLink.create b.reconsiderationIds
    { traceId, outcomeRef, outcomeKind, linkedAt }
  withRecordedId b data CognitiveAllocationOutcomeLink.linkId "link_id"
    "allocation outcome link id does not match immutable content" link

def ReconsiderationShadowProposal.fromDict : Except PyError ReconsiderationShadowProposal := do
  let proposalId ← itemText b.toBuiltins data "proposal_id"
  let candidateId ← itemText b.toBuiltins data "candidate_id"
  let allocationId ← itemText b.toBuiltins data "allocation_id"
  let allocationTraceId ← itemText b.toBuiltins data "allocation_trace_id"
  let historicalInquiryId ← itemText b.toBuiltins data "historical_inquiry_id"
  let templateKind ← itemText b.toBuiltins data "template_kind"
  let authorityCeiling ← SurfacingPolicy.ofText (← itemText b.toBuiltins data "authority_ceiling")
  let createdAt ← requiredDatetime b.toIntentBuiltins data "created_at"
  constructed ReconsiderationShadowProposal.check
    { proposalId, candidateId, allocationId, allocationTraceId, historicalInquiryId,
      templateKind, authorityCeiling, createdAt }

end Reading

end Noema
