import Noema.EndogenousModels

/-!
# Reading the records of endogenous cognition

Each `fromDict` converts the fields of a payload and runs the constructor's checks, the one
of the id among them.
-/
namespace Noema

/-- What the endogenous projection runs on besides the builtins of intent: the ids. -/
structure EndogenousBuiltins extends IntentBuiltins where
  endogenousIds : EndogenousIds

section Reading

variable (b : EndogenousBuiltins) (data : Payload)

/-- The mappings in `data[key]`. -/
def mappingsIn (key : String) : Except PyError (List Payload) := do
  (← (← data.item key).iterate).mapM JSONValue.mapping

/-- `int(data.get(key, 0))`. -/
def intOrZero (key : String) : Except PyError Int :=
  match Dict.get? data key with
  | some value => b.int value
  | none => .ok 0

/-- The constructor of a record, which checks it. -/
def constructed {α : Type} (check : α → Except PyError Unit) (value : α) : Except PyError α := do
  check value
  return value

def GoverningIntentRef.fromDict : Except PyError GoverningIntentRef := do
  let goalId ← itemText b.toBuiltins data "goal_id"
  let goalRevisionId ← itemText b.toBuiltins data "goal_revision_id"
  constructed GoverningIntentRef.check { goalId, goalRevisionId }

/-- `governing_intent_refs`. -/
def governingIntentRefs : Except PyError (List GoverningIntentRef) := do
  (← mappingsIn data "governing_intent_refs").mapM (GoverningIntentRef.fromDict b)

def CognitiveResourceVector.fromDict : Except PyError CognitiveResourceVector := do
  let activities ← intOrZero b data "activities"
  let computeUnits ← floatOr b.toBuiltins data "compute_units" (.finite 0)
  let wallTimeSeconds ← floatOr b.toBuiltins data "wall_time_seconds" (.finite 0)
  let attentionUnits ← floatOr b.toBuiltins data "attention_units" (.finite 0)
  let privacyRiskUnits ← floatOr b.toBuiltins data "privacy_risk_units" (.finite 0)
  CognitiveResourceVector.create
    { activities, computeUnits, wallTimeSeconds, attentionUnits, privacyRiskUnits }

def BackgroundCognitiveBudget.fromDict : Except PyError BackgroundCognitiveBudget := do
  let budgetId ← itemText b.toBuiltins data "budget_id"
  let ceiling ← CognitiveResourceVector.fromDict b (← itemMapping data "ceiling")
  constructed (BackgroundCognitiveBudget.check b.endogenousIds) { budgetId, ceiling }

def EndogenousPolicySnapshot.fromDict : Except PyError EndogenousPolicySnapshot := do
  let policyId ← itemText b.toBuiltins data "policy_id"
  let version ← itemText b.toBuiltins data "version"
  let selectorId ← itemText b.toBuiltins data "selector_id"
  let selectorVersion ← itemInt b.toIntentBuiltins data "selector_version"
  let computeCostWeight ← itemFloat b.toBuiltins data "compute_cost_weight"
  let delayCostWeight ← itemFloat b.toBuiltins data "delay_cost_weight"
  let attentionCostWeight ← itemFloat b.toBuiltins data "attention_cost_weight"
  let opportunityCostWeight ← itemFloat b.toBuiltins data "opportunity_cost_weight"
  let privacyRiskCostWeight ← itemFloat b.toBuiltins data "privacy_risk_cost_weight"
  let minimumNetVoc ← floatOr b.toBuiltins data "minimum_net_voc" (.finite 0)
  constructed (EndogenousPolicySnapshot.check b.endogenousIds)
    { policyId, version, selectorId, selectorVersion, computeCostWeight, delayCostWeight,
      attentionCostWeight, opportunityCostWeight, privacyRiskCostWeight, minimumNetVoc }

def CognitionScanRequest.fromDict : Except PyError CognitionScanRequest := do
  let requestId ← itemText b.toBuiltins data "request_id"
  let policyId ← itemText b.toBuiltins data "policy_id"
  let budget ← BackgroundCognitiveBudget.fromDict b (← itemMapping data "budget")
  let requestedAt ← requiredDatetime b.toIntentBuiltins data "requested_at"
  let expiresAt ← requiredDatetime b.toIntentBuiltins data "expires_at"
  constructed (CognitionScanRequest.check b.endogenousIds)
    { requestId, policyId, budget, requestedAt, expiresAt }

def DreamEpoch.fromDict : Except PyError DreamEpoch := do
  let epochId ← itemText b.toBuiltins data "epoch_id"
  let consumerId ← itemText b.toBuiltins data "consumer_id"
  let triggerEventId ← itemText b.toBuiltins data "trigger_event_id"
  let eventLogCursor ← itemInt b.toIntentBuiltins data "event_log_cursor"
  let policyId ← itemText b.toBuiltins data "policy_id"
  let policyVersion ← itemText b.toBuiltins data "policy_version"
  let selectorId ← itemText b.toBuiltins data "selector_id"
  let selectorVersion ← itemInt b.toIntentBuiltins data "selector_version"
  let budget ← BackgroundCognitiveBudget.fromDict b (← itemMapping data "budget")
  let startedAt ← requiredDatetime b.toIntentBuiltins data "started_at"
  let expiresAt ← requiredDatetime b.toIntentBuiltins data "expires_at"
  let authorityCeiling ← CognitiveAuthorityCeiling.ofText
    (← itemText b.toBuiltins data "authority_ceiling")
  constructed (DreamEpoch.check b.endogenousIds)
    { epochId, consumerId, triggerEventId, eventLogCursor, policyId, policyVersion, selectorId,
      selectorVersion, budget, startedAt, expiresAt, authorityCeiling }

def Inquiry.fromDict : Except PyError Inquiry := do
  let inquiryId ← itemText b.toBuiltins data "inquiry_id"
  let question ← itemText b.toBuiltins data "question"
  let origin ← EndogenousDrive.ofText (← itemText b.toBuiltins data "origin")
  let governingIntentRefs ← governingIntentRefs b data
  let evidenceRefs ← strings b.toIntentBuiltins data "evidence_refs"
  let targetRefs ← strings b.toIntentBuiltins data "target_refs"
  let decisionRelevance ← itemFloat b.toBuiltins data "decision_relevance"
  let expectedInformationValue ← itemFloat b.toBuiltins data "expected_information_value"
  let uncertainty ← itemFloat b.toBuiltins data "uncertainty"
  let possibleMethods ← strings b.toIntentBuiltins data "possible_methods"
  let estimatedCognitiveCost ← itemFloat b.toBuiltins data "estimated_cognitive_cost"
  let privacyRiskCost ← itemFloat b.toBuiltins data "privacy_risk_cost"
  let deadline ← datetime b.toBuiltins data "deadline"
  let expiresAt ← requiredDatetime b.toIntentBuiltins data "expires_at"
  let status ← InquiryStatus.ofText (← itemText b.toBuiltins data "status")
  let causalCursor ← itemInt b.toIntentBuiltins data "causal_cursor"
  let createdAt ← requiredDatetime b.toIntentBuiltins data "created_at"
  let producerId ← itemText b.toBuiltins data "producer_id"
  constructed (Inquiry.check b.endogenousIds)
    { inquiryId, question, origin, governingIntentRefs, evidenceRefs, targetRefs,
      decisionRelevance, expectedInformationValue, uncertainty, possibleMethods,
      estimatedCognitiveCost, privacyRiskCost, deadline, expiresAt, status, causalCursor,
      createdAt, producerId }

def ValueOfCognitionInputs.fromDict : Except PyError ValueOfCognitionInputs := do
  let expectedDecisionImprovement ← itemFloat b.toBuiltins data "expected_decision_improvement"
  let computeCostBasis ← itemFloat b.toBuiltins data "compute_cost_basis"
  let delayCostBasis ← itemFloat b.toBuiltins data "delay_cost_basis"
  let attentionCostBasis ← itemFloat b.toBuiltins data "attention_cost_basis"
  let opportunityCostBasis ← itemFloat b.toBuiltins data "opportunity_cost_basis"
  let privacyRiskCostBasis ← itemFloat b.toBuiltins data "privacy_risk_cost_basis"
  constructed ValueOfCognitionInputs.check
    { expectedDecisionImprovement, computeCostBasis, delayCostBasis, attentionCostBasis,
      opportunityCostBasis, privacyRiskCostBasis }

def IntrinsicActivity.fromDict : Except PyError IntrinsicActivity := do
  let activityId ← itemText b.toBuiltins data "activity_id"
  let kind ← IntrinsicActivityKind.ofText (← itemText b.toBuiltins data "kind")
  let inquiryId ← itemText b.toBuiltins data "inquiry_id"
  let governingIntentRefs ← governingIntentRefs b data
  let evidenceRefs ← strings b.toIntentBuiltins data "evidence_refs"
  let targetRefs ← strings b.toIntentBuiltins data "target_refs"
  let vocInputs ← ValueOfCognitionInputs.fromDict b (← itemMapping data "voc_inputs")
  let urgency ← itemFloat b.toBuiltins data "urgency"
  let confidence ← itemFloat b.toBuiltins data "confidence"
  let interruptible ← itemBool data "interruptible"
  let expiresAt ← requiredDatetime b.toIntentBuiltins data "expires_at"
  let resources ← CognitiveResourceVector.fromDict b (← itemMapping data "resources")
  let causalCursor ← itemInt b.toIntentBuiltins data "causal_cursor"
  let producerId ← itemText b.toBuiltins data "producer_id"
  constructed (IntrinsicActivity.check b.endogenousIds)
    { activityId, kind, inquiryId, governingIntentRefs, evidenceRefs, targetRefs, vocInputs,
      urgency, confidence, interruptible, expiresAt, resources, causalCursor, producerId }

def ValueOfCognitionEstimate.fromDict : Except PyError ValueOfCognitionEstimate := do
  let estimateId ← itemText b.toBuiltins data "estimate_id"
  let epochId ← itemText b.toBuiltins data "epoch_id"
  let activityId ← itemText b.toBuiltins data "activity_id"
  let policyId ← itemText b.toBuiltins data "policy_id"
  let expectedDecisionImprovement ← itemFloat b.toBuiltins data "expected_decision_improvement"
  let computeCost ← itemFloat b.toBuiltins data "compute_cost"
  let delayCost ← itemFloat b.toBuiltins data "delay_cost"
  let attentionCost ← itemFloat b.toBuiltins data "attention_cost"
  let opportunityCost ← itemFloat b.toBuiltins data "opportunity_cost"
  let privacyRiskCost ← itemFloat b.toBuiltins data "privacy_risk_cost"
  let netValue ← itemFloat b.toBuiltins data "net_value"
  let evaluatedAt ← requiredDatetime b.toIntentBuiltins data "evaluated_at"
  constructed ValueOfCognitionEstimate.check
    { estimateId, epochId, activityId, policyId, expectedDecisionImprovement, computeCost,
      delayCost, attentionCost, opportunityCost, privacyRiskCost, netValue, evaluatedAt }

def AgendaDecision.fromDict : Except PyError AgendaDecision := do
  let activityId ← itemText b.toBuiltins data "activity_id"
  let disposition ← ActivityDisposition.ofText (← itemText b.toBuiltins data "disposition")
  let reason ← itemText b.toBuiltins data "reason"
  constructed AgendaDecision.check { activityId, disposition, reason }

def IntrinsicAgendaSelection.fromDict : Except PyError IntrinsicAgendaSelection := do
  let decisionsData ← mappingsIn data "decisions"
  let selectionId ← itemText b.toBuiltins data "selection_id"
  let epochId ← itemText b.toBuiltins data "epoch_id"
  let policyId ← itemText b.toBuiltins data "policy_id"
  let decisions ← decisionsData.mapM (AgendaDecision.fromDict b)
  let consumed ← CognitiveResourceVector.fromDict b (← itemMapping data "consumed")
  let remaining ← CognitiveResourceVector.fromDict b (← itemMapping data "remaining")
  let selectedAt ← requiredDatetime b.toIntentBuiltins data "selected_at"
  constructed (IntrinsicAgendaSelection.check b.endogenousIds)
    { selectionId, epochId, policyId, decisions, consumed, remaining, selectedAt }

def CalibrationExchange.fromDict : Except PyError CalibrationExchange := do
  let exchangeId ← itemText b.toBuiltins data "exchange_id"
  let proposition ← itemText b.toBuiltins data "proposition"
  let localConfidence ← itemFloat b.toBuiltins data "local_confidence"
  let peerConfidence ← itemFloat b.toBuiltins data "peer_confidence"
  let localEvidenceRefs ← strings b.toIntentBuiltins data "local_evidence_refs"
  let peerEvidenceRefs ← strings b.toIntentBuiltins data "peer_evidence_refs"
  let localAssumptions ← strings b.toIntentBuiltins data "local_assumptions"
  let peerAssumptions ← strings b.toIntentBuiltins data "peer_assumptions"
  let governingIntentRefs ← governingIntentRefs b data
  let peerId ← itemText b.toBuiltins data "peer_id"
  let protocolVersion ← itemText b.toBuiltins data "protocol_version"
  let requestProvenanceRef ← itemText b.toBuiltins data "request_provenance_ref"
  let responseProvenanceRef ← itemText b.toBuiltins data "response_provenance_ref"
  let recordedAt ← requiredDatetime b.toIntentBuiltins data "recorded_at"
  constructed (CalibrationExchange.check b.endogenousIds)
    { exchangeId, proposition, localConfidence, peerConfidence, localEvidenceRefs,
      peerEvidenceRefs, localAssumptions, peerAssumptions, governingIntentRefs, peerId,
      protocolVersion, requestProvenanceRef, responseProvenanceRef, recordedAt }

end Reading

end Noema
