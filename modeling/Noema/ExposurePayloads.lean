import Noema.EndogenousPayloads
import Noema.ExposureModels

/-!
# Reading the records of attention telemetry

Source policies, dispositions, outcomes and feedback as their events carry them.  A version 1
policy or disposition predates the declared lineage of sources; it is read without one.
-/
namespace Noema

def attentionSourcePolicyRecorded : String := "attention.source_policy_recorded"

def attentionFeatureSchemaRecorded : String := "attention.feature_schema_recorded"

def attentionDispositionRecorded : String := "attention.disposition_recorded"

def attentionOutcomeLinked : String := "attention.disposition_outcome_linked"

def attentionFeedbackRecorded : String := "attention.disposition_feedback_recorded"

/-- `DELIBERATIVE_ATTENTION_EVENT_TYPES`. -/
def deliberativeAttentionEventTypes : List String :=
  [attentionSourcePolicyRecorded, attentionFeatureSchemaRecorded, attentionDispositionRecorded,
   attentionOutcomeLinked, attentionFeedbackRecorded]

/-! ## Source policies -/

structure SourcePolicyContent where
  version : String
  featureSchemaId : String
  sourceEventTypes : List String
  scope : String
  informationIdPayloadFields : List String
  sourceGovernanceContractVersion : Int
  recordedAt : Datetime
  sourcePrefixes : List String
  subjectPrefixes : List String
  requiredPayloadFields : List String
deriving BEq, ReflBEq

/-- `text.startswith(prefix)`. -/
def startsWith (text start : String) : Bool := start.toList.isPrefixOf text.toList

/-- `AttentionSourcePolicySnapshot.__post_init__`. -/
def SourcePolicyContent.check (content : SourcePolicyContent) (policyId : String) :
    Except PyError Unit := do
  requireText policyId "attention source policy id"
  requireText content.version "attention source policy version"
  requireText content.featureSchemaId "attention source policy schema id"
  requireText content.scope "attention source policy scope"
  requireDistinct content.sourceEventTypes "attention source event types" true
  requireDistinct content.sourcePrefixes "attention source prefixes" false
  requireDistinct content.subjectPrefixes "attention subject prefixes" false
  requireDistinct content.requiredPayloadFields "attention required payload fields" false
  requireDistinct content.informationIdPayloadFields "attention information-id payload fields" false
  refuse (content.sourceGovernanceContractVersion ≠ 1 ∧ content.sourceGovernanceContractVersion ≠ 2)
    "unsupported attention source-governance contract version"
  refuse (content.sourceGovernanceContractVersion = 2 ∧ content.informationIdPayloadFields = [])
    "attention information-id payload fields must be non-empty"
  refuse (content.sourceGovernanceContractVersion = 1 ∧ content.informationIdPayloadFields ≠ [])
    "legacy attention policy cannot declare source information fields"
  refuse (content.sourceEventTypes.any (fun value =>
      startsWith value "attention." || value = "runtime.consumer_checkpoint_advanced") = true)
    "attention telemetry cannot recursively recognize its own events"

/-- `AttentionSourcePolicySnapshot`. -/
structure AttentionSourcePolicySnapshot extends SourcePolicyContent where
  policyId : String
  checked : toSourcePolicyContent.check policyId = .ok ()

instance : BEq AttentionSourcePolicySnapshot := ⟨fun a b =>
  a.policyId == b.policyId && a.toSourcePolicyContent == b.toSourcePolicyContent⟩

namespace AttentionSourcePolicySnapshot

variable (policy : AttentionSourcePolicySnapshot)

/-- `recognizes`. -/
def recognizes (event : Event) (activatedAtSequence : Nat) : Bool :=
  event.sequence.any (activatedAtSequence < ·) &&
    policy.sourceEventTypes.contains event.type &&
    (policy.sourcePrefixes.isEmpty || policy.sourcePrefixes.any (startsWith event.source)) &&
    (policy.subjectPrefixes.isEmpty ||
      event.subject.any fun subject => policy.subjectPrefixes.any (startsWith subject)) &&
    (policy.requiredPayloadFields ++ policy.informationIdPayloadFields).all fun field =>
      (Dict.get? event.payload field).isSome

/-- The opaque id in a field. -/
def informationId (payload : Payload) (fieldName : String) : Except PyError String :=
  match payload.get fieldName with
  | .str raw => do
    requireOpaqueId raw "attention governed information id"
    return raw
  | _ => .error (.valueError
    s!"attention information-id field {fieldName} must contain an opaque id")

/-- `extract_governed_information_ids`. -/
def extractGovernedInformationIds (payload : Payload) : Except PyError (List String) := do
  refuse (policy.sourceGovernanceContractVersion ≠ 2)
    "legacy attention source policy lacks declared information lineage"
  let values ← policy.informationIdPayloadFields.mapM (informationId payload)
  refuse (ordered values = []) "attention source policy yielded no governed information"
  return ordered values

end AttentionSourcePolicySnapshot

/-! ## Dispositions -/

/-- `AttentionCostSnapshot`. -/
structure AttentionCostSnapshot where
  modelCallCount : Option Int
  inputTokens : Option Int
  outputTokens : Option Int
  wallTimeSeconds : Option PyFloat
  humanAttentionUnits : Option PyFloat
  deliberativeComputeUnits : Option PyFloat
  metricVersion : String
deriving DecidableEq

/-- `_require_non_negative` on an integer. -/
def requireCount (value : Option Int) (name : String) : Except PyError Unit :=
  refuse (value.any (· < 0) = true) s!"{name} must be non-negative"

/-- `_require_non_negative` on a float. -/
def requireAmountIfGiven (value : Option PyFloat) (name : String) : Except PyError Unit := do
  refuse (value.any (fun value => !value.isFinite) = true) s!"{name} must be finite"
  refuse (value.any (fun value => value.less (.finite 0)) = true) s!"{name} must be non-negative"

def AttentionCostSnapshot.check (costs : AttentionCostSnapshot) : Except PyError Unit := do
  requireText costs.metricVersion "attention cost metric version"
  requireCount costs.modelCallCount "model call count"
  requireCount costs.inputTokens "input token count"
  requireCount costs.outputTokens "output token count"
  requireAmountIfGiven costs.wallTimeSeconds "attention wall time"
  requireAmountIfGiven costs.humanAttentionUnits "human attention units"
  requireAmountIfGiven costs.deliberativeComputeUnits "deliberative compute units"

/-- A snapshot of features: equal if it has equal values under the same names. -/
structure FeatureSnapshot where
  values : Dict JSONScalar

instance : BEq FeatureSnapshot := ⟨fun a b =>
  a.values.rows.length == b.values.rows.length &&
    a.values.rows.all fun entry => (Dict.get? b.values entry.1).any entry.2.equals⟩

/-- `AttentionDispositionDecision`. -/
structure AttentionDispositionDecision where
  disposition : AttentionDisposition
  features : FeatureSnapshot
  situationCausalCursor : Int
  decisionMechanismId : String
  decisionMechanismVersion : String
  decisionConfigurationRef : String
  decisionRefs : List String
  governingIntentRefs : List String
  authorityCeiling : AttentionAuthorityCeiling
  governedInformationIds : List String
  validAt : Datetime
  knownAt : Datetime
  decidedAt : Datetime
  costs : AttentionCostSnapshot
deriving BEq

def AttentionDispositionDecision.check (decision : AttentionDispositionDecision) :
    Except PyError Unit := do
  refuse (decision.situationCausalCursor ≤ 0)
    "attention decision requires a positive situation cursor"
  requireText decision.decisionMechanismId "attention decision mechanism id"
  requireText decision.decisionMechanismVersion "attention decision mechanism version"
  requireText decision.decisionConfigurationRef "attention decision configuration ref"
  requireDistinct decision.decisionRefs "attention decision refs" false
  requireDistinct decision.governingIntentRefs "attention governing intent refs" true
  requireDistinct decision.governedInformationIds "attention governed information ids" true
  decision.governedInformationIds.forM (requireOpaqueId · "attention governed information id")
  refuse (decision.knownAt.instant < decision.validAt.instant ∨
      decision.decidedAt.instant < decision.knownAt.instant)
    "attention decision times must satisfy valid_at <= known_at <= decided_at"
  decision.features.values.rows.forM fun entry => do
    requireText entry.1 "attention feature name"
    refuse (entry.2.infinite = true) "attention feature values must be finite"

/-- `AttentionDispositionRecord`. -/
structure AttentionDispositionRecord where
  dispositionId : String
  sourceEventId : String
  sourceEventSequence : Int
  sourcePolicyId : String
  featureSchemaId : String
  decision : AttentionDispositionDecision
  derivedInformationId : String
  informationPolicyIds : List String
  sourceInformationAccessDecisionIds : List String
  derivedInformationAccessDecisionIds : List String
  sourceGovernanceContractVersion : Int
  admittedPredecessorHead : Int
deriving BEq

def AttentionDispositionRecord.check (record : AttentionDispositionRecord) :
    Except PyError Unit := do
  requireText record.dispositionId "attention disposition id"
  requireText record.sourceEventId "attention source event id"
  requireText record.sourcePolicyId "attention source policy id"
  requireText record.featureSchemaId "attention feature schema id"
  refuse (record.sourceEventSequence ≤ 0) "attention disposition source sequence must be positive"
  refuse (record.admittedPredecessorHead < record.sourceEventSequence)
    "attention disposition cannot precede its source event"
  refuse (record.decision.situationCausalCursor < record.sourceEventSequence)
    "attention situation cut cannot precede its source event"
  refuse (record.admittedPredecessorHead < record.decision.situationCausalCursor)
    "attention situation cut cannot follow its admitted head"
  requireOpaqueId record.derivedInformationId "attention derived information id"
  requireDistinct record.informationPolicyIds "attention information policy ids" true
  refuse (record.sourceGovernanceContractVersion ≠ 1 ∧ record.sourceGovernanceContractVersion ≠ 2)
    "unsupported attention source-governance contract version"
  requireDistinct record.sourceInformationAccessDecisionIds "attention source access decision ids"
    (record.sourceGovernanceContractVersion = 2)
  refuse (record.sourceGovernanceContractVersion = 1 ∧
      record.sourceInformationAccessDecisionIds ≠ [])
    "legacy attention disposition cannot claim source access evidence"
  requireDistinct record.derivedInformationAccessDecisionIds "attention derived access decision ids"
    true
  (record.informationPolicyIds ++ record.sourceInformationAccessDecisionIds ++
    record.derivedInformationAccessDecisionIds).forM
      (requireOpaqueId · "attention governance reference")

/-- The opportunity that a disposition is for. -/
structure OpportunityKey where
  sourceEventId : String
  sourcePolicyId : String
  featureSchemaId : String
deriving DecidableEq

def AttentionDispositionRecord.key (record : AttentionDispositionRecord) : OpportunityKey :=
  ⟨record.sourceEventId, record.sourcePolicyId, record.featureSchemaId⟩

/-! ## Outcomes and feedback -/

/-- What outcomes and feedback cite of the information governance. -/
structure GovernanceRefs where
  governedInformationIds : List String
  derivedInformationId : String
  informationPolicyIds : List String
  informationAccessDecisionIds : List String
deriving DecidableEq

/-- `_validate_governance_refs`. -/
def GovernanceRefs.check (refs : GovernanceRefs) : Except PyError Unit := do
  requireDistinct refs.governedInformationIds "attention linked governed information ids" true
  requireDistinct refs.informationPolicyIds "attention linked information policy ids" true
  requireDistinct refs.informationAccessDecisionIds "attention linked access decision ids" true
  (refs.governedInformationIds ++ [refs.derivedInformationId] ++ refs.informationPolicyIds ++
    refs.informationAccessDecisionIds).forM (requireOpaqueId · "attention governance reference")

/-- The refs as `create` orders them. -/
def GovernanceRefs.normalized (refs : GovernanceRefs) : GovernanceRefs :=
  { refs with
    governedInformationIds := ordered refs.governedInformationIds
    informationPolicyIds := ordered refs.informationPolicyIds
    informationAccessDecisionIds := ordered refs.informationAccessDecisionIds }

/-- `AttentionDispositionOutcomeLink`. -/
structure AttentionDispositionOutcomeLink where
  linkId : String
  dispositionId : String
  outcomeEventId : String
  outcome : AttentionOutcome
  observedAt : Datetime
  recordedAt : Datetime
  refs : GovernanceRefs
  admittedPredecessorHead : Int
deriving BEq

def AttentionDispositionOutcomeLink.check (link : AttentionDispositionOutcomeLink) :
    Except PyError Unit := do
  requireText link.linkId "attention outcome link id"
  requireText link.dispositionId "attention outcome disposition id"
  requireText link.outcomeEventId "attention outcome event id"
  refuse (link.recordedAt.instant < link.observedAt.instant)
    "attention outcome cannot be recorded before observation"
  refuse (link.admittedPredecessorHead ≤ 0) "attention outcome requires a positive admitted head"
  link.refs.check

/-- `AttentionDispositionFeedbackRecord`. -/
structure AttentionDispositionFeedbackRecord where
  feedbackId : String
  dispositionId : String
  feedbackEventId : String
  feedback : AttentionFeedback
  actorId : String
  actorProvenanceRef : String
  recordedAt : Datetime
  refs : GovernanceRefs
  admittedPredecessorHead : Int
deriving BEq

def AttentionDispositionFeedbackRecord.check (record : AttentionDispositionFeedbackRecord) :
    Except PyError Unit := do
  requireText record.feedbackId "attention feedback id"
  requireText record.dispositionId "attention feedback disposition id"
  requireText record.feedbackEventId "attention feedback event id"
  requireText record.actorId "attention feedback actor id"
  requireText record.actorProvenanceRef "attention feedback actor provenance"
  refuse (record.admittedPredecessorHead ≤ 0) "attention feedback requires a positive admitted head"
  record.refs.check

/-! ## Reading -/

section Reading

variable (b : ContentBuiltins) (data : Payload)

/-- `_optional_int(data, key)`. -/
def optionalInt (key : String) : Except PyError (Option Int) :=
  match data.get key with
  | .null => .ok none
  | value => some <$> b.int value

/-- `_optional_float(data, key)`. -/
def optionalFloat (key : String) : Except PyError (Option PyFloat) :=
  match data.get key with
  | .null => .ok none
  | value => some <$> b.float value

/-- The scalars of `data.get(key, ())`. -/
def scalarsOr (key : String) : Except PyError (List JSONScalar) := do
  match Dict.get? data key with
  | none => return []
  | some value => (← value.iterate).mapM fun item =>
    match item.scalar with
    | some scalar => .ok scalar
    | none => .error (.valueError "attention feature enums must contain JSON scalar values")

def AttentionFeatureDefinition.fromDict : Except PyError AttentionFeatureDefinition := do
  let allowedValues ← scalarsOr data "allowed_values"
  let name ← itemText b.toBuiltins data "name"
  let valueType ← AttentionFeatureType.ofText (← itemText b.toBuiltins data "value_type")
  let required ← itemBool data "required"
  let policySafe ← itemBool data "policy_safe"
  let missingness ← FeatureMissingness.ofText (← itemText b.toBuiltins data "missingness")
  let sensitivity ← Classification.ofText (← textOr b.toBuiltins data "sensitivity" "internal")
  let minimum ← optionalFloat b data "minimum"
  let maximum ← optionalFloat b data "maximum"
  constructed (fun definition => definition.check b.toBuiltins)
    { name, valueType, required, policySafe, missingness, sensitivity, allowedValues,
      minimum := minimum.map .float, maximum := maximum.map .float }

/-- `AttentionFeatureDefinition.to_dict`. -/
def AttentionFeatureDefinition.toDict (definition : AttentionFeatureDefinition) : Payload :=
  .ofList
    [("name", .str definition.name),
     ("value_type", .str definition.valueType.text),
     ("required", .bool definition.required),
     ("policy_safe", .bool definition.policySafe),
     ("missingness", .str definition.missingness.text),
     ("sensitivity", .str definition.sensitivity.text),
     ("allowed_values", .list (definition.allowedValues.map JSONScalar.toJson)),
     ("minimum", (definition.minimum.map PyNumber.toJson).getD .null),
     ("maximum", (definition.maximum.map PyNumber.toJson).getD .null)]

/-- The constructor of a schema. -/
def AttentionFeatureSchemaSnapshot.make (schemaId version : String)
    (features : List AttentionFeatureDefinition) (recordedAt : Datetime) :
    Except PyError AttentionFeatureSchemaSnapshot := do
  requireText schemaId "attention feature schema id"
  requireText version "attention feature schema version"
  refuse (features = []) "attention feature schema must define at least one feature"
  if distinct : (features.map AttentionFeatureDefinition.name).Nodup then
    return { schemaId, version, features, recordedAt, distinct }
  else .error (.valueError "attention feature names must be unique")

/-- `AttentionFeatureSchemaSnapshot.create`. -/
def AttentionFeatureSchemaSnapshot.create (version : String)
    (features : List AttentionFeatureDefinition) (recordedAt : Datetime) :
    Except PyError AttentionFeatureSchemaSnapshot := do
  let normalized := features.insertionSort fun a c => a.name ≤ c.name
  let schemaId ← b.contentId "attention-feature-schema" (.ofList
    [("version", .str version),
     ("features", .list (normalized.map fun definition => definition.toDict.value)),
     ("recorded_at", .str (b.isoformat recordedAt))])
  make schemaId version normalized recordedAt

def AttentionFeatureSchemaSnapshot.fromDict : Except PyError AttentionFeatureSchemaSnapshot := do
  let schemaId ← itemText b.toBuiltins data "schema_id"
  let version ← itemText b.toBuiltins data "version"
  let features ← (← mappingsIn data "features").mapM (AttentionFeatureDefinition.fromDict b)
  let recordedAt ← requiredDatetime b.toIntentBuiltins data "recorded_at"
  let value ← make schemaId version features recordedAt
  let expected ← create b value.version value.features value.recordedAt
  refuse ((value == expected) = false)
    "attention feature schema id does not match immutable content"
  return value

/-- What the id of a source policy is made of. -/
def SourcePolicyContent.identity (content : SourcePolicyContent) : Payload :=
  .ofList ([("version", .str content.version),
     ("feature_schema_id", .str content.featureSchemaId),
     ("source_event_types", .texts content.sourceEventTypes),
     ("scope", .str content.scope),
     ("source_prefixes", .texts content.sourcePrefixes),
     ("subject_prefixes", .texts content.subjectPrefixes),
     ("required_payload_fields", .texts content.requiredPayloadFields),
     ("recorded_at", .str (b.isoformat content.recordedAt))] ++
    if content.sourceGovernanceContractVersion = 2 then
      [("information_id_payload_fields", .texts content.informationIdPayloadFields)]
    else [])

/-- The version of the contract that a record was written under. -/
def contractVersionIn : Except PyError Int :=
  match Dict.get? data "source_governance_contract_version" with
  | some value => b.int value
  | none => .ok 1

def AttentionSourcePolicySnapshot.fromDict : Except PyError AttentionSourcePolicySnapshot := do
  let contractVersion ← contractVersionIn b data
  let policyId ← itemText b.toBuiltins data "policy_id"
  let version ← itemText b.toBuiltins data "version"
  let featureSchemaId ← itemText b.toBuiltins data "feature_schema_id"
  let sourceEventTypes ← strings b.toIntentBuiltins data "source_event_types"
  let scope ← itemText b.toBuiltins data "scope"
  let informationIdPayloadFields ← if contractVersion = 2 then
      strings b.toIntentBuiltins data "information_id_payload_fields"
    else pure []
  let sourcePrefixes ← strings b.toIntentBuiltins data "source_prefixes"
  let subjectPrefixes ← strings b.toIntentBuiltins data "subject_prefixes"
  let requiredPayloadFields ← strings b.toIntentBuiltins data "required_payload_fields"
  let recordedAt ← requiredDatetime b.toIntentBuiltins data "recorded_at"
  let content : SourcePolicyContent :=
    { version, featureSchemaId, sourceEventTypes, scope, informationIdPayloadFields,
      sourceGovernanceContractVersion := contractVersion, recordedAt, sourcePrefixes,
      subjectPrefixes, requiredPayloadFields }
  let value ← checkedBy (content.check policyId) fun checked =>
    (⟨content, policyId, checked⟩ : AttentionSourcePolicySnapshot)
  let expected ← b.contentId "attention-source-policy" (content.identity b)
  refuse (policyId ≠ expected) "attention source policy id does not match immutable content"
  return value

/-- The features of a decision. -/
def featuresIn (key : String) : Except PyError FeatureSnapshot := do
  let raw ← itemMapping data key
  let entries ← raw.rows.mapM fun entry =>
    match entry.2.scalar with
    | some value => .ok (entry.1, value)
    | none => .error (.valueError "attention feature snapshot may contain only JSON scalar values")
  return ⟨.ofList entries⟩

def AttentionCostSnapshot.fromDict : Except PyError AttentionCostSnapshot := do
  let modelCallCount ← optionalInt b data "model_call_count"
  let inputTokens ← optionalInt b data "input_tokens"
  let outputTokens ← optionalInt b data "output_tokens"
  let wallTimeSeconds ← optionalFloat b data "wall_time_seconds"
  let humanAttentionUnits ← optionalFloat b data "human_attention_units"
  let deliberativeComputeUnits ← optionalFloat b data "deliberative_compute_units"
  let metricVersion ← textOr b.toBuiltins data "metric_version" "attention-cost-v1"
  constructed AttentionCostSnapshot.check
    { modelCallCount, inputTokens, outputTokens, wallTimeSeconds, humanAttentionUnits,
      deliberativeComputeUnits, metricVersion }

/-- `data.get(key, {})`, a mapping. -/
def mappingOrEmpty (key : String) : Except PyError Payload :=
  match Dict.get? data key with
  | some value => value.mapping
  | none => .ok .empty

def AttentionDispositionDecision.fromDict : Except PyError AttentionDispositionDecision := do
  let features ← featuresIn data "features"
  let disposition ← AttentionDisposition.ofText (← itemText b.toBuiltins data "disposition")
  let situationCausalCursor ← itemInt b.toIntentBuiltins data "situation_causal_cursor"
  let decisionMechanismId ← itemText b.toBuiltins data "decision_mechanism_id"
  let decisionMechanismVersion ← itemText b.toBuiltins data "decision_mechanism_version"
  let decisionConfigurationRef ← itemText b.toBuiltins data "decision_configuration_ref"
  let decisionRefs ← strings b.toIntentBuiltins data "decision_refs"
  let governingIntentRefs ← strings b.toIntentBuiltins data "governing_intent_refs"
  let authorityCeiling ←
    AttentionAuthorityCeiling.ofText (← itemText b.toBuiltins data "authority_ceiling")
  let governedInformationIds ← strings b.toIntentBuiltins data "governed_information_ids"
  let validAt ← requiredDatetime b.toIntentBuiltins data "valid_at"
  let knownAt ← requiredDatetime b.toIntentBuiltins data "known_at"
  let decidedAt ← requiredDatetime b.toIntentBuiltins data "decided_at"
  let costs ← AttentionCostSnapshot.fromDict b (← mappingOrEmpty data "costs")
  constructed AttentionDispositionDecision.check
    { disposition, features, situationCausalCursor, decisionMechanismId, decisionMechanismVersion,
      decisionConfigurationRef, decisionRefs, governingIntentRefs, authorityCeiling,
      governedInformationIds, validAt, knownAt, decidedAt, costs }

/-- What the id of a disposition is made of. -/
def OpportunityKey.identity (key : OpportunityKey) : Payload :=
  .ofList
    [("source_event_id", .str key.sourceEventId),
     ("source_policy_id", .str key.sourcePolicyId),
     ("feature_schema_id", .str key.featureSchemaId)]

/-- `AttentionDispositionRecord.create`, of a record without its id. -/
def AttentionDispositionRecord.create (record : AttentionDispositionRecord) :
    Except PyError AttentionDispositionRecord := do
  let dispositionId ← b.contentId "attention-disposition" record.key.identity
  constructed AttentionDispositionRecord.check
    { record with
      dispositionId
      informationPolicyIds := ordered record.informationPolicyIds
      sourceInformationAccessDecisionIds := ordered record.sourceInformationAccessDecisionIds
      derivedInformationAccessDecisionIds := ordered record.derivedInformationAccessDecisionIds }

/-- The access decisions of the derived artifact; a version 1 record may have them under
their old name. -/
def derivedAccessIn (contractVersion : Int) : Except PyError (List String) := do
  let derived ← strings b.toIntentBuiltins data "derived_information_access_decision_ids"
  if contractVersion = 2 ∨ derived ≠ [] then return derived
  else strings b.toIntentBuiltins data "information_access_decision_ids"

def AttentionDispositionRecord.fromDict : Except PyError AttentionDispositionRecord := do
  let contractVersion ← contractVersionIn b data
  let dispositionId ← itemText b.toBuiltins data "disposition_id"
  let sourceEventId ← itemText b.toBuiltins data "source_event_id"
  let sourceEventSequence ← itemInt b.toIntentBuiltins data "source_event_sequence"
  let sourcePolicyId ← itemText b.toBuiltins data "source_policy_id"
  let featureSchemaId ← itemText b.toBuiltins data "feature_schema_id"
  let decision ← AttentionDispositionDecision.fromDict b (← itemMapping data "decision")
  let derivedInformationId ← itemText b.toBuiltins data "derived_information_id"
  let informationPolicyIds ← strings b.toIntentBuiltins data "information_policy_ids"
  let sourceInformationAccessDecisionIds ← if contractVersion = 2 then
      strings b.toIntentBuiltins data "source_information_access_decision_ids"
    else pure []
  let derivedInformationAccessDecisionIds ← derivedAccessIn b data contractVersion
  let admittedPredecessorHead ← itemInt b.toIntentBuiltins data "admitted_predecessor_head"
  let value ← constructed AttentionDispositionRecord.check
    { dispositionId, sourceEventId, sourceEventSequence, sourcePolicyId, featureSchemaId, decision,
      derivedInformationId, informationPolicyIds, sourceInformationAccessDecisionIds,
      derivedInformationAccessDecisionIds, sourceGovernanceContractVersion := contractVersion,
      admittedPredecessorHead }
  let expected ← value.create b
  refuse ((value == expected) = false) "attention disposition id does not match its opportunity"
  return value

/-- The refs of an outcome or of feedback. -/
def GovernanceRefs.fromDict : Except PyError GovernanceRefs := do
  let governedInformationIds ← strings b.toIntentBuiltins data "governed_information_ids"
  let derivedInformationId ← itemText b.toBuiltins data "derived_information_id"
  let informationPolicyIds ← strings b.toIntentBuiltins data "information_policy_ids"
  let informationAccessDecisionIds ←
    strings b.toIntentBuiltins data "information_access_decision_ids"
  return { governedInformationIds, derivedInformationId, informationPolicyIds,
           informationAccessDecisionIds }

/-- `AttentionDispositionOutcomeLink.create`, of a link without its id. -/
def AttentionDispositionOutcomeLink.create (link : AttentionDispositionOutcomeLink) :
    Except PyError AttentionDispositionOutcomeLink := do
  let linkId ← b.contentId "attention-outcome-link"
    (.ofList [("disposition_id", .str link.dispositionId)])
  constructed AttentionDispositionOutcomeLink.check
    { link with linkId, refs := link.refs.normalized }

def AttentionDispositionOutcomeLink.fromDict : Except PyError AttentionDispositionOutcomeLink := do
  let linkId ← itemText b.toBuiltins data "link_id"
  let dispositionId ← itemText b.toBuiltins data "disposition_id"
  let outcomeEventId ← itemText b.toBuiltins data "outcome_event_id"
  let outcome ← AttentionOutcome.ofText (← itemText b.toBuiltins data "outcome")
  let observedAt ← requiredDatetime b.toIntentBuiltins data "observed_at"
  let recordedAt ← requiredDatetime b.toIntentBuiltins data "recorded_at"
  let refs ← GovernanceRefs.fromDict b data
  let admittedPredecessorHead ← itemInt b.toIntentBuiltins data "admitted_predecessor_head"
  let value ← constructed AttentionDispositionOutcomeLink.check
    { linkId, dispositionId, outcomeEventId, outcome, observedAt, recordedAt, refs,
      admittedPredecessorHead }
  let expected ← value.create b
  refuse ((value == expected) = false) "attention outcome link id does not match its disposition"
  return value

/-- What the id of feedback is made of. -/
def AttentionDispositionFeedbackRecord.identity (record : AttentionDispositionFeedbackRecord) :
    Payload :=
  .ofList
    [("disposition_id", .str record.dispositionId),
     ("feedback_event_id", .str record.feedbackEventId),
     ("feedback", .str record.feedback.text),
     ("actor_id", .str record.actorId),
     ("actor_provenance_ref", .str record.actorProvenanceRef)]

/-- `AttentionDispositionFeedbackRecord.create`, of a record without its id. -/
def AttentionDispositionFeedbackRecord.create (record : AttentionDispositionFeedbackRecord) :
    Except PyError AttentionDispositionFeedbackRecord := do
  let feedbackId ← b.contentId "attention-feedback" record.identity
  constructed AttentionDispositionFeedbackRecord.check
    { record with feedbackId, refs := record.refs.normalized }

def AttentionDispositionFeedbackRecord.fromDict :
    Except PyError AttentionDispositionFeedbackRecord := do
  let feedbackId ← itemText b.toBuiltins data "feedback_id"
  let dispositionId ← itemText b.toBuiltins data "disposition_id"
  let feedbackEventId ← itemText b.toBuiltins data "feedback_event_id"
  let feedback ← AttentionFeedback.ofText (← itemText b.toBuiltins data "feedback")
  let actorId ← itemText b.toBuiltins data "actor_id"
  let actorProvenanceRef ← itemText b.toBuiltins data "actor_provenance_ref"
  let recordedAt ← requiredDatetime b.toIntentBuiltins data "recorded_at"
  let refs ← GovernanceRefs.fromDict b data
  let admittedPredecessorHead ← itemInt b.toIntentBuiltins data "admitted_predecessor_head"
  let value ← constructed AttentionDispositionFeedbackRecord.check
    { feedbackId, dispositionId, feedbackEventId, feedback, actorId, actorProvenanceRef, recordedAt,
      refs, admittedPredecessorHead }
  let expected ← value.create b
  refuse ((value == expected) = false) "attention feedback id does not match immutable content"
  return value

end Reading

/-! ## Events -/

section Events

variable (b : ContentBuiltins) (event : Event)

/-- `_validate_envelope`. -/
def validateAttentionEnvelope (eventId subject : String) (timestamp : Datetime)
    (causationId : Option String) : Except PyError Unit :=
  refuse (event.id ≠ eventId ∨ event.subject ≠ some subject ∨
      (event.timestamp == timestamp) = false ∨ event.causationId ≠ causationId)
    "deliberative-attention event envelope is inconsistent"

def AttentionFeatureSchemaSnapshot.fromEvent : Except PyError AttentionFeatureSchemaSnapshot := do
  refuse (event.type ≠ attentionFeatureSchemaRecorded) "event is not an attention feature schema"
  let value ← fromDict b event.payload
  validateAttentionEnvelope event ("attention-feature-schema-recorded:" ++ value.schemaId)
    value.schemaId value.recordedAt none
  return value

def AttentionSourcePolicySnapshot.fromEvent : Except PyError AttentionSourcePolicySnapshot := do
  refuse (event.type ≠ attentionSourcePolicyRecorded) "event is not an attention source policy"
  let value ← fromDict b event.payload
  validateAttentionEnvelope event ("attention-source-policy-recorded:" ++ value.policyId)
    value.policyId value.recordedAt none
  return value

def AttentionDispositionRecord.fromEvent : Except PyError AttentionDispositionRecord := do
  refuse (event.type ≠ attentionDispositionRecorded) "event is not an attention disposition"
  let value ← fromDict b event.payload
  validateAttentionEnvelope event ("attention-disposition-recorded:" ++ value.dispositionId)
    value.dispositionId value.decision.decidedAt (some value.sourceEventId)
  return value

def AttentionDispositionOutcomeLink.fromEvent :
    Except PyError AttentionDispositionOutcomeLink := do
  refuse (event.type ≠ attentionOutcomeLinked) "event is not an attention outcome link"
  let value ← fromDict b event.payload
  validateAttentionEnvelope event ("attention-disposition-outcome-linked:" ++ value.linkId)
    value.dispositionId value.recordedAt (some value.outcomeEventId)
  return value

def AttentionDispositionFeedbackRecord.fromEvent :
    Except PyError AttentionDispositionFeedbackRecord := do
  refuse (event.type ≠ attentionFeedbackRecorded) "event is not an attention feedback record"
  let value ← fromDict b event.payload
  validateAttentionEnvelope event
    ("attention-disposition-feedback-recorded:" ++ value.feedbackId)
    value.dispositionId value.recordedAt (some value.feedbackEventId)
  return value

end Events

end Noema
