import Noema.ExposurePayloads
import Noema.InformationProjection

/-!
# The projection of attention exposure

`AttentionExposure` folds the canonical events: the schemas and source policies, the
opportunities that the policies recognize with what their payloads expose, and the
dispositions, outcomes and feedback on them.  Each event passes the information governance
first.  An opportunity's features and information ids are extracted when the source event is
applied, by every policy that recognizes it.

What an `apply` that raises leaves behind is not modelled: a rebuild ends there.
-/
namespace Noema

/-- `_EventReference`. -/
structure EventReference where
  eventId : String
  eventType : String
  sequence : Nat
  timestamp : Datetime

/-- A source policy, and the sequence since which it counts. -/
structure ActiveSourcePolicy where
  policy : AttentionSourcePolicySnapshot
  activatedAt : Nat

def ActiveSourcePolicy.policyId (row : ActiveSourcePolicy) : String := row.policy.policyId

/-- `RecognizedAttentionOpportunity` and its `_RecognizedSourceFacts`. -/
structure RecognizedOpportunity where
  key : OpportunityKey
  sourceEventSequence : Nat
  features : Dict JSONScalar
  governedInformationIds : List String

/-- A disposition with the sequence of its event, and whether its features are complete. -/
structure StoredDisposition where
  record : AttentionDispositionRecord
  sequence : Nat
  featureComplete : Bool

def StoredDisposition.dispositionId (row : StoredDisposition) : String := row.record.dispositionId

/-- `AttentionExposureProjection`. -/
structure AttentionExposure (b : ContentBuiltins) where
  lastEventId : Option String
  lastSequence : Nat
  events : KeyedTable EventReference.eventId
  information : InformationGovernance b.informationIds
  schemas : KeyedTable AttentionFeatureSchemaSnapshot.schemaId
  policies : KeyedTable ActiveSourcePolicy.policyId
  recognized : KeyedTable RecognizedOpportunity.key
  dispositions : KeyedTable StoredDisposition.dispositionId
  dispositionsByKey : KeyedTable AttentionDispositionRecord.key
  outcomes : KeyedTable AttentionDispositionOutcomeLink.dispositionId
  feedback : KeyedTable AttentionDispositionFeedbackRecord.feedbackId

/-- An entry that the code looks up without a check. -/
def entryAt {α : Type} (entry : Option α) (key : String) : Except PyError α :=
  match entry with
  | some value => .ok value
  | none => .error (.keyError key)

/-- An entry whose absence is refused. -/
def required {α : Type} (entry : Option α) (message : String) : Except PyError α :=
  match entry with
  | some value => .ok value
  | none => .error (.valueError message)

namespace AttentionExposure

variable {b : ContentBuiltins} (p : AttentionExposure b)

variable (b) in
/-- `_reset`. -/
def empty : AttentionExposure b where
  lastEventId := none
  lastSequence := 0
  events := .empty
  information := .empty b.informationIds
  schemas := .empty
  policies := .empty
  recognized := .empty
  dispositions := .empty
  dispositionsByKey := .empty
  outcomes := .empty
  feedback := .empty

/-! ## Governance of what is recorded -/

/-- An access decision on telemetry that allows it. -/
def allowedTelemetry (decisionId : String) : Option InformationAccessDecision :=
  (p.information.accessDecisions.find decisionId).filter fun decision =>
    decision.policyDecision.disposition = .allow &&
      decision.request.context.operation = .telemetry

/-- The information that access decisions are about. -/
def accessedBy (decisions : List InformationAccessDecision) : List String :=
  decisions.map fun decision => decision.request.informationRef.informationId

/-- `_validate_governance`. -/
def validateGovernance (refs : GovernanceRefs) : Except PyError Unit := do
  let lineage ← required ((p.information.lineage refs.derivedInformationId).filter fun lineage =>
      lineage.transformation = .derivation &&
        lineage.sourceInformationIds = refs.governedInformationIds.insertionSort (· ≤ ·))
    "attention record requires exact derived information lineage"
  let _ ← required ((p.information.binding refs.derivedInformationId).filter fun binding =>
      binding.lineageId = lineage.lineageId &&
        binding.policyIds = refs.informationPolicyIds.insertionSort (· ≤ ·))
    "attention record requires exact composed policy binding"
  let composition ← p.information.compositionFor
    (← GovernedInformationRef.create refs.derivedInformationId)
  refuse (composition.sourcePolicyIds ≠ refs.informationPolicyIds.insertionSort (· ≤ ·))
    "attention policy refs differ from canonical composition"
  let decisions ← refs.informationAccessDecisionIds.mapM fun decisionId =>
    required (p.allowedTelemetry decisionId)
      "attention record requires allowed telemetry access decisions"
  refuse (ordered (accessedBy decisions) ≠ [refs.derivedInformationId])
    "attention telemetry access does not cover its derived artifact"

/-- `_validate_source_access`. -/
def validateSourceAccess (governedInformationIds accessDecisionIds : List String)
    (situationCausalCursor : Int) : Except PyError Unit := do
  refuse (accessDecisionIds.length ≠ governedInformationIds.length)
    "attention source access receipts do not exactly cover source information"
  let decisions ← accessDecisionIds.mapM fun decisionId => do
    let decision ← required (p.allowedTelemetry decisionId)
      "attention source requires prior allowed telemetry access decisions"
    let event ← required (p.events.find ("information-access-decided:" ++ decisionId))
      "attention source requires prior allowed telemetry access decisions"
    refuse (situationCausalCursor < event.sequence)
      "attention source requires prior allowed telemetry access decisions"
    return decision
  refuse (ordered (accessedBy decisions) ≠ ordered governedInformationIds)
    "attention source access receipts do not exactly cover source information"

/-! ## Records -/

/-- Whether a record and its policy declare the lineage of sources. -/
def learningGrade (policy : AttentionSourcePolicySnapshot) (record : AttentionDispositionRecord) :
    Bool :=
  policy.sourceGovernanceContractVersion = 2 && record.sourceGovernanceContractVersion = 2

/-- `_require_actual_cut`. -/
def requireActualCut (sequence : Int) : Except PyError Unit :=
  refuse (sequence ≠ 0 ∧ p.events.rows.all (fun event => (event.sequence : Int) ≠ sequence) = true)
    "attention situation cursor is not an actual canonical head"

/-- What a disposition refers to must have been there at its causal cut. -/
def requireAvailable (cursor : Int) (reference : String) : Except PyError Unit :=
  refuse ((p.events.find reference).all (fun cited => cursor < cited.sequence) = true)
    "attention decision reference was unavailable at its causal cut"

/-- `_validate_disposition`. -/
def validateDisposition (record : AttentionDispositionRecord) (precedingHead : Nat) :
    Except PyError Unit := do
  let decision := record.decision
  refuse (record.admittedPredecessorHead ≠ precedingHead)
    "attention disposition does not cite the exact preceding head"
  let opportunity ← required (p.recognized.find record.key)
    "attention disposition lacks a label-blind recognized opportunity"
  refuse ((opportunity.sourceEventSequence : Int) ≠ record.sourceEventSequence)
    "attention disposition source sequence is inconsistent"
  let schema ← required (p.schemas.find record.featureSchemaId)
    "attention disposition references an unknown feature schema"
  let _ ← schema.validateSnapshot decision.features.values
  let row ← entryAt (p.policies.find record.sourcePolicyId) record.sourcePolicyId
  let learning := learningGrade row.policy record
  refuse (learning = true ∧ (decision.features == ⟨opportunity.features⟩) = false)
    "attention disposition features differ from its canonical source"
  refuse (learning = true ∧ decision.governedInformationIds ≠ opportunity.governedInformationIds)
    "attention disposition lineage differs from its canonical source declaration"
  let source ← entryAt (p.events.find record.sourceEventId) record.sourceEventId
  refuse (decision.decidedAt.instant < source.timestamp.instant)
    "attention disposition predates its source event"
  p.requireActualCut decision.situationCausalCursor
  (decision.decisionRefs ++ decision.governingIntentRefs).forM
    (p.requireAvailable decision.situationCausalCursor)
  if learning then
    p.validateSourceAccess opportunity.governedInformationIds
      record.sourceInformationAccessDecisionIds decision.situationCausalCursor
  p.validateGovernance
    { governedInformationIds := decision.governedInformationIds
      derivedInformationId := record.derivedInformationId
      informationPolicyIds := record.informationPolicyIds
      informationAccessDecisionIds := record.derivedInformationAccessDecisionIds }

/-- What an outcome or feedback must follow: its disposition, and later its own source. -/
def validateFollowing (what : String) (dispositionId sourceEventId : String) (refs : GovernanceRefs)
    (admittedPredecessorHead : Int) (precedingHead : Nat) (tooEarly : EventReference → Bool)
    (earlyMessage : String) : Except PyError Unit := do
  refuse (admittedPredecessorHead ≠ precedingHead)
    s!"attention {what} does not cite the exact preceding head"
  let stored ← required (p.dispositions.find dispositionId)
    s!"attention {what} references an unknown disposition"
  let source ← required ((p.events.find sourceEventId).filter fun source =>
      stored.sequence < source.sequence)
    s!"attention {what} must causally follow its disposition"
  refuse (source.timestamp.instant < stored.record.decision.decidedAt.instant)
    s!"attention {what} event time predates its disposition"
  refuse (tooEarly source = true) earlyMessage
  refuse (stored.record.derivedInformationId ∉ refs.governedInformationIds)
    s!"attention {what} does not inherit disposition information policy"
  p.validateGovernance refs

/-- `_validate_outcome`. -/
def validateOutcome (link : AttentionDispositionOutcomeLink) (precedingHead : Nat) :
    Except PyError Unit :=
  p.validateFollowing "outcome" link.dispositionId link.outcomeEventId link.refs
    link.admittedPredecessorHead precedingHead
    (fun source => link.observedAt.instant < source.timestamp.instant)
    "attention outcome observation predates its source event"

/-- `_validate_feedback`. -/
def validateFeedback (record : AttentionDispositionFeedbackRecord) (precedingHead : Nat) :
    Except PyError Unit :=
  p.validateFollowing "feedback" record.dispositionId record.feedbackEventId record.refs
    record.admittedPredecessorHead precedingHead
    (fun source => record.recordedAt.instant < source.timestamp.instant)
    "attention feedback record predates explicit feedback"

/-! ## Events -/

section Events

variable (event : Event)

/-- `FEATURE_SCHEMA_RECORDED_EVENT`. -/
def applySchema : Except PyError (AttentionExposure b) := do
  let schema ← AttentionFeatureSchemaSnapshot.fromEvent b event
  return { p with schemas := ← putImmutable p.schemas schema "feature schema" }

/-- `SOURCE_POLICY_RECORDED_EVENT`. -/
def applySourcePolicy (sequence : Nat) : Except PyError (AttentionExposure b) := do
  let policy ← AttentionSourcePolicySnapshot.fromEvent b event
  let schema ← required (p.schemas.find policy.featureSchemaId)
    "attention source policy references an unknown feature schema"
  refuse (∃ definition ∈ schema.features, definition.name ∈ policy.informationIdPayloadFields)
    "attention feature fields and information-id fields must be disjoint"
  refuse ((p.policies.find policy.policyId).any (fun row => (row.policy == policy) = false) = true)
    s!"conflicting source policy identity: {policy.policyId}"
  return { p with policies := p.policies.put ⟨policy, sequence⟩ }

/-- Whether a disposition is learning-grade and has every required feature. -/
def featureCompleteness (schema : AttentionFeatureSchemaSnapshot)
    (policy : AttentionSourcePolicySnapshot) (record : AttentionDispositionRecord) :
    Except PyError Bool :=
  if learningGrade policy record then schema.validateSnapshot record.decision.features.values
  else .ok false

/-- `DISPOSITION_RECORDED_EVENT`. -/
def applyDisposition (precedingHead sequence : Nat) : Except PyError (AttentionExposure b) := do
  let record ← AttentionDispositionRecord.fromEvent b event
  p.validateDisposition record precedingHead
  refuse ((p.dispositionsByKey.find record.key).any (fun existing => (existing == record) = false) =
      true)
    "conflicting attention dispositions for one opportunity"
  refuse ((p.dispositions.find record.dispositionId).any
      (fun existing => (existing.record == record) = false) = true)
    s!"conflicting attention disposition identity: {record.dispositionId}"
  let schema ← entryAt (p.schemas.find record.featureSchemaId) record.featureSchemaId
  let row ← entryAt (p.policies.find record.sourcePolicyId) record.sourcePolicyId
  let featureComplete ← featureCompleteness schema row.policy record
  return { p with
    dispositions := p.dispositions.put ⟨record, sequence, featureComplete⟩
    dispositionsByKey := p.dispositionsByKey.put record }

/-- `DISPOSITION_OUTCOME_LINKED_EVENT`. -/
def applyOutcome (precedingHead : Nat) : Except PyError (AttentionExposure b) := do
  let link ← AttentionDispositionOutcomeLink.fromEvent b event
  p.validateOutcome link precedingHead
  return { p with outcomes := ← putImmutable p.outcomes link "attention outcome" }

/-- `DISPOSITION_FEEDBACK_RECORDED_EVENT`. -/
def applyFeedback (precedingHead : Nat) : Except PyError (AttentionExposure b) := do
  let record ← AttentionDispositionFeedbackRecord.fromEvent b event
  p.validateFeedback record precedingHead
  return { p with feedback := ← putImmutable p.feedback record "attention feedback" }

/-- The branch of `apply` for the type of an event. -/
def applyRecord (sequence : Nat) : Except PyError (AttentionExposure b) :=
  if event.type = attentionFeatureSchemaRecorded then p.applySchema event
  else if event.type = attentionSourcePolicyRecorded then p.applySourcePolicy event sequence
  else if event.type = attentionDispositionRecorded then
    p.applyDisposition event p.lastSequence sequence
  else if event.type = attentionOutcomeLinked then p.applyOutcome event p.lastSequence
  else if event.type = attentionFeedbackRecorded then p.applyFeedback event p.lastSequence
  else .ok p

/-- The information ids that a policy finds in a payload; a version 1 policy names none. -/
def governedInformationIn (policy : AttentionSourcePolicySnapshot) (payload : Payload) :
    Except PyError (List String) :=
  if policy.sourceGovernanceContractVersion = 2 then policy.extractGovernedInformationIds payload
  else .ok []

/-- What a policy recognizes in an event. -/
def opportunityOf (row : ActiveSourcePolicy) (sequence : Nat) :
    Except PyError RecognizedOpportunity := do
  let schema ← entryAt (p.schemas.find row.policy.featureSchemaId) row.policy.featureSchemaId
  let governedInformationIds ← governedInformationIn row.policy event.payload
  let features ← schema.extractSnapshot event.payload
  return {
    key := ⟨event.id, row.policy.policyId, row.policy.featureSchemaId⟩
    sourceEventSequence := sequence, features, governedInformationIds }

/-- The policies that recognize an event. -/
def recognizing : List ActiveSourcePolicy :=
  p.policies.rows.filter fun row => row.policy.recognizes event row.activatedAt

/-- `_recognize`. -/
def recognize (sequence : Nat) : Except PyError (AttentionExposure b) := do
  if event.type ∈ deliberativeAttentionEventTypes then return p
  else do
    let opportunities ← (p.recognizing event).mapM (p.opportunityOf event · sequence)
    return { p with recognized := p.recognized.putAll opportunities }

/-- `apply`, for the state it leaves. -/
def apply : Except PyError (AttentionExposure b) :=
  match event.sequence with
  | none => .error (.valueError "attention projection requires canonical sequenced events")
  | some sequence =>
    if sequence ≤ p.lastSequence then
      if sequence = p.lastSequence ∧ p.lastEventId = some event.id then .ok p
      else .error (.valueError "attention events must be applied in canonical order")
    else if (p.events.find event.id).isSome then
      .error (.valueError "canonical event id appears at more than one sequence")
    else do
      let (information, _) ← p.information.apply b.toInformationBuiltins event
      let recorded ← { p with information }.applyRecord event sequence
      let recognized ← recorded.recognize event sequence
      return { recognized with
        events := recognized.events.put ⟨event.id, event.type, sequence, event.timestamp⟩
        lastEventId := some event.id
        lastSequence := sequence }

end Events

/-- `rebuild`. -/
def rebuild (events : List Event) : Except PyError (AttentionExposure b) :=
  Folding.run apply (empty b) events

end AttentionExposure

end Noema
