import Noema.RecordStorage
import Noema.RecordUpcasters
import Noema.WorkRecordStorage

/-!
# Writing the records of governance and attention

How information policies, attention source policies and dispositions are written into
payloads and events.  A record of the first contract is written without the fields of the
second, in an event of version 1; an information policy is always written in version 2.
-/
namespace Noema

/-! ## Payloads -/

/-- The fields of `HoldConstraint.to_dict`. -/
def HoldConstraint.fields (hold : HoldConstraint) : List (String × JSONValue) :=
  [("hold_id", .str hold.holdId), ("authority_id", .str hold.authorityId),
   ("active", .bool hold.active)]

def HoldConstraint.toDict (hold : HoldConstraint) : Payload := .ofList hold.fields

section Payloads

variable (b : ContentBuiltins)

/-- The fields of `RetentionPolicy.to_dict`. -/
def RetentionPolicy.fields (retention : RetentionPolicy) : List (String × JSONValue) :=
  [("retain_until", isoformatOrNone b retention.retainUntil),
   ("delete_after", isoformatOrNone b retention.deleteAfter),
   ("deletion_required", .bool retention.deletionRequired),
   ("holds", .list (retention.holds.map fun hold => hold.toDict.value))]

def RetentionPolicy.toDict (retention : RetentionPolicy) : Payload := .ofList (retention.fields b)

/-- The fields of `InformationPolicy.to_dict`. -/
def InformationPolicy.fields (policy : InformationPolicy) : List (String × JSONValue) :=
  [("policy_id", .str policy.policyId), ("version", .int policy.version),
   ("origin_domains", .texts policy.originDomains),
   ("classification", .str policy.classification.text),
   ("allowed_purposes", .texts policy.allowedPurposes),
   ("allowed_recipients", .texts policy.allowedRecipients),
   ("allowed_trust_domains", .texts policy.allowedTrustDomains),
   ("allowed_localities", .texts policy.allowedLocalities),
   ("allowed_providers", .texts policy.allowedProviders),
   ("cross_agent_sharing", .bool policy.crossAgentSharing),
   ("retention", (policy.retention.toDict b).value),
   ("disclosure_forms", .texts (policy.disclosureForms.map DisclosureForm.text)),
   ("declassification_authorities", .texts policy.declassificationAuthorities),
   ("recorded_at", .str (b.isoformat policy.recordedAt)),
   ("allowed_secondary_uses", .texts (policy.allowedSecondaryUses.map InformationOperation.text)),
   ("secondary_use_semantics_version", .int policy.secondaryUseSemanticsVersion)]

def InformationPolicy.toDict (policy : InformationPolicy) : Payload := .ofList (policy.fields b)

/-- The fields of `AttentionSourcePolicySnapshot.to_dict`. -/
def AttentionSourcePolicySnapshot.fields (policy : AttentionSourcePolicySnapshot) :
    List (String × JSONValue) :=
  [("policy_id", .str policy.policyId), ("version", .str policy.version),
   ("feature_schema_id", .str policy.featureSchemaId),
   ("source_event_types", .texts policy.sourceEventTypes), ("scope", .str policy.scope),
   ("source_prefixes", .texts policy.sourcePrefixes),
   ("subject_prefixes", .texts policy.subjectPrefixes),
   ("required_payload_fields", .texts policy.requiredPayloadFields),
   ("recorded_at", .str (b.isoformat policy.recordedAt))] ++
  if policy.sourceGovernanceContractVersion = 2 then
    [("information_id_payload_fields", .texts policy.informationIdPayloadFields),
     ("source_governance_contract_version", .int 2)]
  else []

def AttentionSourcePolicySnapshot.toDict (policy : AttentionSourcePolicySnapshot) : Payload :=
  .ofList (policy.fields b)

/-- A number or `None`. -/
def JSONValue.ofInt? (value : Option Int) : JSONValue := value.elim .null .int

def JSONValue.ofFloat? (value : Option PyFloat) : JSONValue := value.elim .null .float

/-- The fields of `AttentionCostSnapshot.to_dict`. -/
def AttentionCostSnapshot.fields (costs : AttentionCostSnapshot) : List (String × JSONValue) :=
  [("model_call_count", .ofInt? costs.modelCallCount),
   ("input_tokens", .ofInt? costs.inputTokens), ("output_tokens", .ofInt? costs.outputTokens),
   ("wall_time_seconds", .ofFloat? costs.wallTimeSeconds),
   ("human_attention_units", .ofFloat? costs.humanAttentionUnits),
   ("deliberative_compute_units", .ofFloat? costs.deliberativeComputeUnits),
   ("metric_version", .str costs.metricVersion)]

def AttentionCostSnapshot.toDict (costs : AttentionCostSnapshot) : Payload := .ofList costs.fields

/-- `dict(self.features)`. -/
def FeatureSnapshot.toDict (features : FeatureSnapshot) : JSONValue :=
  .obj (features.values.rows.map fun entry => (entry.1, entry.2.toJson))

/-- The fields of `AttentionDispositionDecision.to_dict`. -/
def AttentionDispositionDecision.fields (decision : AttentionDispositionDecision) :
    List (String × JSONValue) :=
  [("disposition", .str decision.disposition.text), ("features", decision.features.toDict),
   ("situation_causal_cursor", .int decision.situationCausalCursor),
   ("decision_mechanism_id", .str decision.decisionMechanismId),
   ("decision_mechanism_version", .str decision.decisionMechanismVersion),
   ("decision_configuration_ref", .str decision.decisionConfigurationRef),
   ("decision_refs", .texts decision.decisionRefs),
   ("governing_intent_refs", .texts decision.governingIntentRefs),
   ("authority_ceiling", .str "internal_attention_only"),
   ("governed_information_ids", .texts decision.governedInformationIds),
   ("valid_at", .str (b.isoformat decision.validAt)),
   ("known_at", .str (b.isoformat decision.knownAt)),
   ("decided_at", .str (b.isoformat decision.decidedAt)),
   ("costs", decision.costs.toDict.value)]

def AttentionDispositionDecision.toDict (decision : AttentionDispositionDecision) : Payload :=
  .ofList (decision.fields b)

/-- The fields of `AttentionDispositionRecord.to_dict`. -/
def AttentionDispositionRecord.fields (record : AttentionDispositionRecord) :
    List (String × JSONValue) :=
  [("disposition_id", .str record.dispositionId),
   ("source_event_id", .str record.sourceEventId),
   ("source_event_sequence", .int record.sourceEventSequence),
   ("source_policy_id", .str record.sourcePolicyId),
   ("feature_schema_id", .str record.featureSchemaId),
   ("decision", (record.decision.toDict b).value),
   ("derived_information_id", .str record.derivedInformationId),
   ("information_policy_ids", .texts record.informationPolicyIds),
   ("admitted_predecessor_head", .int record.admittedPredecessorHead)] ++
  if record.sourceGovernanceContractVersion = 1 then
    [("information_access_decision_ids", .texts record.derivedInformationAccessDecisionIds)]
  else
    [("source_information_access_decision_ids", .texts record.sourceInformationAccessDecisionIds),
     ("derived_information_access_decision_ids",
       .texts record.derivedInformationAccessDecisionIds),
     ("source_governance_contract_version", .int 2)]

def AttentionDispositionRecord.toDict (record : AttentionDispositionRecord) : Payload :=
  .ofList (record.fields b)

/-! ## Events -/

/-- `InformationPolicy.to_event`. -/
def InformationPolicy.toEvent (source : String) (policy : InformationPolicy) :
    Except PyError Event := do
  requireText source "event source"
  let event ← governanceEvent "information.policy_recorded"
    ("information-policy-recorded:" ++ policy.policyId) source policy.policyId policy.recordedAt
    (policy.toDict b)
  return event.migrated event.payload

/-- `_event`, with what an event checks of its own fields. -/
def attentionEvent (eventType eventId source subject : String) (timestamp : Datetime)
    (payload : Payload) (causationId : Option String) (schemaVersion : Int) :
    Except PyError Event := do
  requireText source "event source"
  if hpos : 0 < schemaVersion.toNat then
    return { type := eventType, source, payload, subject := some subject, id := eventId, timestamp,
             correlationId := none, causationId, priority := 0, sequence := none,
             metadata := .empty, schemaVersion := schemaVersion.toNat, schemaVersion_pos := hpos }
  else .error (.valueError "event schema_version must be positive")

/-- `AttentionSourcePolicySnapshot.to_event`. -/
def AttentionSourcePolicySnapshot.toEvent (source : String)
    (policy : AttentionSourcePolicySnapshot) : Except PyError Event :=
  attentionEvent attentionSourcePolicyRecorded
    ("attention-source-policy-recorded:" ++ policy.policyId) source policy.policyId
    policy.recordedAt (policy.toDict b) none policy.sourceGovernanceContractVersion

/-- `AttentionDispositionRecord.to_event`. -/
def AttentionDispositionRecord.toEvent (source : String) (record : AttentionDispositionRecord) :
    Except PyError Event :=
  attentionEvent attentionDispositionRecorded
    ("attention-disposition-recorded:" ++ record.dispositionId) source record.dispositionId
    record.decision.decidedAt (record.toDict b) (some record.sourceEventId)
    record.sourceGovernanceContractVersion

end Payloads

theorem attentionEvent_ok {eventType eventId source subject : String} {timestamp : Datetime}
    {payload : Payload} {causationId : Option String} {schemaVersion : Int}
    (hsource : blank source = false) (hpos : 0 < schemaVersion.toNat) :
    ∃ event, attentionEvent eventType eventId source subject timestamp payload causationId
        schemaVersion = .ok event ∧
      event.type = eventType ∧ event.payload = payload ∧ event.id = eventId ∧
      event.subject = some subject ∧ event.timestamp = timestamp ∧
      event.causationId = causationId := by
  have hgiven : requireText source "event source" = .ok () := if_neg (by simp [hsource])
  unfold attentionEvent
  rw [hgiven, ok_bind, dif_pos hpos]
  exact ⟨_, rfl, rfl, rfl, rfl, rfl, rfl, rfl⟩

/-! ## Reading what was written -/

section Fields

variable {b : ContentBuiltins} {q : Payload} {key : String}

namespace Payload

/-- Fields under distinct keys are found as they were written. -/
theorem found {rows : List (String × JSONValue)} (hkeys : (rows.map Prod.fst).Nodup) :
    ∀ row ∈ rows, Dict.get? (.ofList rows : Payload) row.1 = some row.2 := fun row hrow => by
  refine get?_of_mem ?_
  rw [ofList_rows_of_nodup hkeys]
  exact hrow

theorem not_found {rows : List (String × JSONValue)} (h : key ∉ rows.map Prod.fst) :
    Dict.get? (.ofList rows : Payload) key = none := by
  rw [Dict.get?_ofList, Option.map_eq_none_iff, List.find?_eq_none]
  intro row hrow hkey
  refine h (List.mem_map.mpr ⟨row, List.mem_reverse.mp hrow, ?_⟩)
  exact of_decide_eq_true hkey

theorem stored_of_get {value : JSONValue} (h : Dict.get? q key = some value) :
    q.Stored key value :=
  ⟨value, h, rfl⟩

theorem mapping_value (p : Payload) : p.value.mapping = .ok p :=
  congrArg Except.ok (KeyedTable.ofList_rows p)

end Payload

/-- Values that are read as they were written, one by one. -/
theorem mapM_written {α β : Type} {write : α → β} {read : β → Except PyError α} {values : List α}
    (h : ∀ value ∈ values, read (write value) = .ok value) :
    (values.map write).mapM read = .ok values := by
  rw [List.mapM_map]
  exact mapM_ok.mpr (List.forall₂_same.mpr h)

namespace Payload.Stored

theorem int {value : Int} (h : q.Stored key (.int value)) :
    itemInt b.toIntentBuiltins q key = .ok value := by
  rw [itemInt, item_of_get (h.flat rfl)]
  rfl

theorem optionalInt {value : Option Int} (h : q.Stored key (.ofInt? value)) :
    optionalInt b q key = .ok value := by
  cases value with
  | none =>
    rw [Noema.optionalInt, Payload.get, h.flat rfl]
    rfl
  | some value =>
    rw [Noema.optionalInt, Payload.get, h.flat rfl]
    rfl

theorem optionalFloat {value : Option PyFloat} (h : q.Stored key (.ofFloat? value)) :
    optionalFloat b q key = .ok value := by
  cases value with
  | none =>
    rw [Noema.optionalFloat, Payload.get, h.flat rfl]
    rfl
  | some value =>
    rw [Noema.optionalFloat, Payload.get, h.flat rfl]
    rfl

theorem members {α : Type} {ofText : String → Except PyError α} {text : α → String}
    (htext : ∀ member, ofText (text member) = .ok member) {values : List α}
    (h : q.Stored key (.texts (values.map text))) :
    membersOf b.toInformationBuiltins q ofText key = .ok values := by
  rw [membersOf, item_of_get (h.flat (flat_texts _))]
  show ((values.map text).map JSONValue.str).mapM _ = _
  rw [List.map_map]
  exact mapM_written fun member _ => htext member

end Payload.Stored
end Fields

end Noema
