import Noema.RecordWriters

/-!
# What an event says of an attention record

A reader takes from the payload the fields that every version has, and, as the version marker
in the payload tells, those of version 2.  So it reads a record exactly if the event records
it and the payload declares its version 2 fields; and what was read is read again after it
was written.
-/
namespace Noema

theorem validateAttentionEnvelope_migrated (event : Event) (data : Payload)
    (eventId subject : String) (timestamp : Datetime) (causationId : Option String) :
    validateAttentionEnvelope (event.migrated data) eventId subject timestamp causationId =
      validateAttentionEnvelope event eventId subject timestamp causationId := rfl

/-- Two ways to make what the same steps follow. -/
theorem ite_bind_same {α β : Type} {P : Prop} [Decidable P] (x y : Except PyError α)
    (f : α → Except PyError β) :
    (if P then x >>= f else y >>= f) = ((if P then x else y) >>= f) := by
  by_cases h : P
  · rw [if_pos h, if_pos h]
  · rw [if_neg h, if_neg h]

/-- The envelope that a writer makes. -/
theorem validateAttentionEnvelope_of {event : Event} {eventId subject : String}
    {timestamp : Datetime} {causationId : Option String}
    (h : event.id = eventId ∧ event.subject = some subject ∧ event.timestamp = timestamp ∧
      event.causationId = causationId) :
    validateAttentionEnvelope event eventId subject timestamp causationId = .ok () := by
  obtain ⟨hid, hsubject, htime, hcause⟩ := h
  refine refuse_of ?_
  rw [hid, hsubject, htime, hcause]
  simp

/-! ## Source policies -/

namespace AttentionSourcePolicySnapshot

variable (b : ContentBuiltins)

/-- The fields that hold information ids, under the second contract. -/
def declaredFields (data : Payload) (contractVersion : Int) : Except PyError (List String) :=
  if contractVersion = 2 then strings b.toIntentBuiltins data "information_id_payload_fields"
  else .ok []

/-- The version of the contract and the declared fields. -/
def lineageIn (data : Payload) : Except PyError (Int × List String) := do
  let contractVersion ← contractVersionIn b data
  let fields ← declaredFields b data contractVersion
  return (contractVersion, fields)

def lineage (policy : AttentionSourcePolicySnapshot) : Int × List String :=
  (policy.sourceGovernanceContractVersion, policy.informationIdPayloadFields)

/-- An event records a policy: the other fields and the envelope are the policy's, and its
id is the digest of its content. -/
@[mk_iff]
structure RecordedBy (event : Event) (policy : AttentionSourcePolicySnapshot) : Prop where
  policyId : itemText b.toBuiltins event.payload "policy_id" = .ok policy.policyId
  version : itemText b.toBuiltins event.payload "version" = .ok policy.version
  featureSchemaId :
    itemText b.toBuiltins event.payload "feature_schema_id" = .ok policy.featureSchemaId
  sourceEventTypes :
    strings b.toIntentBuiltins event.payload "source_event_types" = .ok policy.sourceEventTypes
  scope : itemText b.toBuiltins event.payload "scope" = .ok policy.scope
  sourcePrefixes :
    strings b.toIntentBuiltins event.payload "source_prefixes" = .ok policy.sourcePrefixes
  subjectPrefixes :
    strings b.toIntentBuiltins event.payload "subject_prefixes" = .ok policy.subjectPrefixes
  requiredPayloadFields : strings b.toIntentBuiltins event.payload "required_payload_fields" =
    .ok policy.requiredPayloadFields
  recordedAt :
    requiredDatetime b.toIntentBuiltins event.payload "recorded_at" = .ok policy.recordedAt
  identified : b.contentId "attention-source-policy" (policy.identity b) = .ok policy.policyId
  envelope : validateAttentionEnvelope event
    ("attention-source-policy-recorded:" ++ policy.policyId) policy.policyId policy.recordedAt
    none = .ok ()

variable {b} {event : Event} {policy : AttentionSourcePolicySnapshot}

/-- Only the version 2 fields may change. -/
theorem recordedBy_migrated {data : Payload}
    (hfields : ∀ key, key ≠ "information_id_payload_fields" →
      key ≠ "source_governance_contract_version" →
      Dict.get? data key = Dict.get? event.payload key) :
    RecordedBy b (event.migrated data) policy ↔ RecordedBy b event policy := by
  simp (disch := decide) only [recordedBy_iff, Event.migrated_payload, itemText, strings, textsOr,
    requiredDatetime, datetime, Payload.item, Payload.get, hfields,
    validateAttentionEnvelope_migrated]

theorem fromEvent_ok (h : fromEvent b event = .ok policy) :
    lineageIn b event.payload = .ok policy.lineage ∧ RecordedBy b event policy := by
  unfold fromEvent at h
  obtain ⟨_, -, h⟩ := bind_eq_ok h
  obtain ⟨value, hvalue, h⟩ := bind_eq_ok h
  obtain ⟨_, henvelope, h⟩ := bind_eq_ok h
  cases h
  unfold fromDict at hvalue
  obtain ⟨contract, hcontract, hvalue⟩ := bind_eq_ok hvalue
  obtain ⟨policyId, hpolicy, hvalue⟩ := bind_eq_ok hvalue
  obtain ⟨version, hversion, hvalue⟩ := bind_eq_ok hvalue
  obtain ⟨schema, hschema, hvalue⟩ := bind_eq_ok hvalue
  obtain ⟨types, htypes, hvalue⟩ := bind_eq_ok hvalue
  obtain ⟨scope, hscope, hvalue⟩ := bind_eq_ok hvalue
  obtain ⟨fields, hfields, hvalue⟩ := bind_eq_ok ((ite_bind_same _ _ _).symm.trans hvalue)
  obtain ⟨sources, hsources, hvalue⟩ := bind_eq_ok hvalue
  obtain ⟨subjects, hsubjects, hvalue⟩ := bind_eq_ok hvalue
  obtain ⟨required, hrequired, hvalue⟩ := bind_eq_ok hvalue
  obtain ⟨time, htime, hvalue⟩ := bind_eq_ok hvalue
  obtain ⟨read, hread, hvalue⟩ := bind_eq_ok hvalue
  obtain ⟨hchecked, rfl⟩ := checkedBy_ok hread
  obtain ⟨expected, hexpected, hvalue⟩ := bind_eq_ok hvalue
  obtain ⟨_, hsame, hvalue⟩ := bind_eq_ok hvalue
  cases hvalue
  have hid : policyId = expected := not_not.mp (refuse_ok hsame)
  refine ⟨?_, ⟨hpolicy, hversion, hschema, htypes, hscope, hsources, hsubjects, hrequired, htime,
    hexpected.trans (congrArg Except.ok hid.symm), henvelope⟩⟩
  have hdeclared : declaredFields b event.payload contract = .ok fields := hfields
  rw [lineageIn, hcontract, ok_bind, hdeclared]
  rfl

/-- **A policy is read exactly if the event records it, with the version 2 fields that the
payload declares.** -/
theorem fromEvent_iff (htype : event.type = attentionSourcePolicyRecorded) :
    fromEvent b event = .ok policy ↔
      lineageIn b event.payload = .ok policy.lineage ∧ RecordedBy b event policy := by
  refine ⟨fromEvent_ok, fun ⟨hlineage, h⟩ => ?_⟩
  obtain ⟨contract, hcontract, hlineage⟩ := bind_eq_ok hlineage
  obtain ⟨fields, hfields, hlineage⟩ := bind_eq_ok hlineage
  obtain ⟨rfl, rfl⟩ := Prod.mk.inj (Except.ok.inj hlineage)
  have hdict : fromDict b event.payload = .ok policy := by
    rw [fromDict, bind_of_ok hcontract, bind_of_ok h.policyId, bind_of_ok h.version,
      bind_of_ok h.featureSchemaId, bind_of_ok h.sourceEventTypes, bind_of_ok h.scope]
    refine ((ite_bind_same _ _ _).trans (bind_of_ok hfields _)).trans ?_
    beta_reduce
    rw [bind_of_ok h.sourcePrefixes, bind_of_ok h.subjectPrefixes,
      bind_of_ok h.requiredPayloadFields, bind_of_ok h.recordedAt]
    dsimp only
    rw [bind_of_ok (checkedBy_of policy.checked)]
    refine (bind_of_ok h.identified _).trans ?_
    rw [refuse_of (not_not.mpr rfl)]
    rfl
  rw [fromEvent, refuse_of (not_not.mpr htype), ok_bind, hdict, ok_bind, h.envelope]
  rfl

theorem lineage_checked (policy : AttentionSourcePolicySnapshot) :
    (policy.sourceGovernanceContractVersion = 1 ∧ policy.informationIdPayloadFields = []) ∨
      policy.sourceGovernanceContractVersion = 2 := by
  have hchecked := policy.checked
  simp only [SourcePolicyContent.check, bind_ok_iff, refuse_iff, exists_const] at hchecked
  obtain ⟨_, -, _, -, _, -, _, -, _, -, _, -, _, -, _, -, _, -, hcontract, -, hlegacy, -⟩ :=
    hchecked
  by_cases h : policy.sourceGovernanceContractVersion = 1
  · exact .inl ⟨h, by_contra fun hfields => hlegacy ⟨h, hfields⟩⟩
  · exact .inr (by_contra fun hother => hcontract ⟨h, hother⟩)

theorem found (policy : AttentionSourcePolicySnapshot) :
    ∀ row ∈ policy.fields b, Dict.get? (policy.toDict b) row.1 = some row.2 := by
  refine Payload.found ?_
  unfold fields
  by_cases h : policy.sourceGovernanceContractVersion = 2
  · rw [if_pos h]
    show ["policy_id", "version", "feature_schema_id", "source_event_types", "scope",
      "source_prefixes", "subject_prefixes", "required_payload_fields", "recorded_at",
      "information_id_payload_fields", "source_governance_contract_version"].Nodup
    decide
  · rw [if_neg h]
    show ["policy_id", "version", "feature_schema_id", "source_event_types", "scope",
      "source_prefixes", "subject_prefixes", "required_payload_fields", "recorded_at"].Nodup
    decide

/-- A policy is written with the lineage that it has. -/
theorem lineageIn_toDict (policy : AttentionSourcePolicySnapshot) :
    lineageIn b (policy.toDict b) = .ok policy.lineage := by
  have hfields := policy.found (b := b)
  unfold fields at hfields
  obtain ⟨hcontract, hnone⟩ | hcontract := policy.lineage_checked
  · have hmarker : Dict.get? (policy.toDict b) "source_governance_contract_version" = none := by
      refine Payload.not_found ?_
      rw [fields, hcontract, if_neg (by decide)]
      show _ ∉ ["policy_id", "version", "feature_schema_id", "source_event_types", "scope",
        "source_prefixes", "subject_prefixes", "required_payload_fields", "recorded_at"]
      decide
    rw [lineageIn, contractVersionIn, hmarker, lineage, hcontract, hnone]
    rfl
  · rw [hcontract, if_pos rfl] at hfields
    simp only [List.forall_mem_append, List.forall_mem_cons] at hfields
    obtain ⟨-, hdeclared, hmarker, -⟩ := hfields
    rw [lineageIn, contractVersionIn, hmarker, lineage, hcontract]
    show (do
      let fields ← declaredFields b (policy.toDict b) 2
      return ((2 : Int), fields)) = _
    rw [declaredFields, if_pos rfl, (Payload.stored_of_get hdeclared).texts]
    rfl

/-- **A policy that was read is read again from the event that it is written into.** -/
theorem written (htimes : b.ReadsTimes) (h : fromEvent b event = .ok policy) {source : String}
    (hsource : blank source = false) : (policy.toEvent b source >>= fromEvent b) = .ok policy := by
  have hrecorded := (fromEvent_ok h).2
  have hpos : 0 < policy.sourceGovernanceContractVersion.toNat := by
    obtain ⟨hcontract, -⟩ | hcontract := policy.lineage_checked <;> rw [hcontract] <;> decide
  have hfields := policy.found (b := b)
  simp only [fields, List.forall_mem_append, List.forall_mem_cons] at hfields
  obtain ⟨⟨hid, hversion, hschema, htypes, hscope, hsources, hsubjects, hrequired, htime, -⟩, -⟩ :=
    hfields
  obtain ⟨made, hmade, htype, hpayload, henvelope⟩ := attentionEvent_ok hsource hpos
  rw [toEvent, bind_of_ok hmade, fromEvent_iff htype, hpayload]
  refine ⟨policy.lineageIn_toDict, ?_⟩
  constructor <;> try rw [hpayload]
  · exact (Payload.stored_of_get hid).text
  · exact (Payload.stored_of_get hversion).text
  · exact (Payload.stored_of_get hschema).text
  · exact (Payload.stored_of_get htypes).texts
  · exact (Payload.stored_of_get hscope).text
  · exact (Payload.stored_of_get hsources).texts
  · exact (Payload.stored_of_get hsubjects).texts
  · exact (Payload.stored_of_get hrequired).texts
  · exact (Payload.stored_of_get htime).time htimes
  · exact hrecorded.identified
  · exact validateAttentionEnvelope_of henvelope

end AttentionSourcePolicySnapshot

/-! ## Decisions -/

theorem AttentionDisposition.ofText_text (disposition : AttentionDisposition) :
    ofText disposition.text = .ok disposition := by
  cases disposition <;> rfl

theorem AttentionAuthorityCeiling.ofText_ceiling (ceiling : AttentionAuthorityCeiling) :
    ofText "internal_attention_only" = .ok ceiling := by
  cases ceiling
  rfl

theorem JSONScalar.scalar_toJson (value : JSONScalar) : value.toJson.scalar = some value := by
  cases value <;> rfl

section Decisions

variable {b : ContentBuiltins} {q : Payload} {key : String}

/-- Features are read as they were written. -/
theorem featuresIn_of_get {features : FeatureSnapshot}
    (h : Dict.get? q key = some features.toDict) : featuresIn q key = .ok features := by
  let written : Payload :=
    .ofList (features.values.rows.map fun entry => (entry.1, entry.2.toJson))
  have hrows : written.rows = features.values.rows.map fun entry => (entry.1, entry.2.toJson) := by
    refine Payload.ofList_rows_of_nodup ?_
    rw [List.map_map]
    exact features.values.unique
  have hmapping : itemMapping q key = .ok written := by
    rw [itemMapping, item_of_get h]
    rfl
  rw [featuresIn, hmapping, ok_bind, hrows]
  refine (bind_of_ok (mapM_written fun entry _ => ?_) _).trans ?_
  · dsimp only
    rw [JSONScalar.scalar_toJson]
  · rw [KeyedTable.ofList_rows]
    rfl

theorem AttentionCostSnapshot.found (costs : AttentionCostSnapshot) :
    ∀ row ∈ costs.fields, Dict.get? costs.toDict row.1 = some row.2 := by
  refine Payload.found ?_
  show ["model_call_count", "input_tokens", "output_tokens", "wall_time_seconds",
    "human_attention_units", "deliberative_compute_units", "metric_version"].Nodup
  decide

theorem AttentionCostSnapshot.fromDict_toDict {costs : AttentionCostSnapshot}
    (h : costs.check = .ok ()) : fromDict b costs.toDict = .ok costs := by
  have hfields := costs.found
  simp only [fields, List.forall_mem_cons] at hfields
  obtain ⟨hcalls, hinput, houtput, hwall, hhuman, hcompute, hmetric, -⟩ := hfields
  rw [fromDict, bind_of_ok (Payload.stored_of_get hcalls).optionalInt,
    bind_of_ok (Payload.stored_of_get hinput).optionalInt,
    bind_of_ok (Payload.stored_of_get houtput).optionalInt,
    bind_of_ok (Payload.stored_of_get hwall).optionalFloat,
    bind_of_ok (Payload.stored_of_get hhuman).optionalFloat,
    bind_of_ok (Payload.stored_of_get hcompute).optionalFloat,
    bind_of_ok (Payload.stored_of_get hmetric).textOr]
  exact constructed_iff.mpr ⟨h, rfl⟩

namespace AttentionDispositionDecision

variable {decision : AttentionDispositionDecision}

/-- The constructors of the decision and of its costs accept it. -/
def Accepted (decision : AttentionDispositionDecision) : Prop :=
  decision.check = .ok () ∧ decision.costs.check = .ok ()

theorem accepted_of_fromDict {data : Payload} (h : fromDict b data = .ok decision) :
    decision.Accepted := by
  unfold fromDict at h
  iterate 15
    obtain ⟨_, -, h⟩ := bind_eq_ok h
  obtain ⟨mapping, -, h⟩ := bind_eq_ok h
  obtain ⟨costs, hcosts, h⟩ := bind_eq_ok h
  obtain ⟨hchecked, rfl⟩ := constructed_iff.mp h
  refine ⟨hchecked, ?_⟩
  unfold AttentionCostSnapshot.fromDict at hcosts
  iterate 7
    obtain ⟨_, -, hcosts⟩ := bind_eq_ok hcosts
  obtain ⟨hcheckedCosts, rfl⟩ := constructed_iff.mp hcosts
  exact hcheckedCosts

theorem found (decision : AttentionDispositionDecision) :
    ∀ row ∈ decision.fields b, Dict.get? (decision.toDict b) row.1 = some row.2 := by
  refine Payload.found ?_
  show ["disposition", "features", "situation_causal_cursor", "decision_mechanism_id",
    "decision_mechanism_version", "decision_configuration_ref", "decision_refs",
    "governing_intent_refs", "authority_ceiling", "governed_information_ids", "valid_at",
    "known_at", "decided_at", "costs"].Nodup
  decide

theorem fromDict_toDict (htimes : b.ReadsTimes) (h : decision.Accepted) :
    fromDict b (decision.toDict b) = .ok decision := by
  have hfields := decision.found (b := b)
  simp only [fields, List.forall_mem_cons] at hfields
  obtain ⟨hdisposition, hfeatures, hcursor, hmechanism, hversion, hconfiguration, hrefs, hintents,
    hceiling, hgoverned, hvalid, hknown, hdecided, hcosts, -⟩ := hfields
  have hmapping : mappingOrEmpty (decision.toDict b) "costs" = .ok decision.costs.toDict := by
    rw [mappingOrEmpty, hcosts]
    exact Payload.mapping_value _
  rw [fromDict, bind_of_ok (featuresIn_of_get hfeatures),
    bind_of_ok (Payload.stored_of_get hdisposition).text,
    bind_of_ok (AttentionDisposition.ofText_text _),
    bind_of_ok (Payload.stored_of_get hcursor).int,
    bind_of_ok (Payload.stored_of_get hmechanism).text,
    bind_of_ok (Payload.stored_of_get hversion).text,
    bind_of_ok (Payload.stored_of_get hconfiguration).text,
    bind_of_ok (Payload.stored_of_get hrefs).texts,
    bind_of_ok (Payload.stored_of_get hintents).texts,
    bind_of_ok (Payload.stored_of_get hceiling).text,
    bind_of_ok (AttentionAuthorityCeiling.ofText_ceiling decision.authorityCeiling),
    bind_of_ok (Payload.stored_of_get hgoverned).texts,
    bind_of_ok ((Payload.stored_of_get hvalid).time htimes),
    bind_of_ok ((Payload.stored_of_get hknown).time htimes),
    bind_of_ok ((Payload.stored_of_get hdecided).time htimes), bind_of_ok hmapping,
    bind_of_ok (AttentionCostSnapshot.fromDict_toDict h.2)]
  exact constructed_iff.mpr ⟨h.1, rfl⟩

end AttentionDispositionDecision
end Decisions

/-! ## Dispositions -/

namespace AttentionDispositionRecord

variable (b : ContentBuiltins)

/-- The access decisions of the source, under the second contract. -/
def sourceAccessIn (data : Payload) (contractVersion : Int) : Except PyError (List String) :=
  if contractVersion = 2 then
    strings b.toIntentBuiltins data "source_information_access_decision_ids"
  else .ok []

/-- What a disposition says of the access to information: the version of the contract, and
the decisions for the source and for the derived artifact. -/
structure Access where
  contractVersion : Int
  source : List String
  derived : List String
deriving DecidableEq

def accessIn (data : Payload) : Except PyError Access := do
  let contractVersion ← contractVersionIn b data
  let source ← sourceAccessIn b data contractVersion
  let derived ← derivedAccessIn b data contractVersion
  return ⟨contractVersion, source, derived⟩

def access (record : AttentionDispositionRecord) : Access :=
  ⟨record.sourceGovernanceContractVersion, record.sourceInformationAccessDecisionIds,
   record.derivedInformationAccessDecisionIds⟩

/-- An event records a disposition: the other fields and the envelope are the disposition's,
and `create` gives an equal one. -/
@[mk_iff]
structure RecordedBy (event : Event) (record : AttentionDispositionRecord) : Prop where
  dispositionId : itemText b.toBuiltins event.payload "disposition_id" = .ok record.dispositionId
  sourceEventId : itemText b.toBuiltins event.payload "source_event_id" = .ok record.sourceEventId
  sourceEventSequence :
    itemInt b.toIntentBuiltins event.payload "source_event_sequence" =
      .ok record.sourceEventSequence
  sourcePolicyId :
    itemText b.toBuiltins event.payload "source_policy_id" = .ok record.sourcePolicyId
  featureSchemaId :
    itemText b.toBuiltins event.payload "feature_schema_id" = .ok record.featureSchemaId
  decision : (itemMapping event.payload "decision" >>= AttentionDispositionDecision.fromDict b) =
    .ok record.decision
  derivedInformationId :
    itemText b.toBuiltins event.payload "derived_information_id" = .ok record.derivedInformationId
  informationPolicyIds :
    strings b.toIntentBuiltins event.payload "information_policy_ids" =
      .ok record.informationPolicyIds
  admittedPredecessorHead :
    itemInt b.toIntentBuiltins event.payload "admitted_predecessor_head" =
      .ok record.admittedPredecessorHead
  accepted : record.check = .ok ()
  identified : ∃ expected, record.create b = .ok expected ∧ (record == expected) = true
  envelope : validateAttentionEnvelope event
    ("attention-disposition-recorded:" ++ record.dispositionId) record.dispositionId
    record.decision.decidedAt (some record.sourceEventId) = .ok ()

variable {b} {event : Event} {record : AttentionDispositionRecord}

theorem recordedBy_migrated {data : Payload}
    (hfields : ∀ key, key ≠ "information_access_decision_ids" →
      key ≠ "source_information_access_decision_ids" →
      key ≠ "derived_information_access_decision_ids" →
      key ≠ "source_governance_contract_version" →
      Dict.get? data key = Dict.get? event.payload key) :
    RecordedBy b (event.migrated data) record ↔ RecordedBy b event record := by
  simp (disch := decide) only [recordedBy_iff, Event.migrated_payload, itemText, itemInt, strings,
    textsOr, itemMapping, Payload.item, hfields, validateAttentionEnvelope_migrated]

theorem fromEvent_ok (h : fromEvent b event = .ok record) :
    accessIn b event.payload = .ok record.access ∧ RecordedBy b event record := by
  unfold fromEvent at h
  obtain ⟨_, -, h⟩ := bind_eq_ok h
  obtain ⟨value, hvalue, h⟩ := bind_eq_ok h
  obtain ⟨_, henvelope, h⟩ := bind_eq_ok h
  cases h
  unfold fromDict at hvalue
  obtain ⟨contract, hcontract, hvalue⟩ := bind_eq_ok hvalue
  obtain ⟨id, hid, hvalue⟩ := bind_eq_ok hvalue
  obtain ⟨sourceEvent, hsourceEvent, hvalue⟩ := bind_eq_ok hvalue
  obtain ⟨sequence, hsequence, hvalue⟩ := bind_eq_ok hvalue
  obtain ⟨policy, hpolicy, hvalue⟩ := bind_eq_ok hvalue
  obtain ⟨schema, hschema, hvalue⟩ := bind_eq_ok hvalue
  obtain ⟨mapping, hmapping, hvalue⟩ := bind_eq_ok hvalue
  obtain ⟨decision, hdecision, hvalue⟩ := bind_eq_ok hvalue
  obtain ⟨information, hinformation, hvalue⟩ := bind_eq_ok hvalue
  obtain ⟨policies, hpolicies, hvalue⟩ := bind_eq_ok hvalue
  obtain ⟨source, hsource, hvalue⟩ := bind_eq_ok ((ite_bind_same _ _ _).symm.trans hvalue)
  obtain ⟨derived, hderived, hvalue⟩ := bind_eq_ok hvalue
  obtain ⟨head, hhead, hvalue⟩ := bind_eq_ok hvalue
  obtain ⟨read, hread, hvalue⟩ := bind_eq_ok hvalue
  obtain ⟨haccepted, rfl⟩ := constructed_iff.mp hread
  obtain ⟨expected, hexpected, hvalue⟩ := bind_eq_ok hvalue
  obtain ⟨_, hsame, hvalue⟩ := bind_eq_ok hvalue
  cases hvalue
  have hequal := Bool.not_eq_false _ ▸ refuse_ok hsame
  refine ⟨?_, ⟨hid, hsourceEvent, hsequence, hpolicy, hschema, ?_, hinformation, hpolicies, hhead,
    haccepted, ⟨expected, hexpected, hequal⟩, henvelope⟩⟩
  · have hgiven : sourceAccessIn b event.payload contract = .ok source := hsource
    rw [accessIn, hcontract, ok_bind, hgiven, ok_bind, hderived]
    rfl
  · rw [hmapping, ok_bind]
    exact hdecision

/-- **A disposition is read exactly if the event records it, with the access that the payload
declares.** -/
theorem fromEvent_iff (htype : event.type = attentionDispositionRecorded) :
    fromEvent b event = .ok record ↔
      accessIn b event.payload = .ok record.access ∧ RecordedBy b event record := by
  refine ⟨fromEvent_ok, fun ⟨haccess, h⟩ => ?_⟩
  obtain ⟨contract, hcontract, haccess⟩ := bind_eq_ok haccess
  obtain ⟨source, hsource, haccess⟩ := bind_eq_ok haccess
  obtain ⟨derived, hderived, haccess⟩ := bind_eq_ok haccess
  obtain ⟨rfl, rfl, rfl⟩ := Access.mk.inj (Except.ok.inj haccess)
  obtain ⟨mapping, hmapping, hdecision⟩ := bind_eq_ok h.decision
  obtain ⟨expected, hexpected, hequal⟩ := h.identified
  have hdict : fromDict b event.payload = .ok record := by
    rw [fromDict, bind_of_ok hcontract, bind_of_ok h.dispositionId, bind_of_ok h.sourceEventId,
      bind_of_ok h.sourceEventSequence, bind_of_ok h.sourcePolicyId, bind_of_ok h.featureSchemaId,
      bind_of_ok hmapping, bind_of_ok hdecision, bind_of_ok h.derivedInformationId,
      bind_of_ok h.informationPolicyIds]
    refine ((ite_bind_same _ _ _).trans (bind_of_ok hsource _)).trans ?_
    beta_reduce
    rw [bind_of_ok hderived, bind_of_ok h.admittedPredecessorHead]
    refine (bind_of_ok (constructed_iff.mpr ⟨h.accepted, rfl⟩) _).trans ?_
    rw [bind_of_ok hexpected, hequal]
    rfl
  rw [fromEvent, refuse_of (not_not.mpr htype), ok_bind, hdict, ok_bind, h.envelope]
  rfl

theorem access_checked (h : record.check = .ok ()) :
    (record.sourceGovernanceContractVersion = 1 ∧
        record.sourceInformationAccessDecisionIds = []) ∨
      record.sourceGovernanceContractVersion = 2 := by
  simp only [check, bind_ok_iff, refuse_iff, exists_const] at h
  obtain ⟨_, -, _, -, _, -, _, -, -, -, -, -, _, -, _, -, hcontract, _, -, hlegacy, -⟩ := h
  by_cases hone : record.sourceGovernanceContractVersion = 1
  · exact .inl ⟨hone, by_contra fun hsource => hlegacy ⟨hone, hsource⟩⟩
  · exact .inr (by_contra fun hother => hcontract ⟨hone, hother⟩)

theorem found (record : AttentionDispositionRecord) :
    ∀ row ∈ record.fields b, Dict.get? (record.toDict b) row.1 = some row.2 := by
  refine Payload.found ?_
  unfold fields
  by_cases h : record.sourceGovernanceContractVersion = 1
  · rw [if_pos h]
    show ["disposition_id", "source_event_id", "source_event_sequence", "source_policy_id",
      "feature_schema_id", "decision", "derived_information_id", "information_policy_ids",
      "admitted_predecessor_head", "information_access_decision_ids"].Nodup
    decide
  · rw [if_neg h]
    show ["disposition_id", "source_event_id", "source_event_sequence", "source_policy_id",
      "feature_schema_id", "decision", "derived_information_id", "information_policy_ids",
      "admitted_predecessor_head", "source_information_access_decision_ids",
      "derived_information_access_decision_ids", "source_governance_contract_version"].Nodup
    decide

theorem not_found_legacy (hcontract : record.sourceGovernanceContractVersion = 1) {key : String}
    (hkey : key ∉ ["disposition_id", "source_event_id", "source_event_sequence",
      "source_policy_id", "feature_schema_id", "decision", "derived_information_id",
      "information_policy_ids", "admitted_predecessor_head", "information_access_decision_ids"]) :
    Dict.get? (record.toDict b) key = none := by
  refine Payload.not_found ?_
  rw [fields, hcontract, if_pos rfl]
  exact hkey

/-- A disposition is written with the access that it has; under the first contract, where its
version was written. -/
theorem accessIn_toDict (h : record.check = .ok ()) :
    accessIn b (record.toDict b) = .ok record.access := by
  have hfields := record.found (b := b)
  unfold fields at hfields
  obtain ⟨hcontract, hnone⟩ | hcontract := access_checked h
  · rw [hcontract, if_pos rfl] at hfields
    simp only [List.forall_mem_append, List.forall_mem_cons] at hfields
    obtain ⟨-, hderived, -⟩ := hfields
    have hmarker : Dict.get? (record.toDict b) "source_governance_contract_version" = none :=
      not_found_legacy hcontract (by decide)
    have hnew : strings b.toIntentBuiltins (record.toDict b)
        "derived_information_access_decision_ids" = .ok [] := by
      rw [strings, textsOr, not_found_legacy hcontract (by decide)]
    have hread : derivedAccessIn b (record.toDict b) 1 =
        .ok record.derivedInformationAccessDecisionIds := by
      rw [derivedAccessIn, hnew, ok_bind, if_neg (by simp)]
      exact (Payload.stored_of_get hderived).texts
    rw [accessIn, contractVersionIn, hmarker, access, hcontract, hnone]
    show (derivedAccessIn b (record.toDict b) 1 >>= _) = _
    rw [hread]
    rfl
  · rw [hcontract, if_neg (by decide)] at hfields
    simp only [List.forall_mem_append, List.forall_mem_cons] at hfields
    obtain ⟨-, hsource, hderived, hmarker, -⟩ := hfields
    have hgiven : sourceAccessIn b (record.toDict b) 2 =
        .ok record.sourceInformationAccessDecisionIds :=
      (Payload.stored_of_get hsource).texts
    have hread : derivedAccessIn b (record.toDict b) 2 =
        .ok record.derivedInformationAccessDecisionIds := by
      rw [derivedAccessIn, (Payload.stored_of_get hderived).texts]
      rfl
    rw [accessIn, contractVersionIn, hmarker, access, hcontract]
    show (sourceAccessIn b (record.toDict b) 2 >>= _) = _
    rw [hgiven, ok_bind, hread]
    rfl

/-- **A disposition that was read is read again from the event that it is written into.** -/
theorem written (htimes : b.ReadsTimes) (h : fromEvent b event = .ok record) {source : String}
    (hsource : blank source = false) : (record.toEvent b source >>= fromEvent b) = .ok record := by
  have hrecorded := (fromEvent_ok h).2
  have hpos : 0 < record.sourceGovernanceContractVersion.toNat := by
    obtain ⟨hcontract, -⟩ | hcontract := access_checked hrecorded.accepted <;> rw [hcontract] <;>
      decide
  have hfields := record.found (b := b)
  simp only [fields, List.forall_mem_append, List.forall_mem_cons] at hfields
  obtain ⟨⟨hid, hsourceEvent, hsequence, hpolicy, hschema, hdecision, hinformation, hpolicies,
    hhead, -⟩, -⟩ := hfields
  obtain ⟨mapping, -, hread⟩ := bind_eq_ok hrecorded.decision
  have hmapping : itemMapping (record.toDict b) "decision" = .ok (record.decision.toDict b) := by
    rw [itemMapping, item_of_get hdecision]
    exact Payload.mapping_value _
  obtain ⟨made, hmade, htype, hpayload, henvelope⟩ := attentionEvent_ok hsource hpos
  rw [toEvent, bind_of_ok hmade, fromEvent_iff htype, hpayload]
  refine ⟨accessIn_toDict hrecorded.accepted, ?_⟩
  constructor <;> try rw [hpayload]
  · exact (Payload.stored_of_get hid).text
  · exact (Payload.stored_of_get hsourceEvent).text
  · exact (Payload.stored_of_get hsequence).int
  · exact (Payload.stored_of_get hpolicy).text
  · exact (Payload.stored_of_get hschema).text
  · rw [hmapping, ok_bind]
    exact AttentionDispositionDecision.fromDict_toDict htimes
      (AttentionDispositionDecision.accepted_of_fromDict hread)
  · exact (Payload.stored_of_get hinformation).text
  · exact (Payload.stored_of_get hpolicies).texts
  · exact (Payload.stored_of_get hhead).int
  · exact hrecorded.accepted
  · exact hrecorded.identified
  · exact validateAttentionEnvelope_of henvelope

end AttentionDispositionRecord

end Noema
