import Noema.InformationDecisions
import Noema.IntentSchemas

/-!
# The payloads of information governance

How the records are written to payloads and events, and read from them again.  A record is
read only under the id that its content has, from an event whose id, subject and time are
the record's own.
-/
namespace Noema

/-- What the governance projection runs on besides the conversions of `IntentBuiltins`: the
text of a time, and the ids. -/
structure InformationBuiltins extends IntentBuiltins where
  isoformat : Datetime → String
  informationIds : InformationIds

section Reading

variable (b : InformationBuiltins) (data : Payload)

/-- The mappings in `data.get(key, ())`. -/
def mappingsOr (key : String) : Except PyError (List Payload) := do
  match Dict.get? data key with
  | some value => (← value.iterate).mapM JSONValue.mapping
  | none => return []

/-- The members of an enumeration in `data[key]`. -/
def membersOf {α : Type} (ofText : String → Except PyError α) (key : String) :
    Except PyError (List α) := do
  (← (← data.item key).iterate).mapM fun value => do ofText (← b.str value)

/-- `HoldConstraint.from_dict`. -/
def HoldConstraint.fromDict : Except PyError HoldConstraint := do
  let holdId ← itemText b.toBuiltins data "hold_id"
  let authorityId ← itemText b.toBuiltins data "authority_id"
  let active := boolOr data "active" true
  checkedBy (do
    requireOpaqueId holdId "hold id"
    requireText authorityId "hold authority") fun checked => ⟨holdId, authorityId, active, checked⟩

/-- `RetentionPolicy.from_dict`. -/
def RetentionPolicy.fromDict : Except PyError RetentionPolicy := do
  let mappings ← mappingsOr data "holds"
  let retainUntil ← datetime b.toBuiltins data "retain_until"
  let deleteAfter ← datetime b.toBuiltins data "delete_after"
  let deletionRequired := boolOr data "deletion_required" false
  let holds ← mappings.mapM (HoldConstraint.fromDict b)
  if timed : deletionRequired = true → deleteAfter.isSome then
    if unique : (holds.map HoldConstraint.holdId).Nodup then
      .ok { retainUntil, deleteAfter, deletionRequired, holds, timed, unique }
    else .error (.valueError "retention holds must be unique")
  else .error (.valueError "required deletion needs an explicit deletion time")

/-- The secondary uses a policy was recorded with; the absent field has no members. -/
def secondaryUses : Except PyError (List InformationOperation) :=
  match Dict.get? data "allowed_secondary_uses" with
  | some _ => membersOf b data InformationOperation.ofText "allowed_secondary_uses"
  | none => .ok []

/-- The version of their meaning. -/
def secondaryUseSemantics : Except PyError Int :=
  match Dict.get? data "secondary_use_semantics_version" with
  | some value => b.int value
  | none => .ok (if (Dict.get? data "allowed_secondary_uses").isNone then 1 else 2)

/-- `InformationPolicy.from_dict`. -/
def InformationPolicy.fromDict : Except PyError InformationPolicy := do
  let allowedSecondaryUses ← secondaryUses b data
  let secondaryUseSemanticsVersion ← secondaryUseSemantics b data
  let policyId ← itemText b.toBuiltins data "policy_id"
  let version ← itemInt b.toIntentBuiltins data "version"
  let originDomains ← strings b.toIntentBuiltins data "origin_domains"
  let classification ← Classification.ofText (← itemText b.toBuiltins data "classification")
  let allowedPurposes ← strings b.toIntentBuiltins data "allowed_purposes"
  let allowedRecipients ← strings b.toIntentBuiltins data "allowed_recipients"
  let allowedTrustDomains ← strings b.toIntentBuiltins data "allowed_trust_domains"
  let allowedLocalities ← strings b.toIntentBuiltins data "allowed_localities"
  let allowedProviders ← strings b.toIntentBuiltins data "allowed_providers"
  let crossAgentSharing ← itemBool data "cross_agent_sharing"
  let retention ← RetentionPolicy.fromDict b (← itemMapping data "retention")
  let disclosureForms ← membersOf b data DisclosureForm.ofText "disclosure_forms"
  let declassificationAuthorities ← strings b.toIntentBuiltins data "declassification_authorities"
  let recordedAt ← requiredDatetime b.toIntentBuiltins data "recorded_at"
  let content : PolicyContent :=
    { version, originDomains, classification, allowedPurposes, allowedRecipients,
      allowedTrustDomains, allowedLocalities, allowedProviders, crossAgentSharing, retention,
      disclosureForms, declassificationAuthorities, recordedAt, allowedSecondaryUses,
      secondaryUseSemanticsVersion }
  let policy ← checkedBy (content.check policyId) fun checked =>
    (⟨content, policyId, checked⟩ : InformationPolicy)
  if content.secondaryUseSemanticsVersion = 1 then
    refuse (policyId ≠ (b.informationIds.legacyPolicy content).id "ipol")
      "legacy information policy id does not match immutable content"
  else do
    -- `create` orders the content, so a policy recorded in another order is refused.
    let expectedId := (b.informationIds.policy content.normalized).id "ipol"
    content.normalized.check expectedId
    refuse (policyId ≠ expectedId ∨ (content == content.normalized) = false)
      "information policy id does not match immutable content"
  return policy

/-- `PrincipalSnapshot.from_dict`. -/
def PrincipalSnapshot.fromDict : Except PyError PrincipalSnapshot := do
  let snapshotId ← itemText b.toBuiltins data "snapshot_id"
  let principalId ← itemText b.toBuiltins data "principal_id"
  let roles ← strings b.toIntentBuiltins data "roles"
  let groups ← strings b.toIntentBuiltins data "groups"
  let trustDomains ← strings b.toIntentBuiltins data "trust_domains"
  let capturedAt ← requiredDatetime b.toIntentBuiltins data "captured_at"
  let content : PrincipalContent := { principalId, roles, groups, trustDomains, capturedAt }
  let value ← checkedBy (content.check snapshotId) fun checked =>
    (⟨content, snapshotId, checked⟩ : PrincipalSnapshot)
  let expected ← PrincipalSnapshot.create b.informationIds content
  refuse ((value == expected) = false) "principal snapshot id does not match immutable content"
  return value

/-- `str(data[key]) if data.get(key) is not None else None`. -/
def textOrNone (key : String) : Except PyError (Option String) :=
  match data.get key with
  | .null => .ok none
  | value => some <$> b.str value

/-- `DisclosureForm(str(data[key])) if data.get(key) is not None else None`. -/
def formOrNone (key : String) : Except PyError (Option DisclosureForm) := do
  match ← textOrNone b data key with
  | some text => some <$> DisclosureForm.ofText text
  | none => return none

/-- `AccessContext.from_dict`.  Other than the destination and the recipient, an empty
provider is read as no provider. -/
def AccessContext.fromDict : Except PyError AccessContext := do
  let actorId ← itemText b.toBuiltins data "actor_id"
  let principal ← PrincipalSnapshot.fromDict b (← itemMapping data "principal")
  let purpose ← itemText b.toBuiltins data "purpose"
  let operation ← InformationOperation.ofText (← itemText b.toBuiltins data "operation")
  let sourceTrustDomain ← itemText b.toBuiltins data "source_trust_domain"
  let destinationTrustDomain ← textOrNone b data "destination_trust_domain"
  let recipient ← textOrNone b data "recipient"
  let decisionTime ← requiredDatetime b.toIntentBuiltins data "decision_time"
  let policyIds ← strings b.toIntentBuiltins data "policy_ids"
  let sourceLineageRefs ← strings b.toIntentBuiltins data "source_lineage_refs"
  let locality ← itemText b.toBuiltins data "locality"
  let providerId ← textIfAny b.toBuiltins data "provider_id"
  let providerSecurityPosture ← strings b.toIntentBuiltins data "provider_security_posture"
  let disclosureForm ← formOrNone b data "disclosure_form"
  let value ← AccessContext.create b.informationIds
    { actorId, principal, purpose, operation, sourceTrustDomain, destinationTrustDomain,
      recipient, decisionTime, policyIds, sourceLineageRefs, locality, providerId,
      providerSecurityPosture, disclosureForm }
  refuse (value.contextId ≠ (← itemText b.toBuiltins data "context_id"))
    "access context id does not match immutable content"
  return value

/-- `GovernedInformationRef.from_dict`. -/
def GovernedInformationRef.fromDict : Except PyError GovernedInformationRef := do
  GovernedInformationRef.create (← itemText b.toBuiltins data "information_id")

/-- `InformationLineage.from_dict`. -/
def InformationLineage.fromDict : Except PyError InformationLineage := do
  let informationId ← itemText b.toBuiltins data "information_id"
  let sourceInformationIds ← strings b.toIntentBuiltins data "source_information_ids"
  let transformation ← LineageTransformation.ofText (← itemText b.toBuiltins data "transformation")
  let recordedAt ← requiredDatetime b.toIntentBuiltins data "recorded_at"
  let content : LineageContent :=
    { informationId, sourceInformationIds := ordered sourceInformationIds, transformation,
      recordedAt }
  let lineageId := (b.informationIds.lineage content).id "lineage"
  let value ← checkedBy (content.check lineageId) fun checked =>
    (⟨content, lineageId, checked⟩ : InformationLineage)
  refuse (value.lineageId ≠ (← itemText b.toBuiltins data "lineage_id"))
    "lineage id does not match immutable content"
  return value

/-- `PolicyBinding.from_dict`. -/
def PolicyBinding.fromDict : Except PyError PolicyBinding := do
  let informationId ← itemText b.toBuiltins data "information_id"
  let lineageId ← itemText b.toBuiltins data "lineage_id"
  let policyIds ← strings b.toIntentBuiltins data "policy_ids"
  let boundAt ← requiredDatetime b.toIntentBuiltins data "bound_at"
  let content : BindingContent :=
    { informationId, lineageId, policyIds := ordered policyIds, boundAt }
  let bindingId := (b.informationIds.binding content).id "binding"
  let value ← checkedBy (content.check bindingId) fun checked =>
    (⟨content, bindingId, checked⟩ : PolicyBinding)
  refuse (value.bindingId ≠ (← itemText b.toBuiltins data "binding_id"))
    "policy binding id does not match immutable content"
  return value

/-- `QuarantinePolicy.from_dict`. -/
def QuarantinePolicy.fromDict : Except PyError QuarantinePolicy := do
  let allowedLocalities ← strings b.toIntentBuiltins data "allowed_localities"
  let allowedTrustDomains ← strings b.toIntentBuiltins data "allowed_trust_domains"
  let humanResolutionRequired := boolOr data "human_resolution_required" false
  checkedBy (do
    requireDistinct allowedLocalities "quarantine localities" true
    requireDistinct allowedTrustDomains "quarantine trust domains" true) fun checked =>
    ⟨allowedLocalities, allowedTrustDomains, humanResolutionRequired, checked⟩

/-- `QuarantinedInformationRef.from_dict`. -/
def QuarantinedInformationRef.fromDict : Except PyError QuarantinedInformationRef := do
  let informationId ← itemText b.toBuiltins data "information_id"
  let policy ← QuarantinePolicy.fromDict b (← itemMapping data "policy")
  let quarantinedAt ← requiredDatetime b.toIntentBuiltins data "quarantined_at"
  let content : QuarantineContent := { informationId, policy, quarantinedAt }
  let quarantineId := (b.informationIds.quarantine content).id "quarantine"
  let value ← checkedBy (content.check quarantineId) fun checked =>
    (⟨content, quarantineId, checked⟩ : QuarantinedInformationRef)
  refuse (value.quarantineId ≠ (← itemText b.toBuiltins data "quarantine_id"))
    "quarantine id does not match immutable content"
  return value

/-- `PolicyDecision.from_dict`. -/
def PolicyDecision.fromDict : Except PyError PolicyDecision := do
  let operation ← InformationOperation.ofText (← itemText b.toBuiltins data "operation")
  let disposition ← DecisionDisposition.ofText (← itemText b.toBuiltins data "disposition")
  let reasons ← membersOf b data DecisionReason.ofText "reasons"
  let conflicts ← membersOf b data PolicyConflictKind.ofText "conflicts"
  let content : VerdictContent := { operation, disposition, reasons, conflicts }
  checkedBy content.check fun checked => ⟨content, checked⟩

/-- The information and the context that a request names. -/
def RequestContent.fromDict : Except PyError RequestContent := do
  let informationRef ← GovernedInformationRef.fromDict b (← itemMapping data "information_ref")
  let context ← AccessContext.fromDict b (← itemMapping data "context")
  return { informationRef, context }

/-- `InformationAccessRequest.from_dict`. -/
def InformationAccessRequest.fromDict : Except PyError InformationAccessRequest := do
  let value ← InformationAccessRequest.create b.informationIds (← RequestContent.fromDict b data)
  refuse (value.requestId ≠ (← itemText b.toBuiltins data "request_id"))
    "access request id does not match immutable content"
  return value

/-- `DisclosureRequest.from_dict`. -/
def DisclosureRequest.fromDict : Except PyError DisclosureRequest := do
  let value ← DisclosureRequest.create b.informationIds (← RequestContent.fromDict b data)
  refuse (value.requestId ≠ (← itemText b.toBuiltins data "request_id"))
    "disclosure request id does not match immutable content"
  return value

/-- `DeclassificationRequest.from_dict`. -/
def DeclassificationRequest.fromDict : Except PyError DeclassificationRequest := do
  let content ← RequestContent.fromDict b data
  let proposedPolicyId ← itemText b.toBuiltins data "proposed_policy_id"
  let value ← DeclassificationRequest.create b.informationIds { content with proposedPolicyId }
  refuse (value.requestId ≠ (← itemText b.toBuiltins data "request_id"))
    "declassification request id does not match immutable content"
  return value

end Reading

/-! ## Writing -/

/-- A list of texts. -/
def JSONValue.texts (values : List String) : JSONValue := .list (values.map .str)

/-- `PrincipalSnapshot.to_dict`. -/
def PrincipalSnapshot.toDict (b : InformationBuiltins) (principal : PrincipalSnapshot) :
    JSONValue :=
  .obj
    [("snapshot_id", .str principal.snapshotId), ("principal_id", .str principal.principalId),
     ("roles", .texts principal.roles), ("groups", .texts principal.groups),
     ("trust_domains", .texts principal.trustDomains),
     ("captured_at", .str (b.isoformat principal.capturedAt))]

/-- `AccessContext.to_dict`. -/
def AccessContext.toDict (b : InformationBuiltins) (context : AccessContext) : JSONValue :=
  .obj
    [("context_id", .str context.contextId), ("actor_id", .str context.actorId),
     ("principal", context.principal.toDict b), ("purpose", .str context.purpose),
     ("operation", .str context.operation.text),
     ("source_trust_domain", .str context.sourceTrustDomain),
     ("destination_trust_domain", .ofText? context.destinationTrustDomain),
     ("recipient", .ofText? context.recipient),
     ("decision_time", .str (b.isoformat context.decisionTime)),
     ("policy_ids", .texts context.policyIds),
     ("source_lineage_refs", .texts context.sourceLineageRefs),
     ("locality", .str context.locality), ("provider_id", .ofText? context.providerId),
     ("provider_security_posture", .texts context.providerSecurityPosture),
     ("disclosure_form", .ofText? (context.disclosureForm.map DisclosureForm.text))]

/-- `GovernedInformationRef.to_dict`. -/
def GovernedInformationRef.toDict (informationRef : GovernedInformationRef) : JSONValue :=
  .obj [("information_id", .str informationRef.informationId)]

/-- `PolicyDecision.to_dict`. -/
def PolicyDecision.toDict (decision : PolicyDecision) : JSONValue :=
  .obj
    [("operation", .str decision.operation.text),
     ("disposition", .str decision.disposition.text),
     ("reasons", .texts (decision.reasons.map DecisionReason.text)),
     ("conflicts", .texts (decision.conflicts.map PolicyConflictKind.text))]

/-- `InformationAccessRequest.to_dict`. -/
def InformationAccessRequest.toDict (b : InformationBuiltins)
    (request : InformationAccessRequest) : JSONValue :=
  .obj
    [("request_id", .str request.requestId),
     ("information_ref", request.informationRef.toDict), ("context", request.context.toDict b)]

/-- `DisclosureRequest.to_dict`. -/
def DisclosureRequest.toDict (b : InformationBuiltins) (request : DisclosureRequest) :
    JSONValue :=
  .obj
    [("request_id", .str request.requestId),
     ("information_ref", request.informationRef.toDict), ("context", request.context.toDict b)]

/-- `DeclassificationRequest.to_dict`. -/
def DeclassificationRequest.toDict (b : InformationBuiltins) (request : DeclassificationRequest) :
    JSONValue :=
  .obj
    [("request_id", .str request.requestId),
     ("information_ref", request.informationRef.toDict),
     ("proposed_policy_id", .str request.proposedPolicyId),
     ("context", request.context.toDict b)]

/-! ## Events -/

/-- `INFORMATION_GOVERNANCE_EVENT_TYPES`. -/
def informationGovernanceEventTypes : List String :=
  ["information.policy_recorded", "information.lineage_recorded", "information.policy_bound",
   "information.quarantined", "information.access_decided", "information.disclosure_decided",
   "information.declassification_decided", "information.declassified_view_recorded",
   "information.security_audit_receipt"]

/-- `validate_governance_event_envelope`, without protected values. -/
def validateGovernanceEventEnvelope (event : Event) : Except PyError Unit := do
  refuse (event.type ∉ informationGovernanceEventTypes)
    "event is outside the information-governance envelope"
  refuse (event.subject.any isOpaqueId = false)
    "information-governance event subject must be opaque"

/-- `_validate_envelope`. -/
def validateEnvelope (event : Event) (eventId subject : String) (timestamp : Datetime) :
    Except PyError Unit := do
  validateGovernanceEventEnvelope event
  refuse (event.id ≠ eventId ∨ event.subject ≠ some subject ∨
      (event.timestamp == timestamp) = false)
    "information-governance event envelope is inconsistent"

/-- `_governance_event`.  A service whose source is blank cannot be built. -/
def governanceEvent (eventType eventId source subject : String) (timestamp : Datetime)
    (payload : Payload) : Except PyError Event := do
  let event : Event :=
    { type := eventType, source, payload, subject := some subject, id := eventId, timestamp,
      correlationId := none, causationId := none, priority := 0, sequence := none,
      metadata := .empty, schemaVersion := 1, schemaVersion_pos := Nat.one_pos }
  validateGovernanceEventEnvelope event
  return event

section Envelopes

variable (b : InformationBuiltins) (event : Event)

/-- `InformationPolicy.from_event`.  The first version of the schema had no secondary uses,
whatever is in the payload. -/
def InformationPolicy.fromEvent : Except PyError InformationPolicy := do
  refuse (event.type ≠ "information.policy_recorded")
    "event is not an information policy record"
  let payload := if event.schemaVersion = 1 then
      (event.payload.erase "allowed_secondary_uses").erase "secondary_use_semantics_version"
    else event.payload
  let value ← InformationPolicy.fromDict b payload
  validateEnvelope event ("information-policy-recorded:" ++ value.policyId) value.policyId
    value.recordedAt
  return value

/-- `InformationLineage.from_event`. -/
def InformationLineage.fromEvent : Except PyError InformationLineage := do
  refuse (event.type ≠ "information.lineage_recorded")
    "event is not an information lineage record"
  let value ← InformationLineage.fromDict b event.payload
  validateEnvelope event ("information-lineage-recorded:" ++ value.lineageId)
    value.informationId value.recordedAt
  return value

/-- `PolicyBinding.from_event`. -/
def PolicyBinding.fromEvent : Except PyError PolicyBinding := do
  refuse (event.type ≠ "information.policy_bound") "event is not an information policy binding"
  let value ← PolicyBinding.fromDict b event.payload
  validateEnvelope event ("information-policy-bound:" ++ value.bindingId) value.informationId
    value.boundAt
  return value

/-- `QuarantinedInformationRef.from_event`. -/
def QuarantinedInformationRef.fromEvent : Except PyError QuarantinedInformationRef := do
  refuse (event.type ≠ "information.quarantined")
    "event is not an information quarantine record"
  let value ← QuarantinedInformationRef.fromDict b event.payload
  validateEnvelope event ("information-quarantined:" ++ value.quarantineId) value.informationId
    value.quarantinedAt
  return value

/-- How the requests of one kind of decision are read and written, and the digests. -/
structure DecisionCodec {ρ : Type} (form : DecisionForm ρ) where
  readRequest : Payload → Except PyError ρ
  writeRequest : ρ → JSONValue
  digest : DecisionContent ρ → Digest

def accessCodec : DecisionCodec accessForm where
  readRequest := InformationAccessRequest.fromDict b
  writeRequest := InformationAccessRequest.toDict b
  digest := b.informationIds.accessDecision

def disclosureCodec : DecisionCodec disclosureForm where
  readRequest := DisclosureRequest.fromDict b
  writeRequest := DisclosureRequest.toDict b
  digest := b.informationIds.disclosureDecision

def declassificationCodec : DecisionCodec declassificationForm where
  readRequest := DeclassificationRequest.fromDict b
  writeRequest := DeclassificationRequest.toDict b
  digest := b.informationIds.declassificationDecision

namespace GovernanceDecision

variable {ρ : Type} {form : DecisionForm ρ} (codec : DecisionCodec form)

/-- The `to_dict` of a decision. -/
def toDict (decision : GovernanceDecision form) : Payload :=
  .ofList
    [("decision_id", .str decision.decisionId),
     ("request", codec.writeRequest decision.request),
     ("composition_id", .str decision.compositionId),
     ("policy_decision", decision.policyDecision.toDict),
     ("decided_at", .str (b.isoformat decision.decidedAt)),
     ("causal_event_cursor", .int decision.causalEventCursor)]

/-- The `from_dict` of a decision. -/
def fromDict (data : Payload) : Except PyError (GovernanceDecision form) := do
  let request ← codec.readRequest (← itemMapping data "request")
  let compositionId ← itemText b.toBuiltins data "composition_id"
  let policyDecision ← PolicyDecision.fromDict b (← itemMapping data "policy_decision")
  let decidedAt ← requiredDatetime b.toIntentBuiltins data "decided_at"
  let causalEventCursor ← itemInt b.toIntentBuiltins data "causal_event_cursor"
  let value ← GovernanceDecision.create form codec.digest
    { request, compositionId, policyDecision, decidedAt, causalEventCursor }
  refuse (value.decisionId ≠ (← itemText b.toBuiltins data "decision_id"))
    s!"{form.name} id does not match immutable content"
  return value

/-- The `to_event` of a decision. -/
def toEvent (source : String) (decision : GovernanceDecision form) : Except PyError Event :=
  governanceEvent form.eventType (form.eventPrefix ++ decision.decisionId) source
    decision.decisionId decision.decidedAt (decision.toDict b codec)

/-- The `from_event` of a decision. -/
def fromEvent : Except PyError (GovernanceDecision form) := do
  refuse (event.type ≠ form.eventType) form.typeMessage
  let value ← fromDict b codec event.payload
  validateEnvelope event (form.eventPrefix ++ value.decisionId) value.decisionId value.decidedAt
  return value

end GovernanceDecision

namespace DeclassifiedDisclosureView

/-- `DeclassifiedDisclosureView.to_dict`. -/
def toDict (view : DeclassifiedDisclosureView b.informationIds) : Payload :=
  .ofList
    [("view_id", .str view.viewId), ("information_ref", view.informationRef.toDict),
     ("source_information_ref", view.sourceInformationRef.toDict),
     ("approved_policy_id", .str view.approvedPolicyId),
     ("declassification_decision_id", .str view.declassificationDecisionId),
     ("source_policy_ids", .texts view.sourcePolicyIds),
     ("source_lineage_refs", .texts view.sourceLineageRefs),
     ("created_at", .str (b.isoformat view.createdAt)),
     ("causal_event_cursor", .int view.causalEventCursor)]

/-- `DeclassifiedDisclosureView.from_dict`. -/
def fromDict (data : Payload) :
    Except PyError (DeclassifiedDisclosureView b.informationIds) := do
  let viewId ← itemText b.toBuiltins data "view_id"
  let informationRef ← GovernedInformationRef.fromDict b (← itemMapping data "information_ref")
  let sourceInformationRef ←
    GovernedInformationRef.fromDict b (← itemMapping data "source_information_ref")
  let approvedPolicyId ← itemText b.toBuiltins data "approved_policy_id"
  let declassificationDecisionId ← itemText b.toBuiltins data "declassification_decision_id"
  let sourcePolicyIds ← strings b.toIntentBuiltins data "source_policy_ids"
  let sourceLineageRefs ← strings b.toIntentBuiltins data "source_lineage_refs"
  let createdAt ← requiredDatetime b.toIntentBuiltins data "created_at"
  let causalEventCursor ← itemInt b.toIntentBuiltins data "causal_event_cursor"
  let content : ViewContent :=
    { sourceInformationRef, approvedPolicyId, declassificationDecisionId, sourcePolicyIds,
      sourceLineageRefs, createdAt, causalEventCursor }
  let value ← checkedBy (content.check b.informationIds viewId informationRef) fun checked =>
    (⟨content, viewId, informationRef, checked⟩ : DeclassifiedDisclosureView b.informationIds)
  refuse (value.viewId ≠ (b.informationIds.view content).id "declassview")
    "declassified view id does not match immutable content"
  return value

/-- `DeclassifiedDisclosureView.to_event`. -/
def toEvent (source : String) (view : DeclassifiedDisclosureView b.informationIds) :
    Except PyError Event :=
  governanceEvent "information.declassified_view_recorded"
    ("information-declassified-view-recorded:" ++ view.viewId) source
    view.informationRef.informationId view.createdAt (view.toDict b)

/-- `DeclassifiedDisclosureView.from_event`. -/
def fromEvent : Except PyError (DeclassifiedDisclosureView b.informationIds) := do
  refuse (event.type ≠ "information.declassified_view_recorded")
    "event is not a declassified disclosure view"
  let value ← fromDict b event.payload
  validateEnvelope event ("information-declassified-view-recorded:" ++ value.viewId)
    value.informationRef.informationId value.createdAt
  return value

end DeclassifiedDisclosureView

/-- `SecurityAuditReceipt.from_event`, as a check: the projection keeps no receipt. -/
def checkSecurityAuditReceipt : Except PyError Unit := do
  refuse (event.type ≠ "information.security_audit_receipt")
    "event is not a security audit receipt"
  let receiptId ← itemText b.toBuiltins event.payload "receipt_id"
  let decisionType ← itemText b.toBuiltins event.payload "decision_type"
  let decisionId ← itemText b.toBuiltins event.payload "decision_id"
  let contextId ← itemText b.toBuiltins event.payload "context_id"
  let disposition ←
    DecisionDisposition.ofText (← itemText b.toBuiltins event.payload "disposition")
  let recordedAt ← requiredDatetime b.toIntentBuiltins event.payload "recorded_at"
  requireOpaqueId receiptId "security audit receipt id"
  requireOpaqueId decisionId "audit decision id"
  requireOpaqueId contextId "audit context id"
  refuse (decisionType ≠ "access" ∧ decisionType ≠ "disclosure")
    "unsupported security audit receipt type"
  refuse (disposition ≠ .allow) "material denials require canonical decision admission"
  validateEnvelope event ("information-security-audit:" ++ receiptId) receiptId recordedAt

end Envelopes

end Noema
