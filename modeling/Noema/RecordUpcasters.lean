import Noema.ExposurePayloads
import Noema.SchemaNormalization

/-!
# Upcasting the records of governance and attention

Version 2 of a policy says which secondary uses it allows, version 2 of an attention source
policy which fields hold information ids, and version 2 of a disposition by which decisions
its source was accessed.  An event of version 1 is upcast with none of these, whatever is in
its payload.
-/
namespace Noema

/-! ## Upcasters -/

section Upcasters

variable (event : Event)

/-- `_upcast_policy_v1`. -/
def upcastPolicyV1 : Except PyError Event :=
  let payload := event.payload.put ("allowed_secondary_uses", .list [])
  .ok (event.migrated (payload.put ("secondary_use_semantics_version", .int 1)))

/-- `_upcast_source_policy_v1`. -/
def upcastSourcePolicyV1 : Except PyError Event :=
  let payload := event.payload.put ("information_id_payload_fields", .list [])
  .ok (event.migrated (payload.put ("source_governance_contract_version", .int 1)))

/-- What version 1 of a disposition cites; it has to be a list. -/
def legacyAccessItems (payload : Payload) : Except PyError (List JSONValue) :=
  match Dict.get? payload "information_access_decision_ids" with
  | none => .ok []
  | some (.list items) => .ok items
  | some _ => .error (.valueError "legacy attention access-decision refs must be a list")

/-- `_upcast_disposition_v1`. -/
def upcastDispositionV1 : Except PyError Event := do
  let legacyAccess ← legacyAccessItems event.payload
  let payload := event.payload.erase "information_access_decision_ids"
  let payload := payload.put ("source_information_access_decision_ids", .list [])
  let payload := payload.put ("derived_information_access_decision_ids", .list legacyAccess)
  return event.migrated (payload.put ("source_governance_contract_version", .int 1))

end Upcasters

/-! ## Registering -/

/-- A validator that reads the record. -/
def readsRecord {α : Type} (fromEvent : Event → Except PyError α) (event : Event) :
    Except PyError Unit := do
  let _ ← fromEvent event
  return ()

/-- The `_validate` of information governance, by the type that it is registered for. -/
def informationValidator (b : InformationBuiltins) :
    String → Option (Event → Except PyError Unit)
  | "information.policy_recorded" => some (readsRecord (InformationPolicy.fromEvent b))
  | "information.lineage_recorded" => some (readsRecord (InformationLineage.fromEvent b))
  | "information.policy_bound" => some (readsRecord (PolicyBinding.fromEvent b))
  | "information.quarantined" => some (readsRecord (QuarantinedInformationRef.fromEvent b))
  | "information.access_decided" =>
    some (readsRecord (GovernanceDecision.fromEvent b · (accessCodec b)))
  | "information.disclosure_decided" =>
    some (readsRecord (GovernanceDecision.fromEvent b · (disclosureCodec b)))
  | "information.declassification_decided" =>
    some (readsRecord (GovernanceDecision.fromEvent b · (declassificationCodec b)))
  | "information.declassified_view_recorded" =>
    some (readsRecord (DeclassifiedDisclosureView.fromEvent b))
  | "information.security_audit_receipt" => some (checkSecurityAuditReceipt b)
  | _ => none

def informationUpcaster : String → Option (Event → Except PyError Event)
  | "information.policy_recorded" => some upcastPolicyV1
  | _ => none

/-- The `_VALIDATORS` of attention, by type. -/
def attentionValidator (b : ContentBuiltins) : String → Option (Event → Except PyError Unit)
  | "attention.source_policy_recorded" =>
    some (readsRecord (AttentionSourcePolicySnapshot.fromEvent b))
  | "attention.feature_schema_recorded" =>
    some (readsRecord (AttentionFeatureSchemaSnapshot.fromEvent b))
  | "attention.disposition_recorded" =>
    some (readsRecord (AttentionDispositionRecord.fromEvent b))
  | "attention.disposition_outcome_linked" =>
    some (readsRecord (AttentionDispositionOutcomeLink.fromEvent b))
  | "attention.disposition_feedback_recorded" =>
    some (readsRecord (AttentionDispositionFeedbackRecord.fromEvent b))
  | _ => none

def attentionUpcaster : String → Option (Event → Except PyError Event)
  | "attention.source_policy_recorded" => some upcastSourcePolicyV1
  | "attention.disposition_recorded" => some upcastDispositionV1
  | _ => none

/-- Types with an upcaster are registered in two versions, of which the second is validated;
the others in one. -/
def registerVersions (validator : String → Option (Event → Except PyError Unit))
    (upcaster : String → Option (Event → Except PyError Event)) (schemas : EventSchemaRegistry) :
    EventSchemaRegistry where
  current eventType :=
    match validator eventType, upcaster eventType with
    | none, _ => schemas.current eventType
    | some _, none => some 1
    | some _, some _ => some 2
  validators eventType version :=
    match validator eventType, upcaster eventType, version with
    | some validator, none, 1 => some validator
    | some validator, some _, 2 => some validator
    | _, _, version => schemas.validators eventType version
  upcasters eventType version :=
    match upcaster eventType, version with
    | some upcaster, 1 => some upcaster
    | _, version => schemas.upcasters eventType version

/-- `register_information_event_schemas`. -/
def registerInformationEventSchemas (b : InformationBuiltins) :
    EventSchemaRegistry → EventSchemaRegistry :=
  registerVersions (informationValidator b) informationUpcaster

/-- `register_deliberative_attention_event_schemas`. -/
def registerDeliberativeAttentionEventSchemas (b : ContentBuiltins) :
    EventSchemaRegistry → EventSchemaRegistry :=
  registerVersions (attentionValidator b) attentionUpcaster

/-- The registry that a kernel makes for itself. -/
def kernelSchemas (b : ContentBuiltins) : EventSchemaRegistry :=
  registerDeliberativeAttentionEventSchemas b
    (registerInformationEventSchemas b.toInformationBuiltins (intentRegistry b.toBuiltins))

/-! ## Normalizing -/

namespace EventSchemaRegistry

/-- A type in its second version, whose validator reads the record. -/
structure Migrates {R : Type} (schemas : EventSchemaRegistry) (eventType : String)
    (upcaster : Event → Except PyError Event) (fromEvent : Event → Except PyError R) : Prop where
  current : schemas.currentVersion eventType = 2
  upcasters : schemas.upcasters eventType 1 = some upcaster
  validators : schemas.validators eventType 2 = some (readsRecord fromEvent)
  /-- Only the payload changes. -/
  migrated : ∀ event normalized, upcaster event = .ok normalized →
    ∃ payload, normalized = event.migrated payload

variable {R : Type} {schemas : EventSchemaRegistry} {event normalized : Event} {record : R}
  {upcaster : Event → Except PyError Event} {fromEvent : Event → Except PyError R}

theorem Migrates.upcastOnce (h : schemas.Migrates event.type upcaster fromEvent)
    (hversion : event.schemaVersion = 1) : schemas.upcastOnce event = upcaster event := by
  unfold EventSchemaRegistry.upcastOnce
  rw [hversion, h.upcasters]
  show (upcaster event >>= _) = _
  cases hup : upcaster event with
  | error error => rfl
  | ok normalized =>
    obtain ⟨payload, rfl⟩ := h.migrated event normalized hup
    rw [ok_bind]
    exact (if_neg (by simp [Event.migrated])).trans (if_neg (by simp [Event.migrated]))

/-- An event of version 1 is normalized to its upcast, if that can be read. -/
theorem Migrates.normalize (h : schemas.Migrates event.type upcaster fromEvent)
    (hversion : event.schemaVersion = 1) :
    schemas.normalize event = (do
      let normalized ← upcaster event
      readsRecord fromEvent normalized
      return normalized) := by
  have hone : schemas.upcastBy (2 - 1) event = upcaster event := by
    show (schemas.upcastOnce event >>= Except.ok) = _
    rw [h.upcastOnce hversion]
    exact bind_pure (upcaster event)
  dsimp only [EventSchemaRegistry.normalize]
  rw [h.current, hversion, if_neg (by omega), hone]
  cases hup : upcaster event with
  | error error => rfl
  | ok normalized =>
    obtain ⟨payload, rfl⟩ := h.migrated event normalized hup
    have hvalidate : schemas.validate (event.migrated payload) =
        readsRecord fromEvent (event.migrated payload) := by
      unfold EventSchemaRegistry.validate Event.migrated
      dsimp only
      rw [h.validators]
    rw [ok_bind, ok_bind, hvalidate]

theorem Migrates.read_iff (h : schemas.Migrates event.type upcaster fromEvent)
    (hversion : event.schemaVersion = 1) :
    (schemas.normalize event >>= fromEvent) = .ok record ↔
      (upcaster event >>= fromEvent) = .ok record := by
  rw [h.normalize hversion]
  cases upcaster event with
  | error error => exact Iff.rfl
  | ok normalized =>
    rw [ok_bind, ok_bind, readsRecord]
    cases hread : fromEvent normalized with
    | error error =>
      constructor <;> (intro hfalse; cases hfalse)
    | ok read =>
      rw [ok_bind]
      show fromEvent normalized = _ ↔ _
      rw [hread]

end EventSchemaRegistry

section Kernel

variable (b : ContentBuiltins)

theorem kernelSchemas_policy : (kernelSchemas b).Migrates "information.policy_recorded"
    upcastPolicyV1 (InformationPolicy.fromEvent b.toInformationBuiltins) where
  current := rfl
  upcasters := rfl
  validators := rfl
  migrated _ _ h := ⟨_, (Except.ok.inj h).symm⟩

theorem kernelSchemas_sourcePolicy : (kernelSchemas b).Migrates attentionSourcePolicyRecorded
    upcastSourcePolicyV1 (AttentionSourcePolicySnapshot.fromEvent b) where
  current := rfl
  upcasters := rfl
  validators := rfl
  migrated _ _ h := ⟨_, (Except.ok.inj h).symm⟩

theorem kernelSchemas_disposition : (kernelSchemas b).Migrates attentionDispositionRecorded
    upcastDispositionV1 (AttentionDispositionRecord.fromEvent b) where
  current := rfl
  upcasters := rfl
  validators := rfl
  migrated _ _ h := by
    obtain ⟨items, -, h⟩ := bind_eq_ok h
    exact ⟨_, (Except.ok.inj h).symm⟩

end Kernel

end Noema
