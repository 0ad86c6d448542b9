import Noema.RecordWriters

/-!
# An information policy is read as it was written

Whatever payload a policy was read from, writing it and reading that yields it again: the
writer keeps the content and the id, and the reader compares nothing else.
-/
namespace Noema

variable {b : ContentBuiltins}

theorem HoldConstraint.found (hold : HoldConstraint) :
    ∀ row ∈ hold.fields, Dict.get? hold.toDict row.1 = some row.2 := by
  refine Payload.found ?_
  show ["hold_id", "authority_id", "active"].Nodup
  decide

theorem HoldConstraint.fromDict_toDict (hold : HoldConstraint) :
    HoldConstraint.fromDict b.toInformationBuiltins hold.toDict = .ok hold := by
  have hfields := hold.found
  simp only [fields, List.forall_mem_cons] at hfields
  obtain ⟨hid, hauthority, hactive, -⟩ := hfields
  rw [fromDict, bind_of_ok (Payload.stored_of_get hid).text,
    bind_of_ok (Payload.stored_of_get hauthority).text]
  dsimp only
  rw [(Payload.stored_of_get hactive).boolOr]
  exact checkedBy_of hold.checked

/-- Objects in a list are read one by one. -/
theorem mappingsOr_of_get {α : Type} {q : Payload} {key : String} {toDict : α → Payload}
    {values : List α}
    (h : Dict.get? q key = some (.list (values.map fun value => (toDict value).value))) :
    mappingsOr q key = .ok (values.map toDict) := by
  rw [mappingsOr, h]
  show (values.map (Payload.value ∘ toDict)).mapM JSONValue.mapping = _
  rw [← List.map_map]
  exact mapM_written fun data _ => Payload.mapping_value data

theorem RetentionPolicy.found (retention : RetentionPolicy) :
    ∀ row ∈ retention.fields b, Dict.get? (retention.toDict b) row.1 = some row.2 := by
  refine Payload.found ?_
  show ["retain_until", "delete_after", "deletion_required", "holds"].Nodup
  decide

theorem RetentionPolicy.fromDict_toDict (htimes : b.ReadsTimes) (retention : RetentionPolicy) :
    RetentionPolicy.fromDict b.toInformationBuiltins (retention.toDict b) = .ok retention := by
  have hfields := retention.found (b := b)
  simp only [fields, List.forall_mem_cons] at hfields
  obtain ⟨hretain, hdelete, hrequired, hholds, -⟩ := hfields
  have hread : (retention.holds.map HoldConstraint.toDict).mapM
      (HoldConstraint.fromDict b.toInformationBuiltins) = .ok retention.holds :=
    mapM_written fun hold _ => hold.fromDict_toDict
  rw [fromDict, bind_of_ok (mappingsOr_of_get hholds),
    bind_of_ok ((Payload.stored_of_get hretain).timeOrNone htimes),
    bind_of_ok ((Payload.stored_of_get hdelete).timeOrNone htimes)]
  dsimp only
  rw [(Payload.stored_of_get hrequired).boolOr, bind_of_ok hread, dif_pos retention.timed,
    dif_pos retention.unique]

/-- An event of governance is made if its subject is opaque. -/
theorem governanceEvent_ok (eventType eventId source : String) {subject : String}
    (timestamp : Datetime) (payload : Payload) (htype : eventType ∈ informationGovernanceEventTypes)
    (hid : isOpaqueId subject = true) :
    ∃ event, governanceEvent eventType eventId source subject timestamp payload = .ok event ∧
      event.type = eventType ∧ event.payload = payload ∧
      validateEnvelope event eventId subject timestamp = .ok () := by
  let event : Event :=
    { type := eventType, source, payload, subject := some subject, id := eventId, timestamp,
      correlationId := none, causationId := none, priority := 0, sequence := none,
      metadata := .empty, schemaVersion := 1, schemaVersion_pos := Nat.one_pos }
  have hvalid : validateGovernanceEventEnvelope event = .ok () := by
    unfold validateGovernanceEventEnvelope
    rw [refuse_of (not_not.mpr htype), ok_bind]
    exact refuse_of (by simp [event, hid])
  refine ⟨event, bind_of_ok hvalid _, rfl, rfl, ?_⟩
  rw [validateEnvelope, hvalid, ok_bind]
  exact refuse_of (by simp [event])

theorem validateEnvelope_migrated (event : Event) (data : Payload) (eventId subject : String)
    (timestamp : Datetime) :
    validateEnvelope (event.migrated data) eventId subject timestamp =
      validateEnvelope event eventId subject timestamp := rfl

/-- How a reader compares the id of a policy with its content. -/
def PolicyContent.compareId (content : PolicyContent) (b : InformationBuiltins)
    (policyId : String) : Except PyError Unit :=
  if content.secondaryUseSemanticsVersion = 1 then
    refuse (policyId ≠ (b.informationIds.legacyPolicy content).id "ipol")
      "legacy information policy id does not match immutable content"
  else do
    let expectedId := (b.informationIds.policy content.normalized).id "ipol"
    content.normalized.check expectedId
    refuse (policyId ≠ expectedId ∨ (content == content.normalized) = false)
      "information policy id does not match immutable content"

/-- The reader's last step. -/
theorem PolicyContent.compareId_then (content : PolicyContent) (b : InformationBuiltins)
    (policyId : String) (policy : InformationPolicy) :
    (if content.secondaryUseSemanticsVersion = 1 then do
      refuse (policyId ≠ (b.informationIds.legacyPolicy content).id "ipol")
        "legacy information policy id does not match immutable content"
      return policy
    else do
      content.normalized.check ((b.informationIds.policy content.normalized).id "ipol")
      refuse (policyId ≠ (b.informationIds.policy content.normalized).id "ipol" ∨
          (content == content.normalized) = false)
        "information policy id does not match immutable content"
      return policy) = (do
      content.compareId b policyId
      return policy) := by
  unfold compareId
  by_cases hlegacy : content.secondaryUseSemanticsVersion = 1
  · rw [if_pos hlegacy, if_pos hlegacy]
  · rw [if_neg hlegacy, if_neg hlegacy]
    exact (bind_assoc _ _ _).symm

theorem Classification.ofText_text (classification : Classification) :
    ofText classification.text = .ok classification := by
  cases classification <;> rfl

namespace InformationPolicy

theorem found (policy : InformationPolicy) :
    ∀ row ∈ policy.fields b, Dict.get? (policy.toDict b) row.1 = some row.2 := by
  refine Payload.found ?_
  show ["policy_id", "version", "origin_domains", "classification", "allowed_purposes",
    "allowed_recipients", "allowed_trust_domains", "allowed_localities", "allowed_providers",
    "cross_agent_sharing", "retention", "disclosure_forms", "declassification_authorities",
    "recorded_at", "allowed_secondary_uses", "secondary_use_semantics_version"].Nodup
  decide

theorem fromDict_ok {data : Payload} {policy : InformationPolicy}
    (h : fromDict b.toInformationBuiltins data = .ok policy) :
    secondaryUses b.toInformationBuiltins data = .ok policy.allowedSecondaryUses ∧
      policy.toPolicyContent.compareId b.toInformationBuiltins policy.policyId = .ok () := by
  unfold fromDict at h
  obtain ⟨uses, huses, h⟩ := bind_eq_ok h
  iterate 17
    obtain ⟨_, -, h⟩ := bind_eq_ok h
  obtain ⟨read, hread, h⟩ := bind_eq_ok h
  obtain ⟨hchecked, rfl⟩ := checkedBy_ok hread
  obtain ⟨_, hid, h⟩ := bind_eq_ok ((PolicyContent.compareId_then _ _ _ _).symm.trans h)
  cases h
  exact ⟨huses, hid⟩

theorem fromDict_toDict (htimes : b.ReadsTimes) (policy : InformationPolicy)
    (hid : policy.toPolicyContent.compareId b.toInformationBuiltins policy.policyId = .ok ()) :
    fromDict b.toInformationBuiltins (policy.toDict b) = .ok policy := by
  have hfields := policy.found (b := b)
  simp only [fields, List.forall_mem_cons] at hfields
  obtain ⟨hpolicy, hversion, horigins, hclass, hpurposes, hrecipients, hdomains, hlocalities,
    hproviders, hsharing, hretention, hforms, hauthorities, htime, huses, hsemantics, -⟩ := hfields
  have hread : secondaryUses b.toInformationBuiltins (policy.toDict b) =
      .ok policy.allowedSecondaryUses := by
    rw [secondaryUses, huses]
    exact (Payload.stored_of_get huses).members InformationOperation.ofText_text
  have hmeaning : secondaryUseSemantics b.toInformationBuiltins (policy.toDict b) =
      .ok policy.secondaryUseSemanticsVersion := by
    rw [secondaryUseSemantics, hsemantics]
    rfl
  have hmapping : itemMapping (policy.toDict b) "retention" = .ok (policy.retention.toDict b) := by
    rw [itemMapping, item_of_get hretention]
    exact Payload.mapping_value _
  rw [fromDict, bind_of_ok hread, bind_of_ok hmeaning,
    bind_of_ok (Payload.stored_of_get hpolicy).text,
    bind_of_ok (Payload.stored_of_get hversion).int,
    bind_of_ok (Payload.stored_of_get horigins).texts,
    bind_of_ok (Payload.stored_of_get hclass).text, bind_of_ok (Classification.ofText_text _),
    bind_of_ok (Payload.stored_of_get hpurposes).texts,
    bind_of_ok (Payload.stored_of_get hrecipients).texts,
    bind_of_ok (Payload.stored_of_get hdomains).texts,
    bind_of_ok (Payload.stored_of_get hlocalities).texts,
    bind_of_ok (Payload.stored_of_get hproviders).texts,
    bind_of_ok (Payload.stored_of_get hsharing).bool, bind_of_ok hmapping,
    bind_of_ok (policy.retention.fromDict_toDict htimes),
    bind_of_ok ((Payload.stored_of_get hforms).members DisclosureForm.ofText_text),
    bind_of_ok (Payload.stored_of_get hauthorities).texts,
    bind_of_ok ((Payload.stored_of_get htime).time htimes)]
  dsimp only
  rw [bind_of_ok (checkedBy_of policy.checked)]
  exact (PolicyContent.compareId_then _ _ _ _).trans (bind_of_ok hid _)

/-- The reader takes two payloads for the same that differ in version 2 fields alone, and
mean the same by those. -/
theorem fromDict_congr {data other : Payload}
    (hfields : ∀ key, key ≠ "allowed_secondary_uses" → key ≠ "secondary_use_semantics_version" →
      Dict.get? data key = Dict.get? other key)
    (huses : secondaryUses b.toInformationBuiltins data =
      secondaryUses b.toInformationBuiltins other)
    (hsemantics : secondaryUseSemantics b.toInformationBuiltins data =
      secondaryUseSemantics b.toInformationBuiltins other) :
    fromDict b.toInformationBuiltins data = fromDict b.toInformationBuiltins other := by
  unfold fromDict
  rw [huses, hsemantics]
  simp (disch := decide) only [itemText, itemInt, strings, textsOr, itemBool, itemMapping,
    membersOf, requiredDatetime, datetime, Payload.item, Payload.get, hfields]

variable {event : Event} {policy : InformationPolicy}

/-- What is read of an event, once its payload is settled. -/
def readWith (b : ContentBuiltins) (event : Event) (data : Payload) :
    Except PyError InformationPolicy := do
  let value ← fromDict b.toInformationBuiltins data
  validateEnvelope event ("information-policy-recorded:" ++ value.policyId) value.policyId
    value.recordedAt
  return value

/-- A version 1 event is read without the fields of version 2. -/
theorem fromEvent_legacy (htype : event.type = "information.policy_recorded")
    (hversion : event.schemaVersion = 1) :
    fromEvent b.toInformationBuiltins event = readWith b event
      ((event.payload.erase "allowed_secondary_uses").erase "secondary_use_semantics_version") := by
  rw [fromEvent, refuse_of (not_not.mpr htype), ok_bind]
  dsimp only
  rw [if_pos hversion]
  rfl

theorem fromEvent_migrated (htype : event.type = "information.policy_recorded")
    (data : Payload) :
    fromEvent b.toInformationBuiltins (event.migrated data) =
      readWith b (event.migrated data) data := by
  have htype : (event.migrated data).type = "information.policy_recorded" := htype
  rw [fromEvent, refuse_of (not_not.mpr htype), ok_bind]
  dsimp only
  rw [if_neg (by simp [Event.migrated])]
  rfl

theorem fromEvent_ok (h : fromEvent b.toInformationBuiltins event = .ok policy) :
    ∃ data, fromDict b.toInformationBuiltins data = .ok policy ∧
      (event.schemaVersion = 1 → Dict.get? data "allowed_secondary_uses" = none) := by
  unfold fromEvent at h
  obtain ⟨_, -, h⟩ := bind_eq_ok h
  obtain ⟨value, hvalue, h⟩ := bind_eq_ok h
  obtain ⟨_, -, h⟩ := bind_eq_ok h
  cases h
  refine ⟨_, hvalue, fun hversion => ?_⟩
  rw [if_pos hversion, Dict.get?_erase, Dict.get?_erase, if_neg (by decide), if_pos rfl]

/-- **A policy that was read is read again from the event that it is written into.** -/
theorem written (htimes : b.ReadsTimes) (h : fromEvent b.toInformationBuiltins event = .ok policy)
    {source : String} (hsource : blank source = false) :
    (policy.toEvent b source >>= fromEvent b.toInformationBuiltins) = .ok policy := by
  obtain ⟨data, hdata, -⟩ := fromEvent_ok h
  have hgiven : requireText source "event source" = .ok () := if_neg (by simp [hsource])
  have hid : isOpaqueId policy.policyId = true := by
    obtain ⟨_, hid, -⟩ := bind_eq_ok policy.checked
    exact Bool.not_eq_false _ ▸ refuse_ok hid
  have hdict := fromDict_toDict htimes policy (fromDict_ok hdata).2
  obtain ⟨made, hmade, htype, hpayload, hsame⟩ := governanceEvent_ok "information.policy_recorded"
    ("information-policy-recorded:" ++ policy.policyId) source policy.recordedAt (policy.toDict b)
    (by decide) hid
  rw [toEvent, hgiven, ok_bind, hmade, ok_bind]
  show fromEvent _ (made.migrated made.payload) = _
  refine (fromEvent_migrated htype _).trans ?_
  rw [readWith, hpayload, hdict, ok_bind, validateEnvelope_migrated, hsame]
  rfl

/-- A policy from a version 1 envelope allows no secondary use. -/
theorem no_secondary_use (hversion : event.schemaVersion = 1)
    (h : fromEvent b.toInformationBuiltins event = .ok policy) :
    policy.allowedSecondaryUses = [] := by
  obtain ⟨data, hdata, hnone⟩ := fromEvent_ok h
  have huses := (fromDict_ok hdata).1
  rw [secondaryUses, hnone hversion] at huses
  exact (Except.ok.inj huses).symm

end InformationPolicy
end Noema
