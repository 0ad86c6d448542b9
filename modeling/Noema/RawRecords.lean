import Noema.AttentionRoundTrip
import Noema.ExposureReplay
import Noema.PolicyRoundTrip

/-!
# Raw and migrated records

Some replays read a stored event as it is, others read what the kernel's registry makes of
it.  For an event of version 1 the two agree on an information policy, whose reader drops
what a legacy envelope must not say.  The readers of attention records do not: they believe
the version marker in the payload, which the upcasters overwrite.  So a version 1 event whose
payload says version 2 is read raw as a record of version 2, and is refused after migration.
-/
namespace Noema

/-! ## Agreement -/

/-- How a kind of record is read and written, and whether a record has permissions that
version 2 introduced. -/
structure VersionedRecord (R : Type) where
  fromEvent : Event → Except PyError R
  toEvent : String → R → Except PyError Event
  Grants : R → Prop

/-- What is to hold of a stored event: raw or migrated, it is read as the same record or not
at all; the record has no permission of version 2, and survives being written. -/
structure RawAgrees {R : Type} (schemas : EventSchemaRegistry) (kind : VersionedRecord R)
    (event : Event) : Prop where
  same : ∀ record, kind.fromEvent event = .ok record ↔
    (schemas.normalize event >>= kind.fromEvent) = .ok record
  noGrant : ∀ record, kind.fromEvent event = .ok record → ¬kind.Grants record
  written : ∀ record source, kind.fromEvent event = .ok record → blank source = false →
    (kind.toEvent source record >>= kind.fromEvent) = .ok record

section Agreement

variable {R T : Type} {schemas : EventSchemaRegistry} {kind : VersionedRecord R} {event : Event}
  {Recorded : R → Prop} {terms : R → T} {raw migrated : Except PyError T}

/-- The terms on which a record is read, raw and migrated, decide: they are the same, or no
record stands in the event on either. -/
theorem rawAgrees_of_terms
    (hraw : ∀ record, kind.fromEvent event = .ok record ↔
      raw = .ok (terms record) ∧ Recorded record)
    (hmigrated : ∀ record, (schemas.normalize event >>= kind.fromEvent) = .ok record ↔
      migrated = .ok (terms record) ∧ Recorded record)
    (hgrant : ∀ record, migrated = .ok (terms record) → ¬kind.Grants record)
    (hwritten : ∀ record source, kind.fromEvent event = .ok record → blank source = false →
      (kind.toEvent source record >>= kind.fromEvent) = .ok record) :
    RawAgrees schemas kind event ↔
      raw = migrated ∨
        ∀ record, Recorded record → raw ≠ .ok (terms record) ∧ migrated ≠ .ok (terms record) := by
  constructor
  · intro h
    refine or_iff_not_imp_left.mpr fun hdiffer record hrecorded => ?_
    have hboth : (raw = .ok (terms record) ∧ Recorded record) ↔
        (migrated = .ok (terms record) ∧ Recorded record) := by
      rw [← hraw, ← hmigrated]
      exact h.same record
    constructor
    · intro hread
      exact hdiffer (hread.trans (hboth.mp ⟨hread, hrecorded⟩).1.symm)
    · intro hread
      exact hdiffer ((hboth.mpr ⟨hread, hrecorded⟩).1.trans hread.symm)
  · intro h
    have hsame : ∀ record, kind.fromEvent event = .ok record ↔
        (schemas.normalize event >>= kind.fromEvent) = .ok record := fun record => by
      rw [hraw, hmigrated]
      obtain heq | hnone := h
      · rw [heq]
      · constructor
        · rintro ⟨hread, hrecorded⟩
          exact absurd hread (hnone record hrecorded).1
        · rintro ⟨hread, hrecorded⟩
          exact absurd hread (hnone record hrecorded).2
    refine ⟨hsame, fun record hread => ?_, hwritten⟩
    exact hgrant record ((hmigrated record).mp ((hsame record).mp hread)).1

end Agreement

section Kinds

variable (b : ContentBuiltins)

/-- Information policies: version 2 grants secondary uses. -/
def policyRecords : VersionedRecord InformationPolicy where
  fromEvent := InformationPolicy.fromEvent b.toInformationBuiltins
  toEvent := InformationPolicy.toEvent b
  Grants policy := policy.allowedSecondaryUses ≠ []

/-- Attention source policies: version 2 declares the fields of information ids. -/
def sourcePolicyRecords : VersionedRecord AttentionSourcePolicySnapshot where
  fromEvent := AttentionSourcePolicySnapshot.fromEvent b
  toEvent := AttentionSourcePolicySnapshot.toEvent b
  Grants policy := policy.informationIdPayloadFields ≠ []

/-- Dispositions: version 2 claims access to the source. -/
def dispositionRecords : VersionedRecord AttentionDispositionRecord where
  fromEvent := AttentionDispositionRecord.fromEvent b
  toEvent := AttentionDispositionRecord.toEvent b
  Grants record := record.sourceInformationAccessDecisionIds ≠ []

end Kinds

variable {b : ContentBuiltins} {event : Event}

/-! ## Information policies -/

/-- The upcast event is read as the raw one. -/
theorem InformationPolicy.read_upcast (htype : event.type = "information.policy_recorded")
    (hversion : event.schemaVersion = 1) :
    (upcastPolicyV1 event >>= fromEvent b.toInformationBuiltins) =
      fromEvent b.toInformationBuiltins event := by
  rw [fromEvent_legacy htype hversion]
  refine (fromEvent_migrated htype _).trans ?_
  refine congrArg (· >>= _) (fromDict_congr ?_ ?_ ?_)
  · intro key huses hsemantics
    show Dict.get? ((event.payload.put _).put _) key = _
    rw [Dict.get?_put, Dict.get?_put, Dict.get?_erase, Dict.get?_erase, if_neg (Ne.symm hsemantics),
      if_neg (Ne.symm huses), if_neg (Ne.symm hsemantics), if_neg (Ne.symm huses)]
  · have hnone : Dict.get? ((event.payload.erase "allowed_secondary_uses").erase
        "secondary_use_semantics_version") "allowed_secondary_uses" = none := by
      rw [Dict.get?_erase, Dict.get?_erase, if_neg (by decide), if_pos rfl]
    have hempty : Dict.get? ((event.payload.put ("allowed_secondary_uses", .list [])).put
        ("secondary_use_semantics_version", .int 1)) "allowed_secondary_uses" =
        some (.list []) := by
      rw [Dict.get?_put, Dict.get?_put, if_neg (by decide), if_pos rfl]
    rw [secondaryUses, secondaryUses, hnone, hempty]
    dsimp only
    rw [membersOf, item_of_get hempty]
    rfl
  · have hnone : ∀ key ∈ ["allowed_secondary_uses", "secondary_use_semantics_version"],
        Dict.get? ((event.payload.erase "allowed_secondary_uses").erase
          "secondary_use_semantics_version") key = none := by
      simp only [List.forall_mem_cons, Dict.get?_erase]
      simp
    have hone : Dict.get? ((event.payload.put ("allowed_secondary_uses", .list [])).put
        ("secondary_use_semantics_version", .int 1)) "secondary_use_semantics_version" =
        some (.int 1) := by
      rw [Dict.get?_put, if_pos rfl]
    rw [secondaryUseSemantics, secondaryUseSemantics, hone, hnone _ (by simp), hnone _ (by simp)]
    rfl

theorem policy_rawAgrees (htimes : b.ReadsTimes)
    (htype : event.type = "information.policy_recorded") (hversion : event.schemaVersion = 1) :
    RawAgrees (kernelSchemas b) (policyRecords b) event where
  same policy := by
    have hmigrates := kernelSchemas_policy b
    rw [← htype] at hmigrates
    show _ ↔ ((kernelSchemas b).normalize event >>= InformationPolicy.fromEvent _) = _
    rw [hmigrates.read_iff hversion, InformationPolicy.read_upcast htype hversion]
    rfl
  noGrant policy h hgrants := hgrants (InformationPolicy.no_secondary_use hversion h)
  written policy source h hsource := InformationPolicy.written htimes h hsource

/-! ## Attention source policies -/

namespace AttentionSourcePolicySnapshot

/-- The terms of every migrated policy. -/
def legacyLineage : Int × List String := (1, [])

theorem read_upcast (htype : event.type = attentionSourcePolicyRecorded)
    (policy : AttentionSourcePolicySnapshot) :
    (upcastSourcePolicyV1 event >>= fromEvent b) = .ok policy ↔
      (.ok legacyLineage : Except PyError _) = .ok policy.lineage ∧ RecordedBy b event policy := by
  let data : Payload := (event.payload.put ("information_id_payload_fields", .list [])).put
    ("source_governance_contract_version", .int 1)
  have hmarker : Dict.get? data "source_governance_contract_version" = some (.int 1) := by
    rw [Dict.get?_put, if_pos rfl]
  have hlineage : lineageIn b data = .ok legacyLineage := by
    rw [lineageIn, contractVersionIn, hmarker]
    rfl
  have hread : fromEvent b (event.migrated data) = .ok policy ↔
      lineageIn b (event.migrated data).payload = .ok policy.lineage ∧
        RecordedBy b (event.migrated data) policy :=
    fromEvent_iff htype
  rw [Event.migrated_payload, hlineage, recordedBy_migrated] at hread
  · exact hread
  · intro key hfields hmarker
    rw [Dict.get?_put, Dict.get?_put, if_neg (Ne.symm hmarker), if_neg (Ne.symm hfields)]

end AttentionSourcePolicySnapshot

/-- **A source policy of version 1 is read alike exactly if its payload says version 1, or
says no policy at all.** -/
theorem sourcePolicy_rawAgrees_iff (htimes : b.ReadsTimes)
    (htype : event.type = attentionSourcePolicyRecorded) (hversion : event.schemaVersion = 1) :
    RawAgrees (kernelSchemas b) (sourcePolicyRecords b) event ↔
      AttentionSourcePolicySnapshot.lineageIn b event.payload =
          .ok AttentionSourcePolicySnapshot.legacyLineage ∨
        ∀ policy, AttentionSourcePolicySnapshot.RecordedBy b event policy →
          AttentionSourcePolicySnapshot.lineageIn b event.payload ≠ .ok policy.lineage ∧
            .ok AttentionSourcePolicySnapshot.legacyLineage ≠
              (.ok policy.lineage : Except PyError _) := by
  refine rawAgrees_of_terms (fun policy => AttentionSourcePolicySnapshot.fromEvent_iff htype)
    (fun policy => ?_) (fun policy hlegacy hgrants => ?_) fun policy source h hsource =>
      AttentionSourcePolicySnapshot.written htimes h hsource
  · have hmigrates := kernelSchemas_sourcePolicy b
    rw [← htype] at hmigrates
    show ((kernelSchemas b).normalize event >>= AttentionSourcePolicySnapshot.fromEvent b) = _ ↔ _
    rw [hmigrates.read_iff hversion, AttentionSourcePolicySnapshot.read_upcast htype]
  · exact hgrants (congrArg Prod.snd (Except.ok.inj hlegacy)).symm

/-! ## Dispositions -/

namespace AttentionDispositionRecord

/-- What a version 1 payload says of the access to information. -/
def legacyAccessIn (b : ContentBuiltins) (data : Payload) : Except PyError Access := do
  let items ← legacyAccessItems data
  let derived ← items.mapM b.str
  return ⟨1, [], derived⟩

/-- The payload of an upcast disposition. -/
def upcastPayload (data : Payload) (legacyAccess : List JSONValue) : Payload :=
  (((data.erase "information_access_decision_ids").put
    ("source_information_access_decision_ids", .list [])).put
    ("derived_information_access_decision_ids", .list legacyAccess)).put
    ("source_governance_contract_version", .int 1)

/-- The fields that the upcaster moves. -/
theorem get?_upcastPayload {data : Payload} {items : List JSONValue} {key : String}
    (hold : key ≠ "information_access_decision_ids")
    (hsource : key ≠ "source_information_access_decision_ids")
    (hderived : key ≠ "derived_information_access_decision_ids")
    (hmarker : key ≠ "source_governance_contract_version") :
    Dict.get? (upcastPayload data items) key = Dict.get? data key := by
  rw [upcastPayload, Dict.get?_put, Dict.get?_put, Dict.get?_put, Dict.get?_erase,
    if_neg hmarker.symm, if_neg hderived.symm, if_neg hsource.symm, if_neg hold.symm]

/-- After the upcast the derived artifact has what version 1 cited, and nothing stands under
the old name. -/
theorem derivedAccessIn_upcastPayload (data : Payload) (items : List JSONValue) :
    derivedAccessIn b (upcastPayload data items) 1 = items.mapM b.str := by
  have hold : Dict.get? (upcastPayload data items) "information_access_decision_ids" = none := by
    simp [upcastPayload, Dict.get?_put, Dict.get?_erase]
  have hnew : Dict.get? (upcastPayload data items) "derived_information_access_decision_ids" =
      some (.list items) := by
    simp [upcastPayload, Dict.get?_put]
  have hread : strings b.toIntentBuiltins (upcastPayload data items)
      "derived_information_access_decision_ids" = items.mapM b.str := by
    rw [strings, textsOr, hnew]
    rfl
  have hnone : strings b.toIntentBuiltins (upcastPayload data items)
      "information_access_decision_ids" = .ok [] := by
    rw [strings, textsOr, hold]
  rw [derivedAccessIn, hread, hnone]
  cases items.mapM b.str with
  | error error => rfl
  | ok derived =>
    rw [ok_bind]
    by_cases hempty : derived = []
    · rw [hempty]
      rfl
    · exact if_pos (.inr hempty)

theorem accessIn_upcastPayload (data : Payload) (items : List JSONValue) :
    accessIn b (upcastPayload data items) = (do
      let derived ← items.mapM b.str
      return ⟨1, [], derived⟩) := by
  have hmarker : Dict.get? (upcastPayload data items) "source_governance_contract_version" =
      some (.int 1) := by
    rw [upcastPayload, Dict.get?_put, if_pos rfl]
  rw [accessIn, contractVersionIn, hmarker]
  show (derivedAccessIn b (upcastPayload data items) 1 >>= _) = _
  rw [derivedAccessIn_upcastPayload]

theorem read_upcast (htype : event.type = attentionDispositionRecorded)
    (record : AttentionDispositionRecord) :
    (upcastDispositionV1 event >>= fromEvent b) = .ok record ↔
      legacyAccessIn b event.payload = .ok record.access ∧ RecordedBy b event record := by
  rw [upcastDispositionV1, legacyAccessIn]
  cases legacyAccessItems event.payload with
  | error error =>
    constructor
    · intro h
      cases h
    · rintro ⟨h, -⟩
      cases h
  | ok items =>
    have hread : fromEvent b (event.migrated (upcastPayload event.payload items)) = .ok record ↔
        accessIn b (event.migrated (upcastPayload event.payload items)).payload =
            .ok record.access ∧
          RecordedBy b (event.migrated (upcastPayload event.payload items)) record :=
      fromEvent_iff htype
    rw [Event.migrated_payload, accessIn_upcastPayload,
      recordedBy_migrated fun key => get?_upcastPayload] at hread
    exact hread

end AttentionDispositionRecord

theorem disposition_rawAgrees_iff (htimes : b.ReadsTimes)
    (htype : event.type = attentionDispositionRecorded) (hversion : event.schemaVersion = 1) :
    RawAgrees (kernelSchemas b) (dispositionRecords b) event ↔
      AttentionDispositionRecord.accessIn b event.payload =
          AttentionDispositionRecord.legacyAccessIn b event.payload ∨
        ∀ record, AttentionDispositionRecord.RecordedBy b event record →
          AttentionDispositionRecord.accessIn b event.payload ≠ .ok record.access ∧
            AttentionDispositionRecord.legacyAccessIn b event.payload ≠ .ok record.access := by
  refine rawAgrees_of_terms (fun record => AttentionDispositionRecord.fromEvent_iff htype)
    (fun record => ?_) (fun record hlegacy hgrants => ?_) fun record source h hsource =>
      AttentionDispositionRecord.written htimes h hsource
  · have hmigrates := kernelSchemas_disposition b
    rw [← htype] at hmigrates
    show ((kernelSchemas b).normalize event >>= AttentionDispositionRecord.fromEvent b) = _ ↔ _
    rw [hmigrates.read_iff hversion, AttentionDispositionRecord.read_upcast htype]
  · obtain ⟨items, -, hlegacy⟩ := bind_eq_ok hlegacy
    obtain ⟨derived, -, hlegacy⟩ := bind_eq_ok hlegacy
    exact hgrants (congrArg AttentionDispositionRecord.Access.source (Except.ok.inj hlegacy)).symm

/-! ## All three -/

/-- **Raw and migrated records of version 1 events**: information policies always agree.
Attention records agree exactly if their payload declares, with its version marker, what
migration makes of it, or if no record stands in the event on either terms. -/
theorem raw_records_agree_iff (b : ContentBuiltins) (htimes : b.ReadsTimes) (event : Event)
    (hversion : event.schemaVersion = 1) :
    (event.type = "information.policy_recorded" →
      RawAgrees (kernelSchemas b) (policyRecords b) event) ∧
    (event.type = attentionSourcePolicyRecorded →
      (RawAgrees (kernelSchemas b) (sourcePolicyRecords b) event ↔
        AttentionSourcePolicySnapshot.lineageIn b event.payload =
            .ok AttentionSourcePolicySnapshot.legacyLineage ∨
          ∀ policy, AttentionSourcePolicySnapshot.RecordedBy b event policy →
            AttentionSourcePolicySnapshot.lineageIn b event.payload ≠ .ok policy.lineage ∧
              .ok AttentionSourcePolicySnapshot.legacyLineage ≠
                (.ok policy.lineage : Except PyError _))) ∧
    (event.type = attentionDispositionRecorded →
      (RawAgrees (kernelSchemas b) (dispositionRecords b) event ↔
        AttentionDispositionRecord.accessIn b event.payload =
            AttentionDispositionRecord.legacyAccessIn b event.payload ∨
          ∀ record, AttentionDispositionRecord.RecordedBy b event record →
            AttentionDispositionRecord.accessIn b event.payload ≠ .ok record.access ∧
              AttentionDispositionRecord.legacyAccessIn b event.payload ≠ .ok record.access)) :=
  ⟨fun htype => policy_rawAgrees htimes htype hversion,
   fun htype => sourcePolicy_rawAgrees_iff htimes htype hversion,
   fun htype => disposition_rawAgrees_iff htimes htype hversion⟩

/-- A source policy from before information ids were declared. -/
def legacyPolicy : List (String × JSONValue) := sensorPolicy.dropLast

def legacyContent : ContentBuiltins := plainContent [(JSONValue.obj legacyPolicy).sortKeys]

def legacyPolicyId : String := "attention-source-policy:k."

def legacyPolicyRecorded : Event :=
  epochEvent attentionSourcePolicyRecorded ("attention-source-policy-recorded:" ++ legacyPolicyId)
    (some legacyPolicyId) (("policy_id", .str legacyPolicyId) :: legacyPolicy)

/-- Such a policy is read alike raw and migrated. -/
theorem legacyPolicy_agrees :
    (AttentionSourcePolicySnapshot.fromEvent legacyContent legacyPolicyRecorded).isOk = true ∧
      RawAgrees (kernelSchemas legacyContent) (sourcePolicyRecords legacyContent)
        legacyPolicyRecorded :=
  ⟨by decide +kernel,
   ((raw_records_agree_iff legacyContent (plainContent_parse _) legacyPolicyRecorded rfl).2.1
    rfl).mpr (.inl (by decide +kernel))⟩

/-- A version 1 envelope whose payload says version 2 is read raw as a policy that declares
where information ids are. -/
theorem smuggled_fields_read :
    (AttentionSourcePolicySnapshot.fromEvent sensorContent sensorPolicyRecorded).toOption.map
      (fun policy => policy.informationIdPayloadFields) = some ["information_id"] := by
  decide +kernel

/-- **Smuggled fields of version 2 count for raw readers.** -/
theorem raw_records_disagree :
    ¬∀ b : ContentBuiltins, b.ReadsTimes → ∀ event : Event, event.schemaVersion = 1 →
      (event.type = "information.policy_recorded" →
        RawAgrees (kernelSchemas b) (policyRecords b) event) ∧
      (event.type = attentionSourcePolicyRecorded →
        RawAgrees (kernelSchemas b) (sourcePolicyRecords b) event) ∧
      (event.type = attentionDispositionRecorded →
        RawAgrees (kernelSchemas b) (dispositionRecords b) event) := by
  intro h
  have hagrees := (h sensorContent (plainContent_parse _) sensorPolicyRecorded rfl).2.1 rfl
  obtain ⟨policy, hread, hfields⟩ := Option.map_eq_some_iff.mp smuggled_fields_read
  refine hagrees.noGrant policy (toOption_eq_some.mp hread) fun hnone => ?_
  rw [hfields] at hnone
  cases hnone

end Noema
