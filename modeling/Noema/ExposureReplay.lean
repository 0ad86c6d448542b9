import Noema.EndogenousSteps
import Noema.ExposureProjection
import Noema.EventStore
import Noema.JsonCode

/-!
# Source events in the exposure projection

A source event is applied exactly if every policy that recognizes it can read it
(`exposure_loadable_iff`): the fields for information ids have opaque ids, and a field that a
feature names has a value that the feature admits.  A field that is missing is no feature, but
a malformed one raises, and with it every rebuild from then on (`sensorReading_unloadable`).
-/
namespace Noema

theorem mapM_accepts {α β : Type} (f : α → Except PyError β) (items : List α) :
    (∃ results, items.mapM f = .ok results) ↔ ∀ item ∈ items, ∃ result, f item = .ok result := by
  induction items with
  | nil => exact iff_of_true ⟨[], rfl⟩ fun _ hmem => nomatch hmem
  | cons item items ih =>
    rw [List.forall_mem_cons, ← ih, List.mapM_cons]
    constructor
    · rintro ⟨results, h⟩
      obtain ⟨result, hresult, h⟩ := bind_eq_ok h
      obtain ⟨rest, hrest, -⟩ := bind_eq_ok h
      exact ⟨⟨result, hresult⟩, rest, hrest⟩
    · rintro ⟨⟨result, hresult⟩, rest, hrest⟩
      exact ⟨result :: rest, by rw [bind_of_ok hresult, bind_of_ok hrest]; rfl⟩

theorem mem_of_mapM {α β : Type} {f : α → Except PyError β} {items : List α} {results : List β}
    (h : items.mapM f = .ok results) {item : α} (hmem : item ∈ items) :
    ∃ result, result ∈ results := by
  cases results with
  | cons result results => exact ⟨result, List.mem_cons_self⟩
  | nil =>
    cases items with
    | nil => cases hmem
    | cons first items =>
      rw [List.mapM_cons] at h
      obtain ⟨_, -, h⟩ := bind_eq_ok h
      obtain ⟨_, -, h⟩ := bind_eq_ok h
      cases h

/-! ## What a payload exposes -/

namespace AttentionFeatureDefinition

variable {definition : AttentionFeatureDefinition}

/-- A number within the bounds of a definition. -/
def Bounds (definition : AttentionFeatureDefinition) (number : PyNumber) : Prop :=
  definition.minimum.any (fun minimum => number.real.less minimum.real) = false ∧
    definition.maximum.any (fun maximum => maximum.real.less number.real) = false

/-- A value that a feature definition admits. -/
structure Admits (definition : AttentionFeatureDefinition) (value : JSONScalar) : Prop where
  type : definition.valueType.admits value = true
  finite : value.infinite = false
  allowed : definition.allowedValues = [] ∨
    definition.allowedValues.any (fun allowed => value.equals allowed) = true
  bounds : ∀ number, value.number = some number → definition.Bounds number

theorem checkBounds_iff {number : PyNumber} {answer : Unit} :
    definition.checkBounds number = .ok answer ↔ definition.Bounds number := by
  simp only [checkBounds, Bounds, bind_ok_iff, refuse_iff, Bool.not_eq_true, exists_const]

theorem validate_iff {value : JSONScalar} {answer : Unit} :
    definition.validate value = .ok answer ↔ definition.Admits value := by
  simp only [validate, bind_ok_iff, refuse_iff, exists_const]
  constructor
  · rintro ⟨htype, hfinite, hallowed, hbounds⟩
    refine ⟨Bool.not_eq_false _ ▸ htype, Bool.not_eq_true _ ▸ hfinite, ?_, fun number hnumber => ?_⟩
    · by_cases hnone : definition.allowedValues = []
      · exact Or.inl hnone
      · exact Or.inr (Bool.not_eq_false _ ▸ fun hfails => hallowed ⟨hnone, hfails⟩)
    · rw [hnumber] at hbounds
      exact checkBounds_iff.mp hbounds
  · rintro ⟨htype, hfinite, hallowed, hbounds⟩
    refine ⟨by rw [htype]; decide, by rw [hfinite]; decide, ?_, ?_⟩
    · rintro ⟨hsome, hfails⟩
      rcases hallowed with hnone | hallowed
      · exact hsome hnone
      · rw [hallowed] at hfails
        cases hfails
    · cases hnumber : value.number with
      | none => rfl
      | some number => exact checkBounds_iff.mpr (hbounds number hnumber)

end AttentionFeatureDefinition

namespace AttentionFeatureSchemaSnapshot

variable {schema : AttentionFeatureSchemaSnapshot} {payload : Payload}

/-- A payload whose fields fit the features of a schema. -/
def Exposes (schema : AttentionFeatureSchemaSnapshot) (payload : Payload) : Prop :=
  ∀ definition ∈ schema.features, ∀ raw, Dict.get? payload definition.name = some raw →
    ∃ value, raw.scalar = some value ∧ definition.policySafe = true ∧ definition.Admits value

/-- The entry of a feature in a payload. -/
def entry (payload : Payload) (definition : AttentionFeatureDefinition) :
    Option (String × JSONScalar) :=
  ((Dict.get? payload definition.name).bind JSONValue.scalar).map fun value =>
    (definition.name, value)

theorem rawFeature_iff {definition : AttentionFeatureDefinition}
    {result : Option (String × JSONScalar)} :
    rawFeature payload definition = .ok result ↔ result = entry payload definition ∧
      ∀ raw, Dict.get? payload definition.name = some raw → raw.scalar.isSome := by
  unfold rawFeature entry
  cases hraw : Dict.get? payload definition.name with
  | none =>
    refine ⟨fun h => ?_, fun h => ?_⟩
    · cases h
      exact ⟨rfl, fun _ hnone => nomatch hnone⟩
    · rw [h.1]
      rfl
  | some raw =>
    dsimp only
    cases hscalar : raw.scalar with
    | none =>
      refine ⟨fun h => (nomatch h), fun h => ?_⟩
      have hsome := h.2 raw rfl
      rw [hscalar] at hsome
      cases hsome
    | some value =>
      rw [Option.bind_some, hscalar]
      refine ⟨fun h => ?_, fun h => ?_⟩
      · cases h
        refine ⟨rfl, fun other hother => ?_⟩
        cases hother
        rw [hscalar]
        rfl
      · rw [h.1]
        rfl

theorem rawFeatures {features : List AttentionFeatureDefinition}
    {entries : List (Option (String × JSONScalar))}
    (h : features.mapM (rawFeature payload) = .ok entries) :
    entries = features.map (entry payload) := by
  induction features generalizing entries with
  | nil =>
    cases h
    rfl
  | cons definition features ih =>
    rw [List.mapM_cons] at h
    obtain ⟨first, hfirst, h⟩ := bind_eq_ok h
    obtain ⟨rest, hrest, h⟩ := bind_eq_ok h
    cases h
    rw [(rawFeature_iff.mp hfirst).1, ih hrest, List.map_cons]

/-- The entries of a snapshot are those of the features, each under its own name. -/
theorem entries_rows (schema : AttentionFeatureSchemaSnapshot) (payload : Payload) :
    (KeyedTable.ofList (schema.features.filterMap (entry payload)) : KeyedTable entryKey).rows =
      schema.features.filterMap (entry payload) := by
  have hkeys : List.Sublist ((schema.features.filterMap (entry payload)).map entryKey)
      (schema.features.map AttentionFeatureDefinition.name) := by
    induction schema.features with
    | nil => exact List.Sublist.slnil
    | cons definition features ih =>
      rw [List.filterMap_cons]
      cases hentry : entry payload definition with
      | none => exact ih.cons _
      | some row =>
        obtain ⟨value, -, rfl⟩ := Option.map_eq_some_iff.mp hentry
        exact ih.cons_cons _
  exact congrArg KeyedTable.rows
    (KeyedTable.ofList_rows ⟨_, schema.distinct.sublist hkeys⟩)

theorem definition_of_mem {definition : AttentionFeatureDefinition}
    (h : definition ∈ schema.features) : schema.definition definition.name = some definition := by
  exact KeyedTable.find_of_mem (t := ⟨schema.features, schema.distinct⟩) h

theorem mem_entries {row : String × JSONScalar} :
    row ∈ schema.features.filterMap (entry payload) ↔ ∃ definition ∈ schema.features,
      ∃ raw, Dict.get? payload definition.name = some raw ∧
        ∃ value, raw.scalar = some value ∧ (definition.name, value) = row := by
  simp only [List.mem_filterMap, entry, Option.map_eq_some_iff, Option.bind_eq_some_iff]
  constructor
  · rintro ⟨definition, hmem, value, ⟨raw, hraw, hscalar⟩, hrow⟩
    exact ⟨definition, hmem, raw, hraw, value, hscalar, hrow⟩
  · rintro ⟨definition, hmem, raw, hraw, value, hscalar, hrow⟩
    exact ⟨definition, hmem, value, ⟨raw, hraw, hscalar⟩, hrow⟩

theorem validateEntry_iff {definition : AttentionFeatureDefinition}
    (h : definition ∈ schema.features) {value : JSONScalar} {answer : Unit} :
    schema.validateEntry (definition.name, value) = .ok answer ↔
      definition.policySafe = true ∧ definition.Admits value := by
  simp only [validateEntry, definition_of_mem h, bind_ok_iff, refuse_iff, Bool.not_eq_false,
    exists_const, AttentionFeatureDefinition.validate_iff]

theorem validateSnapshot_iff {values : Dict JSONScalar} :
    (∃ answer, schema.validateSnapshot values = .ok answer) ↔
      ∀ row ∈ values.rows, schema.validateEntry row = .ok () := by
  constructor
  · rintro ⟨answer, h⟩
    obtain ⟨_, -, h⟩ := bind_eq_ok h
    obtain ⟨_, hentries, -⟩ := bind_eq_ok h
    exact forM_ok hentries
  · intro h
    have hknown : ordered ((values.rows.map entryKey).filter fun name =>
        (schema.definition name).isNone) = [] := by
      refine List.eq_nil_iff_forall_not_mem.mpr fun name hname => ?_
      obtain ⟨hmem, hunknown⟩ := List.mem_filter.mp (mem_ordered.mp hname)
      obtain ⟨row, hrow, rfl⟩ := List.mem_map.mp hmem
      have hvalid := h row hrow
      rw [validateEntry, show schema.definition row.1 = none from Option.isNone_iff_eq_none.mp
        hunknown] at hvalid
      cases hvalid
    refine ⟨schema.features.all fun definition =>
      !definition.required || (Dict.get? values definition.name).isSome, ?_⟩
    rw [validateSnapshot, bind_of_ok (refuse_of (not_not.mpr hknown)), bind_of_ok (forM_of h)]
    rfl

/-- **A payload is extracted exactly if its fields fit the features.** -/
theorem extractSnapshot_iff :
    (∃ values, schema.extractSnapshot payload = .ok values) ↔ schema.Exposes payload := by
  have hentries : ∀ {entries : List (Option (String × JSONScalar))},
      schema.features.mapM (rawFeature payload) = .ok entries →
      (KeyedTable.ofList (entries.filterMap id) : KeyedTable entryKey).rows =
        schema.features.filterMap (entry payload) := fun h => by
    rw [rawFeatures h, List.filterMap_map, Function.id_comp, entries_rows]
  constructor
  · rintro ⟨values, h⟩ definition hmem raw hraw
    obtain ⟨entries, hmapped, h⟩ := bind_eq_ok h
    obtain ⟨answer, hvalid, -⟩ := bind_eq_ok h
    obtain ⟨result, hresult⟩ := (mapM_accepts _ _).mp ⟨entries, hmapped⟩ definition hmem
    obtain ⟨value, hscalar⟩ := Option.isSome_iff_exists.mp ((rawFeature_iff.mp hresult).2 raw hraw)
    have hrow : (definition.name, value) ∈
        (KeyedTable.ofList (entries.filterMap id) : KeyedTable entryKey).rows := by
      rw [hentries hmapped]
      exact mem_entries.mpr ⟨definition, hmem, raw, hraw, value, hscalar, rfl⟩
    have hentry := validateSnapshot_iff.mp ⟨answer, hvalid⟩ _ hrow
    exact ⟨value, hscalar, (validateEntry_iff hmem).mp hentry⟩
  · intro h
    obtain ⟨entries, hmapped⟩ : ∃ entries,
        schema.features.mapM (rawFeature payload) = .ok entries := by
      refine (mapM_accepts _ _).mpr fun definition hmem => ⟨_, rawFeature_iff.mpr ⟨rfl, fun raw hraw => ?_⟩⟩
      obtain ⟨value, hscalar, -⟩ := h definition hmem raw hraw
      rw [hscalar]
      rfl
    obtain ⟨answer, hvalid⟩ : ∃ answer,
        schema.validateSnapshot (.ofList (entries.filterMap id)) = .ok answer := by
      refine validateSnapshot_iff.mpr fun row hrow => ?_
      rw [hentries hmapped] at hrow
      obtain ⟨definition, hmem, raw, hraw, value, hscalar, rfl⟩ := mem_entries.mp hrow
      obtain ⟨other, hother, hadmits⟩ := h definition hmem raw hraw
      rw [hscalar] at hother
      cases hother
      exact (validateEntry_iff hmem).mpr hadmits
    refine ⟨.ofList (entries.filterMap id), ?_⟩
    rw [extractSnapshot, bind_of_ok hmapped]
    dsimp only
    rw [bind_of_ok hvalid]
    rfl

end AttentionFeatureSchemaSnapshot

/-! ## The information ids of a payload -/

namespace AttentionSourcePolicySnapshot

variable {policy : AttentionSourcePolicySnapshot} {payload : Payload}

/-- A payload with an opaque id in every field that a policy names. -/
def Declares (policy : AttentionSourcePolicySnapshot) (payload : Payload) : Prop :=
  ∀ field ∈ policy.informationIdPayloadFields,
    ∃ id, payload.get field = .str id ∧ isOpaqueId id = true

theorem informationId_iff {field : String} :
    (∃ id, informationId payload field = .ok id) ↔
      ∃ id, payload.get field = .str id ∧ isOpaqueId id = true := by
  unfold informationId
  cases payload.get field with
  | str raw => simp [requireOpaqueId, bind_ok_iff, refuse_iff, pure, Except.pure]
  | _ => simp

/-- A policy of version 2 names a field. -/
theorem fields_ne (policy : AttentionSourcePolicySnapshot)
    (hversion : policy.sourceGovernanceContractVersion = 2) :
    policy.informationIdPayloadFields ≠ [] := by
  have hchecked := policy.checked
  simp only [SourcePolicyContent.check, bind_ok_iff, refuse_iff, exists_const] at hchecked
  obtain ⟨_, -, _, -, _, -, _, -, _, -, _, -, _, -, _, -, _, -, -, hfields, -⟩ := hchecked
  exact fun hnone => hfields ⟨hversion, hnone⟩

/-- **Information ids are extracted exactly if they are there.** -/
theorem extractGovernedInformationIds_iff (hversion : policy.sourceGovernanceContractVersion = 2) :
    (∃ ids, policy.extractGovernedInformationIds payload = .ok ids) ↔ policy.Declares payload := by
  have hmapped := mapM_accepts (informationId payload) policy.informationIdPayloadFields
  simp only [informationId_iff] at hmapped
  show _ ↔ ∀ field ∈ policy.informationIdPayloadFields, _
  rw [← hmapped]
  constructor
  · rintro ⟨ids, h⟩
    obtain ⟨_, -, h⟩ := bind_eq_ok h
    obtain ⟨values, hvalues, -⟩ := bind_eq_ok h
    exact ⟨values, hvalues⟩
  · rintro ⟨values, hvalues⟩
    have hsome : ¬ordered values = [] := by
      intro hnone
      obtain ⟨field, hfield⟩ := List.exists_mem_of_ne_nil _ (policy.fields_ne hversion)
      obtain ⟨id, hid⟩ := mem_of_mapM hvalues hfield
      have hmem := mem_ordered.mpr hid
      rw [hnone] at hmem
      cases hmem
    refine ⟨ordered values, ?_⟩
    rw [extractGovernedInformationIds, bind_of_ok (refuse_of (not_not.mpr hversion)),
      bind_of_ok hvalues, bind_of_ok (refuse_of hsome)]
    rfl

end AttentionSourcePolicySnapshot

/-! ## The projection -/

theorem startsWith_attention {type : String} (h : type ∈ deliberativeAttentionEventTypes) :
    startsWith type "attention." = true := by
  have hall : ∀ type ∈ deliberativeAttentionEventTypes, startsWith type "attention." = true := by
    decide +kernel
  exact hall type h

/-- A policy names no event of attention telemetry. -/
theorem AttentionSourcePolicySnapshot.source_not_attention (policy : AttentionSourcePolicySnapshot)
    {type : String} (h : type ∈ policy.sourceEventTypes) :
    type ∉ deliberativeAttentionEventTypes := by
  intro hattention
  have hchecked := policy.checked
  simp only [SourcePolicyContent.check, bind_ok_iff, refuse_iff, exists_const] at hchecked
  obtain ⟨_, -, _, -, _, -, _, -, _, -, _, -, _, -, _, -, _, -, -, -, -, hnone⟩ := hchecked
  refine hnone (List.any_eq_true.mpr ⟨type, h, ?_⟩)
  rw [startsWith_attention hattention]
  rfl

namespace AttentionExposure

variable {b : ContentBuiltins} {p p' : AttentionExposure b} {event : Event} {sequence : Nat}

/-- What the record of an event leaves as it was, and what it adds. -/
structure Recorded (p p' : AttentionExposure b) : Prop where
  events : p'.events = p.events
  lastSequence : p'.lastSequence = p.lastSequence
  information : p'.information = p.information
  schemas : ∀ id, (p.schemas.find id).isSome → (p'.schemas.find id).isSome
  policies : ∀ row ∈ p'.policies.rows, row ∈ p.policies.rows ∨
    (p'.schemas.find row.policy.featureSchemaId).isSome

theorem Recorded.refl : Recorded p p :=
  ⟨rfl, rfl, rfl, fun _ h => h, fun _ h => Or.inl h⟩

theorem put_isSome {α : Type} {key : α → String} {t : KeyedTable key} {row : α} {id : String}
    (h : (t.find id).isSome) : ((t.put row).find id).isSome := by
  rw [KeyedTable.find_put]
  split
  · rfl
  · exact h

theorem required_ok {α : Type} {entry : Option α} {message : String} {value : α}
    (h : required entry message = .ok value) : entry = some value := by
  cases entry with
  | none => cases h
  | some other => exact congrArg some (Except.ok.inj h)

theorem applyRecord_ok (h : p.applyRecord event sequence = .ok p') : Recorded p p' := by
  unfold applyRecord at h
  split_ifs at h
  · -- a schema
    obtain ⟨schema, -, h⟩ := bind_eq_ok h
    obtain ⟨schemas, hput, h⟩ := bind_eq_ok h
    cases h
    obtain ⟨_, -, hput⟩ := bind_eq_ok hput
    cases hput
    exact ⟨rfl, rfl, rfl, fun _ hsome => put_isSome hsome, fun _ hrow => Or.inl hrow⟩
  · -- a source policy
    obtain ⟨policy, -, h⟩ := bind_eq_ok h
    obtain ⟨schema, hschema, h⟩ := bind_eq_ok h
    obtain ⟨_, -, h⟩ := bind_eq_ok h
    obtain ⟨_, -, h⟩ := bind_eq_ok h
    cases h
    refine ⟨rfl, rfl, rfl, fun _ hsome => hsome, fun row hrow => ?_⟩
    rcases KeyedTable.mem_put.mp hrow with rfl | ⟨hold, -⟩
    · refine Or.inr ?_
      rw [required_ok hschema]
      rfl
    · exact Or.inl hold
  · -- a disposition
    obtain ⟨record, -, h⟩ := bind_eq_ok h
    obtain ⟨_, -, h⟩ := bind_eq_ok h
    obtain ⟨_, -, h⟩ := bind_eq_ok h
    obtain ⟨_, -, h⟩ := bind_eq_ok h
    obtain ⟨schema, -, h⟩ := bind_eq_ok h
    obtain ⟨row, -, h⟩ := bind_eq_ok h
    obtain ⟨complete, -, h⟩ := bind_eq_ok h
    cases h
    exact ⟨rfl, rfl, rfl, fun _ hsome => hsome, fun _ hrow => Or.inl hrow⟩
  · -- an outcome
    obtain ⟨link, -, h⟩ := bind_eq_ok h
    obtain ⟨_, -, h⟩ := bind_eq_ok h
    obtain ⟨outcomes, -, h⟩ := bind_eq_ok h
    cases h
    exact ⟨rfl, rfl, rfl, fun _ hsome => hsome, fun _ hrow => Or.inl hrow⟩
  · -- feedback
    obtain ⟨record, -, h⟩ := bind_eq_ok h
    obtain ⟨_, -, h⟩ := bind_eq_ok h
    obtain ⟨feedback, -, h⟩ := bind_eq_ok h
    cases h
    exact ⟨rfl, rfl, rfl, fun _ hsome => hsome, fun _ hrow => Or.inl hrow⟩
  · cases h
    exact .refl

theorem recognize_ok (h : p.recognize event sequence = .ok p') : Recorded p p' := by
  unfold recognize at h
  split_ifs at h
  · cases h
    exact .refl
  · obtain ⟨opportunities, -, h⟩ := bind_eq_ok h
    cases h
    exact ⟨rfl, rfl, rfl, fun _ hsome => hsome, fun _ hrow => Or.inl hrow⟩

/-- What a rebuilt projection knows of its events. -/
structure Tracks (events : List Event) (p : AttentionExposure b) : Prop where
  ids : ∀ reference ∈ p.events.rows, ∃ event ∈ events, event.id = reference.eventId
  head : p.lastSequence = 0 ∨ ∃ event ∈ events, event.sequence = some p.lastSequence
  information : p.information.lastSequence = p.lastSequence
  schemas : ∀ row ∈ p.policies.rows, (p.schemas.find row.policy.featureSchemaId).isSome

/-- The head that the information governance has after an event. -/
theorem information_lastSequence {g g' : InformationGovernance b.informationIds} {handled : Bool}
    (hsequence : event.sequence = some sequence) (hlater : g.lastSequence < sequence)
    (h : g.apply b.toInformationBuiltins event = .ok (g', handled)) :
    g'.lastSequence = sequence := by
  unfold InformationGovernance.apply at h
  rw [hsequence] at h
  dsimp only at h
  rw [if_neg (not_le.mpr hlater)] at h
  obtain ⟨⟨after, handled'⟩, -, h⟩ := bind_eq_ok h
  cases h
  rfl

/-- **An event that is applied** is the last one again, or passes the governance, is recorded
and is recognized. -/
theorem apply_cases (h : p.apply event = .ok p') :
    (event.sequence = some p.lastSequence ∧ p.lastEventId = some event.id ∧ p' = p) ∨
    ∃ sequence information handled recorded recognized,
      event.sequence = some sequence ∧ p.lastSequence < sequence ∧
      p.events.find event.id = none ∧
      p.information.apply b.toInformationBuiltins event = .ok (information, handled) ∧
      { p with information }.applyRecord event sequence = .ok recorded ∧
      recorded.recognize event sequence = .ok recognized ∧
      p' = { recognized with
        events := recognized.events.put ⟨event.id, event.type, sequence, event.timestamp⟩
        lastEventId := some event.id
        lastSequence := sequence } := by
  unfold apply at h
  split at h
  · cases h
  · rename_i sequence hsequence
    split_ifs at h with hlate hsame hknown
    · cases h
      exact Or.inl ⟨hsame.1 ▸ hsequence, hsame.2, rfl⟩
    · obtain ⟨⟨information, handled⟩, hinformation, h⟩ := bind_eq_ok h
      obtain ⟨recorded, hrecorded, h⟩ := bind_eq_ok h
      obtain ⟨recognized, hrecognized, h⟩ := bind_eq_ok h
      cases h
      exact Or.inr ⟨sequence, information, handled, recorded, recognized, hsequence,
        not_le.mp hlate, by simpa using hknown, hinformation, hrecorded, hrecognized, rfl⟩

theorem tracks_of_rebuild {events : List Event} (h : rebuild events = .ok p) : Tracks events p := by
  refine Folding.run_induction (I := Tracks) ?_ ?_ h
  · exact ⟨fun _ hmem => (nomatch hmem), Or.inl rfl, rfl, fun _ hmem => nomatch hmem⟩
  · intro events event p p' _ ih happly
    rcases apply_cases happly with ⟨-, -, rfl⟩ | ⟨sequence, information, handled, recorded, recognized,
      hsequence, hlater, -, hinformation, hrecorded, hrecognized, rfl⟩
    · refine ⟨fun reference hmem => ?_, ih.head.imp id fun ⟨last, hlast, hhead⟩ =>
        ⟨last, List.mem_append_left _ hlast, hhead⟩, ih.information, ih.schemas⟩
      obtain ⟨known, hknown, hid⟩ := ih.ids reference hmem
      exact ⟨known, List.mem_append_left _ hknown, hid⟩
    · have hrecord := applyRecord_ok hrecorded
      have hrecognize := recognize_ok hrecognized
      have hevents : recognized.events = p.events := hrecognize.events.trans hrecord.events
      refine ⟨fun reference hmem => ?_, Or.inr ⟨event, by simp, hsequence⟩, ?_, fun row hrow => ?_⟩
      · rcases KeyedTable.mem_put.mp hmem with rfl | ⟨hold, -⟩
        · exact ⟨event, by simp, rfl⟩
        · rw [hevents] at hold
          obtain ⟨known, hknown, hid⟩ := ih.ids reference hold
          exact ⟨known, List.mem_append_left _ hknown, hid⟩
      · show recognized.information.lastSequence = sequence
        rw [hrecognize.information, hrecord.information]
        exact information_lastSequence hsequence (ih.information ▸ hlater) hinformation
      · rcases hrecognize.policies row hrow with hrow | hfound
        · rcases hrecord.policies row hrow with hrow | hfound
          · exact hrecognize.schemas _ (hrecord.schemas _ (ih.schemas row hrow))
          · exact hrecognize.schemas _ hfound
        · exact hfound

/-! ## Source events -/

/-- The governance takes the event. -/
def Governs (p : AttentionExposure b) (event : Event) : Prop :=
  ∃ after, p.information.applyEvent b.toInformationBuiltins event = .ok after

/-- **What a policy can read of an event**: opaque ids in the fields that it names, and in the
fields of its features values that fit. -/
def Readable (p : AttentionExposure b) (event : Event) : Prop :=
  ∀ row ∈ p.recognizing event,
    (row.policy.sourceGovernanceContractVersion = 2 → row.policy.Declares event.payload) ∧
    ∀ schema, p.schemas.find row.policy.featureSchemaId = some schema →
      schema.Exposes event.payload

theorem governedInformationIn_iff {policy : AttentionSourcePolicySnapshot} {payload : Payload} :
    (∃ ids, governedInformationIn policy payload = .ok ids) ↔
      (policy.sourceGovernanceContractVersion = 2 → policy.Declares payload) := by
  unfold governedInformationIn
  split_ifs with hversion
  · rw [AttentionSourcePolicySnapshot.extractGovernedInformationIds_iff hversion]
    exact ⟨fun h _ => h, fun h => h hversion⟩
  · exact iff_of_true ⟨[], rfl⟩ fun h => absurd h hversion

theorem opportunityOf_iff {row : ActiveSourcePolicy} {schema : AttentionFeatureSchemaSnapshot}
    (hschema : p.schemas.find row.policy.featureSchemaId = some schema) :
    (∃ opportunity, p.opportunityOf event row sequence = .ok opportunity) ↔
      (row.policy.sourceGovernanceContractVersion = 2 → row.policy.Declares event.payload) ∧
        schema.Exposes event.payload := by
  rw [← governedInformationIn_iff, ← AttentionFeatureSchemaSnapshot.extractSnapshot_iff]
  have hentry : entryAt (p.schemas.find row.policy.featureSchemaId) row.policy.featureSchemaId =
      .ok schema := by rw [hschema]; rfl
  constructor
  · rintro ⟨opportunity, h⟩
    rw [opportunityOf, bind_of_ok hentry] at h
    obtain ⟨ids, hids, h⟩ := bind_eq_ok h
    obtain ⟨features, hfeatures, -⟩ := bind_eq_ok h
    exact ⟨⟨ids, hids⟩, features, hfeatures⟩
  · rintro ⟨⟨ids, hids⟩, features, hfeatures⟩
    rw [opportunityOf, bind_of_ok hentry, bind_of_ok hids, bind_of_ok hfeatures]
    exact ⟨_, rfl⟩

theorem recognize_iff (hschemas : ∀ row ∈ p.policies.rows,
      (p.schemas.find row.policy.featureSchemaId).isSome)
    (hsource : event.type ∉ deliberativeAttentionEventTypes) :
    (∃ p', p.recognize event sequence = .ok p') ↔ p.Readable event := by
  have hmapped := mapM_accepts (p.opportunityOf event · sequence) (p.recognizing event)
  have hrows : (∀ row ∈ p.recognizing event, ∃ opportunity,
      p.opportunityOf event row sequence = .ok opportunity) ↔ p.Readable event := by
    refine forall₂_congr fun row hrow => ?_
    obtain ⟨schema, hschema⟩ :=
      Option.isSome_iff_exists.mp (hschemas row (List.mem_filter.mp hrow).1)
    rw [opportunityOf_iff hschema, hschema]
    simp
  rw [← hrows, ← hmapped, recognize, if_neg hsource]
  constructor
  · rintro ⟨_, h⟩
    obtain ⟨opportunities, hopportunities, -⟩ := bind_eq_ok h
    exact ⟨opportunities, hopportunities⟩
  · rintro ⟨opportunities, hopportunities⟩
    rw [bind_of_ok hopportunities]
    exact ⟨_, rfl⟩

theorem applyRecord_other (hsource : event.type ∉ deliberativeAttentionEventTypes) :
    p.applyRecord event sequence = .ok p := by
  simp only [deliberativeAttentionEventTypes, List.mem_cons, List.not_mem_nil, or_false,
    not_or] at hsource
  obtain ⟨hpolicy, hschema, hdisposition, houtcome, hfeedback⟩ := hsource
  rw [applyRecord, if_neg hschema, if_neg hpolicy, if_neg hdisposition, if_neg houtcome,
    if_neg hfeedback]

/-- A new source event is applied exactly if it can be read. -/
theorem apply_source_iff (event : Event) (hsequence : event.sequence = some sequence)
    (hlater : p.lastSequence < sequence) (hnew : p.events.find event.id = none)
    (hinformation : p.information.lastSequence = p.lastSequence)
    (hschemas : ∀ row ∈ p.policies.rows, (p.schemas.find row.policy.featureSchemaId).isSome)
    (hsource : event.type ∉ deliberativeAttentionEventTypes) :
    (∃ p', p.apply event = .ok p') ↔ p.Governs event ∧ p.Readable event := by
  have hgoverned : (∃ after, p.information.apply b.toInformationBuiltins event = .ok after) ↔
      p.Governs event := by
    unfold Governs InformationGovernance.apply
    rw [hsequence]
    dsimp only
    rw [if_neg (not_le.mpr (hinformation ▸ hlater))]
    constructor
    · rintro ⟨_, h⟩
      obtain ⟨after, hafter, -⟩ := bind_eq_ok h
      exact ⟨after, hafter⟩
    · rintro ⟨after, hafter⟩
      rw [bind_of_ok hafter]
      exact ⟨_, rfl⟩
  have hreadable : ∀ information : InformationGovernance b.informationIds,
      (∃ p' : AttentionExposure b, recognize { p with information } event sequence = .ok p') ↔
        p.Readable event := fun information =>
    recognize_iff (b := b) (p := { p with information }) hschemas hsource
  rw [← hgoverned]
  unfold apply
  rw [hsequence]
  dsimp only
  rw [if_neg (not_le.mpr hlater), hnew]
  constructor
  · rintro ⟨_, h⟩
    obtain ⟨⟨information, handled⟩, hafter, h⟩ := bind_eq_ok h
    obtain ⟨recorded, hrecorded, h⟩ := bind_eq_ok h
    obtain ⟨recognized, hrecognized, -⟩ := bind_eq_ok h
    rw [applyRecord_other hsource] at hrecorded
    cases hrecorded
    exact ⟨⟨_, hafter⟩, (hreadable information).mp ⟨recognized, hrecognized⟩⟩
  · rintro ⟨⟨⟨information, handled⟩, hafter⟩, hread⟩
    obtain ⟨recognized, hrecognized⟩ := (hreadable information).mpr hread
    rw [if_neg (by simp), bind_of_ok hafter]
    dsimp only
    rw [bind_of_ok (applyRecord_other hsource), bind_of_ok hrecognized]
    exact ⟨_, rfl⟩

end AttentionExposure

/-- A new event is stored at the end. -/
theorem EventLog.append_new {log : EventLog} {event : Event} {gap : Nat}
    (hnew : log.byId event.id = none) :
    (log.append event (.takes gap)).1.events = log.events ++ [log.nextStored event gap] := by
  simp only [EventLog.append]
  split
  · rename_i existing hfind
    rw [hnew] at hfind
    cases hfind
  · have hfree := fun other hother => Nat.ne_of_lt (log.seq_lt_next gap other hother)
    exact OrderedLog.insert_above (h := hfree) (log.seq_lt_next gap)

/-- **A stored source event leaves the projection loadable exactly if it can be read**, and
the information governance takes it. -/
theorem exposure_loadable_iff {b : ContentBuiltins} (log : EventLog) (event : Event) (gap : Nat)
    (p : AttentionExposure b) (hnew : log.byId event.id = none)
    (hp : AttentionExposure.rebuild log.events = .ok p)
    (hsource : ∃ row ∈ p.policies.rows, event.type ∈ row.policy.sourceEventTypes) :
    (∃ p' : AttentionExposure b,
        AttentionExposure.rebuild (log.append event (.takes gap)).1.events = .ok p') ↔
      p.Governs (log.nextStored event gap) ∧ p.Readable (log.nextStored event gap) := by
  have htracks := AttentionExposure.tracks_of_rebuild hp
  obtain ⟨row, -, htype⟩ := hsource
  have hlater : p.lastSequence < log.latestSequence + gap + 1 := by
    rcases htracks.head with hzero | ⟨last, hlast, hhead⟩
    · omega
    · have hle := EventLog.seq_le_latest hlast
      have hseq : last.seq = p.lastSequence :=
        Option.some.inj ((log.sequenced last hlast).1.symm.trans hhead)
      omega
  have hfresh : p.events.find event.id = none := by
    cases hfind : p.events.find event.id with
    | none => rfl
    | some reference =>
      obtain ⟨known, hknown, hid⟩ := htracks.ids reference (KeyedTable.mem_of_find hfind)
      have hsame := KeyedTable.find_key hfind
      exact absurd (hid.trans hsame) (EventLog.not_mem_of_byId hnew known hknown)
  have happlied := AttentionExposure.apply_source_iff (log.nextStored event gap) rfl hlater
    hfresh htracks.information htracks.schemas (row.policy.source_not_attention htype)
  rw [← happlied, EventLog.append_new hnew]
  constructor
  · rintro ⟨p', h⟩
    obtain ⟨before, hbefore, happly⟩ := Folding.run_snoc.mp h
    rw [AttentionExposure.rebuild] at hp
    rw [hp] at hbefore
    cases hbefore
    exact ⟨p', happly⟩
  · rintro ⟨p', happly⟩
    exact ⟨p', Folding.run_snoc.mpr ⟨p, hp, happly⟩⟩

/-! ## Readings of a sensor -/

/-- An optional feature: how urgent a reading is. -/
def urgencyFeature : JSONValue :=
  .obj [("name", .str "urgency"), ("value_type", .str "integer"), ("required", .bool false),
    ("policy_safe", .bool true), ("missingness", .str "optional_unknown"),
    ("sensitivity", .str "internal"), ("allowed_values", .list []), ("minimum", .null),
    ("maximum", .null)]

def urgencySchema : List (String × JSONValue) :=
  [("version", .str "1"), ("features", .list [urgencyFeature]), ("recorded_at", .str epochIso)]

def urgencySchemaId : String := "attention-feature-schema:k."

def sensorPolicy : List (String × JSONValue) :=
  [("version", .str "1"), ("feature_schema_id", .str urgencySchemaId),
   ("source_event_types", .texts ["sensor.reading"]), ("scope", .str "home"),
   ("source_prefixes", .texts []), ("subject_prefixes", .texts []),
   ("required_payload_fields", .texts []), ("recorded_at", .str epochIso),
   ("information_id_payload_fields", .texts ["information_id"])]

def sensorPolicyId : String := "attention-source-policy:kx."

/-- The builtins of the examples, which know the schema and the policy. -/
def sensorContent : ContentBuiltins :=
  plainContent [(JSONValue.obj urgencySchema).sortKeys, (JSONValue.obj sensorPolicy).sortKeys]

/-- An event of the epoch. -/
def epochEvent (type id : String) (subject : Option String) (fields : List (String × JSONValue)) :
    Event where
  type := type
  source := "attention:telemetry"
  payload := .ofList fields
  subject := subject
  id := id
  timestamp := .utc 0
  correlationId := none
  causationId := none
  priority := 0
  sequence := none
  metadata := .empty
  schemaVersion := 1
  schemaVersion_pos := Nat.one_pos

def urgencySchemaRecorded : Event :=
  epochEvent attentionFeatureSchemaRecorded ("attention-feature-schema-recorded:" ++ urgencySchemaId)
    (some urgencySchemaId) (("schema_id", .str urgencySchemaId) :: urgencySchema)

def sensorPolicyRecorded : Event :=
  epochEvent attentionSourcePolicyRecorded ("attention-source-policy-recorded:" ++ sensorPolicyId)
    (some sensorPolicyId) (("policy_id", .str sensorPolicyId) ::
      ("source_governance_contract_version", .int 2) :: sensorPolicy)

/-- A reading with an opaque information id, and an urgency. -/
def sensorReading (urgency : JSONValue) : Event :=
  epochEvent "sensor.reading" "reading-1" none
    [("information_id", .str "info_00000000000000000000000000000000"), ("urgency", urgency)]

/-- The log after both contracts were recorded. -/
def contractsLog : EventLog :=
  ((EventLog.empty.append urgencySchemaRecorded (.takes 0)).1.append sensorPolicyRecorded
    (.takes 0)).1

/-- The contracts are read, and the readings are sources. -/
theorem contractsLog_rebuilt : ∃ p : AttentionExposure sensorContent,
    AttentionExposure.rebuild contractsLog.events = .ok p ∧
      ∃ row ∈ p.policies.rows, "sensor.reading" ∈ row.policy.sourceEventTypes := by
  have hrebuilt : ((AttentionExposure.rebuild (b := sensorContent) contractsLog.events).toOption.map
      fun p => p.policies.rows.any fun row => row.policy.sourceEventTypes.contains "sensor.reading") =
      some true := by
    decide +kernel
  obtain ⟨p, hp, hany⟩ := Option.map_eq_some_iff.mp hrebuilt
  obtain ⟨row, hrow, htype⟩ := List.any_eq_true.mp hany
  exact ⟨p, toOption_eq_some.mp hp, row, hrow, List.contains_iff_mem.mp htype⟩

/-- A reading with a whole number is read. -/
theorem sensorReading_loadable : ∃ p : AttentionExposure sensorContent,
    AttentionExposure.rebuild contractsLog.events = .ok p ∧
      p.Governs (contractsLog.nextStored (sensorReading (.int 3)) 0) ∧
      p.Readable (contractsLog.nextStored (sensorReading (.int 3)) 0) := by
  obtain ⟨p, hp, hsource⟩ := contractsLog_rebuilt
  have hread : (AttentionExposure.rebuild (b := sensorContent)
      (contractsLog.append (sensorReading (.int 3)) (.takes 0)).1.events).isOk = true := by
    decide +kernel
  refine ⟨p, hp, (exposure_loadable_iff contractsLog (sensorReading (.int 3)) 0 p
    (by decide +kernel) hp hsource).mp ?_⟩
  exact ok_of_isOk hread

/-- **A reading with a word where the schema has a number** makes the projection unloadable. -/
theorem sensorReading_unloadable :
    ¬ ∀ (log : EventLog) (event : Event) (gap : Nat) (p : AttentionExposure sensorContent),
      log.byId event.id = none → AttentionExposure.rebuild log.events = .ok p →
      (∃ row ∈ p.policies.rows, event.type ∈ row.policy.sourceEventTypes) →
      ∃ p' : AttentionExposure sensorContent,
        AttentionExposure.rebuild (log.append event (.takes gap)).1.events = .ok p' := by
  intro h
  obtain ⟨p, hp, hsource⟩ := contractsLog_rebuilt
  obtain ⟨p', hp'⟩ := h contractsLog (sensorReading (.str "high")) 0 p (by decide +kernel) hp hsource
  have hfails : (AttentionExposure.rebuild (b := sensorContent)
      (contractsLog.append (sensorReading (.str "high")) (.takes 0)).1.events).isOk = false := by
    decide +kernel
  rw [hp'] at hfails
  cases hfails

end Noema
