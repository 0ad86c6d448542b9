import Noema.StrategicProjection

/-!
# What normalization makes of the events of intent

A native event is left as it is; a legacy event of version 1 gets its defaults and a
context (`Migrated`), off which an origin and an authority are read that name the event's
source.
-/
namespace Noema

theorem Payload.get?_setDefault (payload : Payload) (key key' : String) (value : JSONValue) :
    Dict.get? (payload.setDefault key value) key' =
      if key = key' then some ((payload.get? key').getD value) else payload.get? key' := by
  unfold Payload.setDefault
  cases hkey : Dict.get? payload key with
  | some given =>
    by_cases h : key = key'
    · rw [if_pos h, ← h, hkey]
      rfl
    · rw [if_neg h]
  | none =>
    dsimp only
    rw [Dict.get?_put]
    by_cases h : key = key'
    · rw [if_pos h, if_pos h, ← h, hkey]
      rfl
    · rw [if_neg h, if_neg h]

/-- The native types that the strategic projection knows. -/
def nativeIntentTypes : List String :=
  ["intent.goal_revision_recorded", "intent.roadmap_revision_recorded",
   "intent.commitment_recorded", "intent.commitment_transitioned",
   "intent.outcome_roles_recorded", "intent.assistance_envelope_recorded",
   "intent.external_workstream_observed", "intent.work_order_proposed", "work.order_recorded",
   "work.graph_accepted"]

/-- The legacy types. -/
def legacyIntentTypes : List String :=
  ["goal.created", "goal.updated", "commitment.created", "commitment.updated",
   "commitment.completed", "commitment.failed", "commitment.cancelled"]

/-- A stored event of intent: native, or legacy and of the version from before. -/
def IntentEvent (stored : Event) : Prop :=
  stored.type ∈ nativeIntentTypes ∨
    (stored.type ∈ legacyIntentTypes ∧ stored.schemaVersion = 1)

variable {b : Builtins} {stored event : Event}

/-- A native event is normal. -/
theorem normalize_native (htype : stored.type ∈ nativeIntentTypes)
    (h : (intentRegistry b).normalize stored = .ok event) :
    event = stored ∧ stored.schemaVersion = 1 := by
  have hnone : intentUpcaster b stored.type = none := by
    simp only [nativeIntentTypes, List.mem_cons, List.not_mem_nil, or_false] at htype
    rcases htype with h | h | h | h | h | h | h | h | h | h <;> rw [h] <;> rfl
  have hcurrent : (intentRegistry b).currentVersion stored.type = 1 := by
    unfold EventSchemaRegistry.currentVersion intentRegistry registerIntentEventSchemas
    dsimp only
    rw [hnone]
    rfl
  dsimp only [EventSchemaRegistry.normalize] at h
  rw [hcurrent] at h
  split_ifs at h with hversion
  have hone : stored.schemaVersion = 1 := by
    have hpos := stored.schemaVersion_pos
    omega
  rw [hone] at h
  obtain ⟨normalized, hup, h⟩ := bind_eq_ok h
  obtain ⟨_, -, h⟩ := bind_eq_ok h
  cases hup
  cases h
  exact ⟨rfl, hone⟩

/-- A legacy event is what its upcaster makes of it. -/
theorem normalize_legacy {upcaster : Event → Except PyError Event}
    (hupcaster : intentUpcaster b stored.type = some upcaster) (hone : stored.schemaVersion = 1)
    (h : (intentRegistry b).normalize stored = .ok event) : upcaster stored = .ok event := by
  have hcurrent : (intentRegistry b).currentVersion stored.type = 2 := by
    unfold EventSchemaRegistry.currentVersion intentRegistry registerIntentEventSchemas
    dsimp only
    rw [hupcaster]
    rfl
  have hregistered : (intentRegistry b).upcasters stored.type stored.schemaVersion =
      some upcaster := by
    unfold intentRegistry registerIntentEventSchemas
    dsimp only
    rw [hupcaster, hone]
    rfl
  dsimp only [EventSchemaRegistry.normalize] at h
  rw [hcurrent] at h
  split_ifs at h with hversion
  rw [hone] at h
  obtain ⟨normalized, hup, h⟩ := bind_eq_ok h
  obtain ⟨_, -, h⟩ := bind_eq_ok h
  cases h
  obtain ⟨next, hnext, hup⟩ := bind_eq_ok hup
  cases hup
  unfold EventSchemaRegistry.upcastOnce at hnext
  rw [hregistered] at hnext
  obtain ⟨made, hmade, hnext⟩ := bind_eq_ok hnext
  dsimp only at hnext
  split_ifs at hnext
  cases hnext
  exact hmade

/-- What migration leaves as it is, and the context that it adds. -/
structure Migrated (stored event : Event) (operation : String) : Prop where
  type : event.type = stored.type
  source : event.source = stored.source
  subject : event.subject = stored.subject
  id : event.id = stored.id
  timestamp : event.timestamp = stored.timestamp
  schemaVersion : event.schemaVersion = 2
  context : Dict.get? event.payload legacyIntentKey = some (newLegacyContext stored operation)

/-- `replace(event, payload=payload, schema_version=2)`, with the context put last. -/
theorem Migrated.of_put (stored : Event) (payload : Payload) (operation : String) :
    Migrated stored
      (stored.migrated (payload.put (legacyIntentKey, newLegacyContext stored operation)))
      operation :=
  ⟨rfl, rfl, rfl, rfl, rfl, rfl, (Dict.get?_put _ _ _ _).trans (if_pos rfl)⟩

variable {operation : String}

theorem Migrated.legacy (h : Migrated stored event operation) : isLegacyIntentEvent event = true := by
  unfold isLegacyIntentEvent
  rw [h.schemaVersion, h.context]
  rfl

/-- The fields of the context. -/
def contextFields (stored : Event) (operation : String) : List (String × JSONValue) :=
  match newLegacyContext stored operation with
  | .obj fields => fields
  | _ => []

theorem Migrated.legacyContext_eq (h : Migrated stored event operation) :
    legacyContext event = .ok (.ofList (contextFields stored operation)) := by
  unfold legacyContext Payload.get
  rw [h.context]
  rfl

theorem itemText_of_get {payload : Payload} {key text : String}
    (h : Dict.get? payload key = some (.str text)) : itemText b payload key = .ok text := by
  unfold itemText Payload.item
  rw [h]
  rfl

theorem itemText_operation :
    itemText b (.ofList (contextFields stored operation)) "operation" = .ok operation :=
  itemText_of_get (by simp [Dict.get?_ofList, contextFields, newLegacyContext])

section Provenance

variable {b : IntentBuiltins}

/-- Unless its source is blank, a migrated event has an origin. -/
theorem legacyOrigin_new (hsource : blank stored.source = false) : ∃ origin,
    StrategicProjection.legacyOrigin b none (.ofList (contextFields stored operation)) =
      .ok origin := by
  let content : OriginContent :=
    { provenanceId := s!"legacy-origin:{stored.id}", kind := .legacyUnverified
      principalId := stored.source, authenticationRef := s!"legacy-event:{stored.id}" }
  have hcheck : content.check = .ok () := by
    have hprovenance : blank content.provenanceId = false := blank_append (by decide)
    have hauthentication : blank content.authenticationRef = false := blank_append (by decide)
    simp [OriginContent.check, requireText, hprovenance, hauthentication, content, hsource]
    rfl
  refine ⟨⟨content, hcheck⟩, ?_⟩
  simp only [StrategicProjection.legacyOrigin, itemMapping, Payload.item, Dict.get?_ofList,
    contextFields, newLegacyContext, List.reverse_cons, List.reverse_nil, List.nil_append,
    List.cons_append, List.find?, String.reduceEq, decide_false, decide_true, Option.map_some,
    bind, Except.bind, JSONValue.mapping, OriginProvenance.fromDict, itemText, Builtins.str,
    OriginKind.ofText]
  exact checkedBy_of hcheck

theorem legacyAuthority_new (hsource : blank stored.source = false) : ∃ authority,
    StrategicProjection.legacyAuthority b none (.ofList (contextFields stored operation)) =
      .ok authority := by
  let content : AuthorityContent :=
    { authorityId := s!"legacy-authority:{stored.id}", principalId := stored.source
      scope := .delegated, allowedGoalKinds := [.legacyUnclassified], goalRefs := []
      provenanceRef := s!"legacy-event:{stored.id}" }
  have hcheck : content.check = .ok () := by
    have hauthority : blank content.authorityId = false := blank_append (by decide)
    have hprovenance : blank content.provenanceRef = false := blank_append (by decide)
    simp [AuthorityContent.check, requireText, hauthority, hprovenance, content, hsource]
    rfl
  refine ⟨⟨content, hcheck⟩, ?_⟩
  simp only [StrategicProjection.legacyAuthority, itemMapping, Payload.item, Dict.get?_ofList,
    contextFields, newLegacyContext, List.reverse_cons, List.reverse_nil, List.nil_append,
    List.cons_append, List.find?, String.reduceEq, decide_false, decide_true, Option.map_some,
    bind, Except.bind, JSONValue.mapping, IntentAuthority.fromDict, itemText, Builtins.str,
    IntentAuthorityScope.ofText]
  exact checkedBy_of hcheck

end Provenance

/-! ## The legacy types -/

/-- A key that a payload has. -/
def Payload.Has (payload : Payload) (key : String) : Prop := ∃ value, payload.get? key = some value

theorem Payload.has_setDefault (payload : Payload) (key : String) (value : JSONValue) :
    (payload.setDefault key value).Has key :=
  ⟨_, (Payload.get?_setDefault payload key key value).trans (if_pos rfl)⟩

theorem Payload.Has.setDefault {payload : Payload} {key : String} (h : payload.Has key)
    (key' : String) (value : JSONValue) : (payload.setDefault key' value).Has key := by
  obtain ⟨given, hgiven⟩ := h
  unfold Payload.Has
  rw [Payload.get?_setDefault]
  by_cases hkey : key' = key
  · rw [if_pos hkey]
    exact ⟨_, rfl⟩
  · rw [if_neg hkey]
    exact ⟨given, hgiven⟩

theorem Payload.Has.put {payload : Payload} {key : String} (h : payload.Has key) (key' : String)
    (value : JSONValue) : Payload.Has (payload.put (key', value)) key := by
  obtain ⟨given, hgiven⟩ := h
  unfold Payload.Has
  rw [Dict.get?_put]
  by_cases hkey : key' = key
  · rw [if_pos hkey]
    exact ⟨_, rfl⟩
  · rw [if_neg hkey]
    exact ⟨given, hgiven⟩

theorem Payload.has_put (payload : Payload) (key : String) (value : JSONValue) :
    Payload.Has (payload.put (key, value)) key :=
  ⟨value, (Dict.get?_put payload key key value).trans (if_pos rfl)⟩

theorem goalCreated_migrated (h : upcastGoalCreated stored = .ok event) :
    Migrated stored event "create" ∧ event.payload.Has "priority" ∧
      event.payload.Has "utility" ∧ event.payload.Has "status" ∧
      event.payload.Has "success_criteria" ∧ event.payload.Has "owner" := by
  cases h
  refine ⟨.of_put _ _ _, ?_, ?_, ?_, ?_, ?_⟩
  · rw [Event.migrated_payload]
    refine Payload.Has.put ?_ _ _
    iterate 4 refine Payload.Has.setDefault ?_ _ _
    exact Payload.has_setDefault _ _ _
  · rw [Event.migrated_payload]
    refine Payload.Has.put ?_ _ _
    iterate 3 refine Payload.Has.setDefault ?_ _ _
    exact Payload.has_setDefault _ _ _
  · rw [Event.migrated_payload]
    refine Payload.Has.put ?_ _ _
    iterate 2 refine Payload.Has.setDefault ?_ _ _
    exact Payload.has_setDefault _ _ _
  · rw [Event.migrated_payload]
    refine Payload.Has.put ?_ _ _
    refine Payload.Has.setDefault ?_ _ _
    exact Payload.has_setDefault _ _ _
  · rw [Event.migrated_payload]
    exact (Payload.has_setDefault _ _ _).put _ _

theorem goalUpdated_migrated (h : upcastGoalUpdated stored = .ok event) :
    Migrated stored event "patch" := by
  cases h
  exact .of_put _ _ _

theorem mapStatus_has (payload : Payload) (rawStatus : String) :
    (mapStatus payload rawStatus).Has "status" := by
  unfold mapStatus
  split
  · exact (Payload.has_put _ _ _).put _ _
  · exact Payload.has_put _ _ _

theorem commitmentCreated_migrated (h : upcastCommitmentCreated b stored = .ok event) :
    Migrated stored event "create" ∧ event.payload.Has "status" ∧ event.payload.Has "owner" ∧
      event.payload.Has "priority" := by
  obtain ⟨payload, hpayload, h⟩ := bind_eq_ok h
  obtain ⟨rawStatus, -, hpayload⟩ := bind_eq_ok hpayload
  cases hpayload
  cases h
  have hstatus := (mapStatus_has (stored.payload.setDefault "id" (.str stored.subjectOrId))
    rawStatus).put legacyIntentKey (newLegacyContext stored "create")
  refine ⟨⟨rfl, rfl, rfl, rfl, rfl, rfl, ?_⟩, ?_, ?_, ?_⟩
  · rw [Event.migrated_payload]
    iterate 5
      rw [Payload.get?_setDefault, if_neg (by decide)]
    rw [Dict.get?_put, if_pos rfl]
  · rw [Event.migrated_payload]
    iterate 5 refine Payload.Has.setDefault ?_ _ _
    exact hstatus
  · rw [Event.migrated_payload]
    iterate 4 refine Payload.Has.setDefault ?_ _ _
    exact Payload.has_setDefault _ _ _
  · rw [Event.migrated_payload]
    iterate 3 refine Payload.Has.setDefault ?_ _ _
    exact Payload.has_setDefault _ _ _

theorem commitmentUpdated_migrated (h : upcastCommitmentUpdated b stored = .ok event) :
    Migrated stored event "patch" := by
  unfold upcastCommitmentUpdated at h
  dsimp only at h
  split at h
  · obtain ⟨payload, -, h⟩ := bind_eq_ok h
    cases h
    exact .of_put _ _ _
  · cases h
    exact .of_put _ _ _

theorem commitmentTerminal_migrated {suffix closure : String}
    (hclosure : commitmentClosure suffix = some closure)
    (h : upcastCommitmentTerminal stored suffix = .ok event) :
    Migrated stored event "terminal" ∧
      Dict.get? event.payload "status" = some (.str "closed") ∧
      Dict.get? event.payload "closure_reason" = some (.str closure) := by
  unfold upcastCommitmentTerminal at h
  rw [hclosure] at h
  cases h
  refine ⟨.of_put _ _ _, ?_, ?_⟩
  · rw [Event.migrated_payload, Dict.get?_put, if_neg (by decide), Dict.get?_put, if_neg (by decide), Dict.get?_put,
      if_pos rfl]
  · rw [Event.migrated_payload, Dict.get?_put, if_neg (by decide), Dict.get?_put, if_pos rfl]

end Noema
