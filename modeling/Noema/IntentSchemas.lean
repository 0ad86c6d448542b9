import Noema.IntentPayloads

/-!
# Migration of the legacy intent events

The types `goal.*` and `commitment.*` from before stewardship are upcast to version 2:
defaults are filled in, the old states become a state and a closure reason, and a context
says what the event was and gives it a provenance that nobody verified.
-/
namespace Noema

/-- `LEGACY_INTENT_KEY`. -/
def legacyIntentKey : String := "_intent_v2"

/-- `_COMMITMENT_STATE.get(status, status)`. -/
def commitmentState : String → String
  | "open" => "accepted"
  | "in_progress" => "active"
  | "completed" => "closed"
  | "failed" => "closed"
  | "cancelled" => "closed"
  | status => status

/-- `_COMMITMENT_CLOSURE.get(status)`. -/
def commitmentClosure : String → Option String
  | "completed" => some "fulfilled"
  | "failed" => some "failed"
  | "cancelled" => some "cancelled"
  | _ => none

/-- A text or `None`. -/
def JSONValue.ofText? : Option String → JSONValue
  | some text => .str text
  | none => .null

/-- `payload.setdefault(key, value)`. -/
def Payload.setDefault (payload : Payload) (key : String) (value : JSONValue) : Payload :=
  match Dict.get? payload key with
  | some _ => payload
  | none => payload.put (key, value)

/-- `_legacy_context`. -/
def newLegacyContext (event : Event) (operation : String) : JSONValue :=
  .obj
    [("operation", .str operation),
     ("legacy_event_type", .str event.type),
     ("author", .str event.source),
     ("origin", .obj
       [("provenance_id", .str s!"legacy-origin:{event.id}"),
        ("kind", .str "legacy_unverified"),
        ("principal_id", .str event.source),
        ("authentication_ref", .str s!"legacy-event:{event.id}")]),
     ("intent_authority", .obj
       [("authority_id", .str s!"legacy-authority:{event.id}"),
        ("principal_id", .str event.source),
        ("scope", .str "delegated"),
        ("allowed_goal_kinds", .list [.str "legacy_unclassified"]),
        ("goal_refs", .list []),
        ("provenance_ref", .str s!"legacy-event:{event.id}")])]

/-- `replace(event, payload=payload, schema_version=2)`. -/
def Event.migrated (event : Event) (payload : Payload) : Event :=
  { event with payload, schemaVersion := 2, schemaVersion_pos := by decide }

@[simp] theorem Event.migrated_payload (event : Event) (payload : Payload) :
    (event.migrated payload).payload = payload := rfl

section Upcasters

variable (b : Builtins) (event : Event)

/-- `_upcast_goal_created`. -/
def upcastGoalCreated : Except PyError Event :=
  let payload := event.payload.setDefault "id" (.str event.subjectOrId)
  let payload := payload.setDefault "priority" (.float (.finite (1 / 2)))
  let payload := payload.setDefault "utility" (.float (.finite 1))
  let payload := payload.setDefault "status" (.str "active")
  let payload := payload.setDefault "success_criteria" (.list [])
  let payload := payload.setDefault "owner" (.str event.source)
  .ok (event.migrated (payload.put (legacyIntentKey, newLegacyContext event "create")))

/-- `_upcast_goal_updated`. -/
def upcastGoalUpdated : Except PyError Event :=
  let payload := event.payload.setDefault "id" (.ofText? event.subject)
  .ok (event.migrated (payload.put (legacyIntentKey, newLegacyContext event "patch")))

/-- The state and, if the old one was final, the closure reason. -/
def mapStatus (payload : Payload) (rawStatus : String) : Payload :=
  let payload := payload.put ("status", .str (commitmentState rawStatus))
  match commitmentClosure rawStatus with
  | some closure => payload.put ("closure_reason", .str closure)
  | none => payload

/-- `_mapped_commitment_payload`. -/
def mappedCommitmentPayload (operation : String) : Except PyError Payload := do
  let payload := event.payload.setDefault "id" (.str event.subjectOrId)
  let rawStatus ← textOr b payload "status" "open"
  return (mapStatus payload rawStatus).put (legacyIntentKey, newLegacyContext event operation)

/-- `_upcast_commitment_created`. -/
def upcastCommitmentCreated : Except PyError Event := do
  let payload ← mappedCommitmentPayload b event "create"
  let payload := payload.setDefault "owner" (.str event.source)
  let payload := payload.setDefault "priority" (.float (.finite (1 / 2)))
  let payload := payload.setDefault "terminal" (.bool true)
  let payload := payload.setDefault "attention_cost" (.float (.finite 1))
  let payload := payload.setDefault "social_cost_of_failure" (.float (.finite 0))
  return event.migrated payload

/-- `_upcast_commitment_updated`. -/
def upcastCommitmentUpdated : Except PyError Event := do
  let payload := event.payload.setDefault "id" (.ofText? event.subject)
  let payload ← match Dict.get? payload "status" with
    | some status => mapStatus payload <$> b.str status
    | none => .ok payload
  return event.migrated (payload.put (legacyIntentKey, newLegacyContext event "patch"))

/-- `_upcast_commitment_terminal`, for the type's suffix. -/
def upcastCommitmentTerminal (suffix : String) : Except PyError Event := do
  let payload := event.payload.setDefault "id" (.ofText? event.subject)
  let payload := payload.put ("status", .str "closed")
  match commitmentClosure suffix with
  | none => .error (.keyError suffix)
  | some closure =>
    let payload := payload.put ("closure_reason", .str closure)
    return event.migrated (payload.put (legacyIntentKey, newLegacyContext event "terminal"))

/-- `_validate_legacy_v2`. -/
def validateLegacyV2 : Except PyError Unit := do
  let refused : PyError :=
    .valueError s!"{event.type} v2 requires deterministic migration metadata"
  match event.payload.get legacyIntentKey with
  | .obj fields =>
    let operation ← textOr b (.ofList fields) "operation" ""
    if blank operation then .error refused else .ok ()
  | _ => .error refused

end Upcasters

/-- The upcaster of a legacy type. -/
def intentUpcaster (b : Builtins) : String → Option (Event → Except PyError Event)
  | "goal.created" => some upcastGoalCreated
  | "goal.updated" => some upcastGoalUpdated
  | "commitment.created" => some (upcastCommitmentCreated b)
  | "commitment.updated" => some (upcastCommitmentUpdated b)
  | "commitment.completed" => some fun event => upcastCommitmentTerminal event "completed"
  | "commitment.failed" => some fun event => upcastCommitmentTerminal event "failed"
  | "commitment.cancelled" => some fun event => upcastCommitmentTerminal event "cancelled"
  | _ => none

/-- `register_intent_event_schemas`. -/
def registerIntentEventSchemas (b : Builtins) (schemas : EventSchemaRegistry) :
    EventSchemaRegistry where
  current eventType :=
    match intentUpcaster b eventType with
    | some _ => some 2
    | none => schemas.current eventType
  validators eventType version :=
    match intentUpcaster b eventType, version with
    | some _, 2 => some (validateLegacyV2 b)
    | _, version => schemas.validators eventType version
  upcasters eventType version :=
    match intentUpcaster b eventType, version with
    | some upcaster, 1 => some upcaster
    | _, version => schemas.upcasters eventType version

/-- A registry with the schemas of intent registered and no others. -/
def intentRegistry (b : Builtins) : EventSchemaRegistry :=
  registerIntentEventSchemas b
    { current := fun _ => none, validators := fun _ _ => none, upcasters := fun _ _ => none }

/-- `is_legacy_intent_event`. -/
def isLegacyIntentEvent (event : Event) : Bool :=
  event.schemaVersion = 2 && (Dict.get? event.payload legacyIntentKey).isSome

/-- `legacy_context`. -/
def legacyContext (event : Event) : Except PyError Payload :=
  match event.payload.get legacyIntentKey with
  | .obj fields => .ok (.ofList fields)
  | _ => .error (.valueError "event does not carry legacy intent migration context")

end Noema
