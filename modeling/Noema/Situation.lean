import Noema.Events
import Noema.Lib.Replay

/-!
# The situation

`SituationModel` is a projection of the events: eight tables, a version and the
time of the last event.  `applyBuiltin` is the handler of the built-in event
types; each branch evaluates all its fields before it writes, so a branch that
raises changes nothing.  Registered projectors run after it and may change the
tables before they raise.  `apply` projects one event, `rebuild` clears the model
and replays a lazy sequence of events.
-/
namespace Noema
open Replay

inductive GoalStatus
  | proposed
  | active
  | blocked
  | completed
  | failed
  | cancelled
deriving DecidableEq, Repr

inductive CommitmentStatus
  | proposed
  | accepted
  | active
  | suspended
  | closed
  | «open»
  | inProgress
  | completed
  | failed
  | cancelled
deriving DecidableEq, Repr

inductive CommitmentClosureReason
  | fulfilled
  | cancelled
  | superseded
  | failed
  | breached
deriving DecidableEq, Repr

/-- `GoalStatus(text)`. -/
def GoalStatus.ofText : String → Except PyError GoalStatus
  | "proposed" => .ok .proposed
  | "active" => .ok .active
  | "blocked" => .ok .blocked
  | "completed" => .ok .completed
  | "failed" => .ok .failed
  | "cancelled" => .ok .cancelled
  | text => .error (.valueError s!"'{text}' is not a valid GoalStatus")

/-- `CommitmentStatus(text)`. -/
def CommitmentStatus.ofText : String → Except PyError CommitmentStatus
  | "proposed" => .ok .proposed
  | "accepted" => .ok .accepted
  | "active" => .ok .active
  | "suspended" => .ok .suspended
  | "closed" => .ok .closed
  | "open" => .ok .open
  | "in_progress" => .ok .inProgress
  | "completed" => .ok .completed
  | "failed" => .ok .failed
  | "cancelled" => .ok .cancelled
  | text => .error (.valueError s!"'{text}' is not a valid CommitmentStatus")

/-- `CommitmentClosureReason(text)`. -/
def CommitmentClosureReason.ofText : String → Except PyError CommitmentClosureReason
  | "fulfilled" => .ok .fulfilled
  | "cancelled" => .ok .cancelled
  | "superseded" => .ok .superseded
  | "failed" => .ok .failed
  | "breached" => .ok .breached
  | text => .error (.valueError s!"'{text}' is not a valid CommitmentClosureReason")

structure Fact where
  key : String
  value : JSONValue
  confidence : PyFloat
  source : Option String
  observedAt : Datetime
  expiresAt : Option Datetime
  evidenceEventId : Option String

structure Entity where
  id : String
  kind : String
  attributes : Payload
  updatedAt : Datetime

structure Relation where
  id : String
  sourceId : String
  targetId : String
  kind : String
  attributes : Payload
  updatedAt : Datetime

structure Goal where
  id : String
  description : String
  priority : PyFloat
  utility : PyFloat
  status : GoalStatus
  deadline : Option Datetime
  successCriteria : List String
  owner : Option String
  createdAt : Datetime
  updatedAt : Datetime

structure Commitment where
  id : String
  description : String
  owner : String
  priority : PyFloat
  status : CommitmentStatus
  deadline : Option Datetime
  terminal : Bool
  attentionCost : PyFloat
  socialCostOfFailure : PyFloat
  createdAt : Datetime
  updatedAt : Datetime
  closureReason : Option CommitmentClosureReason
  governingGoalRefs : List String
  roadmapRevisionId : Option String
  outcomeNodeId : Option String
  roleAssignmentId : Option String
  assistanceEnvelopeId : Option String
  activationDueAt : Option Datetime
  leadTimeEvidenceRefs : List String

structure Risk where
  id : String
  description : String
  severity : PyFloat
  probability : PyFloat
  impact : PyFloat
  mitigation : Option String
  source : Option String
  active : Bool
  createdAt : Datetime
  updatedAt : Datetime

structure Opportunity where
  id : String
  description : String
  expectedValue : PyFloat
  uncertainty : PyFloat
  attentionCost : PyFloat
  expiresAt : Option Datetime
  active : Bool
  source : Option String
  createdAt : Datetime
  updatedAt : Datetime

/-- The dictionaries of the model, each keyed by its records' own id. -/
structure Tables where
  facts : KeyedTable Fact.key
  entities : KeyedTable Entity.id
  relations : KeyedTable Relation.id
  goals : KeyedTable Goal.id
  commitments : KeyedTable Commitment.id
  risks : KeyedTable Risk.id
  opportunities : KeyedTable Opportunity.id
  resources : Dict PyFloat

def Tables.empty : Tables :=
  ⟨.empty, .empty, .empty, .empty, .empty, .empty, .empty, .empty⟩

/-- `SituationModel`, apart from its registered projectors. -/
structure Situation where
  tables : Tables
  version : Nat
  observedAt : Datetime

/-- A registered projector: what it leaves in the tables, and what it raised.  It
sees the tables and the public `version`; `observed_at` is only read by `snapshot`. -/
abbrev Projector := Tables → Nat → Event → Tables × Option PyError

/-! ## Reading the fields of a payload -/

section Fields

variable (b : Builtins) (p : Payload)

/-- `str(payload[key])`. -/
def itemText (key : String) : Except PyError String := do b.str (← p.item key)

/-- `float(payload[key])`. -/
def itemFloat (key : String) : Except PyError PyFloat := do b.float (← p.item key)

/-- `float(payload.get(key, default))`. -/
def floatOr (key : String) (default : PyFloat) : Except PyError PyFloat :=
  match Dict.get? p key with
  | some value => b.float value
  | none => .ok default

/-- `str(payload.get(key, default))`. -/
def textOr (key default : String) : Except PyError String :=
  match Dict.get? p key with
  | some value => b.str value
  | none => .ok default

/-- `bool(payload.get(key, default))`. -/
def boolOr (key : String) (default : Bool) : Bool :=
  match Dict.get? p key with
  | some value => value.truthy
  | none => default

/-- `parse_datetime(payload.get(key, default))`. -/
def datetimeOr (key : String) (default : Option Datetime) : Except PyError (Option Datetime) :=
  match Dict.get? p key with
  | some value => b.parseDatetime value
  | none => .ok default

/-- `parse_datetime(payload.get(key))`. -/
def datetime (key : String) : Except PyError (Option Datetime) := b.parseDatetime (p.get key)

/-- `tuple(str(value) for value in payload.get(key, default))`. -/
def textsOr (key : String) (default : List String) : Except PyError (List String) :=
  match Dict.get? p key with
  | some value => do
    let items ← value.iterate
    items.mapM b.str
  | none => .ok default

/-- `str(payload.get(key) or default)`. -/
def textOrElse (key default : String) : Except PyError String :=
  if (p.get key).truthy then b.str (p.get key) else .ok default

/-- `str(payload[key]) if payload.get(key) else None`. -/
def textIfAny (key : String) : Except PyError (Option String) :=
  if (p.get key).truthy then some <$> b.str (p.get key) else .ok none

/-- `_optional_text(value)`. -/
def optionalText (value : JSONValue) : Except PyError (Option String) :=
  match value with
  | .null => .ok none
  | value => do
    let text ← b.str value
    return if text = "" then none else some text

/-- `_optional_text(payload.get(key, default))`; a stored text is never empty. -/
def optionalTextOr (key : String) (default : Option String) : Except PyError (Option String) :=
  match Dict.get? p key with
  | some value => optionalText b value
  | none => .ok default

/-- `_commitment_closure_reason(value)`. -/
def commitmentClosureReason (value : JSONValue) : Except PyError (Option CommitmentClosureReason) :=
  match value with
  | .null => .ok none
  | value => do return some (← CommitmentClosureReason.ofText (← b.str value))

/-- `GoalStatus(str(payload.get("status", default)))`. -/
def goalStatusOr (default : GoalStatus) : Except PyError GoalStatus :=
  match Dict.get? p "status" with
  | some value => do GoalStatus.ofText (← b.str value)
  | none => .ok default

/-- `CommitmentStatus(str(payload.get("status", default)))`. -/
def commitmentStatusOr (default : CommitmentStatus) : Except PyError CommitmentStatus :=
  match Dict.get? p "status" with
  | some value => do CommitmentStatus.ofText (← b.str value)
  | none => .ok default

end Fields

/-- `event.subject` where the code puts it into `str`. -/
def Event.subjectText (event : Event) : String := event.subject.getD "None"

/-- `event.subject or event.id`. -/
def Event.subjectOrId (event : Event) : String :=
  match event.subject with
  | some "" | none => event.id
  | some subject => subject

/-! ## The built-in event types

Each handler gives the tables it leaves and whether it changed them. -/

section Builtin

variable (b : Builtins) (t : Tables) (event : Event)

def factObserved : Except PyError (Tables × Bool) := do
  let key ← itemText b event.payload "key"
  let expiresAt ← match event.payload.get "ttl_seconds" with
    | .null => datetime b event.payload "expires_at"
    | ttlSeconds => do some <$> b.addSeconds event.timestamp (← b.float ttlSeconds)
  let confidence ← floatOr b event.payload "confidence" (.finite 1)
  let source ← textOrElse b event.payload "source" event.source
  let fact : Fact :=
    { key, value := event.payload.get "value", confidence, source := some source,
      observedAt := event.timestamp, expiresAt, evidenceEventId := some event.id }
  return ({ t with facts := t.facts.put fact }, true)

def factRetracted : Except PyError (Tables × Bool) := do
  let key ← itemText b event.payload "key"
  return ({ t with facts := t.facts.erase key }, true)

/-- The attributes after an upsert. -/
def mergedAttributes (current : Option Payload) : Except PyError Payload := do
  let changes ← match Dict.get? event.payload "attributes" with
    | some value => b.dict value
    | none => .ok .empty
  return (current.getD .empty).putAll changes.rows

def entityUpserted : Except PyError (Tables × Bool) := do
  let entityId ← textOrElse b event.payload "id" event.subjectText
  if entityId = "" then .error (.valueError "entity.upserted requires id or subject")
  else
    let current := t.entities.find entityId
    let attributes ← mergedAttributes b event (current.map Entity.attributes)
    let kind ← textOrElse b event.payload "kind" ((current.map Entity.kind).getD "entity")
    let entity : Entity :=
      { id := entityId, kind, attributes, updatedAt := event.timestamp }
    return ({ t with entities := t.entities.put entity }, true)

def entityRemoved : Except PyError (Tables × Bool) := do
  let entityId ← textOrElse b event.payload "id" event.subjectText
  let touching := t.relations.rows.filter fun relation =>
    relation.sourceId = entityId || relation.targetId = entityId
  return ({ t with
    entities := t.entities.erase entityId
    relations := touching.foldl (fun relations relation => relations.erase relation.id)
      t.relations }, true)

def relationUpserted : Except PyError (Tables × Bool) := do
  let relationId ← textOrElse b event.payload "id" event.subjectText
  if relationId = "" then .error (.valueError "relation.upserted requires id or subject")
  else
    let current := t.relations.find relationId
    let attributes ← mergedAttributes b event (current.map Relation.attributes)
    let sourceId ← itemText b event.payload "source_id"
    let targetId ← itemText b event.payload "target_id"
    let kind ← itemText b event.payload "kind"
    let relation : Relation :=
      { id := relationId, sourceId, targetId, kind, attributes,
        updatedAt := event.timestamp }
    return ({ t with relations := t.relations.put relation }, true)

def relationRemoved : Except PyError (Tables × Bool) := do
  let relationId ← textOrElse b event.payload "id" event.subjectText
  return ({ t with relations := t.relations.erase relationId }, true)

def goalRevisionRecorded : Except PyError (Tables × Bool) := do
  let goalId ← itemText b event.payload "goal_id"
  let current := t.goals.find goalId
  let description ← itemText b event.payload "description"
  let priority ← itemFloat b event.payload "priority"
  let utility ← itemFloat b event.payload "utility"
  let status ← GoalStatus.ofText (← itemText b event.payload "status")
  let deadline ← datetime b event.payload "deadline"
  let successCriteria ← textsOr b event.payload "success_criteria" []
  let owner ← itemText b event.payload "owner"
  let goal : Goal :=
    { id := goalId, description, priority, utility, status, deadline, successCriteria,
      owner := some owner, createdAt := (current.map Goal.createdAt).getD event.timestamp,
      updatedAt := event.timestamp }
  return ({ t with goals := t.goals.put goal }, true)

def goalCreated : Except PyError (Tables × Bool) := do
  let goalId ← textOrElse b event.payload "id" event.subjectOrId
  let description ← itemText b event.payload "description"
  let priority ← floatOr b event.payload "priority" (.finite (1 / 2))
  let utility ← floatOr b event.payload "utility" (.finite 1)
  let status ← goalStatusOr b event.payload .active
  let deadline ← datetime b event.payload "deadline"
  let successCriteria ← textsOr b event.payload "success_criteria" []
  let owner ← textIfAny b event.payload "owner"
  let goal : Goal :=
    { id := goalId, description, priority, utility, status, deadline, successCriteria, owner,
      createdAt := event.timestamp, updatedAt := event.timestamp }
  return ({ t with goals := t.goals.put goal }, true)

def goalUpdated : Except PyError (Tables × Bool) := do
  let goalId ← textOrElse b event.payload "id" event.subjectText
  match t.goals.find goalId with
  | none => return (t, false)
  | some current =>
    let description ← textOr b event.payload "description" current.description
    let priority ← floatOr b event.payload "priority" current.priority
    let utility ← floatOr b event.payload "utility" current.utility
    let status ← goalStatusOr b event.payload current.status
    let deadline ← datetimeOr b event.payload "deadline" current.deadline
    let owner ← match Dict.get? event.payload "owner" with
      | some _ => textIfAny b event.payload "owner"
      | none => .ok (current.owner.filter fun owner => owner ≠ "")
    let goal : Goal :=
      { current with description, priority, utility, status, deadline, owner,
                     updatedAt := event.timestamp }
    return ({ t with goals := t.goals.put goal }, true)

/-- The fields that `intent.commitment_recorded` and `commitment.created` read alike. -/
def newCommitment (id owner : String) (status : CommitmentStatus) (createdAt updatedAt : Datetime) :
    Except PyError Commitment := do
  let description ← itemText b event.payload "description"
  let priority ← floatOr b event.payload "priority" (.finite (1 / 2))
  let deadline ← datetime b event.payload "deadline"
  let attentionCost ← floatOr b event.payload "attention_cost" (.finite 1)
  let socialCostOfFailure ← floatOr b event.payload "social_cost_of_failure" (.finite 0)
  let closureReason ← commitmentClosureReason b (event.payload.get "closure_reason")
  let governingGoalRefs ← textsOr b event.payload "governing_goal_refs" []
  let roadmapRevisionId ← optionalText b (event.payload.get "roadmap_revision_id")
  let outcomeNodeId ← optionalText b (event.payload.get "outcome_node_id")
  let roleAssignmentId ← optionalText b (event.payload.get "role_assignment_id")
  let assistanceEnvelopeId ← optionalText b (event.payload.get "assistance_envelope_id")
  let activationDueAt ← datetime b event.payload "activation_due_at"
  let leadTimeEvidenceRefs ← textsOr b event.payload "lead_time_evidence_refs" []
  return { id, description, owner, priority, status, deadline,
           terminal := boolOr event.payload "terminal" true, attentionCost, socialCostOfFailure,
           createdAt, updatedAt, closureReason, governingGoalRefs, roadmapRevisionId,
           outcomeNodeId, roleAssignmentId, assistanceEnvelopeId, activationDueAt,
           leadTimeEvidenceRefs }

def commitmentRecorded : Except PyError (Tables × Bool) := do
  let commitmentId ← itemText b event.payload "id"
  let owner ← itemText b event.payload "owner"
  let status ← CommitmentStatus.ofText (← itemText b event.payload "status")
  let createdAt ← datetime b event.payload "created_at"
  let updatedAt ← datetime b event.payload "updated_at"
  let commitment ← newCommitment b event commitmentId owner status
    (createdAt.getD event.timestamp) (updatedAt.getD event.timestamp)
  return ({ t with commitments := t.commitments.put commitment }, true)

def commitmentTransitioned : Except PyError (Tables × Bool) := do
  let commitmentId ← itemText b event.payload "commitment_id"
  match t.commitments.find commitmentId with
  | none => return (t, false)
  | some current =>
    let status ← CommitmentStatus.ofText (← itemText b event.payload "to_state")
    let closureReason ← commitmentClosureReason b (event.payload.get "closure_reason")
    let roadmap ← optionalText b (event.payload.get "reactivation_roadmap_revision_id")
    let role ← optionalText b (event.payload.get "reactivation_role_assignment_id")
    let assistanceEnvelopeId ← match event.payload.get "reactivation_roadmap_revision_id" with
      | .null => .ok current.assistanceEnvelopeId
      | _ => optionalText b (event.payload.get "reactivation_assistance_envelope_id")
    let commitment : Commitment :=
      { current with status, closureReason,
                     roadmapRevisionId := roadmap.or current.roadmapRevisionId,
                     roleAssignmentId := role.or current.roleAssignmentId,
                     assistanceEnvelopeId, updatedAt := event.timestamp }
    return ({ t with commitments := t.commitments.put commitment }, true)

def commitmentCreated : Except PyError (Tables × Bool) := do
  let commitmentId ← textOrElse b event.payload "id" event.subjectOrId
  let owner ← textOrElse b event.payload "owner" event.source
  let status ← commitmentStatusOr b event.payload .open
  let commitment ← newCommitment b event commitmentId owner status event.timestamp event.timestamp
  return ({ t with commitments := t.commitments.put commitment }, true)

def commitmentUpdated : Except PyError (Tables × Bool) := do
  let commitmentId ← textOrElse b event.payload "id" event.subjectText
  match t.commitments.find commitmentId with
  | none => return (t, false)
  | some current =>
    let description ← textOr b event.payload "description" current.description
    let owner ← textOr b event.payload "owner" current.owner
    let priority ← floatOr b event.payload "priority" current.priority
    let status ← commitmentStatusOr b event.payload current.status
    let deadline ← datetimeOr b event.payload "deadline" current.deadline
    let attentionCost ← floatOr b event.payload "attention_cost" current.attentionCost
    let socialCostOfFailure ←
      floatOr b event.payload "social_cost_of_failure" current.socialCostOfFailure
    let closureReason ← match Dict.get? event.payload "closure_reason" with
      | some value => commitmentClosureReason b value
      | none => .ok current.closureReason
    let governingGoalRefs ← textsOr b event.payload "governing_goal_refs" current.governingGoalRefs
    let roadmapRevisionId ←
      optionalTextOr b event.payload "roadmap_revision_id" current.roadmapRevisionId
    let outcomeNodeId ← optionalTextOr b event.payload "outcome_node_id" current.outcomeNodeId
    let roleAssignmentId ←
      optionalTextOr b event.payload "role_assignment_id" current.roleAssignmentId
    let assistanceEnvelopeId ←
      optionalTextOr b event.payload "assistance_envelope_id" current.assistanceEnvelopeId
    let activationDueAt ← datetimeOr b event.payload "activation_due_at" current.activationDueAt
    let leadTimeEvidenceRefs ←
      textsOr b event.payload "lead_time_evidence_refs" current.leadTimeEvidenceRefs
    let commitment : Commitment :=
      { current with description, owner, priority, status, deadline,
                     terminal := boolOr event.payload "terminal" current.terminal, attentionCost,
                     socialCostOfFailure, updatedAt := event.timestamp, closureReason,
                     governingGoalRefs, roadmapRevisionId, outcomeNodeId, roleAssignmentId,
                     assistanceEnvelopeId, activationDueAt, leadTimeEvidenceRefs }
    return ({ t with commitments := t.commitments.put commitment }, true)

/-- The legacy types `commitment.completed`, `commitment.failed` and `commitment.cancelled`. -/
def commitmentEnded (closureReason : CommitmentClosureReason) : Except PyError (Tables × Bool) := do
  let commitmentId ← textOrElse b event.payload "id" event.subjectText
  match t.commitments.find commitmentId with
  | none => return (t, false)
  | some current =>
    let commitment : Commitment :=
      { current with status := .closed, closureReason := some closureReason,
                     updatedAt := event.timestamp }
    return ({ t with commitments := t.commitments.put commitment }, true)

def riskDetected : Except PyError (Tables × Bool) := do
  let riskId ← textOrElse b event.payload "id" event.subjectOrId
  let description ← itemText b event.payload "description"
  let severity ← floatOr b event.payload "severity" (.finite (1 / 2))
  let probability ← floatOr b event.payload "probability" (.finite 1)
  let impact ← floatOr b event.payload "impact" (.finite 1)
  let mitigation ← textIfAny b event.payload "mitigation"
  let source ← textOrElse b event.payload "source" event.source
  let risk : Risk :=
    { id := riskId, description, severity, probability, impact, mitigation,
      source := some source, active := true, createdAt := event.timestamp,
      updatedAt := event.timestamp }
  return ({ t with risks := t.risks.put risk }, true)

def riskResolved : Except PyError (Tables × Bool) := do
  let riskId ← textOrElse b event.payload "id" event.subjectText
  match t.risks.find riskId with
  | none => return (t, false)
  | some current =>
    let risk : Risk :=
      { current with active := false, updatedAt := event.timestamp }
    return ({ t with risks := t.risks.put risk }, true)

def opportunityDetected : Except PyError (Tables × Bool) := do
  let opportunityId ← textOrElse b event.payload "id" event.subjectOrId
  let description ← itemText b event.payload "description"
  let expectedValue ← floatOr b event.payload "expected_value" (.finite 0)
  let uncertainty ← floatOr b event.payload "uncertainty" (.finite (1 / 2))
  let attentionCost ← floatOr b event.payload "attention_cost" (.finite 1)
  let expiresAt ← datetime b event.payload "expires_at"
  let source ← textOrElse b event.payload "source" event.source
  let opportunity : Opportunity :=
    { id := opportunityId, description, expectedValue, uncertainty, attentionCost, expiresAt,
      active := true, source := some source, createdAt := event.timestamp,
      updatedAt := event.timestamp }
  return ({ t with opportunities := t.opportunities.put opportunity }, true)

def opportunityClosed : Except PyError (Tables × Bool) := do
  let opportunityId ← textOrElse b event.payload "id" event.subjectText
  match t.opportunities.find opportunityId with
  | none => return (t, false)
  | some current =>
    let opportunity : Opportunity :=
      { current with active := false, updatedAt := event.timestamp }
    return ({ t with opportunities := t.opportunities.put opportunity }, true)

def resourceUpdated : Except PyError (Tables × Bool) := do
  let name ← itemText b event.payload "name"
  let amount ← itemFloat b event.payload "amount"
  return ({ t with resources := t.resources.put (name, amount) }, true)

/-- `_apply_builtin`. -/
def applyBuiltin : Except PyError (Tables × Bool) :=
  match event.type with
  | "fact.observed" => factObserved b t event
  | "fact.retracted" => factRetracted b t event
  | "entity.upserted" => entityUpserted b t event
  | "entity.removed" => entityRemoved b t event
  | "relation.upserted" => relationUpserted b t event
  | "relation.removed" => relationRemoved b t event
  | "intent.goal_revision_recorded" => goalRevisionRecorded b t event
  | "goal.created" => goalCreated b t event
  | "goal.updated" => goalUpdated b t event
  | "intent.commitment_recorded" => commitmentRecorded b t event
  | "intent.commitment_transitioned" => commitmentTransitioned b t event
  | "commitment.created" => commitmentCreated b t event
  | "commitment.updated" => commitmentUpdated b t event
  | "commitment.completed" => commitmentEnded b t event .fulfilled
  | "commitment.failed" => commitmentEnded b t event .failed
  | "commitment.cancelled" => commitmentEnded b t event .cancelled
  | "risk.detected" => riskDetected b t event
  | "risk.resolved" => riskResolved b t event
  | "opportunity.detected" => opportunityDetected b t event
  | "opportunity.closed" => opportunityClosed b t event
  | "resource.updated" => resourceUpdated b t event
  | _ => .ok (t, false)

end Builtin

/-! ## Projecting and rebuilding -/

/-- The registered projectors in order, up to one that raises. -/
def runProjectors : List Projector → Tables → Nat → Event → Tables × Option PyError
  | [], t, _, _ => (t, none)
  | projector :: rest, t, version, event =>
    match projector t version event with
    | (t', none) => runProjectors rest t' version event
    | (t', some error) => (t', some error)

/-- `event.sequence or self._version + 1`. -/
def nextVersion (version : Nat) (event : Event) : Nat :=
  match event.sequence with
  | some 0 | none => version + 1
  | some sequence => sequence

/-- `_clear_unlocked`, at a clock reading. -/
def Situation.cleared (now : Datetime) : Situation := ⟨.empty, 0, now⟩

/-- What a runtime is configured with: the registered schemas and projectors, and
the Python conversions it runs on. -/
structure Config where
  builtins : Builtins
  projectors : List Projector
  schemas : EventSchemaRegistry

namespace Config

variable (cfg : Config)

/-- `apply`.  The version moves last, so an event that raises leaves the old one. -/
def apply (s : Situation) (event : Event) : Situation × Option PyError :=
  match applyBuiltin cfg.builtins s.tables event with
  | .error error => (s, some error)
  | .ok (tables, _) =>
    match runProjectors cfg.projectors tables s.version event with
    | (tables, some error) => ({ s with tables }, some error)
    | (tables, none) => (⟨tables, nextVersion s.version event, event.timestamp⟩, none)

/-- Normalize a stored event and apply it. -/
def project (s : Situation) (event : Event) : Situation × Option PyError :=
  match cfg.schemas.normalize event with
  | .error error => (s, some error)
  | .ok projected => cfg.apply s projected

/-- `rebuild` of the normalized history.  The events are normalized one by one as
they are projected, so what raises leaves a situation half rebuilt. -/
def rebuild (now : Datetime) (history : List Event) : Situation × Option PyError :=
  replay cfg.project (.cleared now) history

/-- The history is rebuilt without an exception, whenever that is. -/
def Rebuilds (history : List Event) : Prop := ∀ now, (cfg.rebuild now history).2 = none

end Config

/-- Equal but for the time of the last event. -/
def Situation.SameTables (s t : Situation) : Prop := s.tables = t.tables ∧ s.version = t.version

namespace Config

variable {cfg : Config}

theorem project_sameTables (s t : Situation) (event : Event) (h : s.SameTables t) :
    (cfg.project s event).1.SameTables (cfg.project t event).1 ∧
      (cfg.project s event).2 = (cfg.project t event).2 := by
  obtain ⟨tables, version, at'⟩ := s
  obtain ⟨tables', version', at''⟩ := t
  obtain ⟨rfl, rfl⟩ : tables = tables' ∧ version = version' := h
  unfold project
  cases cfg.schemas.normalize event with
  | error e => exact ⟨⟨rfl, rfl⟩, rfl⟩
  | ok projected =>
    dsimp only [apply]
    cases applyBuiltin cfg.builtins tables projected with
    | error e => exact ⟨⟨rfl, rfl⟩, rfl⟩
    | ok changed =>
      dsimp only
      rcases runProjectors cfg.projectors changed.1 version projected with ⟨t, _ | e⟩
      · exact ⟨⟨rfl, rfl⟩, rfl⟩
      · exact ⟨⟨rfl, rfl⟩, rfl⟩

theorem rebuild_sameTables (now now' : Datetime) (history : List Event) :
    (cfg.rebuild now history).1.SameTables (cfg.rebuild now' history).1 ∧
      (cfg.rebuild now history).2 = (cfg.rebuild now' history).2 :=
  replay_rel project_sameTables history ⟨rfl, rfl⟩

/-- An event that is projected onto one rebuild is projected onto every one. -/
theorem project_rebuild (now now' : Datetime) (history : List Event) (event : Event) :
    (cfg.project (cfg.rebuild now history).1 event).2 =
      (cfg.project (cfg.rebuild now' history).1 event).2 :=
  (project_sameTables _ _ event (rebuild_sameTables now now' history).1).2

/-- A projected event moves the version to its sequence. -/
theorem project_version {s : Situation} {event : Event} {sequence : Nat}
    (hseq : event.sequence = some sequence) (hpos : 0 < sequence)
    (h : (cfg.project s event).2 = none) : (cfg.project s event).1.version = sequence := by
  unfold project at h ⊢
  cases hn : cfg.schemas.normalize event with
  | error e => simp [hn] at h
  | ok projected =>
    have hsame := (cfg.schemas.normalize_preserves hn).2
    simp only [hn, apply] at h ⊢
    split at h
    · cases h
    · split at h
      · cases h
      · simp only [nextVersion, hsame, hseq]
        cases sequence with
        | zero => omega
        | succ n => rfl

end Config

end Noema
