import Noema.ExposurePayloads
import Noema.StoredPayloads

/-!
# Records as their constructors get them

A field that is annotated as a float takes an `int` too, and a field that is annotated as an
integer takes a float: a constructor compares the number and keeps what it was given.  The
id of a record is the digest of the fields as they were given.  A reader converts them: it
makes a float of every number field and an `int` of every count.

The records here keep that difference (`PyNumber`); each has its constructor's check, what
its id is made of, what `to_dict` writes and how `from_dict` reads it.
-/
namespace Noema

/-! ## Numbers -/

namespace PyNumber

variable (b : ContentBuiltins)

/-- `float(value)`, where it has the same value. -/
def asFloat (number : PyNumber) : PyNumber := float number.real

/-- `int(value)`; an infinity or a NaN has none. -/
def asInt : PyNumber → PyNumber
  | int value => int value
  | float (.finite value) => int (value.num.tdiv value.den)
  | float _ => int 0

/-- `float(value)`, which may round or overflow. -/
def readFloat (number : PyNumber) : Except PyError PyNumber := float <$> b.float number.toJson

/-- `int(value)`, which cuts a fraction off. -/
def readInt (number : PyNumber) : Except PyError PyNumber := int <$> b.int number.toJson

/-- `_bounded(value, name)`. -/
def requireUnit (number : PyNumber) (name : String) : Except PyError Unit := do
  let finite ← number.isfinite b.toBuiltins
  refuse (finite = false ∨
      ((PyFloat.finite 0).atMost number.real && number.real.atMost (.finite 1)) = false)
    s!"{name} must be between zero and one"

/-- `_non_negative(value, name)`. -/
def requireNonNegative (number : PyNumber) (name : String) : Except PyError Unit := do
  let finite ← number.isfinite b.toBuiltins
  refuse (finite = false ∨ number.real.less (.finite 0) = true)
    s!"{name} must be finite and non-negative"

end PyNumber

section Reading

variable (b : ContentBuiltins) (data : Payload)

/-- `float(data[key])`. -/
def itemNumber (key : String) : Except PyError PyNumber :=
  PyNumber.float <$> itemFloat b.toBuiltins data key

/-- `float(data.get(key, 0.0))`. -/
def numberOrZero (key : String) : Except PyError PyNumber :=
  PyNumber.float <$> floatOr b.toBuiltins data key (.finite 0)

/-- `int(data[key])`. -/
def itemCount (key : String) : Except PyError PyNumber :=
  PyNumber.int <$> itemInt b.toIntentBuiltins data key

/-- `int(data.get(key, 0))`. -/
def countOrZero (key : String) : Except PyError PyNumber :=
  match Dict.get? data key with
  | some value => PyNumber.int <$> b.int value
  | none => .ok (.int 0)

end Reading

/-- `time.isoformat() if time else None`. -/
def isoformatOrNone (b : ContentBuiltins) : Option Datetime → JSONValue
  | some time => .str (b.isoformat time)
  | none => .null

/-- `AuthorityLevel(value)`. -/
def AuthorityLevel.ofInt (value : Int) : Except PyError AuthorityLevel :=
  match [observe, propose, actReversible, actIrreversible, administer].find? fun level =>
      (level.value : Int) = value with
  | some level => .ok level
  | none => .error (.valueError s!"{value} is not a valid AuthorityLevel")

/-- `CompetenceBasis(text)`. -/
def CompetenceBasis.text : CompetenceBasis → String
  | seeded => "seeded"
  | evidence => "evidence"

def CompetenceBasis.ofText : String → Except PyError CompetenceBasis :=
  enumOf "CompetenceBasis" [seeded, evidence] text

def EpistemicType.text : EpistemicType → String
  | observed => "observed"
  | inferred => "inferred"
  | reported => "reported"
  | assumed => "assumed"
  | simulated => "simulated"

def EpistemicType.ofText : String → Except PyError EpistemicType :=
  enumOf "EpistemicType" [observed, inferred, reported, assumed, simulated] text

def AssertionStatus.text : AssertionStatus → String
  | active => "active"
  | hypothesis => "hypothesis"

def AssertionStatus.ofText : String → Except PyError AssertionStatus :=
  enumOf "AssertionStatus" [active, hypothesis] text

namespace Given

/-! ## Work orders -/

/-- `ActionPrerequisite`. -/
structure ActionPrerequisite where
  sourceId : String
  minimumFreshness : PyNumber
  minimumConfidence : PyNumber

namespace ActionPrerequisite

variable (b : ContentBuiltins) (prerequisite : ActionPrerequisite)

def check : Except PyError Unit := do
  refuse (blank prerequisite.sourceId = true) "action prerequisite source id must be non-empty"
  prerequisite.minimumFreshness.requireUnit b "minimum_freshness"
  prerequisite.minimumConfidence.requireUnit b "minimum_confidence"

/-- `_prerequisite_dict`. -/
def fields : List (String × JSONValue) :=
  [("source_id", .str prerequisite.sourceId),
   ("minimum_freshness", prerequisite.minimumFreshness.toJson),
   ("minimum_confidence", prerequisite.minimumConfidence.toJson)]

def toDict : Payload := .ofList prerequisite.fields

/-- `_prerequisite`. -/
def fromDict (data : Payload) : Except PyError ActionPrerequisite := do
  let sourceId ← itemText b.toBuiltins data "source_id"
  let minimumFreshness ← itemNumber b data "minimum_freshness"
  let minimumConfidence ← itemNumber b data "minimum_confidence"
  constructed (check b) { sourceId, minimumFreshness, minimumConfidence }

end ActionPrerequisite

/-- `_prerequisites(data, key)`. -/
def prerequisites (b : ContentBuiltins) (data : Payload) (key : String) :
    Except PyError (List ActionPrerequisite) := do
  match Dict.get? data key with
  | none => return []
  | some value =>
    (← value.iterate).mapM fun item => do ActionPrerequisite.fromDict b (← item.mapping)

/-- What the id of a work order is made of. -/
structure OrderContent where
  purpose : String
  governingGoalRefs : List String
  createdFrom : List String
  priority : PyNumber
  desiredOutcome : String
  successCriteria : List String
  deadline : Option Datetime
  opportunityWindowEnd : Option Datetime
  authorityCeiling : AuthorityLevel
  epistemicPrerequisites : List ActionPrerequisite
  createdAt : Datetime

/-- `WorkOrder`. -/
structure WorkOrder extends OrderContent where
  workOrderId : String

namespace WorkOrder

variable (b : ContentBuiltins)

/-- A time of a work order does not precede its creation. -/
def checkTime (createdAt : Datetime) (time : Option Datetime) (name : String) :
    Except PyError Unit :=
  refuse (time.any (fun time => time.instant < createdAt.instant) = true)
    s!"{name} cannot precede creation"

def check (order : WorkOrder) : Except PyError Unit := do
  requireText order.workOrderId "work order id"
  requireText order.purpose "work order purpose"
  requireText order.desiredOutcome "work order desired outcome"
  requireUnique order.governingGoalRefs "work order goal refs" true
  requireUnique order.createdFrom "work order provenance" true
  requireUnique order.successCriteria "work order success criteria" true
  order.priority.requireUnit b "work order priority"
  checkTime order.createdAt order.deadline "work order deadline"
  checkTime order.createdAt order.opportunityWindowEnd "work order opportunity window"
  refuse (¬ (order.epistemicPrerequisites.map ActionPrerequisite.sourceId).Nodup)
    "work order epistemic prerequisite sources must be unique"

def identity (content : OrderContent) : List (String × JSONValue) :=
  [("purpose", .str content.purpose),
   ("governing_goal_refs", .texts content.governingGoalRefs),
   ("created_from", .texts content.createdFrom),
   ("priority", content.priority.toJson),
   ("desired_outcome", .str content.desiredOutcome),
   ("success_criteria", .texts content.successCriteria),
   ("deadline", isoformatOrNone b content.deadline),
   ("opportunity_window_end", isoformatOrNone b content.opportunityWindowEnd),
   ("authority_ceiling", .int content.authorityCeiling.value),
   ("epistemic_prerequisites",
     .list (content.epistemicPrerequisites.map fun value => value.toDict.value)),
   ("created_at", .str (b.isoformat content.createdAt))]

def create (content : OrderContent) : Except PyError WorkOrder := do
  let workOrderId ← b.contentId "work-order" (.ofList (identity b content))
  constructed (check b) ⟨content, workOrderId⟩

def toDict (order : WorkOrder) : Payload :=
  .ofList (("work_order_id", .str order.workOrderId) :: identity b order.toOrderContent)

/-- The constructor, and the comparison with what `create` makes of the content. -/
def verified (order : WorkOrder) : Except PyError WorkOrder := do
  let order ← constructed (check b) order
  let expected ← create b order.toOrderContent
  refuse (order.workOrderId ≠ expected.workOrderId)
    "work order id does not match immutable content"
  return order

def fromDict (data : Payload) : Except PyError WorkOrder := do
  let workOrderId ← itemText b.toBuiltins data "work_order_id"
  let purpose ← itemText b.toBuiltins data "purpose"
  let governingGoalRefs ← strings b.toIntentBuiltins data "governing_goal_refs"
  let createdFrom ← strings b.toIntentBuiltins data "created_from"
  let priority ← itemNumber b data "priority"
  let desiredOutcome ← itemText b.toBuiltins data "desired_outcome"
  let successCriteria ← strings b.toIntentBuiltins data "success_criteria"
  let deadline ← datetime b.toBuiltins data "deadline"
  let opportunityWindowEnd ← datetime b.toBuiltins data "opportunity_window_end"
  let authorityCeiling ← AuthorityLevel.ofInt (← itemInt b.toIntentBuiltins data "authority_ceiling")
  let epistemicPrerequisites ← prerequisites b data "epistemic_prerequisites"
  let createdAt ← requiredDatetime b.toIntentBuiltins data "created_at"
  verified b
    { workOrderId, purpose, governingGoalRefs, createdFrom, priority, desiredOutcome,
      successCriteria, deadline, opportunityWindowEnd, authorityCeiling, epistemicPrerequisites,
      createdAt }

end WorkOrder

/-! ## Competence estimates -/

/-- What the id of an estimate is made of. -/
structure EstimateContent where
  agentId : String
  capability : String
  score : PyNumber
  evidenceConfidence : PyNumber
  basis : CompetenceBasis
  evidenceRefs : List String
  estimatedAt : Datetime

/-- `CompetenceEstimate`. -/
structure CompetenceEstimate extends EstimateContent where
  estimateId : String

namespace CompetenceEstimate

variable (b : ContentBuiltins)

def check (estimate : CompetenceEstimate) : Except PyError Unit := do
  requireText estimate.estimateId "competence estimate id"
  requireText estimate.agentId "competence agent id"
  requireText estimate.capability "competence capability"
  estimate.score.requireUnit b "competence score"
  estimate.evidenceConfidence.requireUnit b "competence evidence confidence"
  requireUnique estimate.evidenceRefs "competence evidence refs" false
  refuse (estimate.basis = .evidence ∧ estimate.evidenceRefs = [])
    "evidence-based competence requires evidence refs"
  refuse (estimate.basis = .seeded ∧ estimate.evidenceRefs ≠ [])
    "seeded competence cannot claim empirical evidence"

def identity (content : EstimateContent) : List (String × JSONValue) :=
  [("agent_id", .str content.agentId),
   ("capability", .str content.capability),
   ("score", content.score.toJson),
   ("evidence_confidence", content.evidenceConfidence.toJson),
   ("basis", .str content.basis.text),
   ("evidence_refs", .texts content.evidenceRefs),
   ("estimated_at", .str (b.isoformat content.estimatedAt))]

def create (content : EstimateContent) : Except PyError CompetenceEstimate := do
  let estimateId ← b.contentId "competence-estimate" (.ofList (identity b content))
  constructed (check b) ⟨content, estimateId⟩

def toDict (estimate : CompetenceEstimate) : Payload :=
  .ofList (("estimate_id", .str estimate.estimateId) :: identity b estimate.toEstimateContent)

/-- The constructor, and the comparison with what `create` makes of the content. -/
def verified (value : CompetenceEstimate) : Except PyError CompetenceEstimate := do
  let value ← constructed (check b) value
  let expected ← create b value.toEstimateContent
  refuse (value.estimateId ≠ expected.estimateId)
    "competence estimate id does not match immutable content"
  return value

def fromDict (data : Payload) : Except PyError CompetenceEstimate := do
  let estimateId ← itemText b.toBuiltins data "estimate_id"
  let agentId ← itemText b.toBuiltins data "agent_id"
  let capability ← itemText b.toBuiltins data "capability"
  let score ← itemNumber b data "score"
  let evidenceConfidence ← itemNumber b data "evidence_confidence"
  let basis ← CompetenceBasis.ofText (← itemText b.toBuiltins data "basis")
  let evidenceRefs ← strings b.toIntentBuiltins data "evidence_refs"
  let estimatedAt ← requiredDatetime b.toIntentBuiltins data "estimated_at"
  verified b
    { estimateId, agentId, capability, score, evidenceConfidence, basis, evidenceRefs,
      estimatedAt }

end CompetenceEstimate

/-! ## Assertions -/

/-- What the id of an assertion is made of. -/
structure AssertionContent where
  subject : String
  predicate : String
  value : JSONScalar
  epistemicType : EpistemicType
  confidence : PyNumber
  validFrom : Datetime
  validTo : Option Datetime
  recordedAt : Datetime
  freshUntil : Option Datetime
  sourceRefs : List String
  derivationRefs : List String
  supersedes : Option String
  status : AssertionStatus
  mutableWorld : Bool

/-- `SemanticAssertion`. -/
structure SemanticAssertion extends AssertionContent where
  assertionId : String

namespace SemanticAssertion

variable (b : ContentBuiltins)

/-- The checks of an assertion's id and of the one that it supersedes. -/
def checkSupersedes (assertion : SemanticAssertion) : Except PyError Unit :=
  match assertion.supersedes with
  | some supersedes => do
    refuse (blank supersedes = true) "supersedes must be non-empty when supplied"
    refuse (supersedes = assertion.assertionId) "an assertion cannot supersede itself"
  | none => return ()

/-- The checks of the refs, which depend on how the assertion came to be known. -/
def checkRefs (content : AssertionContent) : Except PyError Unit := do
  refuse ((content.sourceRefs ++ content.derivationRefs).any blank = true)
    "assertion source and derivation refs must be non-empty"
  refuse (¬ content.sourceRefs.Nodup) "assertion source refs must be unique"
  refuse (¬ content.derivationRefs.Nodup) "assertion derivation refs must be unique"
  refuse (content.epistemicType = .assumed ∧ content.derivationRefs ≠ [])
    "assumptions cannot claim derivation evidence"
  refuse (content.epistemicType ≠ .assumed ∧ content.sourceRefs ++ content.derivationRefs = [])
    "non-assumed assertions require a source or derivation"
  refuse (content.epistemicType = .observed ∧
      content.sourceRefs.any (startsWith · "simulation:") = true)
    "simulated evidence cannot be recorded as an observation"
  refuse (content.epistemicType = .inferred ∧ content.derivationRefs = [])
    "inferred assertions require explicit derivation refs"

def check (assertion : SemanticAssertion) : Except PyError Unit := do
  refuse (blank assertion.assertionId = true) "assertion id must be non-empty"
  refuse (blank assertion.subject = true ∨ blank assertion.predicate = true)
    "assertion subject and predicate must be non-empty"
  refuse (assertion.value.infinite = true) "assertion value must be finite"
  assertion.confidence.requireUnit b "assertion confidence"
  refuse (assertion.validTo.any
      (fun validTo => validTo.instant ≤ assertion.validFrom.instant) = true)
    "valid_to must be later than valid_from"
  refuse (assertion.freshUntil.any
      (fun freshUntil => freshUntil.instant ≤ assertion.recordedAt.instant) = true)
    "fresh_until must be later than recorded_at"
  refuse (assertion.mutableWorld = true ∧ assertion.freshUntil = none ∧ assertion.validTo = none)
    "mutable-world assertions require fresh_until or a closed validity interval"
  checkRefs assertion.toAssertionContent
  checkSupersedes assertion

/-- `_identity_payload`. -/
def identity (content : AssertionContent) : List (String × JSONValue) :=
  [("subject", .str content.subject),
   ("predicate", .str content.predicate),
   ("value", content.value.toJson),
   ("epistemic_type", .str content.epistemicType.text),
   ("confidence", content.confidence.toJson),
   ("valid_from", .str (b.isoformat content.validFrom)),
   ("valid_to", isoformatOrNone b content.validTo),
   ("recorded_at", .str (b.isoformat content.recordedAt)),
   ("fresh_until", isoformatOrNone b content.freshUntil),
   ("source_refs", .texts content.sourceRefs),
   ("derivation_refs", .texts content.derivationRefs),
   ("supersedes", .ofText? content.supersedes),
   ("status", .str content.status.text),
   ("mutable_world", .bool content.mutableWorld)]

def create (content : AssertionContent) : Except PyError SemanticAssertion := do
  let assertionId ← b.contentId "assertion" (.ofList (identity b content))
  constructed (check b) ⟨content, assertionId⟩

def toDict (assertion : SemanticAssertion) : Payload :=
  .ofList (("assertion_id", .str assertion.assertionId) :: identity b assertion.toAssertionContent)

/-- A field of the type `JSONScalar`. -/
def scalarField (data : Payload) (key : String) : Except PyError JSONScalar :=
  match (data.get key).scalar with
  | some value => .ok value
  | none => .error .typeError

/-- The constructor, and the comparison with the digest of the content. -/
def verified (assertion : SemanticAssertion) : Except PyError SemanticAssertion := do
  let assertion ← constructed (check b) assertion
  let expected ← b.contentId "assertion" (.ofList (identity b assertion.toAssertionContent))
  refuse (assertion.assertionId ≠ expected) "assertion id does not match its immutable content"
  return assertion

def fromDict (data : Payload) : Except PyError SemanticAssertion := do
  let assertionId ← itemText b.toBuiltins data "assertion_id"
  let subject ← itemText b.toBuiltins data "subject"
  let predicate ← itemText b.toBuiltins data "predicate"
  let value ← scalarField data "value"
  let epistemicType ← EpistemicType.ofText (← itemText b.toBuiltins data "epistemic_type")
  let confidence ← itemNumber b data "confidence"
  let validFrom ← requiredDatetime b.toIntentBuiltins data "valid_from"
  let validTo ← datetime b.toBuiltins data "valid_to"
  let recordedAt ← requiredDatetime b.toIntentBuiltins data "recorded_at"
  let freshUntil ← datetime b.toBuiltins data "fresh_until"
  let sourceRefs ← strings b.toIntentBuiltins data "source_refs"
  let derivationRefs ← strings b.toIntentBuiltins data "derivation_refs"
  let supersedes ← textIfAny b.toBuiltins data "supersedes"
  let status ← AssertionStatus.ofText (← textOr b.toBuiltins data "status" "active")
  let mutableWorld := boolOr data "mutable_world" false
  verified b
    { assertionId, subject, predicate, value, epistemicType, confidence, validFrom, validTo,
      recordedAt, freshUntil, sourceRefs, derivationRefs, supersedes, status, mutableWorld }

end SemanticAssertion

end Given
end Noema
