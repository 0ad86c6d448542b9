import Noema.ContentIds

/-!
# The contracts of attention telemetry

A feature schema names the scalar features that a source payload may expose, a source policy
the events that count as attention opportunities and the payload fields with their
information ids.  A disposition records the decision that was made for an opportunity; an
outcome and feedback refer to one.  Each is read from its event under the id that its content
has.

What an extraction finds wrong in a payload, it raises.
-/
namespace Noema

inductive AttentionFeatureType
  | boolean
  | integer
  | number
  | string
deriving DecidableEq

inductive FeatureMissingness
  | requiredExposureIncomplete
  | optionalUnknown
deriving DecidableEq

inductive AttentionDisposition
  | wake
  | remember
  | defer
  | suppress
deriving DecidableEq

inductive AttentionOutcome
  | timelyUserDecision
  | handledWithinWindow
  | missedOpportunity
  | falseWake
  | falseSuppression
  | unknown
deriving DecidableEq

inductive AttentionFeedback
  | accepted
  | corrected
  | temporaryOverride
  | contextualException
  | preferenceRevised
  | explicitlyRejected
  | permanentProhibition
deriving DecidableEq

/-- `AttentionAuthorityCeiling`, which has one member. -/
inductive AttentionAuthorityCeiling
  | internalAttentionOnly
deriving DecidableEq

/-! ## Texts of the enumerations -/

namespace AttentionFeatureType

def text : AttentionFeatureType → String
  | boolean => "boolean"
  | integer => "integer"
  | number => "number"
  | string => "string"

def ofText : String → Except PyError AttentionFeatureType :=
  enumOf "AttentionFeatureType" [boolean, integer, number, string] text

end AttentionFeatureType

namespace FeatureMissingness

def text : FeatureMissingness → String
  | requiredExposureIncomplete => "required_exposure_incomplete"
  | optionalUnknown => "optional_unknown"

def ofText : String → Except PyError FeatureMissingness :=
  enumOf "FeatureMissingness" [requiredExposureIncomplete, optionalUnknown] text

end FeatureMissingness

namespace AttentionDisposition

def text : AttentionDisposition → String
  | wake => "wake"
  | remember => "remember"
  | defer => "defer"
  | suppress => "suppress"

def ofText : String → Except PyError AttentionDisposition :=
  enumOf "AttentionDisposition" [wake, remember, defer, suppress] text

end AttentionDisposition

namespace AttentionOutcome

def text : AttentionOutcome → String
  | timelyUserDecision => "timely_user_decision"
  | handledWithinWindow => "handled_within_window"
  | missedOpportunity => "missed_opportunity"
  | falseWake => "false_wake"
  | falseSuppression => "false_suppression"
  | unknown => "unknown"

def ofText : String → Except PyError AttentionOutcome :=
  enumOf "AttentionOutcome" [timelyUserDecision, handledWithinWindow, missedOpportunity, falseWake,
    falseSuppression, unknown] text

end AttentionOutcome

namespace AttentionFeedback

def text : AttentionFeedback → String
  | accepted => "accepted"
  | corrected => "corrected"
  | temporaryOverride => "temporary_override"
  | contextualException => "contextual_exception"
  | preferenceRevised => "preference_revised"
  | explicitlyRejected => "explicitly_rejected"
  | permanentProhibition => "permanent_prohibition"

def ofText : String → Except PyError AttentionFeedback :=
  enumOf "AttentionFeedback" [accepted, corrected, temporaryOverride, contextualException,
    preferenceRevised, explicitlyRejected, permanentProhibition] text

end AttentionFeedback

def AttentionAuthorityCeiling.ofText : String → Except PyError AttentionAuthorityCeiling :=
  enumOf "AttentionAuthorityCeiling" [internalAttentionOnly] fun _ => "internal_attention_only"

/-! ## Features -/

structure AttentionFeatureDefinition where
  name : String
  valueType : AttentionFeatureType
  required : Bool
  policySafe : Bool
  missingness : FeatureMissingness
  sensitivity : Classification
  allowedValues : List JSONScalar
  minimum : Option PyNumber
  maximum : Option PyNumber
deriving DecidableEq

namespace AttentionFeatureType

/-- The types of Python that a feature type admits. -/
def admits : AttentionFeatureType → JSONScalar → Bool
  | boolean, .bool _ => true
  | integer, .int _ => true
  | number, .int _ | number, .float _ => true
  | string, .str _ => true
  | _, _ => false

/-- Whether values of a type may have bounds. -/
def bounded (valueType : AttentionFeatureType) : Bool := valueType = integer || valueType = number

end AttentionFeatureType

/-- `isinstance(value, float) and not math.isfinite(value)`. -/
def JSONScalar.infinite : JSONScalar → Bool
  | .float value => !value.isFinite
  | _ => false

namespace AttentionFeatureDefinition

variable (definition : AttentionFeatureDefinition)

/-- The bounds that are given. -/
def checkBounds (number : PyNumber) : Except PyError Unit := do
  refuse (definition.minimum.any (fun minimum => number.real.less minimum.real) = true)
    s!"attention feature {definition.name} is below its minimum"
  refuse (definition.maximum.any (fun maximum => maximum.real.less number.real) = true)
    s!"attention feature {definition.name} is above its maximum"

/-- `validate`. -/
def validate (value : JSONScalar) : Except PyError Unit := do
  refuse (definition.valueType.admits value = false)
    s!"attention feature {definition.name} has the wrong type"
  refuse (value.infinite = true) s!"attention feature {definition.name} must be finite"
  refuse (definition.allowedValues ≠ [] ∧
      definition.allowedValues.any (fun allowed => value.equals allowed) = false)
    s!"attention feature {definition.name} is outside its allowed values"
  match value.number with
  | some number => definition.checkBounds number
  | none => return ()

/-- A bound that is given is finite. -/
def checkBound (b : Builtins) (bound : Option PyNumber) (name : String) : Except PyError Unit :=
  match bound with
  | some bound => do
    let finite ← bound.isfinite b
    refuse (finite = false) s!"feature {name} must be finite"
  | none => return ()

/-- `__post_init__`. -/
def check (b : Builtins) : Except PyError Unit := do
  requireText definition.name "attention feature name"
  refuse (definition.required ≠ (definition.missingness = .requiredExposureIncomplete))
    "feature required flag and missingness semantics disagree"
  checkBound b definition.minimum "minimum"
  checkBound b definition.maximum "maximum"
  refuse (definition.minimum.any (fun minimum =>
      definition.maximum.any fun maximum => maximum.real.less minimum.real) = true)
    "feature minimum cannot exceed maximum"
  refuse (definition.valueType.bounded = false ∧
      (definition.minimum.isSome ∨ definition.maximum.isSome))
    "only numeric attention features may have bounds"
  refuse (definition.valueType = .string ∧ definition.allowedValues = [])
    "policy-safe string features require an explicit enum"
  definition.allowedValues.forM definition.validate

end AttentionFeatureDefinition

/-- The features of a schema, as a tuple with one definition for each name. -/
structure AttentionFeatureSchemaSnapshot where
  schemaId : String
  version : String
  features : List AttentionFeatureDefinition
  recordedAt : Datetime
  distinct : (features.map AttentionFeatureDefinition.name).Nodup

instance : BEq AttentionFeatureSchemaSnapshot := ⟨fun a b =>
  a.schemaId == b.schemaId && a.version == b.version && a.features == b.features &&
    a.recordedAt == b.recordedAt⟩

namespace AttentionFeatureSchemaSnapshot

variable (schema : AttentionFeatureSchemaSnapshot)

/-- The definition of a feature. -/
def definition (name : String) : Option AttentionFeatureDefinition :=
  schema.features.find? fun definition => definition.name = name

/-- A value of the snapshot against the definition of its name. -/
def validateEntry (entry : String × JSONScalar) : Except PyError Unit :=
  match schema.definition entry.1 with
  | none => .error (.keyError entry.1)
  | some definition => do
    refuse (definition.policySafe = false) s!"attention feature {entry.1} is not policy-safe"
    definition.validate entry.2

/-- `validate_snapshot`: whether every required feature is there. -/
def validateSnapshot (values : Dict JSONScalar) : Except PyError Bool := do
  let unknown := ordered ((values.rows.map entryKey).filter fun name =>
    (schema.definition name).isNone)
  refuse (unknown ≠ [])
    ("attention feature snapshot contains unknown fields: [" ++
      ", ".intercalate (unknown.map fun name => "'" ++ name ++ "'") ++ "]")
  values.rows.forM schema.validateEntry
  return schema.features.all fun definition =>
    !definition.required || (Dict.get? values definition.name).isSome

/-- The value of a feature in a payload, which must be a scalar. -/
def rawFeature (payload : Payload) (definition : AttentionFeatureDefinition) :
    Except PyError (Option (String × JSONScalar)) :=
  match Dict.get? payload definition.name with
  | none => .ok none
  | some raw =>
    match raw.scalar with
    | some value => .ok (some (definition.name, value))
    | none =>
      .error (.valueError s!"attention feature {definition.name} is not a JSON scalar")

/-- `extract_snapshot`. -/
def extractSnapshot (payload : Payload) : Except PyError (Dict JSONScalar) := do
  let entries ← schema.features.mapM (rawFeature payload)
  let values : Dict JSONScalar := .ofList (entries.filterMap id)
  let _ ← schema.validateSnapshot values
  return values

end AttentionFeatureSchemaSnapshot

end Noema
