import Noema.AutonomicModels
import Noema.Checkpoints
import Noema.EndogenousModels

/-!
# Reading autonomic rules

`AutonomicRule.from_dict` converts the fields of a payload and runs the checks of the
constructors.  A family chooses the reader of the specification, so that a rule never has
the specification of another family.
-/
namespace Noema

/-- What the shadow kernel runs on besides the builtins of checkpoints: `sum` of floats,
which is not the same on all versions of Python, and `isoformat`. -/
structure RuleBuiltins extends CheckpointBuiltins where
  floatSum : List PyFloat → PyFloat
  isoformat : Datetime → String

/-- `ValueSource(text)`. -/
def ValueSource.ofText : String → Except PyError ValueSource
  | "event" => .ok .event
  | "fact" => .ok .fact
  | text => .error (.valueError s!"'{text}' is not a valid ValueSource")

/-- `ComparisonOperator(text)`. -/
def ComparisonOperator.ofText : String → Except PyError ComparisonOperator
  | "equals" => .ok .equals
  | "not_equals" => .ok .notEquals
  | "greater_than" => .ok .greaterThan
  | "greater_or_equal" => .ok .greaterOrEqual
  | "less_than" => .ok .lessThan
  | "less_or_equal" => .ok .lessOrEqual
  | "contains" => .ok .contains
  | text => .error (.valueError s!"'{text}' is not a valid ComparisonOperator")

/-- `SalienceDisposition(text)`. -/
def SalienceDisposition.ofText : String → Except PyError SalienceDisposition
  | "wake" => .ok .wake
  | "remember" => .ok .remember
  | "reflex_proposal" => .ok .reflexProposal
  | "suppress" => .ok .suppress
  | "defer" => .ok .defer
  | text => .error (.valueError s!"'{text}' is not a valid SalienceDisposition")

/-- A number that the constructors check for the unit interval. -/
def unitInterval (message : String) : PyFloat → Except PyError { q : ℚ // 0 ≤ q ∧ q ≤ 1 }
  | .finite q => if h : 0 ≤ q ∧ q ≤ 1 then .ok ⟨q, h⟩ else .error (.valueError message)
  | _ => .error (.valueError message)

/-- A number that is checked to be finite and not negative. -/
def nonnegativeFloat (message : String) : PyFloat → Except PyError { q : ℚ // 0 ≤ q }
  | .finite q => if h : 0 ≤ q then .ok ⟨q, h⟩ else .error (.valueError message)
  | _ => .error (.valueError message)

/-- A number that is checked to be finite and positive. -/
def positiveFloat (message : String) : PyFloat → Except PyError { q : ℚ // 0 < q }
  | .finite q => if h : 0 < q then .ok ⟨q, h⟩ else .error (.valueError message)
  | _ => .error (.valueError message)

/-- A text that is checked to be there. -/
def nonemptyText (message text : String) : Except PyError { text : String // text ≠ "" } :=
  if h : text ≠ "" then .ok ⟨text, h⟩ else .error (.valueError message)

/-- A list that is checked to have an item. -/
def nonemptyList {α : Type} (message : String) :
    List α → Except PyError { items : List α // items ≠ [] }
  | [] => .error (.valueError message)
  | item :: items => .ok ⟨item :: items, List.cons_ne_nil _ _⟩

section Reading

variable (b : RuleBuiltins) (data : Payload)

/-- `str(data[key]) if data.get(key) is not None else None`. -/
def textIfGiven (key : String) : Except PyError (Option String) :=
  match data.get key with
  | .null => .ok none
  | value => some <$> b.str value

/-- The mappings of `data[key]`. -/
def clausesIn (items : JSONValue) : Except PyError (List Payload) := do
  (← items.iterate).mapM JSONValue.mapping

/-- `int(data.get(key, default))`. -/
def intOr (key : String) (default : Int) : Except PyError Int :=
  match Dict.get? data key with
  | some value => b.int value
  | none => .ok default

def ValueRef.fromDict : Except PyError ValueRef := do
  let source ← ValueSource.ofText (← itemText b.toBuiltins data "source")
  let key ← nonemptyText "value reference key must be non-empty" (← itemText b.toBuiltins data "key")
  return ⟨source, key.1, key.2⟩

/-- The value of a clause, a finite scalar. -/
def Literal.ofValue : JSONValue → Except PyError Literal
  | .null => .ok .null
  | .bool value => .ok (.bool value)
  | .int value => .ok (.int value)
  | .float (.finite value) => .ok (.float value)
  | .float _ => .error (.valueError "rule literals must be finite")
  | .str value => .ok (.str value)
  | .list _ | .obj _ =>
    .error (.valueError "the first shadow kernel admits immutable scalar literals only")

def PredicateClause.fromDict : Except PyError PredicateClause := do
  let ref ← ValueRef.fromDict b (← itemMapping data "ref")
  let operator ← ComparisonOperator.ofText (← itemText b.toBuiltins data "operator")
  let value ← Literal.ofValue (data.get "value")
  return { ref, operator, value }

def PredicateSpec.fromDict : Except PyError PredicateSpec := do
  let clauses ← (← clausesIn (← data.item "all_of")).mapM (PredicateClause.fromDict b)
  let allOf ← nonemptyList "predicate rules require at least one clause" clauses
  return ⟨allOf.1, allOf.2⟩

def ScoringFeature.fromDict : Except PyError ScoringFeature := do
  let name ← itemText b.toBuiltins data "name"
  let condition ← PredicateClause.fromDict b (← itemMapping data "condition")
  let weight ← itemFloat b.toBuiltins data "weight"
  let name ← nonemptyText "scoring feature name must be non-empty" name
  let weight ← unitInterval "scoring feature weight must be between zero and one" weight
  return ⟨name.1, condition, weight.1, name.2, weight.2⟩

/-- `1.000000001`. -/
def scoringCeiling : PyFloat := .ofRat (1000000001 / 10 ^ 9)

def ScoringSpec.fromDict : Except PyError ScoringSpec := do
  let features ← (← clausesIn (← data.item "features")).mapM (ScoringFeature.fromDict b)
  let bias ← floatOr b.toBuiltins data "bias" (.finite 0)
  let features ← nonemptyList "scoring rules require at least one feature" features
  let bias ← unitInterval "scoring bias must be between zero and one" bias
  let total := (PyFloat.finite bias.1).plus
    (b.floatSum (features.1.map fun feature => .finite feature.weight))
  refuse ((scoringCeiling.atMost total && !total.atMost scoringCeiling) = true)
    "scoring bias and feature weights must sum to at most one"
  return ⟨features.1, bias.1, features.2, bias.2⟩

def TemporalSpec.fromDict : Except PyError TemporalSpec := do
  let anchorEventType ← itemText b.toBuiltins data "anchor_event_type"
  let minElapsedSeconds ← itemFloat b.toBuiltins data "min_elapsed_seconds"
  let resetEventTypes ← textsOr b.toBuiltins data "reset_event_types" []
  let currentConditions ← match Dict.get? data "current_conditions" with
    | some items => do (← clausesIn items).mapM (PredicateClause.fromDict b)
    | none => pure []
  let sameSubject := boolOr data "same_subject" true
  let anchorEventType ← nonemptyText "temporal anchor event type must be non-empty" anchorEventType
  let minElapsedSeconds ←
    nonnegativeFloat "temporal elapsed duration cannot be negative" minElapsedSeconds
  return ⟨anchorEventType.1, minElapsedSeconds.1, resetEventTypes, currentConditions, sameSubject,
    anchorEventType.2, minElapsedSeconds.2⟩

/-- `_validate_inhibition`; an excitatory signal has no configuration, and only a graded
inhibition has a strength. -/
def SignalRole.validated (role : String) (inhibits : List String) (mode : Option String)
    (strength : Option PyFloat) : Except PyError SignalRole :=
  match role with
  | "excitatory" =>
    if inhibits ≠ [] ∨ mode ≠ none ∨ strength ≠ none then
      .error (.valueError "excitatory signals cannot carry inhibition configuration")
    else .ok .excitatory
  | _ =>
    if h : inhibits ≠ [] then
      match mode with
      | none =>
        .error (.valueError "inhibitory signals require targets and an explicit mode")
      | some "hard" =>
        if strength ≠ none then
          .error (.valueError "hard inhibition does not accept a modulation strength")
        else .ok (.inhibitory inhibits h .hard)
      | some _ =>
        match strength with
        | some (.finite q) =>
          if hq : 0 < q ∧ q ≤ 1 then .ok (.inhibitory inhibits h (.modulate q hq.1 hq.2))
          else .error (.valueError "graded modulation strength must be within (0, 1]")
        | _ => .error (.valueError "graded modulation strength must be within (0, 1]")
    else .error (.valueError "inhibitory signals require targets and an explicit mode")

/-- A member of an enumeration, by its value. -/
def enumValue (name : String) (values : List String) (text : String) : Except PyError String :=
  if text ∈ values then .ok text else .error (.valueError s!"'{text}' is not a valid {name}")

def SignalTemplate.fromDict : Except PyError SignalTemplate := do
  let kind ← itemText b.toBuiltins data "kind"
  let salience ← itemFloat b.toBuiltins data "salience"
  let confidence ← floatOr b.toBuiltins data "confidence" (.finite 1)
  let urgency ← floatOr b.toBuiltins data "urgency" (.finite 0)
  let expectedValue ← floatOr b.toBuiltins data "expected_value" (.finite 0)
  let ttlSeconds ← floatOr b.toBuiltins data "ttl_seconds" (.finite 3600)
  let role ← enumValue "SignalRole" ["excitatory", "inhibitory"]
    (← textOr b.toBuiltins data "role" "excitatory")
  let inhibits ← textsOr b.toBuiltins data "inhibits" []
  let mode ← (← textIfGiven b data "inhibition_mode").mapM
    (enumValue "InhibitionMode" ["hard", "modulate"])
  let strength ← match data.get "modulation_strength" with
    | .null => pure none
    | value => some <$> b.float value
  let suggestedDisposition ←
    SalienceDisposition.ofText (← textOr b.toBuiltins data "suggested_disposition" "remember")
  let subject ← textIfGiven b data "subject"
  let kind ← nonemptyText "signal kind must be non-empty" kind
  let salience ← unitInterval "salience must be between zero and one" salience
  let confidence ← unitInterval "confidence must be between zero and one" confidence
  let urgency ← unitInterval "urgency must be between zero and one" urgency
  let expectedValue ← nonnegativeFloat "expected value cannot be negative" expectedValue
  let ttlSeconds ← positiveFloat "signal ttl must be positive" ttlSeconds
  let role ← SignalRole.validated role inhibits mode strength
  return {
    kind := kind.1, salience := salience.1, confidence := confidence.1, urgency := urgency.1
    expectedValue := expectedValue.1, ttlSeconds := ttlSeconds.1, role, suggestedDisposition, subject
    kind_ne := kind.2, salience_unit := salience.2, confidence_unit := confidence.2
    urgency_unit := urgency.2, expectedValue_nonneg := expectedValue.2, ttlSeconds_pos := ttlSeconds.2 }

/-- The specification that a family reads. -/
def RuleSpec.fromDict : String → Except PyError RuleSpec
  | "predicate" => return .predicate (← PredicateSpec.fromDict b data)
  | "temporal" => return .temporal (← TemporalSpec.fromDict b data)
  | _ => return .scoring (← ScoringSpec.fromDict b data)

def AutonomicRule.fromDict : Except PyError AutonomicRule := do
  let family ← enumValue "RuleFamily" ["predicate", "temporal", "scoring"]
    (← itemText b.toBuiltins data "family")
  let spec ← RuleSpec.fromDict b (← itemMapping data "spec") family
  let ruleId ← itemText b.toBuiltins data "rule_id"
  let version ← itemInt b.toIntentBuiltins data "version"
  let purpose ← itemText b.toBuiltins data "purpose"
  let trigger ← itemText b.toBuiltins data "trigger"
  let output ← SignalTemplate.fromDict b (← itemMapping data "output")
  let threshold ← floatOr b.toBuiltins data "threshold" (.finite 1)
  let precedence ← intOr b data "precedence" 0
  let intentText ← textIfGiven b data "intent_text"
  let evidenceRefs ← textsOr b.toBuiltins data "evidence_refs" []
  if htexts : ruleId ≠ "" ∧ purpose ≠ "" ∧ trigger ≠ "" then
    if hversion : 0 < version.toNat then do
      let threshold ← unitInterval "rule threshold must be between zero and one" threshold
      return {
        ruleId, version := version.toNat, purpose, trigger, spec, output, threshold := threshold.1
        precedence, intentText, evidenceRefs, texts_ne := htexts, version_pos := hversion
        threshold_unit := threshold.2 }
    else .error (.valueError "rule version must be positive")
  else .error (.valueError "rule id, purpose, and trigger must be non-empty")

end Reading

end Noema
