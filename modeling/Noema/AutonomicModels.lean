import Mathlib.Data.List.Dedup
import Mathlib.Data.List.Sort
import Noema.Situation
import Noema.Lib.Glob

/-!
# The contracts of the autonomic shadow kernel

Rules, the rulesets and epochs that pin them, and what an evaluation leaves: a trace
for each rule it ran and, in the trace, the signal the rule would emit.  What the
constructors check is part of the records, except that the weights of a scoring rule
and its bias sum up to at most one, which nothing here needs.

Ids are digests of the content (`AutonomicIds`) and sums are floating point
(`FloatArith`); of both only what is written there is assumed.
-/
namespace Noema

inductive ValueSource
  | event
  | fact
deriving DecidableEq, Repr

def ValueSource.value : ValueSource → String
  | event => "event"
  | fact => "fact"

inductive ComparisonOperator
  | equals
  | notEquals
  | greaterThan
  | greaterOrEqual
  | lessThan
  | lessOrEqual
  | contains
deriving DecidableEq, Repr

def ComparisonOperator.value : ComparisonOperator → String
  | equals => "equals"
  | notEquals => "not_equals"
  | greaterThan => "greater_than"
  | greaterOrEqual => "greater_or_equal"
  | lessThan => "less_than"
  | lessOrEqual => "less_or_equal"
  | contains => "contains"

/-- How an inhibitory signal acts on the others; only modulation has a strength. -/
inductive InhibitionMode
  | hard
  | modulate (strength : ℚ) (strength_pos : 0 < strength) (strength_le : strength ≤ 1)
deriving DecidableEq

/-- Only inhibitory signals carry an inhibition, and they name their targets. -/
inductive SignalRole
  | excitatory
  | inhibitory (inhibits : List String) (inhibits_ne : inhibits ≠ []) (mode : InhibitionMode)
deriving DecidableEq

inductive SalienceDisposition
  | wake
  | remember
  | reflexProposal
  | suppress
  | defer
deriving DecidableEq, Repr

/-! ## Rules -/

structure ValueRef where
  source : ValueSource
  key : String
  key_ne : key ≠ ""
deriving DecidableEq

/-- The value a clause compares with: a scalar, and a finite one. -/
inductive Literal
  | null
  | bool (value : Bool)
  | int (value : Int)
  | float (value : ℚ)
  | str (value : String)
deriving DecidableEq

structure PredicateClause where
  ref : ValueRef
  operator : ComparisonOperator
  value : Literal
deriving DecidableEq

structure PredicateSpec where
  allOf : List PredicateClause
  allOf_ne : allOf ≠ []
deriving DecidableEq

structure ScoringFeature where
  name : String
  condition : PredicateClause
  weight : ℚ
  name_ne : name ≠ ""
  weight_unit : 0 ≤ weight ∧ weight ≤ 1
deriving DecidableEq

structure ScoringSpec where
  features : List ScoringFeature
  bias : ℚ
  features_ne : features ≠ []
  bias_unit : 0 ≤ bias ∧ bias ≤ 1
deriving DecidableEq

structure TemporalSpec where
  anchorEventType : String
  minElapsedSeconds : ℚ
  resetEventTypes : List String
  currentConditions : List PredicateClause
  sameSubject : Bool
  anchorEventType_ne : anchorEventType ≠ ""
  minElapsedSeconds_nonneg : 0 ≤ minElapsedSeconds
deriving DecidableEq

/-- A rule's typed specification, one for each family. -/
inductive RuleSpec
  | predicate (spec : PredicateSpec)
  | temporal (spec : TemporalSpec)
  | scoring (spec : ScoringSpec)
deriving DecidableEq

structure SignalTemplate where
  kind : String
  salience : ℚ
  confidence : ℚ
  urgency : ℚ
  expectedValue : ℚ
  ttlSeconds : ℚ
  role : SignalRole
  suggestedDisposition : SalienceDisposition
  subject : Option String
  kind_ne : kind ≠ ""
  salience_unit : 0 ≤ salience ∧ salience ≤ 1
  confidence_unit : 0 ≤ confidence ∧ confidence ≤ 1
  urgency_unit : 0 ≤ urgency ∧ urgency ≤ 1
  expectedValue_nonneg : 0 ≤ expectedValue
  ttlSeconds_pos : 0 < ttlSeconds
deriving DecidableEq

structure AutonomicRule where
  ruleId : String
  version : Nat
  purpose : String
  trigger : String
  spec : RuleSpec
  output : SignalTemplate
  threshold : ℚ
  precedence : Int
  intentText : Option String
  evidenceRefs : List String
  texts_ne : ruleId ≠ "" ∧ purpose ≠ "" ∧ trigger ≠ ""
  version_pos : 0 < version
  threshold_unit : 0 ≤ threshold ∧ threshold ≤ 1
deriving DecidableEq

/-- `rule.ref`. -/
def AutonomicRule.ref (rule : AutonomicRule) : String := s!"{rule.ruleId}@{rule.version}"

/-- The rules of one cut, in the order of their refs and one version of each. -/
structure RulesetSnapshot where
  rules : List AutonomicRule
  canonical : (rules.map AutonomicRule.ref).Pairwise (· < ·)
  oneVersion : (rules.map AutonomicRule.ruleId).Nodup
deriving DecidableEq

structure EvaluationEpoch where
  epochId : String
  ruleset : RulesetSnapshot
  startedAt : Datetime
  eventLogCursor : Nat
deriving DecidableEq

/-! ## What an evaluation leaves -/

structure Signal where
  signalId : String
  kind : String
  subject : String
  confidence : ℚ
  salience : ℚ
  urgency : ℚ
  expectedValue : ℚ
  validFrom : Datetime
  validUntil : Datetime
  evidenceEventIds : List String
  ruleRef : String
  evaluationEpochId : String
  precedence : Int
  role : SignalRole
  suggestedDisposition : SalienceDisposition
  valid : validFrom.instant < validUntil.instant
  confidence_unit : 0 ≤ confidence ∧ confidence ≤ 1
  salience_unit : 0 ≤ salience ∧ salience ≤ 1
  urgency_unit : 0 ≤ urgency ∧ urgency ≤ 1
  expectedValue_nonneg : 0 ≤ expectedValue
deriving DecidableEq

/-- `active_at`. -/
def Signal.activeAt (signal : Signal) (at' : Datetime) : Bool :=
  signal.validFrom.instant ≤ at'.instant && at'.instant < signal.validUntil.instant

structure RuleEvaluationTrace where
  traceId : String
  ruleId : String
  version : Nat
  epochId : String
  evaluatedAt : Datetime
  candidate : Bool
  activated : Bool
  activationScore : ℚ
  threshold : ℚ
  matchedConditions : List String
  failedConditions : List String
  evidenceRefs : List String
  signalWouldEmit : Option Signal
  suppressedBy : List String
  runtimeCostUs : Nat
deriving DecidableEq

/-- What `semantic_bytes` serializes: the trace without its cost. -/
def RuleEvaluationTrace.semantic (trace : RuleEvaluationTrace) : RuleEvaluationTrace :=
  { trace with runtimeCostUs := 0 }

/-! ## Ids and sums -/

/-- What `stable_id` digests for a trace. -/
structure TraceIdentity where
  cellId : String
  epochId : String
  ruleRef : String
  eventId : String

/-- What `stable_id` digests for a signal. -/
structure SignalIdentity where
  epochId : String
  ruleRef : String
  triggerEventId : String
  evidenceEventIds : List String
  kind : String
  subject : String

/-- The digests of `stable_id`, without their prefixes. -/
structure AutonomicIds where
  trace : TraceIdentity → String
  signal : SignalIdentity → String

/-- The arithmetic of finite floats.  `round(value, 12)` keeps zero and one. -/
structure FloatArith where
  add : ℚ → ℚ → ℚ
  mul : ℚ → ℚ → ℚ
  round12 : ℚ → ℚ
  totalSeconds : Int → ℚ
  formatG : ℚ → String
  round12_zero : round12 0 = 0
  round12_one : round12 1 = 1

/-- `tuple(sorted(set(ids)))`. -/
def sortedIds (ids : List String) : List String := ids.dedup.insertionSort (· ≤ ·)

@[simp] theorem mem_sortedIds {ids : List String} {id : String} : id ∈ sortedIds ids ↔ id ∈ ids := by
  rw [sortedIds, List.mem_insertionSort, List.mem_dedup]

/-- `build_signal`.  The constructor of `Signal` raises on an empty window, and on a
confidence that rounding took out of the unit interval. -/
def buildSignal (b : Builtins) (floats : FloatArith) (ids : AutonomicIds) (rule : AutonomicRule)
    (epoch : EvaluationEpoch) (event : Event) (activationScore : ℚ)
    (evidenceEventIds : List String) : Except PyError Signal := do
  let template := rule.output
  let subject := match template.subject with
    | none | some "" => event.subjectOrId
    | some subject => subject
  let signalId := ids.signal
    { epochId := epoch.epochId, ruleRef := rule.ref, triggerEventId := event.id, evidenceEventIds,
      kind := template.kind, subject }
  let confidence := floats.round12 (floats.mul template.confidence activationScore)
  let validUntil ← b.addSeconds event.timestamp (.finite template.ttlSeconds)
  if hvalid : event.timestamp.instant < validUntil.instant then
    if hconfidence : 0 ≤ confidence ∧ confidence ≤ 1 then
      return {
        signalId := "signal:" ++ signalId, kind := template.kind, subject, confidence
        salience := template.salience, urgency := template.urgency
        expectedValue := template.expectedValue, validFrom := event.timestamp, validUntil
        evidenceEventIds, ruleRef := rule.ref, evaluationEpochId := epoch.epochId
        precedence := rule.precedence, role := template.role
        suggestedDisposition := template.suggestedDisposition, valid := hvalid
        confidence_unit := hconfidence, salience_unit := template.salience_unit
        urgency_unit := template.urgency_unit
        expectedValue_nonneg := template.expectedValue_nonneg }
    else .error (.valueError "signal confidence must be between zero and one")
  else .error (.valueError "signal validity window must be positive")

end Noema
