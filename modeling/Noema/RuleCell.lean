import Mathlib.Algebra.Order.Ring.Unbundled.Rat
import Noema.AutonomicModels

/-!
# Rule cells

A cell evaluates the rules of an epoch on one event, a snapshot of the situation and
the history up to the event.  `snapshot` leaves out the facts that have expired when it
is taken: it is the one place on the way that reads a clock.  `replay` projects a
history and evaluates each of its events; `evaluateOn` is what the shadow worker does
with one event and the history that ends with it.  Clocks and meters are arguments: one
reading for each event, one cost for each rule.
-/
namespace Noema

/-! ## Snapshots -/

/-- `apply` of a model without registered projectors. -/
def Situation.applied (b : Builtins) (s : Situation) (event : Event) : Except PyError Situation := do
  let (tables, _) ← applyBuiltin b s.tables event
  return ⟨tables, nextVersion s.version event, event.timestamp⟩

/-- It is the `apply` of every configuration. -/
theorem Situation.applied_apply {cfg : Config} (h : cfg.projectors = []) (s : Situation)
    (event : Event) : cfg.apply s event =
      match s.applied cfg.builtins event with
      | .ok s' => (s', none)
      | .error error => (s, some error) := by
  unfold Config.apply Situation.applied
  cases applyBuiltin cfg.builtins s.tables event with
  | error error => rfl
  | ok changed =>
    simp only [h, runProjectors]
    rfl

/-- `fact.expires_at is None or fact.expires_at > now`. -/
def Fact.alive (now : Datetime) (fact : Fact) : Bool :=
  match fact.expiresAt with
  | none => true
  | some expiresAt => now.instant < expiresAt.instant

/-- `snapshot`, at the reading `now`. -/
def Situation.snapshot (s : Situation) (now : Datetime) : Situation :=
  { s with tables := { s.tables with facts := s.tables.facts.restrict (Fact.alive now) } }

/-! ## Clauses -/

/-- A number as Python compares it; booleans are numbers too. -/
def JSONValue.numeric : JSONValue → Option ℚ
  | bool value => some (if value then 1 else 0)
  | int value => some value
  | float (.finite value) => some value
  | _ => none

def Literal.numeric : Literal → Option ℚ
  | bool value => some (if value then 1 else 0)
  | int value => some value
  | float value => some value
  | _ => none

/-- `actual == expected`. -/
def Literal.equals (expected : Literal) (actual : JSONValue) : Bool :=
  match expected, actual with
  | .null, .null => true
  | .str expected, .str actual => actual = expected
  | expected, actual =>
    match expected.numeric, actual.numeric with
    | some expected, some actual => actual = expected
    | _, _ => false

/-- `actual < expected` and `actual > expected` for two numbers that are not booleans. -/
def PyFloat.below (actual : PyFloat) (expected : ℚ) : Bool :=
  match actual with
  | .finite value => value < expected
  | .infinity negative => negative
  | .nan => false

def PyFloat.above (actual : PyFloat) (expected : ℚ) : Bool :=
  match actual with
  | .finite value => expected < value
  | .infinity negative => !negative
  | .nan => false

/-- `isinstance(value, Real)`, and not a boolean. -/
def JSONValue.real : JSONValue → Option PyFloat
  | int value => some (.finite value)
  | float value => some value
  | _ => none

def Literal.real : Literal → Option ℚ
  | int value => some value
  | float value => some value
  | _ => none

namespace RuleCell

/-- `_compare`. -/
def compare (actual : JSONValue) (operator : ComparisonOperator) (expected : Literal) : Bool :=
  match operator with
  | .equals => expected.equals actual
  | .notEquals => !expected.equals actual
  | .contains =>
    match actual with
    | .str actual =>
      match expected with
      | .str expected => actual.toList.tails.any fun rest => expected.toList.isPrefixOf rest
      | _ => false
    | .list items => items.any expected.equals
    | .obj fields =>
      match expected with
      | .str expected => fields.any fun field => field.1 = expected
      | _ => false
    | _ => false
  | operator =>
    match actual.real, expected.real with
    | some actual, some expected =>
      match operator with
      | .greaterThan => actual.above expected
      | .greaterOrEqual => actual.above expected || actual = .finite expected
      | .lessThan => actual.below expected
      | .lessOrEqual => actual.below expected || actual = .finite expected
      | _ => false
    | _, _ => false

/-- The value a path of keys leads to; `None` where there is none. -/
def walk : JSONValue → List String → JSONValue
  | value, [] => value
  | .obj fields, part :: path =>
    match Dict.get? (.ofList fields) part with
    | some value => walk value path
    | none => .null
  | _, _ :: _ => .null

/-- `_event_value`. -/
def eventValue (event : Event) (key : String) : JSONValue :=
  if key = "type" then .str event.type
  else if key = "subject" then
    match event.subject with
    | some subject => .str subject
    | none => .null
  else
    let chars := key.toList
    let path := if "payload.".toList.isPrefixOf chars then chars.drop 8 else chars
    walk (.obj event.payload.rows) ((path.splitOn '.').map String.ofList)

/-- What a clause says of a situation: its text, whether it holds, and its evidence. -/
structure ClauseResult where
  description : String
  holds : Bool
  evidence : List String
deriving DecidableEq

/-- The fact a clause names. -/
def factOf (clause : PredicateClause) (situation : Situation) : Option Fact :=
  match clause.ref.source with
  | .fact => situation.tables.facts.find clause.ref.key
  | .event => none

/-- `_evaluate_clause`. -/
def evaluateClause (clause : PredicateClause) (event : Event) (situation : Situation) : ClauseResult :=
  let fact := factOf clause situation
  let actual := match clause.ref.source with
    | .fact => (fact.map Fact.value).getD .null
    | .event => eventValue event clause.ref.key
  { description := s!"{clause.ref.source.value}.{clause.ref.key} {clause.operator.value}"
    holds := compare actual clause.operator clause.value
    evidence := sortedIds (event.id :: (fact.bind Fact.evidenceEventId).toList) }

/-! ## Rules -/

structure EvaluationResult where
  score : ℚ
  matched : List String
  failed : List String
  evidence : List String
deriving DecidableEq

/-- The descriptions of the clauses that hold, of those that fail, and the evidence of all. -/
def evaluateClauses (clauses : List PredicateClause) (event : Event) (situation : Situation) :
    List String × List String × List String :=
  let results := clauses.map fun clause => evaluateClause clause event situation
  ((results.filter (·.holds)).map (·.description), (results.filter (!·.holds)).map (·.description),
    sortedIds (event.id :: results.flatMap (·.evidence)))

/-- `_evaluate_predicate`. -/
def evaluatePredicate (spec : PredicateSpec) (event : Event) (situation : Situation) : EvaluationResult :=
  let (matched, failed, evidence) := evaluateClauses spec.allOf event situation
  { score := if failed = [] then 1 else 0, matched, failed, evidence }

/-- `_evaluate_scoring`. -/
def evaluateScoring (floats : FloatArith) (spec : ScoringSpec) (event : Event) (situation : Situation) :
    EvaluationResult :=
  let results := spec.features.map fun feature =>
    (feature, evaluateClause feature.condition event situation)
  let describe := fun result : ScoringFeature × ClauseResult =>
    s!"{result.1.name}:{result.2.description}"
  { score := (results.filter (·.2.holds)).foldl (fun score result =>
      floats.add score result.1.weight) spec.bias
    matched := (results.filter (·.2.holds)).map describe
    failed := (results.filter (!·.2.holds)).map describe
    evidence := sortedIds (event.id :: results.flatMap (·.2.evidence)) }

/-- `_evaluate_temporal`.  The anchor is the last one in the history. -/
def evaluateTemporal (floats : FloatArith) (spec : TemporalSpec) (event : Event)
    (situation : Situation) (history : List Event) : EvaluationResult :=
  let (matched, failed, conditionEvidence) := evaluateClauses spec.currentConditions event situation
  let relevant := history.zipIdx.filter fun (item, _) =>
    item.timestamp.instant ≤ event.timestamp.instant &&
      (!spec.sameSubject || item.subject = event.subject)
  match (relevant.filter fun (item, _) => item.type = spec.anchorEventType).getLast? with
  | none =>
    { score := 0, matched, failed := failed ++ [s!"missing anchor:{spec.anchorEventType}"]
      evidence := sortedIds (event.id :: conditionEvidence) }
  | some (anchor, anchorIndex) =>
    let latestReset := ((relevant.filter fun (item, index) =>
      anchorIndex < index && item.type ∈ spec.resetEventTypes).map (·.1)).getLast?
    let elapsed := floats.totalSeconds (event.timestamp.instant - anchor.timestamp.instant)
    let elapsedDescription := "elapsed_seconds>=" ++ floats.formatG spec.minElapsedSeconds
    let late := spec.minElapsedSeconds ≤ elapsed
    let matched := matched ++ (if latestReset = none then ["no reset after anchor"] else []) ++
      (if late then [elapsedDescription] else [])
    let failed := failed ++ latestReset.toList.map (fun reset => s!"reset:{reset.type}") ++
      (if late then [] else [elapsedDescription])
    { score := if failed = [] then 1 else 0, matched, failed
      evidence := sortedIds
        (event.id :: conditionEvidence ++ anchor.id :: latestReset.toList.map Event.id) }

/-- `_evaluate_rule`. -/
def evaluateRule (floats : FloatArith) (rule : AutonomicRule) (event : Event) (situation : Situation)
    (history : List Event) : EvaluationResult :=
  match rule.spec with
  | .predicate spec => evaluatePredicate spec event situation
  | .scoring spec => evaluateScoring floats spec event situation
  | .temporal spec => evaluateTemporal floats spec event situation history

/-- `min(1.0, max(0.0, score))`. -/
def clamp (score : ℚ) : ℚ := min 1 (max 0 score)

end RuleCell

/-! ## Cells -/

/-- `RuleCell`. -/
structure RuleCell where
  cellId : String
  subscriptions : List String
  cellId_ne : cellId ≠ ""
  subscriptions_ne : subscriptions ≠ [] ∧ "" ∉ subscriptions

namespace RuleCell

variable (b : Builtins) (floats : FloatArith) (ids : AutonomicIds)

def accepts (cell : RuleCell) (event : Event) : Bool :=
  cell.subscriptions.any fun pattern => Glob.fnmatchcase event.type pattern

/-- The signal of a rule that is activated. -/
def wouldEmit (epoch : EvaluationEpoch) (event : Event) (rule : AutonomicRule) (score : ℚ)
    (evidence : List String) : Except PyError (Option Signal) :=
  if rule.threshold ≤ score then some <$> buildSignal b floats ids rule epoch event score evidence
  else .ok none

/-- The trace of one rule's result. -/
def traceOf (cell : RuleCell) (epoch : EvaluationEpoch) (event : Event) (rule : AutonomicRule)
    (result : EvaluationResult) (cost : Nat) : Except PyError RuleEvaluationTrace := do
  let score := floats.round12 (clamp result.score)
  let signal ← wouldEmit b floats ids epoch event rule score result.evidence
  let traceId := ids.trace
    { cellId := cell.cellId, epochId := epoch.epochId, ruleRef := rule.ref, eventId := event.id }
  return { traceId := "rule-trace:" ++ traceId, ruleId := rule.ruleId, version := rule.version
           epochId := epoch.epochId, evaluatedAt := event.timestamp, candidate := true
           activated := rule.threshold ≤ score, activationScore := score, threshold := rule.threshold
           matchedConditions := result.matched, failedConditions := result.failed
           evidenceRefs := result.evidence, signalWouldEmit := signal, suppressedBy := []
           runtimeCostUs := cost }

/-- `evaluate`. -/
def evaluate (cell : RuleCell) (epoch : EvaluationEpoch) (event : Event) (situation : Situation)
    (history : List Event) (cost : AutonomicRule → Nat) : Except PyError (List RuleEvaluationTrace) :=
  if !cell.accepts event || event.sequence.any (· ≤ epoch.eventLogCursor) then .ok []
  else
    (epoch.ruleset.rules.filter fun rule => Glob.fnmatchcase event.type rule.trigger).mapM fun rule =>
      cell.traceOf b floats ids epoch event rule
        (evaluateRule floats rule event situation history) (cost rule)

/-- `event.sequence or epoch.event_log_cursor + index`. -/
def logicalSequence (epoch : EvaluationEpoch) (index : Nat) (event : Event) : Nat :=
  match event.sequence with
  | none | some 0 => epoch.eventLogCursor + index
  | some sequence => sequence

/-- The traces of one event of `replay`, after it was applied. -/
def replayStep (cell : RuleCell) (epoch : EvaluationEpoch) (now : Datetime)
    (cost : AutonomicRule → Nat) (index : Nat) (situation : Situation) (history : List Event)
    (event : Event) : Except PyError (List RuleEvaluationTrace) :=
  if logicalSequence epoch index event ≤ epoch.eventLogCursor then .ok []
  else cell.evaluate b floats ids epoch event (situation.snapshot now) history cost

/-- The loop of `replay`, from its `index`-th event. -/
def replayFrom (cell : RuleCell) (epoch : EvaluationEpoch) (clock : Nat → Datetime)
    (cost : Nat → AutonomicRule → Nat) :
    Nat → Situation → List Event → List Event → Except PyError (List RuleEvaluationTrace)
  | _, _, _, [] => .ok []
  | index, situation, history, event :: events => do
    let situation ← situation.applied b event
    let history := history ++ [event]
    let traces ← cell.replayStep b floats ids epoch (clock index) (cost index) index situation history
      event
    let others ← replayFrom cell epoch clock cost (index + 1) situation history events
    return traces ++ others

/-- `replay`.  The model is built at the first reading, and each event's snapshot is
taken at one of its own. -/
def replay (cell : RuleCell) (epoch : EvaluationEpoch) (clock : Nat → Datetime)
    (cost : Nat → AutonomicRule → Nat) (events : List Event) :
    Except PyError (List RuleEvaluationTrace) :=
  cell.replayFrom b floats ids epoch clock cost 1 (.cleared (clock 0)) [] events

/-- The situation that a history leaves. -/
def situationOf (now : Datetime) (history : List Event) : Except PyError Situation :=
  history.foldlM (Situation.applied b) (.cleared now)

/-- The shadow worker's evaluation of an event on the history that it ends. -/
def evaluateOn (cell : RuleCell) (epoch : EvaluationEpoch) (now : Datetime)
    (cost : AutonomicRule → Nat) (past : List Event) (event : Event) :
    Except PyError (List RuleEvaluationTrace) := do
  let situation ← situationOf b now (past ++ [event])
  cell.evaluate b floats ids epoch event (situation.snapshot now) (past ++ [event]) cost

end RuleCell

end Noema
