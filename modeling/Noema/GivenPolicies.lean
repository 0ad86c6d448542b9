import Noema.GivenRecords

/-!
# Budgets and policies as their constructors get them

These constructors compare the id with the digest of the content, so that what they accept
has the id that `create` gives it.  The reader of a reconsideration policy makes the policy
again, with the allocator of this version and the foreground event types in order.
-/
namespace Noema.Given

/-! ## Endogenous cognition -/

/-- `CognitiveResourceVector`. -/
structure CognitiveResourceVector where
  activities : PyNumber
  computeUnits : PyNumber
  wallTimeSeconds : PyNumber
  attentionUnits : PyNumber
  privacyRiskUnits : PyNumber

namespace CognitiveResourceVector

variable (b : ContentBuiltins)

def check (resources : CognitiveResourceVector) : Except PyError Unit := do
  refuse (resources.activities.real.less (.finite 0) = true)
    "cognitive activity count cannot be negative"
  resources.computeUnits.requireNonNegative b "compute units"
  resources.wallTimeSeconds.requireNonNegative b "wall-time seconds"
  resources.attentionUnits.requireNonNegative b "attention units"
  resources.privacyRiskUnits.requireNonNegative b "privacy/risk units"

def fields (resources : CognitiveResourceVector) : List (String × JSONValue) :=
  [("activities", resources.activities.toJson),
   ("compute_units", resources.computeUnits.toJson),
   ("wall_time_seconds", resources.wallTimeSeconds.toJson),
   ("attention_units", resources.attentionUnits.toJson),
   ("privacy_risk_units", resources.privacyRiskUnits.toJson)]

def toDict (resources : CognitiveResourceVector) : Payload := .ofList resources.fields

def fromDict (data : Payload) : Except PyError CognitiveResourceVector := do
  let activities ← countOrZero b data "activities"
  let computeUnits ← numberOrZero b data "compute_units"
  let wallTimeSeconds ← numberOrZero b data "wall_time_seconds"
  let attentionUnits ← numberOrZero b data "attention_units"
  let privacyRiskUnits ← numberOrZero b data "privacy_risk_units"
  constructed (check b)
    { activities, computeUnits, wallTimeSeconds, attentionUnits, privacyRiskUnits }

end CognitiveResourceVector

/-- `BackgroundCognitiveBudget`. -/
structure BackgroundCognitiveBudget where
  budgetId : String
  ceiling : CognitiveResourceVector

namespace BackgroundCognitiveBudget

variable (b : ContentBuiltins)

def identity (ceiling : CognitiveResourceVector) : List (String × JSONValue) :=
  [("ceiling", ceiling.toDict.value)]

def check (budget : BackgroundCognitiveBudget) : Except PyError Unit := do
  requireText budget.budgetId "background cognitive budget id"
  refuse (budget.ceiling.activities.real.atMost (.finite 0) = true)
    "background cognitive budget must permit at least one activity"
  let expectedId ← b.contentId "cognitive-budget" (.ofList (identity budget.ceiling))
  refuse (budget.budgetId ≠ expectedId) "background cognitive budget id does not match its ceiling"

def create (ceiling : CognitiveResourceVector) : Except PyError BackgroundCognitiveBudget := do
  let budgetId ← b.contentId "cognitive-budget" (.ofList (identity ceiling))
  constructed (check b) { budgetId, ceiling }

def toDict (budget : BackgroundCognitiveBudget) : Payload :=
  .ofList (("budget_id", .str budget.budgetId) :: identity budget.ceiling)

def fromDict (data : Payload) : Except PyError BackgroundCognitiveBudget := do
  let budgetId ← itemText b.toBuiltins data "budget_id"
  let ceiling ← CognitiveResourceVector.fromDict b (← itemMapping data "ceiling")
  constructed (check b) { budgetId, ceiling }

end BackgroundCognitiveBudget

/-- What the id of an endogenous policy is made of. -/
structure EndogenousPolicyContent where
  version : String
  selectorId : String
  selectorVersion : PyNumber
  computeCostWeight : PyNumber
  delayCostWeight : PyNumber
  attentionCostWeight : PyNumber
  opportunityCostWeight : PyNumber
  privacyRiskCostWeight : PyNumber
  minimumNetVoc : PyNumber

/-- `EndogenousPolicySnapshot`. -/
structure EndogenousPolicySnapshot extends EndogenousPolicyContent where
  policyId : String

namespace EndogenousPolicySnapshot

variable (b : ContentBuiltins)

def identity (content : EndogenousPolicyContent) : List (String × JSONValue) :=
  [("version", .str content.version),
   ("selector_id", .str content.selectorId),
   ("selector_version", content.selectorVersion.toJson),
   ("compute_cost_weight", content.computeCostWeight.toJson),
   ("delay_cost_weight", content.delayCostWeight.toJson),
   ("attention_cost_weight", content.attentionCostWeight.toJson),
   ("opportunity_cost_weight", content.opportunityCostWeight.toJson),
   ("privacy_risk_cost_weight", content.privacyRiskCostWeight.toJson),
   ("minimum_net_voc", content.minimumNetVoc.toJson)]

def check (policy : EndogenousPolicySnapshot) : Except PyError Unit := do
  requireText policy.policyId "endogenous policy id"
  requireText policy.version "endogenous policy version"
  requireText policy.selectorId "endogenous agenda selector id"
  refuse (policy.selectorVersion.real.atMost (.finite 0) = true)
    "endogenous agenda selector version must be positive"
  policy.computeCostWeight.requireNonNegative b "compute cost weight"
  policy.delayCostWeight.requireNonNegative b "delay cost weight"
  policy.attentionCostWeight.requireNonNegative b "attention cost weight"
  policy.opportunityCostWeight.requireNonNegative b "opportunity cost weight"
  policy.privacyRiskCostWeight.requireNonNegative b "privacy/risk cost weight"
  policy.minimumNetVoc.requireNonNegative b "minimum NetVOC"
  let expectedId ← b.contentId "endogenous-policy" (.ofList (identity policy.toEndogenousPolicyContent))
  refuse (policy.policyId ≠ expectedId)
    "endogenous policy id does not match its immutable weights"

def create (content : EndogenousPolicyContent) : Except PyError EndogenousPolicySnapshot := do
  let policyId ← b.contentId "endogenous-policy" (.ofList (identity content))
  constructed (check b) ⟨content, policyId⟩

def toDict (policy : EndogenousPolicySnapshot) : Payload :=
  .ofList (("policy_id", .str policy.policyId) :: identity policy.toEndogenousPolicyContent)

def fromDict (data : Payload) : Except PyError EndogenousPolicySnapshot := do
  let policyId ← itemText b.toBuiltins data "policy_id"
  let version ← itemText b.toBuiltins data "version"
  let selectorId ← itemText b.toBuiltins data "selector_id"
  let selectorVersion ← itemCount b data "selector_version"
  let computeCostWeight ← itemNumber b data "compute_cost_weight"
  let delayCostWeight ← itemNumber b data "delay_cost_weight"
  let attentionCostWeight ← itemNumber b data "attention_cost_weight"
  let opportunityCostWeight ← itemNumber b data "opportunity_cost_weight"
  let privacyRiskCostWeight ← itemNumber b data "privacy_risk_cost_weight"
  let minimumNetVoc ← numberOrZero b data "minimum_net_voc"
  constructed (check b)
    { policyId, version, selectorId, selectorVersion, computeCostWeight, delayCostWeight,
      attentionCostWeight, opportunityCostWeight, privacyRiskCostWeight, minimumNetVoc }

end EndogenousPolicySnapshot

/-! ## Scarce cognition -/

/-- `ScarceCognitionCostSnapshot`. -/
structure ScarceCognitionCostSnapshot where
  computeUnits : PyNumber
  wallTimeSeconds : PyNumber
  monetaryCost : PyNumber
  attentionUnits : PyNumber
  contextSwitchingUnits : PyNumber
  intrusionUnits : PyNumber
  interruptionUnits : PyNumber
  privacyExposureUnits : PyNumber
  opportunityCostUnits : PyNumber
  revalidationUnits : PyNumber

namespace ScarceCognitionCostSnapshot

variable (b : ContentBuiltins)

def check (costs : ScarceCognitionCostSnapshot) : Except PyError Unit := do
  costs.computeUnits.requireNonNegative b "compute units"
  costs.wallTimeSeconds.requireNonNegative b "wall time"
  costs.monetaryCost.requireNonNegative b "monetary cost"
  costs.attentionUnits.requireNonNegative b "attention units"
  costs.contextSwitchingUnits.requireNonNegative b "context switching cost"
  costs.intrusionUnits.requireNonNegative b "intrusion cost"
  costs.interruptionUnits.requireNonNegative b "interruption units"
  costs.privacyExposureUnits.requireNonNegative b "privacy exposure"
  costs.opportunityCostUnits.requireNonNegative b "opportunity cost"
  costs.revalidationUnits.requireNonNegative b "revalidation cost"

def fields (costs : ScarceCognitionCostSnapshot) : List (String × JSONValue) :=
  [("compute_units", costs.computeUnits.toJson),
   ("wall_time_seconds", costs.wallTimeSeconds.toJson),
   ("monetary_cost", costs.monetaryCost.toJson),
   ("attention_units", costs.attentionUnits.toJson),
   ("context_switching_units", costs.contextSwitchingUnits.toJson),
   ("intrusion_units", costs.intrusionUnits.toJson),
   ("interruption_units", costs.interruptionUnits.toJson),
   ("privacy_exposure_units", costs.privacyExposureUnits.toJson),
   ("opportunity_cost_units", costs.opportunityCostUnits.toJson),
   ("revalidation_units", costs.revalidationUnits.toJson)]

def toDict (costs : ScarceCognitionCostSnapshot) : Payload := .ofList costs.fields

def fromDict (data : Payload) : Except PyError ScarceCognitionCostSnapshot := do
  let computeUnits ← numberOrZero b data "compute_units"
  let wallTimeSeconds ← numberOrZero b data "wall_time_seconds"
  let monetaryCost ← numberOrZero b data "monetary_cost"
  let attentionUnits ← numberOrZero b data "attention_units"
  let contextSwitchingUnits ← numberOrZero b data "context_switching_units"
  let intrusionUnits ← numberOrZero b data "intrusion_units"
  let interruptionUnits ← numberOrZero b data "interruption_units"
  let privacyExposureUnits ← numberOrZero b data "privacy_exposure_units"
  let opportunityCostUnits ← numberOrZero b data "opportunity_cost_units"
  let revalidationUnits ← numberOrZero b data "revalidation_units"
  constructed (check b)
    { computeUnits, wallTimeSeconds, monetaryCost, attentionUnits, contextSwitchingUnits,
      intrusionUnits, interruptionUnits, privacyExposureUnits, opportunityCostUnits,
      revalidationUnits }

end ScarceCognitionCostSnapshot

/-- What the id of a scarce cognition budget is made of. -/
structure ScarceBudgetContent where
  maxCandidates : PyNumber
  ceiling : ScarceCognitionCostSnapshot

/-- `ScarceCognitionBudget`. -/
structure ScarceCognitionBudget extends ScarceBudgetContent where
  budgetId : String

namespace ScarceCognitionBudget

variable (b : ContentBuiltins)

def identity (content : ScarceBudgetContent) : List (String × JSONValue) :=
  [("max_candidates", content.maxCandidates.toJson), ("ceiling", content.ceiling.toDict.value)]

def check (budget : ScarceCognitionBudget) : Except PyError Unit := do
  requireText budget.budgetId "scarce cognition budget id"
  refuse (budget.maxCandidates.real.atMost (.finite 0) = true)
    "scarce cognition budget must permit at least one candidate"
  let expectedId ← b.contentId "scarce-cognition-budget"
    (.ofList (identity budget.toScarceBudgetContent))
  refuse (budget.budgetId ≠ expectedId) "scarce cognition budget id does not match its ceiling"

def create (content : ScarceBudgetContent) : Except PyError ScarceCognitionBudget := do
  let budgetId ← b.contentId "scarce-cognition-budget" (.ofList (identity content))
  constructed (check b) ⟨content, budgetId⟩

def toDict (budget : ScarceCognitionBudget) : Payload :=
  .ofList (("budget_id", .str budget.budgetId) :: identity budget.toScarceBudgetContent)

def fromDict (data : Payload) : Except PyError ScarceCognitionBudget := do
  let budgetId ← itemText b.toBuiltins data "budget_id"
  let maxCandidates ← itemCount b data "max_candidates"
  let ceiling ← ScarceCognitionCostSnapshot.fromDict b (← itemMapping data "ceiling")
  constructed (check b) { budgetId, maxCandidates, ceiling }

end ScarceCognitionBudget

/-! ## Reconsideration policies -/

/-- The fields of `feature_weights`. -/
def featureNames : List String :=
  ["unresolvedness", "evidence_freshness", "meaningful_new_evidence", "opportunity_window",
   "current_basis_validity", "value_alignment_estimate", "expected_outcome_value",
   "motivation_estimate"]

/-- `ScarceCognitionCostSnapshot.__dataclass_fields__`. -/
def costNames : List String :=
  ["compute_units", "wall_time_seconds", "monetary_cost", "attention_units",
   "context_switching_units", "intrusion_units", "interruption_units", "privacy_exposure_units",
   "opportunity_cost_units", "revalidation_units"]

/-- Weights by name: `Mapping[str, float]`. -/
abbrev Weights := Dict PyNumber

namespace Weights

variable (b : ContentBuiltins)

/-- `dict(weights)`. -/
def toDict (weights : Weights) : Payload where
  rows := weights.rows.map fun row => (row.1, row.2.toJson)
  unique := by
    rw [List.map_map]
    exact weights.unique

/-- `{key: float(value) for key, value in data.items()}`. -/
def fromDict (data : Payload) : Except PyError Weights := do
  let rows ← data.rows.mapM fun row => do
    return (row.1, PyNumber.float (← b.float row.2))
  return .ofList rows

/-- `weights or default`. -/
def orDefault (weights default : Weights) : Weights :=
  if weights.rows = [] then default else weights

/-- `set(weights) != names`, refused. -/
def requireNames (weights : Weights) (names : List String) (message : String) :
    Except PyError Unit :=
  refuse (¬ ((∀ row ∈ weights.rows, row.1 ∈ names) ∧ ∀ name ∈ names, name ∈ weights.rows.map entryKey))
    message

end Weights

/-- The feature weights that `create` takes if it is given none. -/
def defaultFeatureWeights : Weights :=
  .ofList
    [("unresolvedness", .float (.finite 1)), ("evidence_freshness", .float (.finite (1 / 2))),
     ("meaningful_new_evidence", .float (.finite 1)),
     ("opportunity_window", .float (.finite (1 / 2))),
     ("current_basis_validity", .float (.finite 1)),
     ("value_alignment_estimate", .float (.finite 1)),
     ("expected_outcome_value", .float (.finite 1)),
     ("motivation_estimate", .float (.finite (1 / 2)))]

/-- The cost weights that `create` takes if it is given none. -/
def defaultCostWeights : Weights :=
  .ofList (costNames.map fun name =>
    (name, .float (if name = "wall_time_seconds" then .ofRat (1 / 100) else .finite 1)))

/-- What the id of a reconsideration policy is made of. -/
structure ReconsiderationPolicyContent where
  version : String
  allocatorId : String
  allocatorVersion : PyNumber
  featureWeights : Weights
  costWeights : Weights
  minimumNetVoc : PyNumber
  foregroundEventTypes : List String

/-- `ReconsiderationPolicySnapshot`. -/
structure ReconsiderationPolicySnapshot extends ReconsiderationPolicyContent where
  policyId : String

namespace ReconsiderationPolicySnapshot

variable (b : ContentBuiltins)

/-- `STABLE_RECONSIDERATION_ALLOCATOR_ID`. -/
def stableAllocatorId : String := "stable-greedy-reconsideration"

/-- `STABLE_RECONSIDERATION_ALLOCATOR_VERSION`. -/
def stableAllocatorVersion : PyNumber := .int 1

def identity (content : ReconsiderationPolicyContent) : List (String × JSONValue) :=
  [("version", .str content.version),
   ("allocator_id", .str content.allocatorId),
   ("allocator_version", content.allocatorVersion.toJson),
   ("feature_weights", content.featureWeights.toDict.value),
   ("cost_weights", content.costWeights.toDict.value),
   ("minimum_net_voc", content.minimumNetVoc.toJson),
   ("foreground_event_types", .texts content.foregroundEventTypes)]

def check (policy : ReconsiderationPolicySnapshot) : Except PyError Unit := do
  requireText policy.policyId "reconsideration policy id"
  requireText policy.version "reconsideration policy version"
  requireText policy.allocatorId "reconsideration allocator id"
  refuse (policy.allocatorVersion.real.atMost (.finite 0) = true)
    "reconsideration allocator version must be positive"
  policy.featureWeights.requireNames featureNames "reconsideration feature weights are incomplete"
  policy.costWeights.requireNames costNames "reconsideration cost weights are incomplete"
  (policy.featureWeights.rows ++ policy.costWeights.rows).forM fun row =>
    row.2.requireNonNegative b "reconsideration policy weight"
  policy.minimumNetVoc.requireNonNegative b "minimum reconsideration NetVOC"
  requireUnique policy.foregroundEventTypes "foreground event types" true
  let expectedId ← b.contentId "reconsideration-policy"
    (.ofList (identity policy.toReconsiderationPolicyContent))
  refuse (policy.policyId ≠ expectedId) "reconsideration policy identity is inconsistent"

/-- `create`, which takes no allocator. -/
def create (version : String) (featureWeights costWeights : Weights) (minimumNetVoc : PyNumber)
    (foregroundEventTypes : List String) : Except PyError ReconsiderationPolicySnapshot := do
  let content : ReconsiderationPolicyContent :=
    { version, allocatorId := stableAllocatorId, allocatorVersion := stableAllocatorVersion
      featureWeights := featureWeights.orDefault defaultFeatureWeights
      costWeights := costWeights.orDefault defaultCostWeights
      minimumNetVoc, foregroundEventTypes := ordered foregroundEventTypes }
  let policyId ← b.contentId "reconsideration-policy" (.ofList (identity content))
  constructed (check b) ⟨content, policyId⟩

def toDict (policy : ReconsiderationPolicySnapshot) : Payload :=
  .ofList (("policy_id", .str policy.policyId) :: identity policy.toReconsiderationPolicyContent)

def fromDict (data : Payload) : Except PyError ReconsiderationPolicySnapshot := do
  let version ← itemText b.toBuiltins data "version"
  let featureWeights ← Weights.fromDict b (← itemMapping data "feature_weights")
  let costWeights ← Weights.fromDict b (← itemMapping data "cost_weights")
  let minimumNetVoc ← itemNumber b data "minimum_net_voc"
  let foregroundEventTypes ← strings b.toIntentBuiltins data "foreground_event_types"
  let value ← create b version featureWeights costWeights minimumNetVoc foregroundEventTypes
  let policyId ← itemText b.toBuiltins data "policy_id"
  refuse (value.policyId ≠ policyId)
    "reconsideration policy id does not match immutable content"
  return value

end ReconsiderationPolicySnapshot

end Noema.Given
