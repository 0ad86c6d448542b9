import Mathlib.Data.List.Dedup
import Noema.IntentModels

/-!
# Sources, demands, coverage and refresh plans

The contracts of a wake: what is known of the sources, which of them a decision demands and
how fresh, the coverage that follows, and the plan of refreshes.  Numbers are rational.
-/
namespace Noema

namespace Continuity

theorem one_unit : (0 : ℚ) ≤ 1 ∧ (1 : ℚ) ≤ 1 := by decide

theorem one_unit_pos : (0 : ℚ) < 1 ∧ (1 : ℚ) ≤ 1 := by decide

/-- `SourceState`. -/
structure SourceState where
  sourceId : String
  domain : String
  lastObservedAt : Datetime
  lastCursor : Option String
  changeHazard : ℚ
  confidence : ℚ
  refreshCost : ℚ
  capturedAt : Datetime
  texts : blank sourceId = false ∧ blank domain = false
  captured : lastObservedAt.instant ≤ capturedAt.instant
  cursor : ∀ cursor ∈ lastCursor, blank cursor = false
  changeHazard_nonneg : 0 ≤ changeHazard
  confidence_unit : 0 ≤ confidence ∧ confidence ≤ 1
  refreshCost_nonneg : 0 ≤ refreshCost

/-- `AwarenessDemand`. -/
structure AwarenessDemand where
  sourceId : String
  governingGoalRefs : List String
  relevance : ℚ
  decisionSensitivity : ℚ
  requiredFreshness : ℚ
  requiredConfidence : ℚ
  text : blank sourceId = false
  refs : ∀ ref ∈ governingGoalRefs, blank ref = false
  refs_unique : governingGoalRefs.Nodup
  relevance_unit : 0 ≤ relevance ∧ relevance ≤ 1
  decisionSensitivity_unit : 0 ≤ decisionSensitivity ∧ decisionSensitivity ≤ 1
  requiredFreshness_unit : 0 < requiredFreshness ∧ requiredFreshness ≤ 1
  requiredConfidence_unit : 0 < requiredConfidence ∧ requiredConfidence ≤ 1

/-- `importance`. -/
def AwarenessDemand.importance (demand : AwarenessDemand) : ℚ :=
  demand.relevance * demand.decisionSensitivity

/-- `ObservationBudget`. -/
structure ObservationBudget where
  maxCost : ℚ
  maxSources : Int
  maxCost_nonneg : 0 ≤ maxCost
  maxSources_nonneg : 0 ≤ maxSources

/-! ## Coverage -/

/-- The fields of a `CoverageEntry`. -/
structure CoverageContent where
  sourceId : String
  domain : String
  governingGoalRefs : List String
  confidence : ℚ
  freshness : ℚ
  relevance : ℚ
  decisionSensitivity : ℚ
  requiredFreshness : ℚ
  requiredConfidence : ℚ

namespace CoverageContent

variable (content : CoverageContent)

/-- `CoverageEntry.__post_init__`. -/
def check : Except PyError Unit := do
  refuse (blank content.sourceId = true ∨ blank content.domain = true)
    "coverage source id and domain must be non-empty"
  refuse (∃ ref ∈ content.governingGoalRefs, blank ref = true)
    "coverage goal refs must be non-empty"
  refuse (¬content.governingGoalRefs.Nodup) "coverage goal refs must be unique"
  requireBounded (.finite content.confidence) "confidence"
  requireBounded (.finite content.freshness) "freshness"
  requireBounded (.finite content.relevance) "relevance"
  requireBounded (.finite content.decisionSensitivity) "decision_sensitivity"
  requireBounded (.finite content.requiredFreshness) "required_freshness"
  requireBounded (.finite content.requiredConfidence) "required_confidence"
  refuse (content.requiredFreshness = 0 ∨ content.requiredConfidence = 0)
    "coverage requirements must be greater than zero"

/-- `importance`. -/
def importance : ℚ := content.relevance * content.decisionSensitivity

/-- `sufficient`. -/
def sufficient : Prop :=
  content.requiredFreshness ≤ content.freshness ∧ content.requiredConfidence ≤ content.confidence

instance : Decidable content.sufficient := inferInstanceAs (Decidable (_ ∧ _))

end CoverageContent

/-- `CoverageEntry`. -/
structure CoverageEntry extends CoverageContent where
  checked : toCoverageContent.check = .ok ()

/-- `AwarenessCoverage`. -/
structure AwarenessCoverage where
  entries : List CoverageEntry
  relevanceFloor : ℚ
  relevanceFloor_unit : 0 ≤ relevanceFloor ∧ relevanceFloor ≤ 1
  unique : (entries.map fun entry => entry.sourceId).Nodup

namespace AwarenessCoverage

/-- `relevant_entries`. -/
def relevantEntries (coverage : AwarenessCoverage) : List CoverageEntry :=
  coverage.entries.filter fun entry => coverage.relevanceFloor ≤ entry.importance

/-- `gaps`. -/
def gaps (coverage : AwarenessCoverage) : List CoverageEntry :=
  coverage.relevantEntries.filter fun entry => ¬entry.sufficient

end AwarenessCoverage

/-! ## Plans -/

inductive ReconciliationDisposition
  | refresh
  | acceptExisting
  | markUncertain
  | defer
deriving DecidableEq, Repr

/-- What the id of a refresh request is made of. -/
structure RefreshContent where
  sourceId : String
  reason : String
  desiredFreshness : ℚ
  desiredConfidence : ℚ
  priority : ℚ
  maxCost : ℚ
  createdAt : Datetime
deriving DecidableEq

/-- `RefreshRequest.__post_init__`. -/
def RefreshContent.check (content : RefreshContent) (requestId : String) :
    Except PyError Unit := do
  refuse (blank requestId = true ∨ blank content.sourceId = true ∨ blank content.reason = true)
    "refresh request identity, source, and reason must be non-empty"
  requireBounded (.finite content.desiredFreshness) "desired_freshness"
  requireBounded (.finite content.desiredConfidence) "desired_confidence"
  requireBounded (.finite content.priority) "priority"
  refuse (content.maxCost < 0) "refresh request max cost cannot be negative"

/-- `RefreshRequest`. -/
structure RefreshRequest extends RefreshContent where
  requestId : String
  checked : toRefreshContent.check requestId = .ok ()
deriving DecidableEq

/-- The digests of requests, and how the language shows a list of texts. -/
structure WakeBuiltins where
  request : RefreshContent → String
  reprTexts : List String → String

/-- `RefreshRequest.create`. -/
def RefreshRequest.create (b : WakeBuiltins) (content : RefreshContent) :
    Except PyError RefreshRequest :=
  let requestId := "refresh-request:" ++ b.request content
  checkedBy (content.check requestId) fun checked => ⟨content, requestId, checked⟩

/-- The fields of a `ReconciliationDecision`. -/
structure ReconciliationContent where
  sourceId : String
  disposition : ReconciliationDisposition
  refreshNeed : ℚ
  reason : String
  request : Option RefreshRequest
deriving DecidableEq

/-- `ReconciliationDecision.__post_init__`. -/
def ReconciliationContent.check (content : ReconciliationContent) : Except PyError Unit := do
  refuse (blank content.sourceId = true ∨ blank content.reason = true)
    "reconciliation source and reason must be non-empty"
  requireBounded (.finite content.refreshNeed) "refresh_need"
  refuse (¬(content.disposition = .refresh ↔ content.request.isSome = true))
    "only refresh decisions carry a refresh request"
  refuse (∃ request ∈ content.request, request.sourceId ≠ content.sourceId)
    "refresh decision and request source ids must match"

/-- `ReconciliationDecision`. -/
structure ReconciliationDecision extends ReconciliationContent where
  checked : toReconciliationContent.check = .ok ()
deriving DecidableEq

def ReconciliationDecision.create (content : ReconciliationContent) :
    Except PyError ReconciliationDecision :=
  checkedBy content.check fun checked => ⟨content, checked⟩

/-- `ReconciliationPlan`. -/
structure ReconciliationPlan where
  decisions : List ReconciliationDecision
  totalRefreshCost : ℚ
deriving DecidableEq

/-- `ReconciliationPlan(…)`. -/
def ReconciliationPlan.create (decisions : List ReconciliationDecision) (totalRefreshCost : ℚ) :
    Except PyError ReconciliationPlan := do
  refuse (¬(decisions.map fun decision => decision.sourceId).Nodup)
    "reconciliation plan source ids must be unique"
  refuse (totalRefreshCost < 0) "reconciliation plan refresh cost cannot be negative"
  return { decisions, totalRefreshCost }

end Continuity

end Noema
