import Mathlib.Data.Prod.Lex
import Noema.WakeModels
import Noema.Lib.GreedyBudget

/-!
# Planning a wake

`WakeReconciler.plan` ranks the sources that a decision demands fresher than they are by need
per cost, refreshes those that fit into the budget, and defers the others.  What it refreshes
or defers are the gaps of the coverage on the same inputs.
-/
namespace Noema

namespace Continuity

/-- A source with the demand for it, its freshness then, and the need to refresh it: the entries
of `demand_by_id`, `freshness_by_source` and `needs`. -/
structure AssessedSource where
  state : SourceState
  demand : Option (AwarenessDemand × ℚ)
  need : ℚ

/-- `refresh_need`. -/
def refreshNeed (state : SourceState) (demand : AwarenessDemand) (currentFreshness : ℚ) :
    Except PyError ℚ := do
  refuse (state.sourceId ≠ demand.sourceId) "refresh-need source and demand ids must match"
  refuse (¬(0 ≤ currentFreshness ∧ currentFreshness ≤ 1))
    "current freshness must be between zero and one"
  let freshnessGap := max 0 (1 - currentFreshness / demand.requiredFreshness)
  let confidenceGap := max 0 (1 - state.confidence / demand.requiredConfidence)
  return demand.importance * (1 - (1 - freshnessGap) * (1 - confidenceGap))

/-- `demand_by_id.get(source_id)`. -/
def demandFor (demands : List AwarenessDemand) (sourceId : String) : Option AwarenessDemand :=
  demands.find? fun demand => demand.sourceId = sourceId

section Inputs

variable (demands : List AwarenessDemand) (freshnessBySource : String → Option ℚ)

/-- The need of a source, and zero without a demand. -/
def assess (state : SourceState) : Except PyError AssessedSource :=
  match demandFor demands state.sourceId with
  | none => .ok ⟨state, none, 0⟩
  | some demand =>
    match freshnessBySource state.sourceId with
    | none => .error (.keyError state.sourceId)
    | some freshness => do
      let need ← refreshNeed state demand freshness
      return ⟨state, some (demand, freshness), need⟩

/-- The ids that are demanded, but not known, in order. -/
def unknownDemands (states : List SourceState) : List String :=
  ((demands.map AwarenessDemand.sourceId).filter fun id =>
    id ∉ states.map SourceState.sourceId).dedup.insertionSort (· ≤ ·)

/-- The ids that are demanded without an estimate, in order. -/
def missingFreshness : List String :=
  ((demands.map AwarenessDemand.sourceId).filter fun id =>
    (freshnessBySource id).isNone).dedup.insertionSort (· ≤ ·)

end Inputs

/-- The relevance floor of a reconciler. -/
structure WakeReconciler where
  relevanceFloor : ℚ
  relevanceFloor_unit : 0 ≤ relevanceFloor ∧ relevanceFloor ≤ 1

namespace WakeReconciler

variable (r : WakeReconciler) (b : WakeBuiltins)

/-- A source is demanded, relevant, and less fresh or less certain than demanded. -/
def Candidate (source : AssessedSource) : Prop :=
  ∃ demanded ∈ source.demand, r.relevanceFloor ≤ demanded.1.importance ∧
    (demanded.2 < demanded.1.requiredFreshness ∨
      source.state.confidence < demanded.1.requiredConfidence)

instance : DecidablePred r.Candidate := fun source =>
  inferInstanceAs (Decidable (∃ demanded ∈ source.demand, _))

/-- What candidates are ranked by. -/
def rankKey (source : AssessedSource) : ℚ ×ₗ ℚ ×ₗ String :=
  toLex (-(source.need / max source.state.refreshCost (1 / 10 ^ 12)),
    toLex (-source.need, source.state.sourceId))

/-- `candidates`. -/
def candidates (sources : List AssessedSource) : List AssessedSource :=
  (sources.filter fun source => r.Candidate source).insertionSort fun a b => rankKey a ≤ rankKey b

/-- The candidates that are refreshed, and the cost that remains. -/
def selectSources (budget : ObservationBudget) (sources : List AssessedSource) :
    List AssessedSource × ℚ :=
  GreedyBudget.walk (fun source : AssessedSource => source.state.refreshCost) budget.maxSources
    (r.candidates sources) [] budget.maxCost

/-- The decision on one source. -/
def decideSource (selected : List String) (createdAt : Datetime) (source : AssessedSource) :
    Except PyError ReconciliationDecision :=
  let sourceId := source.state.sourceId
  let refreshNeed := source.need
  if sourceId ∈ selected then
    match source.demand with
    | none => .error (.other "selected refresh source requires awareness demand")
    | some (demand, _) => do
      let request ← RefreshRequest.create b
        { sourceId, reason := "insufficient decision-relevant freshness or confidence"
          desiredFreshness := demand.requiredFreshness
          desiredConfidence := demand.requiredConfidence, priority := refreshNeed
          maxCost := source.state.refreshCost, createdAt }
      ReconciliationDecision.create
        { sourceId, disposition := .refresh, refreshNeed
          reason := "epistemic coverage is below the decision threshold", request := some request }
  else
    match source.demand with
    | none => ReconciliationDecision.create
        { sourceId, disposition := .acceptExisting, refreshNeed
          reason := "source is not relevant to the current decision", request := none }
    | some (demand, freshness) =>
      if demand.importance < r.relevanceFloor then
        ReconciliationDecision.create
          { sourceId, disposition := .acceptExisting, refreshNeed
            reason := "source is not relevant to the current decision", request := none }
      else if demand.requiredFreshness ≤ freshness ∧
          demand.requiredConfidence ≤ source.state.confidence then
        ReconciliationDecision.create
          { sourceId, disposition := .acceptExisting, refreshNeed
            reason := "existing source state is sufficiently fresh", request := none }
      else
        ReconciliationDecision.create
          { sourceId, disposition := .defer, refreshNeed
            reason := "observation budget exhausted", request := none }

/-- `plan`. -/
def plan (states : List SourceState) (demands : List AwarenessDemand)
    (freshnessBySource : String → Option ℚ) (budget : ObservationBudget) (createdAt : Datetime) :
    Except PyError ReconciliationPlan := do
  refuse (¬(states.map SourceState.sourceId).Nodup)
    "wake reconciliation source ids must be unique"
  refuse (¬(demands.map AwarenessDemand.sourceId).Nodup)
    "wake reconciliation demand source ids must be unique"
  refuse (unknownDemands demands states ≠ [])
    ("wake reconciliation demands reference unknown sources: " ++
      b.reprTexts (unknownDemands demands states))
  refuse (missingFreshness demands freshnessBySource ≠ [])
    ("wake reconciliation demands lack freshness estimates: " ++
      b.reprTexts (missingFreshness demands freshnessBySource))
  let sources ← states.mapM (assess demands freshnessBySource)
  let (taken, remainingCost) := r.selectSources budget sources
  let selected := taken.map fun source => source.state.sourceId
  let sorted := sources.insertionSort fun a b => a.state.sourceId ≤ b.state.sourceId
  let decisions ← sorted.mapM (r.decideSource b selected createdAt)
  ReconciliationPlan.create decisions (budget.maxCost - remainingCost)

end WakeReconciler

/-- `AwarenessCoverage.from_inputs`, one entry. -/
def CoverageEntry.ofDemand (states : List SourceState) (freshnessBySource : String → Option ℚ)
    (demand : AwarenessDemand) : Except PyError CoverageEntry :=
  match states.find? fun state => state.sourceId = demand.sourceId,
    freshnessBySource demand.sourceId with
  | some state, some freshness =>
    let content : CoverageContent :=
      { sourceId := demand.sourceId, governingGoalRefs := demand.governingGoalRefs
        domain := state.domain, confidence := state.confidence, freshness
        relevance := demand.relevance, decisionSensitivity := demand.decisionSensitivity
        requiredFreshness := demand.requiredFreshness
        requiredConfidence := demand.requiredConfidence }
    checkedBy content.check fun checked => ⟨content, checked⟩
  | _, _ => .error (.keyError demand.sourceId)

/-- `AwarenessCoverage.from_inputs`. -/
def AwarenessCoverage.fromInputs (b : WakeBuiltins) (states : List SourceState)
    (demands : List AwarenessDemand) (freshnessBySource : String → Option ℚ)
    (relevanceFloor : ℚ) : Except PyError AwarenessCoverage := do
  refuse (¬(states.map SourceState.sourceId).Nodup) "awareness input source ids must be unique"
  refuse (¬(demands.map AwarenessDemand.sourceId).Nodup) "awareness demand source ids must be unique"
  refuse (unknownDemands demands states ≠ [])
    ("awareness demands reference unknown sources: " ++
      b.reprTexts (unknownDemands demands states))
  refuse (missingFreshness demands freshnessBySource ≠ [])
    ("awareness demands lack freshness estimates: " ++
      b.reprTexts (missingFreshness demands freshnessBySource))
  let sorted := demands.insertionSort fun a b => a.sourceId ≤ b.sourceId
  let entries ← sorted.mapM (CoverageEntry.ofDemand states freshnessBySource)
  if hfloor : 0 ≤ relevanceFloor ∧ relevanceFloor ≤ 1 then
    if hunique : (entries.map fun entry => entry.sourceId).Nodup then
      return ⟨entries, relevanceFloor, hfloor, hunique⟩
    else .error (.valueError "awareness coverage source ids must be unique")
  else .error (.valueError "relevance_floor must be between zero and one")

end Continuity

end Noema
