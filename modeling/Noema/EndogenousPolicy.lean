import Mathlib.Data.Prod.Lex
import Mathlib.Data.String.Basic
import Noema.EndogenousModels

/-!
# The value of cognition, and the agenda

Every term of an estimate is explicit.  The greedy selector goes through the activities from
the most valuable on and takes each that still fits the epoch's ceiling, so what it consumed
fits the ceiling (`selectIntrinsicAgenda_fits`).
-/
namespace Noema

def stableGreedySelectorId : String := "stable-greedy-multidimensional"

def stableGreedySelectorVersion : Int := 1

section Policy

variable (ids : EndogenousIds) (epoch : DreamEpoch) (policy : EndogenousPolicySnapshot)

/-- `evaluate_value_of_cognition`. -/
def evaluateValueOfCognition (activity : IntrinsicActivity) (evaluatedAt : Datetime) :
    Except PyError ValueOfCognitionEstimate := do
  refuse (epoch.policyId ≠ policy.policyId ∨ epoch.policyVersion ≠ policy.version)
    "dream epoch does not pin the supplied endogenous policy"
  refuse (activity.causalCursor ≠ epoch.eventLogCursor)
    "intrinsic activity does not belong to the dream epoch causal cut"
  let inputs := activity.vocInputs
  let terms : VocContent :=
    { epochId := epoch.epochId
      activityId := activity.activityId
      policyId := policy.policyId
      expectedDecisionImprovement := inputs.expectedDecisionImprovement.rounded
      computeCost := (inputs.computeCostBasis.times policy.computeCostWeight).rounded
      delayCost := (inputs.delayCostBasis.times policy.delayCostWeight).rounded
      attentionCost := (inputs.attentionCostBasis.times policy.attentionCostWeight).rounded
      opportunityCost := (inputs.opportunityCostBasis.times policy.opportunityCostWeight).rounded
      privacyRiskCost := (inputs.privacyRiskCostBasis.times policy.privacyRiskCostWeight).rounded
      netValue := .finite 0
      evaluatedAt }
  let content := { terms with netValue := terms.net }
  let estimate : ValueOfCognitionEstimate :=
    { content with estimateId := "voc-estimate:" ++ ids.estimate content }
  estimate.check
  return estimate

/-- `ensure_selector_supported`. -/
def ensureSelectorSupported : Except PyError Unit :=
  refuse (policy.selectorId ≠ stableGreedySelectorId ∨
      policy.selectorVersion ≠ stableGreedySelectorVersion)
    s!"unsupported endogenous agenda selector: {policy.selectorId} v{policy.selectorVersion}"

/-- The number of a float; those that are ranked are finite. -/
def PyFloat.number : PyFloat → ℚ
  | .finite value => value
  | _ => 0

/-- The key by which the selector sorts: an activity with its estimate's net value. -/
def agendaKey (ranked : IntrinsicActivity × PyFloat) : ℚ ×ₗ ℚ ×ₗ ℚ ×ₗ String :=
  toLex (-ranked.2.number, toLex (-ranked.1.urgency.number,
    toLex (-ranked.1.confidence.number, ranked.1.activityId)))

/-- The decision on the next activity, and what is consumed after it. -/
def decideActivity (selectedAt : Datetime) (consumed : CognitiveResourceVector)
    (activity : IntrinsicActivity) (netValue : PyFloat) :
    Except PyError (CognitiveResourceVector × AgendaDecision) := do
  let threshold := PyFloat.maximum (.finite 0) policy.minimumNetVoc
  if activity.expiresAt.instant ≤ selectedAt.instant then
    return (consumed, ⟨activity.activityId, .suppressed, "activity expired before agenda selection"⟩)
  else if netValue.atMost threshold = true then
    return (consumed,
      ⟨activity.activityId, .suppressed, "NetVOC is not positive under the pinned policy"⟩)
  else
    let proposed ← consumed.plus activity.resources
    if proposed.fitsWithin epoch.budget.ceiling = true then
      return (proposed,
        ⟨activity.activityId, .selected, "positive NetVOC fits every pinned budget ceiling"⟩)
    else
      return (consumed,
        ⟨activity.activityId, .deferred, "finite background cognitive budget is insufficient"⟩)

/-- The loop over the ranked activities. -/
def decideAgenda (selectedAt : Datetime) :
    CognitiveResourceVector → List (IntrinsicActivity × PyFloat) →
      Except PyError (CognitiveResourceVector × List AgendaDecision)
  | consumed, [] => .ok (consumed, [])
  | consumed, (activity, netValue) :: ranked => do
    let (consumed, decision) ← decideActivity epoch policy selectedAt consumed activity netValue
    let (consumed, decisions) ← decideAgenda selectedAt consumed ranked
    return (consumed, decision :: decisions)

/-- The last estimate of an activity. -/
def estimateFor (estimates : List ValueOfCognitionEstimate) (activityId : String) :
    Option ValueOfCognitionEstimate :=
  estimates.reverse.find? fun estimate => estimate.activityId = activityId

/-- `_select_stable_greedy_v1`. -/
def selectStableGreedyV1 (activities : List IntrinsicActivity)
    (estimates : List ValueOfCognitionEstimate) (selectedAt : Datetime) :
    Except PyError IntrinsicAgendaSelection := do
  refuse (epoch.expiresAt.instant ≤ selectedAt.instant)
    "an expired dream epoch cannot select an agenda"
  refuse (epoch.policyId ≠ policy.policyId) "agenda policy differs from the dream epoch policy"
  let activityIds := activities.map fun activity => activity.activityId
  let estimatedIds := estimates.map fun estimate => estimate.activityId
  refuse (¬activityIds.Nodup) "intrinsic agenda activities must be unique"
  refuse ((∃ activityId ∈ estimatedIds, activityId ∉ activityIds) ∨
      ∃ activityId ∈ activityIds, activityId ∉ estimatedIds)
    "every intrinsic activity requires exactly one VOC estimate"
  refuse (∃ estimate ∈ estimates, estimate.epochId ≠ epoch.epochId ∨
      estimate.policyId ≠ policy.policyId)
    "VOC estimates do not belong to the selected epoch and policy"
  let ranked := (activities.filterMap fun activity =>
      (estimateFor estimates activity.activityId).map fun estimate => (activity, estimate.netValue)).insertionSort
    fun a c => agendaKey a ≤ agendaKey c
  let (consumed, decisions) ← decideAgenda epoch policy selectedAt .zero ranked
  refuse (decisions = []) "agenda selection requires at least one evaluated candidate"
  let remaining ← epoch.budget.ceiling.minus consumed
  let content : AgendaContent :=
    { epochId := epoch.epochId, policyId := policy.policyId, decisions, consumed, remaining,
      selectedAt }
  let selection : IntrinsicAgendaSelection :=
    { content with selectionId := "intrinsic-agenda:" ++ ids.agenda content }
  selection.check ids
  return selection

/-- `select_intrinsic_agenda`. -/
def selectIntrinsicAgenda (activities : List IntrinsicActivity)
    (estimates : List ValueOfCognitionEstimate) (selectedAt : Datetime) :
    Except PyError IntrinsicAgendaSelection := do
  refuse (epoch.selectorId ≠ policy.selectorId ∨ epoch.selectorVersion ≠ policy.selectorVersion)
    "dream epoch does not pin the supplied agenda selector"
  ensureSelectorSupported policy
  selectStableGreedyV1 ids epoch policy activities estimates selectedAt

variable {ids epoch policy} {selectedAt : Datetime}

theorem decideActivity_fits {consumed after : CognitiveResourceVector} {activity : IntrinsicActivity}
    {netValue : PyFloat} {decision : AgendaDecision}
    (hfits : consumed.fitsWithin epoch.budget.ceiling = true)
    (h : decideActivity epoch policy selectedAt consumed activity netValue = .ok (after, decision)) :
    after.fitsWithin epoch.budget.ceiling = true := by
  unfold decideActivity at h
  dsimp only at h
  split_ifs at h with hexpired hvalue
  · cases h
    exact hfits
  · cases h
    exact hfits
  · obtain ⟨proposed, -, h⟩ := bind_eq_ok h
    split_ifs at h with hproposed
    · cases h
      exact hproposed
    · cases h
      exact hfits

/-- **What the loop consumed fits the ceiling.** -/
theorem decideAgenda_fits {ranked : List (IntrinsicActivity × PyFloat)}
    {consumed after : CognitiveResourceVector} {decisions : List AgendaDecision}
    (hfits : consumed.fitsWithin epoch.budget.ceiling = true)
    (h : decideAgenda epoch policy selectedAt consumed ranked = .ok (after, decisions)) :
    after.fitsWithin epoch.budget.ceiling = true := by
  induction ranked generalizing consumed decisions with
  | nil =>
    cases h
    exact hfits
  | cons activity ranked ih =>
    obtain ⟨⟨next, decision⟩, hnext, h⟩ := bind_eq_ok h
    obtain ⟨⟨last, rest⟩, hrest, h⟩ := bind_eq_ok h
    cases h
    exact ih (decideActivity_fits hfits hnext) hrest

theorem selectIntrinsicAgenda_fits {activities : List IntrinsicActivity}
    {estimates : List ValueOfCognitionEstimate} {selection : IntrinsicAgendaSelection}
    (h : selectIntrinsicAgenda ids epoch policy activities estimates selectedAt = .ok selection) :
    selection.consumed.fitsWithin epoch.budget.ceiling = true := by
  obtain ⟨_, -, h⟩ := bind_eq_ok h
  obtain ⟨_, -, h⟩ := bind_eq_ok h
  obtain ⟨_, -, h⟩ := bind_eq_ok h
  obtain ⟨_, -, h⟩ := bind_eq_ok h
  obtain ⟨_, -, h⟩ := bind_eq_ok h
  obtain ⟨_, -, h⟩ := bind_eq_ok h
  obtain ⟨_, -, h⟩ := bind_eq_ok h
  obtain ⟨⟨consumed, decisions⟩, hagenda, h⟩ := bind_eq_ok h
  obtain ⟨_, -, h⟩ := bind_eq_ok h
  obtain ⟨remaining, -, h⟩ := bind_eq_ok h
  obtain ⟨_, -, h⟩ := bind_eq_ok h
  cases h
  exact decideAgenda_fits (CognitiveResourceVector.zero_fitsWithin _) hagenda

end Policy

end Noema
