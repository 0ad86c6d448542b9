import Noema.AgendaSafety
import Noema.ReconsiderationPolicy

/-!
# The allocation of scarce cognition, over exact numbers

The allocator with its arithmetic as a parameter: doubles (`allocate_binary64`), or rational
numbers that are rounded to twelve digits and not otherwise.  Over the rationals a sum of costs
never raises, and what fits a ceiling can be subtracted from it.
-/
namespace Noema

/-! ### Arithmetic -/

/-- Float arithmetic with products and `sum`. -/
structure AllocationArithmetic extends FloatArithmetic where
  times : PyFloat → PyFloat → PyFloat
  sum : List PyFloat → PyFloat

namespace AllocationArithmetic

/-- Every result is the nearest double; `sum` is that of the interpreter. -/
def binary64 (floatSum : List PyFloat → PyFloat) : AllocationArithmetic where
  toFloatArithmetic := .binary64
  times := .times
  sum := floatSum

/-- Rational numbers; only `round` rounds. -/
def rational : AllocationArithmetic where
  toFloatArithmetic := .rational
  times := FloatArithmetic.exactly (· * ·)
  sum := List.foldl (FloatArithmetic.exactly (· + ·)) (.finite 0)

end AllocationArithmetic

namespace ScarceCognitionCostSnapshot

variable (A : FloatArithmetic)

/-- `plus`. -/
def plusWith (r other : ScarceCognitionCostSnapshot) : Except PyError ScarceCognitionCostSnapshot :=
  create (r.zipWith (fun a c => A.rounded (A.plus a c)) other.toScarceCosts)

/-- `minus`. -/
def minusWith (r other : ScarceCognitionCostSnapshot) :
    Except PyError ScarceCognitionCostSnapshot := do
  let left := r.zipWith (fun a c => A.rounded (A.minus a c)) other.toScarceCosts
  let floor := A.literal (-1 / 10 ^ 9)
  refuse (left.values.any fun value => !floor.atMost value)
    "scarce cognition use exceeds its budget"
  create (left.map (PyFloat.maximum (.finite 0)))

/-- `fits_within`. -/
def fitsWith (r ceiling : ScarceCognitionCostSnapshot) : Bool :=
  (r.values.zip ceiling.values).all fun (value, limit) =>
    value.atMost (A.plus limit (A.literal (1 / 10 ^ 12)))

end ScarceCognitionCostSnapshot

/-! ### The allocator -/

section Allocator

variable (A : AllocationArithmetic)

/-- `_terms`. -/
def reconsiderationTermsWith (candidate : ReconsiderationCandidate)
    (policy : ReconsiderationPolicySnapshot) (at' : Datetime) : ReconsiderationTerms :=
  let benefit := A.rounded
    (A.sum (List.zipWith A.times candidate.features.values policy.featureWeights.values))
  let cost := A.rounded (A.sum (List.zipWith A.times candidate.costs.values policy.costWeights.values))
  { benefit, cost
    netVoc := A.rounded (A.minus benefit cost)
    featuresCurrent := candidate.features.estimates.all fun estimate =>
      at'.instant < estimate.validUntil.instant }

/-- `_binding_budget_dimension`, with what would be consumed. -/
def bindingBudgetDimensionWith (proposed : ScarceCognitionCostSnapshot)
    (budget : ScarceCognitionBudget) (selectedCount : Nat) : String :=
  if budget.maxCandidates ≤ selectedCount then "max_candidates"
  else match (proposed.named.zip budget.ceiling.values).find? fun (named, limit) =>
      !named.2.atMost (A.plus limit (A.literal (1 / 10 ^ 12))) with
    | some (named, _) => named.1
    | none => "scarce_cognition_budget"

/-- `ReconsiderationDecision.__post_init__`. -/
def ReconsiderationDecision.checkWith (decision : ReconsiderationDecision) : Except PyError Unit := do
  requireText decision.candidateId "allocation candidate id"
  requireNonNegative decision.expectedBenefit "expected reconsideration benefit"
  requireNonNegative decision.totalCost "total reconsideration cost"
  refuse (decision.netVoc.isFinite = false) "reconsideration NetVOC must be finite"
  refuse (A.rounded (A.minus decision.expectedBenefit decision.totalCost) ≠ decision.netVoc)
    "reconsideration NetVOC does not match its terms"
  refuse (decision.hardGates = []) "allocation decision requires hard-gate outcomes"
  requireText decision.causalReason "allocation causal reason"

/-- A decision on a candidate. -/
def makeDecision (terms : ReconsiderationTerms) (gates : List HardGateOutcome)
    (candidate : ReconsiderationCandidate) (label : AllocationLabel) (causalReason : String)
    (bindingConstraint : Option String) : Except PyError ReconsiderationDecision :=
  constructed (ReconsiderationDecision.checkWith A)
    { candidateId := candidate.candidateId, label, expectedBenefit := terms.benefit
      totalCost := terms.cost, netVoc := terms.netVoc, hardGates := gates, causalReason
      bindingConstraint }

variable (scan : ReconsiderationScanRequest) (policy : ReconsiderationPolicySnapshot)

/-- The decision on a candidate that no terminal constraint stops. -/
def decideByBudgetWith (terms : ReconsiderationTerms) (gates : List HardGateOutcome)
    (progress : AllocationProgress) (candidate : ReconsiderationCandidate) :
    Except PyError (AllocationProgress × ReconsiderationDecision) := do
  let decision := makeDecision A terms gates candidate
  match gates.find? fun gate => gate.passed = false with
  | some failed =>
    let label := if failed.gate = "foreground_preemption" then .deferredByConstraint else .suppressed
    return (progress, ← decision label failed.reason failed.gate)
  | none =>
    if terms.netVoc.atMost policy.minimumNetVoc = true then
      return (progress, ← decision .suppressed "NetVOC is not positive under the pinned policy"
        "minimum_net_voc")
    else
      let proposed ← progress.consumed.plusWith A.toFloatArithmetic candidate.costs
      let interruptionExceeded := !proposed.interruptionUnits.atMost
        (A.plus scan.maximumInterruptionUnits (A.literal (1 / 10 ^ 12)))
      if scan.budget.maxCandidates ≤ progress.selectedCount ∨
          proposed.fitsWith A.toFloatArithmetic scan.budget.ceiling = false ∨
          interruptionExceeded = true then
        let constraint := if interruptionExceeded then "maximum_interruption_units"
          else bindingBudgetDimensionWith A proposed scan.budget progress.selectedCount
        return (progress, ← decision .deferredByConstraint
          "finite scarce-cognition budget is exhausted" constraint)
      else
        return (⟨proposed, progress.selectedCount + 1⟩, ← decision .selected
          "positive NetVOC fits every hard scarce-cognition ceiling" none)

/-- The decision on the next candidate. -/
def decideCandidateWith (terms : ReconsiderationTerms) (constraint : Option String)
    (foregroundClear : Bool) (progress : AllocationProgress)
    (candidate : ReconsiderationCandidate) :
    Except PyError (AllocationProgress × ReconsiderationDecision) :=
  match constraint with
  | some constraint => do
    let reason ← terminalReason constraint
    let decision ← makeDecision A terms [⟨"allocation_legality", false, reason⟩] candidate
      .suppressed reason (some constraint)
    return (progress, decision)
  | none =>
    decideByBudgetWith A scan policy terms
      (hardGates candidate terms.featuresCurrent foregroundClear) progress candidate

/-- The loop over the ranked candidates. -/
def decidePortfolioWith (terms : ReconsiderationCandidate → ReconsiderationTerms)
    (constraints : Dict String) (foregroundClear : Bool) :
    AllocationProgress → List ReconsiderationCandidate →
      Except PyError (AllocationProgress × List ReconsiderationDecision)
  | progress, [] => .ok (progress, [])
  | progress, candidate :: ranked => do
    let (progress, decision) ← decideCandidateWith A scan policy (terms candidate)
      (constraints.get? candidate.candidateId) foregroundClear progress candidate
    let (progress, decisions) ←
      decidePortfolioWith terms constraints foregroundClear progress ranked
    return (progress, decision :: decisions)

/-- The candidates in the order in which the allocator takes them. -/
def rankCandidates (terms : ReconsiderationCandidate → ReconsiderationTerms)
    (candidates : List ReconsiderationCandidate) : List ReconsiderationCandidate :=
  candidates.insertionSort fun a c => allocationKey a (terms a) ≤ allocationKey c (terms c)

/-- `allocate_reconsideration`. -/
def allocateReconsiderationWith (ids : ReconsiderationIds)
    (candidates : List ReconsiderationCandidate) (derivedInformationId : String)
    (foregroundDemandRefs : List String) (terminalConstraints : Dict String)
    (allocatedAt : Datetime) : Except PyError ReconsiderationAllocation := do
  ensureAllocatorSupported policy
  refuse (scan.policyId ≠ policy.policyId)
    "reconsideration scan does not pin the supplied policy"
  refuse (candidates = []) "reconsideration allocation requires candidates"
  let candidateIds := candidates.map ReconsiderationCandidate.candidateId
  let inputIds := scan.candidateInputs.map ReconsiderationCandidateInput.candidateId
  refuse ((∃ id ∈ candidateIds, id ∉ inputIds) ∨ ∃ id ∈ inputIds, id ∉ candidateIds)
    "reconsideration candidates differ from the scan portfolio"
  refuse (¬candidateIds.Nodup) "reconsideration candidates must be unique"
  refuse (∃ row ∈ terminalConstraints.rows, row.1 ∉ candidateIds)
    "allocation terminal constraints reference unknown candidates"
  let terms (candidate : ReconsiderationCandidate) :=
    reconsiderationTermsWith A candidate policy allocatedAt
  let (progress, decisions) ← decidePortfolioWith A scan policy terms terminalConstraints
    foregroundDemandRefs.isEmpty ⟨.zero, 0⟩ (rankCandidates terms candidates)
  let remaining ← scan.budget.ceiling.minusWith A.toFloatArithmetic progress.consumed
  ReconsiderationAllocation.create ids
    { derivedInformationId, scanRequestId := scan.requestId, policyId := policy.policyId
      policyVersion := policy.version, budget := scan.budget, decisions
      consumedCandidates := progress.selectedCount, consumed := progress.consumed, remaining
      foregroundDemandRefs, allocatedAt }

variable (floatSum : List PyFloat → PyFloat)

theorem decidePortfolio_binary64 (terms : ReconsiderationCandidate → ReconsiderationTerms)
    (constraints : Dict String) (foregroundClear : Bool) (progress : AllocationProgress)
    (ranked : List ReconsiderationCandidate) :
    decidePortfolioWith (.binary64 floatSum) scan policy terms constraints foregroundClear progress
        ranked =
      decidePortfolio scan policy terms constraints foregroundClear progress ranked := by
  induction ranked generalizing progress with
  | nil => rfl
  | cons candidate ranked ih =>
    rw [decidePortfolioWith, decidePortfolio]
    simp only [ih]
    rfl

end Allocator

/-! ### Costs over the rationals -/

/-- The dimensions of scarce cognition. -/
inductive ScarceDimension
  | compute
  | wallTime
  | monetary
  | attention
  | contextSwitching
  | intrusion
  | interruption
  | privacyExposure
  | opportunityCost
  | revalidation

/-- All of them, in the order of the fields. -/
def ScarceDimension.all : List ScarceDimension :=
  [compute, wallTime, monetary, attention, contextSwitching, intrusion, interruption,
   privacyExposure, opportunityCost, revalidation]

theorem ScarceDimension.mem_all (dimension : ScarceDimension) : dimension ∈ all := by
  cases dimension <;> simp [all]

namespace ScarceCosts

def units (costs : ScarceCosts) : ScarceDimension → PyFloat
  | .compute => costs.computeUnits
  | .wallTime => costs.wallTimeSeconds
  | .monetary => costs.monetaryCost
  | .attention => costs.attentionUnits
  | .contextSwitching => costs.contextSwitchingUnits
  | .intrusion => costs.intrusionUnits
  | .interruption => costs.interruptionUnits
  | .privacyExposure => costs.privacyExposureUnits
  | .opportunityCost => costs.opportunityCostUnits
  | .revalidation => costs.revalidationUnits

variable (costs other : ScarceCosts)

theorem values_eq : costs.values = ScarceDimension.all.map costs.units := rfl

@[simp] theorem units_zipWith (f : PyFloat → PyFloat → PyFloat) (dimension : ScarceDimension) :
    (costs.zipWith f other).units dimension = f (costs.units dimension) (other.units dimension) := by
  cases dimension <;> rfl

@[simp] theorem units_map (f : PyFloat → PyFloat) (dimension : ScarceDimension) :
    (costs.map f).units dimension = f (costs.units dimension) := by
  cases dimension <;> rfl

theorem ext_units {costs other : ScarceCosts}
    (h : ∀ dimension, costs.units dimension = other.units dimension) : costs = other := by
  obtain ⟨_, _, _, _, _, _, _, _, _, _⟩ := costs
  obtain ⟨_, _, _, _, _, _, _, _, _, _⟩ := other
  rw [mk.injEq]
  exact ⟨h .compute, h .wallTime, h .monetary, h .attention, h .contextSwitching, h .intrusion,
    h .interruption, h .privacyExposure, h .opportunityCost, h .revalidation⟩

/-- The costs with these amounts. -/
def ofAmounts (amounts : ScarceDimension → ℚ) : ScarceCosts where
  computeUnits := .finite (amounts .compute)
  wallTimeSeconds := .finite (amounts .wallTime)
  monetaryCost := .finite (amounts .monetary)
  attentionUnits := .finite (amounts .attention)
  contextSwitchingUnits := .finite (amounts .contextSwitching)
  intrusionUnits := .finite (amounts .intrusion)
  interruptionUnits := .finite (amounts .interruption)
  privacyExposureUnits := .finite (amounts .privacyExposure)
  opportunityCostUnits := .finite (amounts .opportunityCost)
  revalidationUnits := .finite (amounts .revalidation)

@[simp] theorem units_ofAmounts (amounts : ScarceDimension → ℚ) (dimension : ScarceDimension) :
    (ofAmounts amounts).units dimension = .finite (amounts dimension) := by
  cases dimension <;> rfl

/-- The constructor asks that every amount is a number that is not negative. -/
theorem check_iff {costs : ScarceCosts} :
    costs.check = .ok () ↔ ∀ dimension, ∃ q, 0 ≤ q ∧ costs.units dimension = .finite q := by
  simp only [check, bind_ok_iff, requireNonNegative_iff, exists_const]
  constructor
  · rintro ⟨h1, h2, h3, h4, h5, h6, h7, h8, h9, h10⟩ dimension
    cases dimension with
    | compute => exact h1
    | wallTime => exact h2
    | monetary => exact h3
    | attention => exact h4
    | contextSwitching => exact h5
    | intrusion => exact h6
    | interruption => exact h7
    | privacyExposure => exact h8
    | opportunityCost => exact h9
    | revalidation => exact h10
  · intro h
    exact ⟨h .compute, h .wallTime, h .monetary, h .attention, h .contextSwitching, h .intrusion,
      h .interruption, h .privacyExposure, h .opportunityCost, h .revalidation⟩

end ScarceCosts

namespace ScarceCognitionCostSnapshot

variable (r other ceiling : ScarceCognitionCostSnapshot)

/-- How much of a dimension a snapshot has. -/
def amount (dimension : ScarceDimension) : ℚ := (r.units dimension).number

theorem units_eq (dimension : ScarceDimension) :
    r.units dimension = .finite (r.amount dimension) ∧ 0 ≤ r.amount dimension := by
  obtain ⟨q, hq, hunits⟩ := ScarceCosts.check_iff.mp r.checked dimension
  have hamount : r.amount dimension = q := by
    rw [amount, hunits]
    rfl
  rw [hamount]
  exact ⟨hunits, hq⟩

theorem amount_nonneg (dimension : ScarceDimension) : 0 ≤ r.amount dimension :=
  (r.units_eq dimension).2

theorem ofAmounts_check {amounts : ScarceDimension → ℚ} (h : ∀ dimension, 0 ≤ amounts dimension) :
    (ScarceCosts.ofAmounts amounts).check = .ok () := by
  refine ScarceCosts.check_iff.mpr fun dimension => ⟨amounts dimension, h dimension, ?_⟩
  exact ScarceCosts.units_ofAmounts amounts dimension

/-- What two snapshots come to, each amount rounded to twelve digits. -/
def sum : ScarceCognitionCostSnapshot where
  toScarceCosts := .ofAmounts fun dimension => round12 (r.amount dimension + other.amount dimension)
  checked := ofAmounts_check fun dimension => round12_nonneg
    (add_nonneg (r.amount_nonneg dimension) (other.amount_nonneg dimension))

@[simp] theorem amount_sum (dimension : ScarceDimension) :
    (r.sum other).amount dimension = round12 (r.amount dimension + other.amount dimension) := by
  unfold amount sum
  rw [ScarceCosts.units_ofAmounts]
  rfl

/-- **Over the rationals a sum never raises.** -/
theorem plusWith_rational : r.plusWith .rational other = .ok (r.sum other) := by
  have hcosts : r.zipWith (fun a c => FloatArithmetic.rational.rounded
      (FloatArithmetic.rational.plus a c)) other.toScarceCosts = (r.sum other).toScarceCosts := by
    refine ScarceCosts.ext_units fun dimension => ?_
    rw [ScarceCosts.units_zipWith, (r.units_eq dimension).1, (other.units_eq dimension).1, sum,
      ScarceCosts.units_ofAmounts]
    rfl
  unfold plusWith create
  rw [hcosts]
  exact checkedBy_of (r.sum other).checked

/-- What fits has no amount above its ceiling, but for the tolerance. -/
theorem fitsWith_rational : r.fitsWith .rational ceiling = true ↔
    ∀ dimension, r.amount dimension ≤ ceiling.amount dimension + 1 / 10 ^ 12 := by
  have hone : ∀ dimension, ((r.units dimension).atMost
      (FloatArithmetic.rational.plus (ceiling.units dimension)
        (FloatArithmetic.rational.literal (1 / 10 ^ 12))) = true ↔
      r.amount dimension ≤ ceiling.amount dimension + 1 / 10 ^ 12) := by
    intro dimension
    rw [(r.units_eq dimension).1, (ceiling.units_eq dimension).1]
    exact decide_eq_true_iff
  unfold fitsWith
  rw [ScarceCosts.values_eq, ScarceCosts.values_eq, List.zip_map', List.all_map, List.all_eq_true]
  constructor
  · intro h dimension
    exact (hone dimension).mp (h dimension dimension.mem_all)
  · intro h dimension _
    exact (hone dimension).mpr (h dimension)

theorem zero_amount (dimension : ScarceDimension) : zero.amount dimension = 0 := by
  cases dimension <;> rfl

/-- Nothing at all fits within any ceiling. -/
theorem zero_fitsWith : zero.fitsWith .rational ceiling = true := by
  refine (fitsWith_rational _ _).mpr fun dimension => ?_
  rw [zero_amount]
  have hceiling := ceiling.amount_nonneg dimension
  positivity

/-- **What fits can be subtracted from its ceiling.** -/
theorem minusWith_rational (h : r.fitsWith .rational ceiling = true) :
    ∃ remaining, ceiling.minusWith .rational r = .ok remaining := by
  rw [fitsWith_rational] at h
  let left (dimension : ScarceDimension) : ℚ :=
    round12 (ceiling.amount dimension - r.amount dimension)
  have hleft : ∀ dimension, (ceiling.zipWith (fun a c => FloatArithmetic.rational.rounded
      (FloatArithmetic.rational.minus a c)) r.toScarceCosts).units dimension =
      .finite (left dimension) := by
    intro dimension
    rw [ScarceCosts.units_zipWith, (ceiling.units_eq dimension).1, (r.units_eq dimension).1]
    rfl
  have hfloor : ∀ dimension, (-1 / 10 ^ 9 : ℚ) ≤ left dimension := by
    intro dimension
    have hfits := h dimension
    have herror := (abs_le.mp
      (abs_round12_sub_le (ceiling.amount dimension - r.amount dimension))).1
    have hsmall : (1 / 10 ^ 12 + 1 / 2 / 10 ^ 12 : ℚ) ≤ 1 / 10 ^ 9 := by norm_num
    have hsame : left dimension = round12 (ceiling.amount dimension - r.amount dimension) := rfl
    rw [hsame]
    linarith
  unfold minusWith
  dsimp only
  rw [refuse_of, ok_bind]
  · let rest (dimension : ScarceDimension) : ℚ := if left dimension ≤ 0 then 0 else left dimension
    have hrest : ∀ dimension, 0 ≤ rest dimension := by
      intro dimension
      by_cases hsign : left dimension ≤ 0
      · simp [rest, hsign]
      · simpa [rest, hsign] using (not_le.mp hsign).le
    refine ⟨⟨.ofAmounts rest, ofAmounts_check hrest⟩, ?_⟩
    have hcosts : (ceiling.zipWith (fun a c => FloatArithmetic.rational.rounded
        (FloatArithmetic.rational.minus a c)) r.toScarceCosts).map (PyFloat.maximum (.finite 0)) =
        .ofAmounts rest := by
      refine ScarceCosts.ext_units fun dimension => ?_
      rw [ScarceCosts.units_map, hleft, ScarceCosts.units_ofAmounts]
      by_cases hsign : left dimension ≤ 0 <;> simp [PyFloat.maximum, PyFloat.atMost, rest, hsign]
    rw [create, hcosts]
    exact checkedBy_of (ofAmounts_check hrest)
  · rw [ScarceCosts.values_eq, List.any_map, Bool.not_eq_true, List.any_eq_false]
    intro dimension _ hlow
    rw [Function.comp_apply, hleft] at hlow
    simp [FloatArithmetic.rational, PyFloat.atMost] at hlow
    exact absurd (hfloor dimension) (not_le.mpr hlow)

end ScarceCognitionCostSnapshot
end Noema
