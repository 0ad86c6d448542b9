import Noema.PortfolioSelection

/-!
# What an allocation of scarce cognition keeps

The loop of the allocator is a walk over the ranked candidates, each decision on what the
ones before it have consumed.  Over the rationals a call of the allocator keeps every
promise of its budget, whatever the order of its candidates; it raises nothing where every
terminal constraint is of a kind it knows (`portfolioSound`).
-/
namespace Noema

/-! ### What candidates cost -/

/-- What candidates cost after one another, rounded at every step. -/
def costsFrom (consumed : ScarceCognitionCostSnapshot) (chosen : List ReconsiderationCandidate) :
    ScarceCognitionCostSnapshot :=
  chosen.foldl (fun consumed candidate => consumed.sum candidate.costs) consumed

theorem amount_costsFrom (consumed : ScarceCognitionCostSnapshot)
    (chosen : List ReconsiderationCandidate) (dimension : ScarceDimension) :
    (costsFrom consumed chosen).amount dimension =
      RoundedSum.sum round12 (consumed.amount dimension)
        (chosen.map fun candidate => candidate.costs.amount dimension) := by
  induction chosen generalizing consumed with
  | nil => rfl
  | cons candidate chosen ih =>
    have hstep : costsFrom consumed (candidate :: chosen) =
        costsFrom (consumed.sum candidate.costs) chosen := rfl
    rw [hstep, ih, ScarceCognitionCostSnapshot.amount_sum]
    rfl

/-- **The rounded sum drifts by at most a unit of the twelfth digit for each term.** -/
theorem abs_costs_sub_le (chosen : List ReconsiderationCandidate) (dimension : ScarceDimension) :
    |(costsFrom .zero chosen).amount dimension -
        (chosen.map fun candidate => candidate.costs.amount dimension).sum| ≤
      chosen.length * (1 / 10 ^ 12) := by
  have herror := RoundedSum.abs_sum_sub_le abs_round12_sub_le
    (ScarceCognitionCostSnapshot.zero.amount dimension)
    (chosen.map fun candidate => candidate.costs.amount dimension)
  rw [← amount_costsFrom, List.length_map, ScarceCognitionCostSnapshot.zero_amount,
    zero_add] at herror
  have hlength : (0 : ℚ) ≤ chosen.length := by positivity
  exact herror.trans (mul_le_mul_of_nonneg_left (by norm_num) hlength)

/-- Progress after candidates were selected one after another. -/
def progressFrom (progress : AllocationProgress) (chosen : List ReconsiderationCandidate) :
    AllocationProgress :=
  ⟨costsFrom progress.consumed chosen, progress.selectedCount + chosen.length⟩

/-- The selected ones, in the order of the decisions. -/
def selectedFrom (candidates : List ReconsiderationCandidate)
    (decisions : List ReconsiderationDecision) : List ReconsiderationCandidate :=
  decisions.filterMap fun decision =>
    if decision.label = .selected then
      candidates.find? fun candidate => candidate.candidateId = decision.candidateId
    else none

/-- No slot is left, or the costs are more than is left in some dimension, or interrupt more
than the scan still allows. -/
def LeavesNoRoom (scan : ReconsiderationScanRequest) (progress : AllocationProgress)
    (costs : ScarceCognitionCostSnapshot) : Prop :=
  scan.budget.maxCandidates ≤ progress.selectedCount ∨
    (∃ dimension, scan.budget.ceiling.amount dimension - progress.consumed.amount dimension <
      costs.amount dimension) ∨
    scan.maximumInterruptionUnits.number - progress.consumed.amount .interruption <
      costs.amount .interruption

/-- The reason for which a candidate is deferred when it does not fit. -/
def budgetExhausted : String := "finite scarce-cognition budget is exhausted"

/-! ### The walk -/

section Walk

/-- A candidate within the bounds of a scan. -/
structure FitsScan (scan : ReconsiderationScanRequest) (progress : AllocationProgress) : Prop where
  ceiling : progress.consumed.fitsWith .rational scan.budget.ceiling = true
  interruption : progress.consumed.amount .interruption ≤
    scan.maximumInterruptionUnits.number + 1 / 10 ^ 12
  count : (progress.selectedCount : Int) ≤ scan.budget.maxCandidates

/-- What it takes to be selected, but for the budget. -/
structure Worthwhile (policy : ReconsiderationPolicySnapshot) (terms : ReconsiderationTerms)
    (constraint : Option String) (foregroundClear : Bool) (candidate : ReconsiderationCandidate) :
    Prop where
  unconstrained : constraint = none
  gates : ∀ gate ∈ hardGates candidate terms.featuresCurrent foregroundClear, gate.passed = true
  worth : terms.netVoc.atMost policy.minimumNetVoc = false

variable (scan : ReconsiderationScanRequest) (policy : ReconsiderationPolicySnapshot)

/-- The decisions on a candidate, and the progress after each. -/
inductive CandidateDecided (terms : ReconsiderationTerms) (constraint : Option String)
    (foregroundClear : Bool) (progress : AllocationProgress)
    (candidate : ReconsiderationCandidate) : AllocationProgress → ReconsiderationDecision → Prop
  | selected (decision : ReconsiderationDecision) (hlabel : decision.label = .selected)
      (hid : decision.candidateId = candidate.candidateId)
      (hreason : decision.causalReason ≠ budgetExhausted)
      (hworth : Worthwhile policy terms constraint foregroundClear candidate)
      (hfits : FitsScan scan (progressFrom progress [candidate])) :
      CandidateDecided terms constraint foregroundClear progress candidate
        (progressFrom progress [candidate]) decision
  | exhausted (decision : ReconsiderationDecision) (hlabel : decision.label ≠ .selected)
      (hid : decision.candidateId = candidate.candidateId)
      (hroom : LeavesNoRoom scan progress candidate.costs) :
      CandidateDecided terms constraint foregroundClear progress candidate progress decision
  | stopped (decision : ReconsiderationDecision) (hlabel : decision.label ≠ .selected)
      (hid : decision.candidateId = candidate.candidateId)
      (hreason : decision.causalReason ≠ budgetExhausted) :
      CandidateDecided terms constraint foregroundClear progress candidate progress decision

/-- Decisions one after another. -/
inductive PortfolioWalk (terms : ReconsiderationCandidate → ReconsiderationTerms)
    (constraints : Dict String) (foregroundClear : Bool) : AllocationProgress →
    List ReconsiderationCandidate → AllocationProgress → List ReconsiderationDecision → Prop
  | nil (progress : AllocationProgress) :
      PortfolioWalk terms constraints foregroundClear progress [] progress []
  | cons {progress next after : AllocationProgress} {candidate : ReconsiderationCandidate}
      {ranked : List ReconsiderationCandidate} {decision : ReconsiderationDecision}
      {decisions : List ReconsiderationDecision}
      (first : CandidateDecided scan policy (terms candidate)
        (constraints.get? candidate.candidateId) foregroundClear progress candidate next decision)
      (rest : PortfolioWalk terms constraints foregroundClear next ranked after decisions) :
      PortfolioWalk terms constraints foregroundClear progress (candidate :: ranked) after
        (decision :: decisions)

end Walk

section WalkLemmas
variable {scan : ReconsiderationScanRequest} {policy : ReconsiderationPolicySnapshot}
  {terms : ReconsiderationTerms} {constraint : Option String} {foregroundClear : Bool}
  {progress next after : AllocationProgress} {candidate : ReconsiderationCandidate}
  {decision : ReconsiderationDecision}

theorem CandidateDecided.id_eq
    (h : CandidateDecided scan policy terms constraint foregroundClear progress candidate next
      decision) : decision.candidateId = candidate.candidateId := by
  cases h with
  | selected _ _ hid | exhausted _ _ hid | stopped _ _ hid => exact hid

namespace PortfolioWalk

variable {term : ReconsiderationCandidate → ReconsiderationTerms} {constraints : Dict String}
  {ranked : List ReconsiderationCandidate} {decisions : List ReconsiderationDecision}

/-- One decision for each candidate, in their order. -/
theorem ids (h : PortfolioWalk scan policy term constraints foregroundClear progress ranked after
    decisions) : decisions.map ReconsiderationDecision.candidateId =
      ranked.map ReconsiderationCandidate.candidateId := by
  induction h with
  | nil => rfl
  | cons first _ ih => rw [List.map_cons, List.map_cons, ih, first.id_eq]

/-- **The progress keeps within the bounds of the scan.** -/
theorem fits (h : PortfolioWalk scan policy term constraints foregroundClear progress ranked after
    decisions) (hfits : FitsScan scan progress) : FitsScan scan after := by
  induction h with
  | nil => exact hfits
  | cons first _ ih =>
    refine ih ?_
    cases first with
    | selected _ _ _ _ _ hnext => exact hnext
    | exhausted | stopped => exact hfits

/-- **The progress is that of what was selected.** -/
theorem spent {candidates : List ReconsiderationCandidate}
    (h : PortfolioWalk scan policy term constraints foregroundClear progress ranked after decisions)
    (hfound : ∀ candidate ∈ ranked, candidates.find?
      (fun other => other.candidateId = candidate.candidateId) = some candidate) :
    after = progressFrom progress (selectedFrom candidates decisions) := by
  induction h with
  | nil => rfl
  | cons first _ ih =>
    obtain ⟨hcandidate, hrest⟩ := List.forall_mem_cons.mp hfound
    rw [ih hrest]
    cases first with
    | selected _ hlabel hid =>
      rw [selectedFrom, selectedFrom, List.filterMap_cons, if_pos hlabel, hid, hcandidate]
      simp only [progressFrom, costsFrom, List.foldl_cons, List.foldl_nil, List.length_cons,
        List.length_nil]
      congr 1
      omega
    | exhausted _ hlabel | stopped _ hlabel =>
      rw [selectedFrom, selectedFrom, List.filterMap_cons, if_neg hlabel]

/-- A selected candidate is worth it. -/
theorem worthwhile (h : PortfolioWalk scan policy term constraints foregroundClear progress ranked
    after decisions) {decision : ReconsiderationDecision} (hmem : decision ∈ decisions)
    (hlabel : decision.label = .selected) : ∃ candidate ∈ ranked,
      candidate.candidateId = decision.candidateId ∧ Worthwhile policy (term candidate)
        (constraints.get? candidate.candidateId) foregroundClear candidate := by
  induction h with
  | nil => cases hmem
  | @cons _ _ _ candidate _ _ _ first _ ih =>
    rcases List.mem_cons.mp hmem with rfl | hmem
    · cases first with
      | selected _ _ hid _ hworth => exact ⟨candidate, List.mem_cons_self, hid.symm, hworth⟩
      | exhausted _ hother | stopped _ hother => exact absurd hlabel hother
    · obtain ⟨other, hother, hworth⟩ := ih hmem
      exact ⟨other, List.mem_cons_of_mem _ hother, hworth⟩

/-- For a candidate deferred for the budget there was no room after those before it. -/
theorem exhausted (h : PortfolioWalk scan policy term constraints foregroundClear progress ranked
    after decisions) {before later : List ReconsiderationDecision}
    {decision : ReconsiderationDecision} (hsplit : decisions = before ++ decision :: later)
    (hreason : decision.causalReason = budgetExhausted) :
    ∃ first candidate rest middle, ranked = first ++ candidate :: rest ∧
      decision.candidateId = candidate.candidateId ∧
      PortfolioWalk scan policy term constraints foregroundClear progress first middle before ∧
      LeavesNoRoom scan middle candidate.costs := by
  induction h generalizing before with
  | nil => simp at hsplit
  | @cons progress next after candidate ranked given decisions first walk ih =>
    cases before with
    | nil =>
      rw [List.nil_append] at hsplit
      obtain ⟨rfl, rfl⟩ := List.cons.inj hsplit
      refine ⟨[], candidate, ranked, progress, rfl, first.id_eq, .nil progress, ?_⟩
      cases first with
      | exhausted _ _ _ hroom => exact hroom
      | selected _ _ _ hother | stopped _ _ _ hother => exact absurd hreason hother
    | cons earlier before =>
      rw [List.cons_append] at hsplit
      obtain ⟨rfl, hrest⟩ := List.cons.inj hsplit
      obtain ⟨others, other, rest, middle, hranked, hid, hwalk, hroom⟩ := ih hrest
      exact ⟨candidate :: others, other, rest, middle, by rw [hranked]; rfl, hid,
        .cons first hwalk, hroom⟩

end PortfolioWalk

end WalkLemmas

/-! ### The loop is a walk -/

/-- The reasons of the gates are texts, none of them that of the budget. -/
theorem hardGates_reason {candidate : ReconsiderationCandidate} {featuresCurrent clear : Bool}
    {gate : HardGateOutcome} (h : gate ∈ hardGates candidate featuresCurrent clear) :
    blank gate.reason = false ∧ gate.reason ≠ budgetExhausted := by
  have hone : ∀ {name pass fail : String} {passed : Bool},
      blank pass = false ∧ pass ≠ budgetExhausted → blank fail = false ∧ fail ≠ budgetExhausted →
      blank (hardGate name passed pass fail).reason = false ∧
        (hardGate name passed pass fail).reason ≠ budgetExhausted := by
    intro name pass fail passed hpass hfail
    unfold hardGate
    by_cases hpassed : passed = true
    · rwa [if_pos hpassed]
    · rwa [if_neg hpassed]
  simp only [hardGates, List.mem_cons, List.not_mem_nil, or_false] at h
  rcases h with rfl | rfl | rfl | rfl
  all_goals exact hone (by decide) (by decide)

theorem terminalReason_ok {constraint reason : String} (h : terminalReason constraint = .ok reason) :
    blank reason = false ∧ reason ≠ budgetExhausted := by
  unfold terminalReason at h
  split at h
  · obtain rfl := Except.ok.inj h
    decide
  · obtain rfl := Except.ok.inj h
    decide
  · cases h

section Loop
variable {scan : ReconsiderationScanRequest} {policy : ReconsiderationPolicySnapshot}
  {terms : ReconsiderationTerms} {foregroundClear : Bool} {progress next : AllocationProgress}
  {candidate : ReconsiderationCandidate} {decision : ReconsiderationDecision}

theorem makeDecision_ok {A : AllocationArithmetic} {gates : List HardGateOutcome}
    {label : AllocationLabel} {reason : String} {binding : Option String}
    (h : makeDecision A terms gates candidate label reason binding = .ok decision) :
    decision = { candidateId := candidate.candidateId, label, expectedBenefit := terms.benefit
                 totalCost := terms.cost, netVoc := terms.netVoc, hardGates := gates
                 causalReason := reason, bindingConstraint := binding } := by
  obtain ⟨_, -, hmade⟩ := bind_eq_ok h
  exact (Except.ok.inj hmade).symm

/-- The interruption of a snapshot against a bound. -/
theorem interruption_atMost (r : ScarceCognitionCostSnapshot) {bound : PyFloat}
    (hbound : ∃ q, 0 ≤ q ∧ bound = .finite q) :
    r.interruptionUnits.atMost (FloatArithmetic.rational.plus bound
      (FloatArithmetic.rational.literal (1 / 10 ^ 12))) = true ↔
      r.amount .interruption ≤ bound.number + 1 / 10 ^ 12 := by
  obtain ⟨q, -, rfl⟩ := hbound
  have hunits : r.interruptionUnits = .finite (r.amount .interruption) := (r.units_eq .interruption).1
  rw [hunits]
  exact decide_eq_true_iff

/-- **What does not fit finds no room.** -/
theorem leavesNoRoom_of (hscan : ∃ q, 0 ≤ q ∧ scan.maximumInterruptionUnits = .finite q)
    (h : scan.budget.maxCandidates ≤ progress.selectedCount ∨
      (progress.consumed.sum candidate.costs).fitsWith .rational scan.budget.ceiling = false ∨
      (!(progress.consumed.sum candidate.costs).interruptionUnits.atMost
        (FloatArithmetic.rational.plus scan.maximumInterruptionUnits
          (FloatArithmetic.rational.literal (1 / 10 ^ 12)))) = true) :
    LeavesNoRoom scan progress candidate.costs := by
  have htolerance : (1 / 2 / 10 ^ 12 : ℚ) < 1 / 10 ^ 12 := by norm_num
  have herror (dimension : ScarceDimension) := (abs_le.mp (abs_round12_sub_le
    (progress.consumed.amount dimension + candidate.costs.amount dimension))).2
  rcases h with hslots | hceiling | hinterruption
  · exact .inl hslots
  · have hdimension : ∃ dimension,
        ¬ (progress.consumed.sum candidate.costs).amount dimension ≤
          scan.budget.ceiling.amount dimension + 1 / 10 ^ 12 := by
      by_contra hall
      have hfits := (ScarceCognitionCostSnapshot.fitsWith_rational _ _).mpr
        fun dimension => not_not.mp fun hnot => hall ⟨dimension, hnot⟩
      rw [hceiling] at hfits
      cases hfits
    obtain ⟨dimension, hmore⟩ := hdimension
    rw [ScarceCognitionCostSnapshot.amount_sum, not_le] at hmore
    have hdrift := herror dimension
    exact .inr (.inl ⟨dimension, by linarith⟩)
  · rw [Bool.not_eq_true', ← Bool.not_eq_true, interruption_atMost _ hscan,
      ScarceCognitionCostSnapshot.amount_sum, not_le] at hinterruption
    have hdrift := herror .interruption
    exact .inr (.inr (by linarith))

/-- What fits stays within the bounds of the scan. -/
theorem fitsScan_of (hscan : ∃ q, 0 ≤ q ∧ scan.maximumInterruptionUnits = .finite q)
    (h : ¬ (scan.budget.maxCandidates ≤ progress.selectedCount ∨
      (progress.consumed.sum candidate.costs).fitsWith .rational scan.budget.ceiling = false ∨
      (!(progress.consumed.sum candidate.costs).interruptionUnits.atMost
        (FloatArithmetic.rational.plus scan.maximumInterruptionUnits
          (FloatArithmetic.rational.literal (1 / 10 ^ 12)))) = true)) :
    FitsScan scan (progressFrom progress [candidate]) := by
  rw [not_or, not_or, not_le, Bool.not_eq_false, Bool.not_eq_true', Bool.not_eq_false,
    interruption_atMost _ hscan] at h
  obtain ⟨hslots, hceiling, hinterruption⟩ := h
  refine ⟨hceiling, hinterruption, ?_⟩
  simp only [progressFrom, List.length_singleton]
  push_cast
  omega

/-- A decision by the gates and the budget is a step of the walk. -/
theorem decideByBudget_walk (hscan : ∃ q, 0 ≤ q ∧ scan.maximumInterruptionUnits = .finite q)
    (h : decideByBudgetWith .rational scan policy terms
      (hardGates candidate terms.featuresCurrent foregroundClear) progress candidate =
        .ok (next, decision)) :
    CandidateDecided scan policy terms none foregroundClear progress candidate next decision := by
  unfold decideByBudgetWith at h
  dsimp only at h
  cases hfailed : (hardGates candidate terms.featuresCurrent foregroundClear).find?
      fun gate => gate.passed = false with
  | some failed =>
    rw [hfailed] at h
    obtain ⟨made, hmade, h⟩ := bind_eq_ok h
    obtain ⟨rfl, rfl⟩ := Prod.mk.inj (Except.ok.inj h)
    obtain rfl := makeDecision_ok hmade
    refine .stopped _ ?_ rfl (hardGates_reason (List.mem_of_find?_eq_some hfailed)).2
    dsimp only
    split_ifs <;> decide
  | none =>
    rw [hfailed] at h
    dsimp only at h
    have hgates : ∀ gate ∈ hardGates candidate terms.featuresCurrent foregroundClear,
        gate.passed = true := by
      intro gate hgate
      have hpassed := List.find?_eq_none.mp hfailed gate hgate
      simpa using hpassed
    split_ifs at h with hvalue
    · obtain ⟨made, hmade, h⟩ := bind_eq_ok h
      obtain ⟨rfl, rfl⟩ := Prod.mk.inj (Except.ok.inj h)
      obtain rfl := makeDecision_ok hmade
      exact .stopped _ (fun hlabel => nomatch hlabel) rfl (by dsimp only; decide)
    · have hworth : Worthwhile policy terms none foregroundClear candidate :=
        ⟨rfl, hgates, Bool.eq_false_iff.mpr hvalue⟩
      have hplus : progress.consumed.plusWith AllocationArithmetic.rational.toFloatArithmetic
          candidate.costs = .ok (progress.consumed.sum candidate.costs) :=
        ScarceCognitionCostSnapshot.plusWith_rational _ _
      rw [hplus, ok_bind] at h
      split_ifs at h with hbound hexceeded
      · obtain ⟨made, hmade, h⟩ := bind_eq_ok h
        obtain ⟨rfl, rfl⟩ := Prod.mk.inj (Except.ok.inj h)
        obtain rfl := makeDecision_ok hmade
        exact .exhausted _ (fun hlabel => nomatch hlabel) rfl (leavesNoRoom_of hscan hbound)
      · obtain ⟨made, hmade, h⟩ := bind_eq_ok h
        obtain ⟨rfl, rfl⟩ := Prod.mk.inj (Except.ok.inj h)
        obtain rfl := makeDecision_ok hmade
        exact .exhausted _ (fun hlabel => nomatch hlabel) rfl (leavesNoRoom_of hscan hbound)
      · obtain ⟨made, hmade, h⟩ := bind_eq_ok h
        obtain ⟨rfl, rfl⟩ := Prod.mk.inj (Except.ok.inj h)
        obtain rfl := makeDecision_ok hmade
        exact .selected _ rfl rfl (by dsimp only; decide) hworth (fitsScan_of hscan hbound)

theorem decideCandidate_walk {constraint : Option String}
    (hscan : ∃ q, 0 ≤ q ∧ scan.maximumInterruptionUnits = .finite q)
    (h : decideCandidateWith .rational scan policy terms constraint foregroundClear progress
      candidate = .ok (next, decision)) :
    CandidateDecided scan policy terms constraint foregroundClear progress candidate next
      decision := by
  cases constraint with
  | none => exact decideByBudget_walk hscan h
  | some constraint =>
    obtain ⟨reason, hreason, h⟩ := bind_eq_ok h
    obtain ⟨made, hmade, h⟩ := bind_eq_ok h
    obtain ⟨rfl, rfl⟩ := Prod.mk.inj (Except.ok.inj h)
    obtain rfl := makeDecision_ok hmade
    exact .stopped _ (fun hlabel => nomatch hlabel) rfl (terminalReason_ok hreason).2

/-- **The loop is a walk.** -/
theorem decidePortfolio_walk {term : ReconsiderationCandidate → ReconsiderationTerms}
    {constraints : Dict String} {ranked : List ReconsiderationCandidate}
    {after : AllocationProgress} {decisions : List ReconsiderationDecision}
    (hscan : ∃ q, 0 ≤ q ∧ scan.maximumInterruptionUnits = .finite q)
    (h : decidePortfolioWith .rational scan policy term constraints foregroundClear progress ranked =
      .ok (after, decisions)) :
    PortfolioWalk scan policy term constraints foregroundClear progress ranked after decisions := by
  induction ranked generalizing progress decisions with
  | nil =>
    obtain ⟨rfl, rfl⟩ := Prod.mk.inj (Except.ok.inj h)
    exact .nil _
  | cons candidate ranked ih =>
    obtain ⟨⟨next, decision⟩, hnext, h⟩ := bind_eq_ok h
    obtain ⟨⟨last, rest⟩, hrest, h⟩ := bind_eq_ok h
    obtain ⟨rfl, rfl⟩ := Prod.mk.inj (Except.ok.inj h)
    exact .cons (decideCandidate_walk hscan hnext) (ih hrest)

end Loop

/-! ### The loop raises nothing on what is checked -/

/-- A number that is not negative. -/
def IsAmount (value : PyFloat) : Prop := ∃ q, 0 ≤ q ∧ value = .finite q

theorem isAmount_of_bounded {value : PyFloat} {name : String} {answer : Unit}
    (h : requireBounded value name = .ok answer) : IsAmount value := by
  unfold requireBounded at h
  split at h
  · rename_i q
    split_ifs at h with hq
    exact ⟨q, hq.1, rfl⟩
  · cases h

/-- Weighted amounts sum to an amount. -/
theorem isAmount_sum {values weights : List PyFloat} (hvalues : ∀ value ∈ values, IsAmount value)
    (hweights : ∀ weight ∈ weights, IsAmount weight) :
    IsAmount (AllocationArithmetic.rational.sum
      (List.zipWith AllocationArithmetic.rational.times values weights)) := by
  have hfrom : ∀ start, IsAmount start → IsAmount
      ((List.zipWith AllocationArithmetic.rational.times values weights).foldl
        (FloatArithmetic.exactly (· + ·)) start) := by
    induction values generalizing weights with
    | nil =>
      intro start hstart
      exact hstart
    | cons value values ih =>
      intro start hstart
      cases weights with
      | nil => exact hstart
      | cons weight weights =>
        obtain ⟨hvalue, hothers⟩ := List.forall_mem_cons.mp hvalues
        obtain ⟨hweight, hrest⟩ := List.forall_mem_cons.mp hweights
        obtain ⟨s, hs, rfl⟩ := hstart
        obtain ⟨v, hv, rfl⟩ := hvalue
        obtain ⟨w, hw, rfl⟩ := hweight
        rw [List.zipWith_cons_cons, List.foldl_cons]
        exact ih hothers hrest _ ⟨s + v * w, by positivity, rfl⟩
  exact hfrom _ ⟨0, le_rfl, rfl⟩

theorem isAmount_rounded {value : PyFloat} (h : IsAmount value) :
    IsAmount (AllocationArithmetic.rational.rounded value) := by
  obtain ⟨q, hq, rfl⟩ := h
  exact ⟨round12 q, round12_nonneg hq, rfl⟩

/-- The records of a call, as their constructors let them through. -/
structure PortfolioChecked (ids : ReconsiderationIds) (scan : ReconsiderationScanRequest)
    (policy : ReconsiderationPolicySnapshot) (candidates : List ReconsiderationCandidate)
    (derivedInformationId : String) (foregroundDemandRefs : List String) : Prop where
  scan_checked : scan.check ids = .ok ()
  budget_checked : scan.budget.check ids = .ok ()
  policy_checked : policy.check ids = .ok ()
  candidates_checked : ∀ candidate ∈ candidates, candidate.check ids = .ok ()
  features_checked : ∀ candidate ∈ candidates, candidate.features.check = .ok ()
  estimates_checked : ∀ candidate ∈ candidates, ∀ estimate ∈ candidate.features.estimates,
    estimate.check = .ok ()
  derived_checked : isOpaqueId derivedInformationId = true
  foreground_checked : ∀ ref ∈ foregroundDemandRefs, blank ref = false

/-- What the allocator asks before it ranks anything. -/
structure PortfolioAdmitted (scan : ReconsiderationScanRequest)
    (policy : ReconsiderationPolicySnapshot) (candidates : List ReconsiderationCandidate)
    (terminalConstraints : Dict String) : Prop where
  allocator_supported : policy.allocatorId = stableReconsiderationAllocatorId ∧
    policy.allocatorVersion = stableReconsiderationAllocatorVersion
  policy_pinned : scan.policyId = policy.policyId
  some_candidate : candidates ≠ []
  scanned : ∀ candidate ∈ candidates, ∃ input ∈ scan.candidateInputs,
    input.candidateId = candidate.candidateId
  present : ∀ input ∈ scan.candidateInputs, ∃ candidate ∈ candidates,
    candidate.candidateId = input.candidateId
  candidates_unique : (candidates.map ReconsiderationCandidate.candidateId).Nodup
  constrained : ∀ row ∈ terminalConstraints.rows, ∃ candidate ∈ candidates,
    candidate.candidateId = row.1

section Total
variable {ids : ReconsiderationIds} {scan : ReconsiderationScanRequest}
  {policy : ReconsiderationPolicySnapshot} {candidates : List ReconsiderationCandidate}
  {derivedInformationId : String} {foregroundDemandRefs : List String}
  {terminalConstraints : Dict String} {allocatedAt : Datetime}
  {candidate : ReconsiderationCandidate}

theorem PortfolioChecked.interruption
    (h : PortfolioChecked ids scan policy candidates derivedInformationId foregroundDemandRefs) :
    IsAmount scan.maximumInterruptionUnits := by
  have hscan := h.scan_checked
  simp only [ReconsiderationScanRequest.check, bind_ok_iff] at hscan
  obtain ⟨_, -, _, -, _, -, _, hinterruption, -⟩ := hscan
  exact requireNonNegative_iff.mp hinterruption

theorem PortfolioChecked.minimum
    (h : PortfolioChecked ids scan policy candidates derivedInformationId foregroundDemandRefs) :
    IsAmount policy.minimumNetVoc := by
  have hpolicy := h.policy_checked
  simp only [ReconsiderationPolicySnapshot.check, bind_ok_iff] at hpolicy
  obtain ⟨_, -, _, -, _, -, _, -, _, -, _, hminimum, -⟩ := hpolicy
  exact requireNonNegative_iff.mp hminimum

theorem PortfolioChecked.weights
    (h : PortfolioChecked ids scan policy candidates derivedInformationId foregroundDemandRefs) :
    (∀ weight ∈ policy.featureWeights.values, IsAmount weight) ∧
      ∀ weight ∈ policy.costWeights.values, IsAmount weight := by
  have hpolicy := h.policy_checked
  simp only [ReconsiderationPolicySnapshot.check, bind_ok_iff] at hpolicy
  obtain ⟨_, -, _, -, _, -, _, -, _, hweights, -⟩ := hpolicy
  have hamount : ∀ weight ∈ policy.featureWeights.values ++ policy.costWeights.values,
      IsAmount weight := fun weight hweight =>
    requireNonNegative_iff.mp (forM_ok hweights weight hweight)
  exact ⟨fun weight hweight => hamount weight (List.mem_append_left _ hweight),
    fun weight hweight => hamount weight (List.mem_append_right _ hweight)⟩

/-- An estimate that is missing counts nothing. -/
theorem isAmount_estimatedValue {estimate : Option EvidenceBackedEstimate}
    (h : ∀ known, estimate = some known → known.check = .ok ()) :
    IsAmount (estimatedValue estimate) := by
  cases estimate with
  | none => exact ⟨0, le_rfl, rfl⟩
  | some known =>
    obtain ⟨_, hvalue, -⟩ := bind_eq_ok (h known rfl)
    exact isAmount_of_bounded hvalue

theorem isAmount_feature {features : ReconsiderationFeatureSnapshot}
    (h : features.check = .ok ()) (h' : ∀ estimate ∈ features.estimates, estimate.check = .ok ()) :
    ∀ value ∈ features.values, IsAmount value := by
  simp only [ReconsiderationFeatureSnapshot.check, bind_ok_iff] at h
  obtain ⟨_, h1, _, h2, _, h3, _, h4, _, h5, -⟩ := h
  have hestimate : ∀ estimate : Option EvidenceBackedEstimate,
      estimate ∈ [features.valueAlignmentEstimate, features.expectedOutcomeValue,
        features.motivationEstimate] → IsAmount (estimatedValue estimate) := by
    intro estimate hestimate
    refine isAmount_estimatedValue fun known hknown => h' known ?_
    exact List.mem_filterMap.mpr ⟨estimate, hestimate, hknown⟩
  simp only [ReconsiderationFeatureSnapshot.values, List.forall_mem_cons, List.not_mem_nil,
    false_implies, implies_true, and_true]
  exact ⟨isAmount_of_bounded h1, isAmount_of_bounded h2, isAmount_of_bounded h3,
    isAmount_of_bounded h4, isAmount_of_bounded h5, hestimate _ (by simp), hestimate _ (by simp),
    hestimate _ (by simp)⟩

theorem isAmount_cost (costs : ScarceCognitionCostSnapshot) :
    ∀ value ∈ costs.values, IsAmount value := by
  intro value hvalue
  rw [ScarceCosts.values_eq] at hvalue
  obtain ⟨dimension, -, rfl⟩ := List.mem_map.mp hvalue
  exact ⟨_, (costs.units_eq dimension).2, (costs.units_eq dimension).1⟩

/-- Benefit and cost are amounts, and the net value is their rounded difference. -/
structure TermsSound (terms : ReconsiderationTerms) : Prop where
  benefit : IsAmount terms.benefit
  cost : IsAmount terms.cost
  net : terms.netVoc = AllocationArithmetic.rational.rounded
    (AllocationArithmetic.rational.minus terms.benefit terms.cost)

theorem TermsSound.isFinite {terms : ReconsiderationTerms} (h : TermsSound terms) :
    ∃ q, terms.netVoc = .finite q := by
  obtain ⟨b, -, hb⟩ := h.benefit
  obtain ⟨c, -, hc⟩ := h.cost
  refine ⟨round12 (b - c), ?_⟩
  rw [h.net, hb, hc]
  rfl

/-- **The terms of an admitted candidate are sound.** -/
theorem reconsiderationTerms_sound
    (h : PortfolioChecked ids scan policy candidates derivedInformationId foregroundDemandRefs)
    (hmem : candidate ∈ candidates) :
    TermsSound (reconsiderationTermsWith .rational candidate policy allocatedAt) where
  benefit := isAmount_rounded (isAmount_sum
    (isAmount_feature (h.features_checked _ hmem) (h.estimates_checked _ hmem)) h.weights.1)
  cost := isAmount_rounded (isAmount_sum (isAmount_cost candidate.costs) h.weights.2)
  net := rfl

/-- Sound terms make a decision. -/
theorem makeDecision_of {terms : ReconsiderationTerms} {gates : List HardGateOutcome}
    {label : AllocationLabel} {reason : String} {binding : Option String} (hterms : TermsSound terms)
    (hid : blank candidate.candidateId = false) (hgates : gates ≠ [])
    (hreason : blank reason = false) :
    ∃ decision, makeDecision .rational terms gates candidate label reason binding =
      .ok decision := by
  obtain ⟨q, hq⟩ := hterms.isFinite
  have hfinite : ¬ terms.netVoc.isFinite = false := by
    rw [hq]
    exact Bool.noConfusion
  let decision : ReconsiderationDecision :=
    { candidateId := candidate.candidateId, label, expectedBenefit := terms.benefit
      totalCost := terms.cost, netVoc := terms.netVoc, hardGates := gates, causalReason := reason
      bindingConstraint := binding }
  have hamount : ∀ value name, IsAmount value → requireNonNegative value name = .ok () :=
    fun _ _ hvalue => requireNonNegative_iff.mpr hvalue
  have hcheck : decision.checkWith .rational = .ok () := by
    rw [ReconsiderationDecision.checkWith, requireText_of hid, ok_bind,
      hamount _ _ hterms.benefit, ok_bind, hamount _ _ hterms.cost, ok_bind, refuse_of hfinite,
      ok_bind, refuse_of (not_not.mpr hterms.net.symm), ok_bind, refuse_of hgates, ok_bind,
      requireText_of hreason]
  exact ⟨decision, bind_of_ok hcheck _⟩

/-- **A candidate that no unknown constraint stops is decided on.** -/
theorem decideCandidate_total {terms : ReconsiderationTerms} {constraint : Option String}
    {foregroundClear : Bool} {progress : AllocationProgress} (hterms : TermsSound terms)
    (hid : blank candidate.candidateId = false)
    (hknown : ∀ kind, constraint = some kind → ∃ reason, terminalReason kind = .ok reason) :
    ∃ next decision, decideCandidateWith .rational scan policy terms constraint foregroundClear
      progress candidate = .ok (next, decision) := by
  have hmake {gates : List HardGateOutcome} {label : AllocationLabel} {reason : String}
      {binding : Option String} (hgates : gates ≠ []) (hreason : blank reason = false) :=
    @makeDecision_of candidate terms gates label reason binding hterms hid hgates hreason
  cases constraint with
  | some kind =>
    obtain ⟨reason, hreason⟩ := hknown kind rfl
    obtain ⟨decision, hdecision⟩ := @hmake [⟨"allocation_legality", false, reason⟩] .suppressed
      reason (some kind) (List.cons_ne_nil _ _) (terminalReason_ok hreason).1
    refine ⟨progress, decision, ?_⟩
    simp only [decideCandidateWith, hreason, ok_bind, hdecision]
    rfl
  | none =>
    let gates := hardGates candidate terms.featuresCurrent foregroundClear
    have hgates : gates ≠ [] := List.cons_ne_nil _ _
    simp only [decideCandidateWith, decideByBudgetWith]
    cases hfailed : (hardGates candidate terms.featuresCurrent foregroundClear).find?
        fun gate => gate.passed = false with
    | some failed =>
      obtain ⟨decision, hdecision⟩ := @hmake gates
        (if failed.gate = "foreground_preemption" then .deferredByConstraint else .suppressed)
        failed.reason (some failed.gate) hgates
        (hardGates_reason (List.mem_of_find?_eq_some hfailed)).1
      exact ⟨progress, decision, bind_of_ok hdecision _⟩
    | none =>
      dsimp only
      split_ifs with hvalue
      · obtain ⟨decision, hdecision⟩ := @hmake gates .suppressed
          "NetVOC is not positive under the pinned policy" (some "minimum_net_voc") hgates
          (by decide)
        exact ⟨progress, decision, bind_of_ok hdecision _⟩
      · have hplus : progress.consumed.plusWith AllocationArithmetic.rational.toFloatArithmetic
            candidate.costs = .ok (progress.consumed.sum candidate.costs) :=
          ScarceCognitionCostSnapshot.plusWith_rational _ _
        rw [hplus, ok_bind]
        split_ifs with hbound hexceeded
        · obtain ⟨decision, hdecision⟩ := @hmake gates .deferredByConstraint
            "finite scarce-cognition budget is exhausted" (some "maximum_interruption_units")
            hgates (by decide)
          exact ⟨progress, decision, bind_of_ok hdecision _⟩
        · obtain ⟨decision, hdecision⟩ := @hmake gates .deferredByConstraint
            "finite scarce-cognition budget is exhausted" _ hgates (by decide)
          exact ⟨progress, decision, bind_of_ok hdecision _⟩
        · obtain ⟨decision, hdecision⟩ := @hmake gates .selected
            "positive NetVOC fits every hard scarce-cognition ceiling" none hgates (by decide)
          exact ⟨_, decision, bind_of_ok hdecision _⟩

/-- **The loop raises nothing** on sound terms and known constraints. -/
theorem decidePortfolio_total {term : ReconsiderationCandidate → ReconsiderationTerms}
    {constraints : Dict String} {foregroundClear : Bool} {ranked : List ReconsiderationCandidate}
    {progress : AllocationProgress} (hterms : ∀ candidate ∈ ranked, TermsSound (term candidate))
    (hids : ∀ candidate ∈ ranked, blank candidate.candidateId = false)
    (hknown : ∀ key kind, constraints.get? key = some kind →
      ∃ reason, terminalReason kind = .ok reason) :
    ∃ after decisions, decidePortfolioWith .rational scan policy term constraints foregroundClear
      progress ranked = .ok (after, decisions) := by
  induction ranked generalizing progress with
  | nil => exact ⟨progress, [], rfl⟩
  | cons candidate ranked ih =>
    obtain ⟨hterm, hterms⟩ := List.forall_mem_cons.mp hterms
    obtain ⟨hid, hids⟩ := List.forall_mem_cons.mp hids
    obtain ⟨next, decision, hnext⟩ := @decideCandidate_total scan policy candidate
      (term candidate) (constraints.get? candidate.candidateId) foregroundClear progress hterm hid
      (hknown candidate.candidateId)
    obtain ⟨after, decisions, hrest⟩ := @ih next hterms hids
    refine ⟨after, decision :: decisions, ?_⟩
    simp only [decidePortfolioWith, hnext, ok_bind, hrest]
    rfl

end Total

end Noema
