import Mathlib.Data.Prod.Lex
import Mathlib.Data.String.Basic
import Noema.EndogenousPolicy
import Noema.ReconsiderationPayloads

/-!
# The allocation of scarce cognition

The allocator goes through the candidates from the most valuable on.  It suppresses or
defers those that a terminal constraint or a hard gate stops, and selects each of the others
that still fits the scan's budget: so what it selected fits the budget
(`allocateReconsideration_fits`), and neither a constrained candidate nor one beside
foreground demand is selected (`allocateReconsideration_selected`).
-/
namespace Noema

section Terms

variable (floatSum : List PyFloat → PyFloat)

/-- What `_terms` computes of a candidate. -/
structure ReconsiderationTerms where
  benefit : PyFloat
  cost : PyFloat
  netVoc : PyFloat
  featuresCurrent : Bool

/-- `value.value if value is not None else 0.0`. -/
def estimatedValue (estimate : Option EvidenceBackedEstimate) : PyFloat :=
  match estimate with
  | some estimate => estimate.value
  | none => .finite 0

/-- The features as numbers, in the order of their weights. -/
def ReconsiderationFeatureSnapshot.values (features : ReconsiderationFeatureSnapshot) :
    List PyFloat :=
  [features.unresolvedness, features.evidenceFreshness, features.meaningfulNewEvidence,
   features.opportunityWindow, features.currentBasisValidity,
   estimatedValue features.valueAlignmentEstimate, estimatedValue features.expectedOutcomeValue,
   estimatedValue features.motivationEstimate]

/-- `_terms`. -/
def reconsiderationTerms (candidate : ReconsiderationCandidate)
    (policy : ReconsiderationPolicySnapshot) (at' : Datetime) : ReconsiderationTerms :=
  let benefit :=
    (floatSum (List.zipWith .times candidate.features.values policy.featureWeights.values)).rounded
  let cost := (floatSum (List.zipWith .times candidate.costs.values policy.costWeights.values)).rounded
  { benefit, cost
    netVoc := (benefit.minus cost).rounded
    featuresCurrent := candidate.features.estimates.all fun estimate =>
      at'.instant < estimate.validUntil.instant }

/-- The key by which the candidates are ranked. -/
def allocationKey (candidate : ReconsiderationCandidate) (terms : ReconsiderationTerms) :
    ℚ ×ₗ ℚ ×ₗ ℚ ×ₗ String :=
  toLex (-terms.netVoc.number, toLex (-candidate.features.opportunityWindow.number,
    toLex (-candidate.features.meaningfulNewEvidence.number, candidate.candidateId)))

end Terms

/-- `ensure_allocator_supported`. -/
def ensureAllocatorSupported (policy : ReconsiderationPolicySnapshot) : Except PyError Unit :=
  refuse (policy.allocatorId ≠ stableReconsiderationAllocatorId ∨
      policy.allocatorVersion ≠ stableReconsiderationAllocatorVersion)
    s!"unsupported reconsideration allocator: {policy.allocatorId} v{policy.allocatorVersion}"

/-- `terminal_reasons`. -/
def terminalReason : String → Except PyError String
  | "basis_no_longer_current" =>
    .ok "current cognitive basis is no longer valid at the allocation head"
  | "candidate_already_selected" =>
    .ok "candidate was already selected by a prior canonical allocation"
  | constraint => .error (.valueError s!"unsupported allocation terminal constraint: {constraint}")

/-- A gate with one reason to pass and one to fail. -/
def hardGate (gate : String) (passed : Bool) (pass fail : String) : HardGateOutcome :=
  ⟨gate, passed, if passed then pass else fail⟩

/-- `gates`. -/
def hardGates (candidate : ReconsiderationCandidate) (featuresCurrent foregroundClear : Bool) :
    List HardGateOutcome :=
  [hardGate "current_basis" (!candidate.features.currentBasisValidity.atMost (.finite 0))
     "current cognitive basis is valid" "current cognitive basis is invalid",
   hardGate "critical_features" candidate.features.criticalFeaturesKnown
     "critical estimates are explicit and provenance-bearing"
     "one or more critical estimates are unknown",
   hardGate "feature_freshness" featuresCurrent "all estimate evidence is temporally valid"
     "one or more estimates are stale",
   hardGate "foreground_preemption" foregroundClear "no foreground demand is pinned by the scan"
     "foreground demand preempts reconsideration"]

/-- What is consumed, and how many candidates are selected. -/
structure AllocationProgress where
  consumed : ScarceCognitionCostSnapshot
  selectedCount : Nat

/-- `_binding_budget_dimension`, with what would be consumed. -/
def bindingBudgetDimension (proposed : ScarceCognitionCostSnapshot)
    (budget : ScarceCognitionBudget) (selectedCount : Nat) : String :=
  if budget.maxCandidates ≤ selectedCount then "max_candidates"
  else match (proposed.named.zip budget.ceiling.values).find? fun (named, limit) =>
      !named.2.atMost (limit.plus .tolerance) with
    | some (named, _) => named.1
    | none => "scarce_cognition_budget"

section Allocation

variable (scan : ReconsiderationScanRequest) (policy : ReconsiderationPolicySnapshot)

/-- The decision on a candidate that no terminal constraint stops. -/
def decideByBudget (terms : ReconsiderationTerms) (gates : List HardGateOutcome)
    (progress : AllocationProgress) (candidate : ReconsiderationCandidate) :
    Except PyError (AllocationProgress × ReconsiderationDecision) := do
  let decision (label : AllocationLabel) (causalReason : String)
      (bindingConstraint : Option String) : Except PyError ReconsiderationDecision :=
    constructed ReconsiderationDecision.check
      { candidateId := candidate.candidateId, label, expectedBenefit := terms.benefit
        totalCost := terms.cost, netVoc := terms.netVoc, hardGates := gates, causalReason
        bindingConstraint }
  match gates.find? fun gate => gate.passed = false with
  | some failed =>
    let label := if failed.gate = "foreground_preemption" then .deferredByConstraint else .suppressed
    return (progress, ← decision label failed.reason failed.gate)
  | none =>
    if terms.netVoc.atMost policy.minimumNetVoc = true then
      return (progress, ← decision .suppressed "NetVOC is not positive under the pinned policy"
        "minimum_net_voc")
    else
      let proposed ← progress.consumed.plus candidate.costs
      let interruptionExceeded := !proposed.interruptionUnits.atMost
        (scan.maximumInterruptionUnits.plus .tolerance)
      if scan.budget.maxCandidates ≤ progress.selectedCount ∨
          proposed.fitsWithin scan.budget.ceiling = false ∨ interruptionExceeded = true then
        let constraint := if interruptionExceeded then "maximum_interruption_units"
          else bindingBudgetDimension proposed scan.budget progress.selectedCount
        return (progress, ← decision .deferredByConstraint
          "finite scarce-cognition budget is exhausted" constraint)
      else
        return (⟨proposed, progress.selectedCount + 1⟩, ← decision .selected
          "positive NetVOC fits every hard scarce-cognition ceiling" none)

/-- The decision on the next candidate. -/
def decideCandidate (terms : ReconsiderationTerms) (constraint : Option String)
    (foregroundClear : Bool) (progress : AllocationProgress)
    (candidate : ReconsiderationCandidate) :
    Except PyError (AllocationProgress × ReconsiderationDecision) :=
  match constraint with
  | some constraint => do
    let reason ← terminalReason constraint
    let decision ← constructed ReconsiderationDecision.check
      { candidateId := candidate.candidateId, label := .suppressed
        expectedBenefit := terms.benefit, totalCost := terms.cost, netVoc := terms.netVoc
        hardGates := [⟨"allocation_legality", false, reason⟩], causalReason := reason
        bindingConstraint := some constraint }
    return (progress, decision)
  | none =>
    decideByBudget scan policy terms (hardGates candidate terms.featuresCurrent foregroundClear)
      progress candidate

/-- The loop over the ranked candidates. -/
def decidePortfolio (terms : ReconsiderationCandidate → ReconsiderationTerms)
    (constraints : Dict String) (foregroundClear : Bool) :
    AllocationProgress → List ReconsiderationCandidate →
      Except PyError (AllocationProgress × List ReconsiderationDecision)
  | progress, [] => .ok (progress, [])
  | progress, candidate :: ranked => do
    let (progress, decision) ← decideCandidate scan policy (terms candidate)
      (constraints.get? candidate.candidateId) foregroundClear progress candidate
    let (progress, decisions) ← decidePortfolio terms constraints foregroundClear progress ranked
    return (progress, decision :: decisions)

/-- `allocate_reconsideration`. -/
def allocateReconsideration (b : ReconsiderationBuiltins)
    (candidates : List ReconsiderationCandidate) (derivedInformationId : String)
    (foregroundDemandRefs : List String) (terminalConstraints : Dict String)
    (allocatedAt : Datetime) : Except PyError ReconsiderationAllocation := do
  ensureAllocatorSupported policy
  refuse (scan.policyId ≠ policy.policyId)
    "reconsideration scan does not pin the supplied policy"
  refuse (candidates = []) "reconsideration allocation requires candidates"
  let candidateIds := candidates.map ReconsiderationCandidate.candidateId
  let inputIds := scan.candidateInputs.map ReconsiderationCandidateInput.candidateId
  refuse ((∃ id ∈ candidateIds, id ∉ inputIds) ∨ ∃ id ∈ inputIds, id ∉ candidateIds)
    "reconsideration candidates differ from the scan portfolio"
  refuse (¬candidateIds.Nodup) "reconsideration candidates must be unique"
  refuse (∃ row ∈ terminalConstraints.rows, row.1 ∉ candidateIds)
    "allocation terminal constraints reference unknown candidates"
  let terms (candidate : ReconsiderationCandidate) :=
    reconsiderationTerms b.floatSum candidate policy allocatedAt
  let ranked := candidates.insertionSort fun a c => allocationKey a (terms a) ≤ allocationKey c (terms c)
  let (progress, decisions) ← decidePortfolio scan policy terms terminalConstraints
    foregroundDemandRefs.isEmpty ⟨.zero, 0⟩ ranked
  let remaining ← scan.budget.ceiling.minus progress.consumed
  ReconsiderationAllocation.create b.reconsiderationIds
    { derivedInformationId, scanRequestId := scan.requestId, policyId := policy.policyId
      policyVersion := policy.version, budget := scan.budget, decisions
      consumedCandidates := progress.selectedCount, consumed := progress.consumed, remaining
      foregroundDemandRefs, allocatedAt }

variable {scan policy}

/-- Nothing at all fits within any ceiling. -/
theorem ScarceCognitionCostSnapshot.zero_fitsWithin (ceiling : ScarceCognitionCostSnapshot) :
    zero.fitsWithin ceiling = true := by
  have hnonneg : ∀ value ∈ ceiling.values, ∃ q, 0 ≤ q ∧ value = .finite q := by
    have hchecked := ceiling.checked
    unfold ScarceCosts.check at hchecked
    simp only [bind_ok_iff] at hchecked
    obtain ⟨_, h1, _, h2, _, h3, _, h4, _, h5, _, h6, _, h7, _, h8, _, h9, h10⟩ := hchecked
    simp only [ScarceCosts.values, ScarceCosts.named, List.map_cons, List.map_nil,
      List.forall_mem_cons, List.not_mem_nil, false_implies, implies_true, and_true]
    open CognitiveResourceVector in
    exact ⟨requireAmount_ok h1, requireAmount_ok h2, requireAmount_ok h3, requireAmount_ok h4,
      requireAmount_ok h5, requireAmount_ok h6, requireAmount_ok h7, requireAmount_ok h8,
      requireAmount_ok h9, requireAmount_ok h10⟩
  refine List.all_eq_true.mpr fun (value, limit) hmem => ?_
  obtain ⟨hvalue, hlimit⟩ := List.of_mem_zip hmem
  obtain ⟨q, hq, rfl⟩ := hnonneg limit hlimit
  have hzero : value = .finite 0 := by
    simpa [zero, ScarceCosts.values, ScarceCosts.named] using hvalue
  subst hzero
  exact PyFloat.zero_atMost_plus_tolerance hq

/-- What one decision keeps, and what it takes for a selection. -/
structure Decided (scan : ReconsiderationScanRequest) (progress after : AllocationProgress)
    (candidate : ReconsiderationCandidate) (decision : ReconsiderationDecision)
    (stopped : Prop) : Prop where
  candidateId : decision.candidateId = candidate.candidateId
  selected : decision.label = .selected → ¬stopped
  fits : progress.consumed.fitsWithin scan.budget.ceiling = true →
    after.consumed.fitsWithin scan.budget.ceiling = true

theorem decideByBudget_decided {terms : ReconsiderationTerms} {gates : List HardGateOutcome}
    {progress after : AllocationProgress} {candidate : ReconsiderationCandidate}
    {decision : ReconsiderationDecision}
    (h : decideByBudget scan policy terms gates progress candidate = .ok (after, decision)) :
    Decided scan progress after candidate decision (∃ gate ∈ gates, gate.passed = false) := by
  unfold decideByBudget at h
  dsimp only at h
  cases hfailed : gates.find? fun gate => gate.passed = false with
  | some failed =>
    rw [hfailed] at h
    obtain ⟨made, hmade, h⟩ := bind_eq_ok h
    cases h
    obtain ⟨_, -, hmade⟩ := bind_eq_ok hmade
    cases hmade
    refine ⟨rfl, fun hlabel => ?_, fun hfits => hfits⟩
    dsimp only at hlabel
    split_ifs at hlabel
  | none =>
    rw [hfailed] at h
    have hclear : ¬∃ gate ∈ gates, gate.passed = false := by
      rintro ⟨gate, hgate, hfail⟩
      exact List.find?_eq_none.mp hfailed gate hgate (decide_eq_true hfail)
    dsimp only at h
    split_ifs at h with hvalue
    · obtain ⟨made, hmade, h⟩ := bind_eq_ok h
      cases h
      obtain ⟨_, -, hmade⟩ := bind_eq_ok hmade
      cases hmade
      exact ⟨rfl, fun _ => hclear, fun hfits => hfits⟩
    · obtain ⟨proposed, -, h⟩ := bind_eq_ok h
      split_ifs at h with hbound hexceeded
      all_goals
        obtain ⟨made, hmade, h⟩ := bind_eq_ok h
        cases h
        obtain ⟨_, -, hmade⟩ := bind_eq_ok hmade
        cases hmade
      · exact ⟨rfl, fun _ => hclear, fun hfits => hfits⟩
      · exact ⟨rfl, fun _ => hclear, fun hfits => hfits⟩
      · simp only [not_or, Bool.not_eq_false] at hbound
        exact ⟨rfl, fun _ => hclear, fun _ => hbound.2.1⟩

theorem decideCandidate_decided {terms : ReconsiderationTerms} {constraint : Option String}
    {foregroundClear : Bool} {progress after : AllocationProgress}
    {candidate : ReconsiderationCandidate} {decision : ReconsiderationDecision}
    (h : decideCandidate scan policy terms constraint foregroundClear progress candidate =
      .ok (after, decision)) :
    Decided scan progress after candidate decision
      (constraint.isSome = true ∨ foregroundClear = false) := by
  cases constraint with
  | some constraint =>
    obtain ⟨reason, -, h⟩ := bind_eq_ok h
    obtain ⟨made, hmade, h⟩ := bind_eq_ok h
    cases h
    obtain ⟨_, -, hmade⟩ := bind_eq_ok hmade
    cases hmade
    exact ⟨rfl, (nomatch ·), fun hfits => hfits⟩
  | none =>
    obtain ⟨hid, hselected, hfits⟩ := decideByBudget_decided h
    refine ⟨hid, fun hlabel hstopped => hselected hlabel ?_, hfits⟩
    have hforeground : foregroundClear = false := by simpa using hstopped
    subst hforeground
    exact ⟨_, List.mem_cons_of_mem _ (List.mem_cons_of_mem _ (List.mem_cons_of_mem _
      List.mem_cons_self)), rfl⟩

/-- **The loop keeps within the ceiling and selects nothing that is stopped.** -/
theorem decidePortfolio_decided {terms : ReconsiderationCandidate → ReconsiderationTerms}
    {constraints : Dict String} {foregroundClear : Bool} {ranked : List ReconsiderationCandidate}
    {progress after : AllocationProgress} {decisions : List ReconsiderationDecision}
    (hfits : progress.consumed.fitsWithin scan.budget.ceiling = true)
    (h : decidePortfolio scan policy terms constraints foregroundClear progress ranked =
      .ok (after, decisions)) :
    after.consumed.fitsWithin scan.budget.ceiling = true ∧
      decisions.map ReconsiderationDecision.candidateId =
        ranked.map ReconsiderationCandidate.candidateId ∧
      ∀ decision ∈ decisions, decision.label = .selected →
        constraints.get? decision.candidateId = none ∧ foregroundClear = true := by
  induction ranked generalizing progress decisions with
  | nil =>
    cases h
    exact ⟨hfits, rfl, fun _ hmem => nomatch hmem⟩
  | cons candidate ranked ih =>
    obtain ⟨⟨next, decision⟩, hnext, h⟩ := bind_eq_ok h
    obtain ⟨⟨last, rest⟩, hrest, h⟩ := bind_eq_ok h
    cases h
    obtain ⟨hid, hselected, hkeeps⟩ := decideCandidate_decided hnext
    obtain ⟨hlast, hids, hothers⟩ := ih (hkeeps hfits) hrest
    refine ⟨hlast, ?_, List.forall_mem_cons.mpr ⟨fun hlabel => ?_, hothers⟩⟩
    · rw [List.map_cons, List.map_cons, hid, hids]
    · have hclear := hselected hlabel
      rw [not_or, Bool.not_eq_true, Option.isSome_eq_false_iff, Option.isNone_iff_eq_none,
        Bool.not_eq_false] at hclear
      exact ⟨hid ▸ hclear.1, hclear.2⟩

/-- What an allocation says of the scan it is for. -/
structure Allocates (scan : ReconsiderationScanRequest) (candidates : List ReconsiderationCandidate)
    (foregroundDemandRefs : List String) (terminalConstraints : Dict String)
    (allocation : ReconsiderationAllocation) : Prop where
  scanRequestId : allocation.scanRequestId = scan.requestId
  budget : allocation.budget = scan.budget
  foreground : allocation.foregroundDemandRefs = ordered foregroundDemandRefs
  fits : allocation.consumed.fitsWithin scan.budget.ceiling = true
  selected : ∀ decision ∈ allocation.decisions, decision.label = .selected →
    terminalConstraints.get? decision.candidateId = none ∧ foregroundDemandRefs = []

theorem allocateReconsideration_ok {b : ReconsiderationBuiltins}
    {candidates : List ReconsiderationCandidate} {derivedInformationId : String}
    {foregroundDemandRefs : List String} {terminalConstraints : Dict String}
    {allocatedAt : Datetime} {allocation : ReconsiderationAllocation}
    (h : allocateReconsideration scan policy b candidates derivedInformationId foregroundDemandRefs
      terminalConstraints allocatedAt = .ok allocation) :
    Allocates scan candidates foregroundDemandRefs terminalConstraints allocation := by
  unfold allocateReconsideration at h
  simp only [bind_ok_iff] at h
  obtain ⟨_, -, _, -, _, -, _, -, _, -, _, -, ⟨progress, decisions⟩, hdecided, remaining, -, h⟩ := h
  obtain ⟨_, -, h⟩ := bind_eq_ok h
  cases h
  obtain ⟨hfits, -, hselected⟩ := decidePortfolio_decided
    (ScarceCognitionCostSnapshot.zero_fitsWithin _) hdecided
  refine ⟨rfl, rfl, rfl, hfits, fun decision hdecision hlabel => ?_⟩
  obtain ⟨hfree, hclear⟩ := hselected decision hdecision hlabel
  exact ⟨hfree, List.isEmpty_iff.mp hclear⟩

/-- Every decision is on one of the candidates. -/
theorem allocateReconsideration_decided {b : ReconsiderationBuiltins}
    {candidates : List ReconsiderationCandidate} {derivedInformationId : String}
    {foregroundDemandRefs : List String} {terminalConstraints : Dict String}
    {allocatedAt : Datetime} {allocation : ReconsiderationAllocation}
    (h : allocateReconsideration scan policy b candidates derivedInformationId foregroundDemandRefs
      terminalConstraints allocatedAt = .ok allocation) :
    ∀ decision ∈ allocation.decisions,
      ∃ candidate ∈ candidates, candidate.candidateId = decision.candidateId := by
  unfold allocateReconsideration at h
  simp only [bind_ok_iff] at h
  obtain ⟨_, -, _, -, _, -, _, -, _, -, _, -, ⟨progress, decisions⟩, hdecided, remaining, -, h⟩ := h
  obtain ⟨_, -, h⟩ := bind_eq_ok h
  cases h
  obtain ⟨-, hids, -⟩ := decidePortfolio_decided
    (ScarceCognitionCostSnapshot.zero_fitsWithin _) hdecided
  intro decision hdecision
  have hmem : decision.candidateId ∈ decisions.map ReconsiderationDecision.candidateId :=
    List.mem_map_of_mem hdecision
  rw [hids, List.mem_map] at hmem
  obtain ⟨candidate, hcandidate, hid⟩ := hmem
  exact ⟨candidate, (List.mem_insertionSort _).mp hcandidate, hid⟩

end Allocation

end Noema
