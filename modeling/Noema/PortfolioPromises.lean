import Noema.PortfolioSafety

/-!
# What a call of the allocator promises

`PortfolioSound` names the promises; a call on checked records keeps them all
(`portfolioSound`), where a terminal constraint is of one of the two kinds the allocator
knows: of any other kind it raises, after its entry checks (`not_portfolioSound`).
-/
namespace Noema

/-! ### The ranking -/

section Ranking
variable {term : ReconsiderationCandidate → ReconsiderationTerms}
  {candidates candidates' : List ReconsiderationCandidate}

theorem rankCandidates_subset {candidate : ReconsiderationCandidate}
    (h : candidate ∈ rankCandidates term candidates) : candidate ∈ candidates :=
  (List.mem_insertionSort _).mp h

theorem rankCandidates_ids : ((rankCandidates term candidates).map
    ReconsiderationCandidate.candidateId).Perm
      (candidates.map ReconsiderationCandidate.candidateId) :=
  (List.perm_insertionSort _ _).map _

/-- **The ranking does not depend on the order of the candidates.** -/
theorem rankCandidates_perm (hunique : (candidates.map ReconsiderationCandidate.candidateId).Nodup)
    (h : candidates'.Perm candidates) :
    rankCandidates term candidates' = rankCandidates term candidates := by
  refine StableOrder.insertionSort_eq_of_perm (fun a ha c hc hle hge => ?_) h
  -- the last part of the key is the id
  have hid := congrArg (fun key => (ofLex (ofLex (ofLex key).2).2).2) (le_antisymm hle hge)
  exact List.inj_on_of_nodup_map hunique ha hc hid

theorem find_candidate (hunique : (candidates.map ReconsiderationCandidate.candidateId).Nodup)
    {candidate : ReconsiderationCandidate} (h : candidate ∈ candidates) :
    candidates.find? (fun other => other.candidateId = candidate.candidateId) =
      some candidate := by
  have hsome : (candidates.find? fun other => other.candidateId = candidate.candidateId).isSome :=
    List.find?_isSome.mpr ⟨candidate, h, by simp⟩
  obtain ⟨found, hfound⟩ := Option.isSome_iff_exists.mp hsome
  have hid : found.candidateId = candidate.candidateId := by simpa using List.find?_some hfound
  rw [hfound, List.inj_on_of_nodup_map hunique (List.mem_of_find?_eq_some hfound) h hid]

end Ranking

/-! ### A call -/

section Call
variable {ids : ReconsiderationIds} {scan : ReconsiderationScanRequest}
  {policy : ReconsiderationPolicySnapshot} {candidates candidates' : List ReconsiderationCandidate}
  {derivedInformationId : String} {foregroundDemandRefs : List String}
  {terminalConstraints : Dict String} {allocatedAt : Datetime}

theorem ensureAllocatorSupported_iff {answer : Unit} :
    ensureAllocatorSupported policy = .ok answer ↔
      policy.allocatorId = stableReconsiderationAllocatorId ∧
        policy.allocatorVersion = stableReconsiderationAllocatorVersion := by
  rw [ensureAllocatorSupported, refuse_iff, not_or, not_not, not_not]

/-- Every candidate is in the scan and every input of the scan is a candidate. -/
theorem samePortfolio_iff : ¬ ((∃ id ∈ candidates.map ReconsiderationCandidate.candidateId,
      id ∉ scan.candidateInputs.map ReconsiderationCandidateInput.candidateId) ∨
      ∃ id ∈ scan.candidateInputs.map ReconsiderationCandidateInput.candidateId,
        id ∉ candidates.map ReconsiderationCandidate.candidateId) ↔
    (∀ candidate ∈ candidates, ∃ input ∈ scan.candidateInputs,
        input.candidateId = candidate.candidateId) ∧
      ∀ input ∈ scan.candidateInputs, ∃ candidate ∈ candidates,
        candidate.candidateId = input.candidateId := by
  simp only [List.mem_map, not_or, not_exists, not_and, forall_exists_index, and_imp,
    forall_apply_eq_imp_iff₂, not_forall, not_not, exists_prop]

theorem constrained_iff : ¬ (∃ row ∈ terminalConstraints.rows,
      row.1 ∉ candidates.map ReconsiderationCandidate.candidateId) ↔
    ∀ row ∈ terminalConstraints.rows, ∃ candidate ∈ candidates,
      candidate.candidateId = row.1 := by
  simp only [List.mem_map, not_exists, not_and, not_forall, not_not, exists_prop]

/-- The terms of the candidates of a call. -/
def termsAt (policy : ReconsiderationPolicySnapshot) (allocatedAt : Datetime)
    (candidate : ReconsiderationCandidate) : ReconsiderationTerms :=
  reconsiderationTermsWith .rational candidate policy allocatedAt

/-- A call that returned walked over the ranked candidates, from nothing consumed. -/
structure Allocated (scan : ReconsiderationScanRequest) (policy : ReconsiderationPolicySnapshot)
    (candidates : List ReconsiderationCandidate) (foregroundDemandRefs : List String)
    (terminalConstraints : Dict String) (allocatedAt : Datetime)
    (allocation : ReconsiderationAllocation) : Prop where
  admitted : PortfolioAdmitted scan policy candidates terminalConstraints
  walk : ∃ progress, allocation.consumed = progress.consumed ∧
    PortfolioWalk scan policy (termsAt policy allocatedAt) terminalConstraints
      foregroundDemandRefs.isEmpty ⟨.zero, 0⟩
      (rankCandidates (termsAt policy allocatedAt) candidates) progress allocation.decisions
  slots : (allocation.selectedCandidateIds.length : Int) ≤ scan.budget.maxCandidates

theorem allocate_ok (hscan : IsAmount scan.maximumInterruptionUnits)
    {allocation : ReconsiderationAllocation}
    (h : allocateReconsiderationWith .rational scan policy ids candidates derivedInformationId
      foregroundDemandRefs terminalConstraints allocatedAt = .ok allocation) :
    Allocated scan policy candidates foregroundDemandRefs terminalConstraints allocatedAt
      allocation := by
  obtain ⟨_, hsupported, h⟩ := bind_eq_ok h
  obtain ⟨_, hpolicy, h⟩ := bind_eq_ok h
  obtain ⟨_, hsome, h⟩ := bind_eq_ok h
  obtain ⟨_, hsame, h⟩ := bind_eq_ok h
  obtain ⟨_, hunique, h⟩ := bind_eq_ok h
  obtain ⟨_, hconstrained, h⟩ := bind_eq_ok h
  obtain ⟨⟨progress, decisions⟩, hdecided, h⟩ := bind_eq_ok h
  obtain ⟨remaining, -, h⟩ := bind_eq_ok h
  obtain ⟨_, hcheck, h⟩ := bind_eq_ok h
  obtain rfl := Except.ok.inj h
  obtain ⟨hscanned, hpresent⟩ := samePortfolio_iff.mp (refuse_ok hsame)
  refine {
    admitted := {
      allocator_supported := ensureAllocatorSupported_iff.mp hsupported
      policy_pinned := not_not.mp (refuse_ok hpolicy)
      some_candidate := refuse_ok hsome
      scanned := hscanned
      present := hpresent
      candidates_unique := not_not.mp (refuse_ok hunique)
      constrained := constrained_iff.mp (refuse_ok hconstrained) }
    walk := ⟨progress, rfl, decidePortfolio_walk hscan hdecided⟩
    slots := ?_ }
  simp only [ReconsiderationAllocation.check, bind_ok_iff] at hcheck
  obtain ⟨_, -, _, -, _, -, _, -, _, -, _, -, _, -, _, hcount, -⟩ := hcheck
  exact not_lt.mp (not_or.mp (refuse_ok hcount)).2

/-- Nothing consumed is within the bounds of a checked scan. -/
theorem fitsScan_zero
    (h : PortfolioChecked ids scan policy candidates derivedInformationId foregroundDemandRefs) :
    FitsScan scan ⟨.zero, 0⟩ where
  ceiling := ScarceCognitionCostSnapshot.zero_fitsWith _
  interruption := by
    obtain ⟨q, hq, hmaximum⟩ := h.interruption
    rw [ScarceCognitionCostSnapshot.zero_amount, hmaximum]
    show 0 ≤ q + 1 / 10 ^ 12
    positivity
  count := by
    obtain ⟨_, -, hbudget⟩ := bind_eq_ok h.budget_checked
    obtain ⟨_, hslots, -⟩ := bind_eq_ok hbudget
    exact (not_le.mp (refuse_ok hslots)).le

theorem PortfolioWalk.count {term : ReconsiderationCandidate → ReconsiderationTerms}
    {foregroundClear : Bool} {progress after : AllocationProgress}
    {ranked : List ReconsiderationCandidate} {decisions : List ReconsiderationDecision}
    (h : PortfolioWalk scan policy term terminalConstraints foregroundClear progress ranked after
      decisions) : after.selectedCount = progress.selectedCount +
        (decisions.filter fun decision => decision.label = .selected).length := by
  induction h with
  | nil => rfl
  | cons first _ ih =>
    rw [ih]
    cases first with
    | selected _ hlabel =>
      rw [List.filter_cons_of_pos (by simpa using hlabel), List.length_cons]
      simp only [progressFrom, List.length_singleton]
      omega
    | exhausted _ hlabel | stopped _ hlabel =>
      rw [List.filter_cons_of_neg (by simpa using hlabel)]

/-- **Checked and admitted inputs get an allocation**, whatever known constraints they have. -/
theorem allocate_of
    (hchecked : PortfolioChecked ids scan policy candidates derivedInformationId
      foregroundDemandRefs)
    (h : PortfolioAdmitted scan policy candidates terminalConstraints)
    (hknown : ∀ row ∈ terminalConstraints.rows, ∃ reason, terminalReason row.2 = .ok reason) :
    ∃ allocation, allocateReconsiderationWith .rational scan policy ids candidates
      derivedInformationId foregroundDemandRefs terminalConstraints allocatedAt =
        .ok allocation := by
  have hcandidate : ∀ candidate ∈ candidates, blank candidate.candidateId = false := by
    intro candidate hmem
    obtain ⟨_, htext, -⟩ := bind_eq_ok (hchecked.candidates_checked candidate hmem)
    exact requireText_ok htext
  obtain ⟨progress, decisions, hdecided⟩ := @decidePortfolio_total scan policy
    (termsAt policy allocatedAt) terminalConstraints foregroundDemandRefs.isEmpty
    (rankCandidates (termsAt policy allocatedAt) candidates) ⟨.zero, 0⟩
    (fun candidate hmem => reconsiderationTerms_sound hchecked (rankCandidates_subset hmem))
    (fun candidate hmem => hcandidate candidate (rankCandidates_subset hmem))
    (fun key kind hkind => by
      obtain ⟨row, hrow, rfl⟩ := Option.map_eq_some_iff.mp hkind
      exact hknown row (KeyedTable.mem_of_find hrow))
  have hwalk := decidePortfolio_walk hchecked.interruption hdecided
  have hfits := hwalk.fits (fitsScan_zero hchecked)
  obtain ⟨remaining, hremaining⟩ :=
    ScarceCognitionCostSnapshot.minusWith_rational _ _ hfits.ceiling
  have hperm : (decisions.map ReconsiderationDecision.candidateId).Perm
      (candidates.map ReconsiderationCandidate.candidateId) := by
    rw [hwalk.ids]
    exact rankCandidates_ids
  have hdecisions : decisions ≠ [] := by
    rintro rfl
    have hnone := hperm.length_eq
    rw [List.length_map, List.length_map] at hnone
    exact h.some_candidate (List.length_eq_zero_iff.mp hnone.symm)
  have htexts : ∀ id ∈ decisions.map ReconsiderationDecision.candidateId, blank id = false := by
    intro id hid
    obtain ⟨candidate, hmem, rfl⟩ := List.mem_map.mp (hperm.subset hid)
    exact hcandidate candidate hmem
  have hforeground : requireUnique (ordered foregroundDemandRefs)
      "allocation foreground demand refs" false = .ok () := by
    have hblank : (ordered foregroundDemandRefs).any blank = false := by
      refine List.any_eq_false.mpr fun ref href => ?_
      rw [hchecked.foreground_checked ref (mem_ordered.mp href)]
      exact Bool.false_ne_true
    unfold requireUnique
    rw [Bool.false_and, hblank]
    exact if_pos (ordered_nodup _)
  have hderived : requireOpaqueId derivedInformationId "allocation derived information id" =
      .ok () := refuse_of (by rw [hchecked.derived_checked]; exact Bool.noConfusion)
  obtain ⟨_, hscanId, -⟩ := bind_eq_ok hchecked.scan_checked
  obtain ⟨_, hpolicyId, hpolicy⟩ := bind_eq_ok hchecked.policy_checked
  obtain ⟨_, hversion, -⟩ := bind_eq_ok hpolicy
  let content : ReconsiderationAllocationContent :=
    { derivedInformationId, scanRequestId := scan.requestId, policyId := policy.policyId
      policyVersion := policy.version, budget := scan.budget, decisions
      consumedCandidates := progress.selectedCount, consumed := progress.consumed, remaining
      foregroundDemandRefs := ordered foregroundDemandRefs, allocatedAt }
  let allocation : ReconsiderationAllocation :=
    { content with allocationId := "reconsideration-allocation:" ++ ids.allocation content }
  have hselected : allocation.selectedCandidateIds.length = progress.selectedCount := by
    rw [hwalk.count, ReconsiderationAllocationContent.selectedCandidateIds, List.length_map,
      Nat.zero_add]
  have hcount : ¬ ((allocation.selectedCandidateIds.length : Int) ≠ progress.selectedCount ∨
      (allocation.selectedCandidateIds.length : Int) > scan.budget.maxCandidates) := by
    rw [hselected, not_or, not_not, not_lt]
    exact ⟨rfl, hfits.count⟩
  have hcheck : allocation.check ids = .ok () := by
    have hprefix : blank "reconsideration-allocation:" = false := by decide
    rw [ReconsiderationAllocation.check, requireText_of (blank_append hprefix), ok_bind,
      requireText_of (requireText_ok hscanId), ok_bind, requireText_of (requireText_ok hpolicyId),
      ok_bind, requireText_of (requireText_ok hversion), ok_bind,
      hderived, ok_bind, refuse_of hdecisions, ok_bind,
      requireUnique_of (by simpa using hdecisions) htexts
        (hperm.nodup_iff.mpr h.candidates_unique), ok_bind, refuse_of hcount, ok_bind, hforeground,
      ok_bind, refuse_of (not_not.mpr rfl)]
  have hsupported : ensureAllocatorSupported policy = .ok () :=
    ensureAllocatorSupported_iff.mpr h.allocator_supported
  refine ⟨allocation, ?_⟩
  unfold allocateReconsiderationWith
  dsimp only
  rw [hsupported, ok_bind,
    refuse_of (not_not.mpr h.policy_pinned), ok_bind, refuse_of h.some_candidate, ok_bind,
    refuse_of (samePortfolio_iff.mpr ⟨h.scanned, h.present⟩), ok_bind,
    refuse_of (not_not.mpr h.candidates_unique), ok_bind,
    refuse_of (constrained_iff.mpr h.constrained), ok_bind]
  refine (bind_of_ok hdecided _).trans ((bind_of_ok hremaining _).trans ?_)
  exact bind_of_ok hcheck _

/-- **The order of the candidates plays no part.** -/
theorem allocate_perm (h : candidates'.Perm candidates) :
    allocateReconsiderationWith .rational scan policy ids candidates' derivedInformationId
        foregroundDemandRefs terminalConstraints allocatedAt =
      allocateReconsiderationWith .rational scan policy ids candidates derivedInformationId
        foregroundDemandRefs terminalConstraints allocatedAt := by
  have hids : ∀ id, id ∈ candidates'.map ReconsiderationCandidate.candidateId ↔
      id ∈ candidates.map ReconsiderationCandidate.candidateId :=
    fun _ => (h.map ReconsiderationCandidate.candidateId).mem_iff
  unfold allocateReconsiderationWith
  cases hsupported : ensureAllocatorSupported policy with
  | error error => rfl
  | ok answer =>
    rw [ok_bind, ok_bind]
    refine refuse_bind_congr Iff.rfl fun _ => ?_
    refine refuse_bind_congr ?_ fun _ => ?_
    · rw [← List.length_eq_zero_iff, ← List.length_eq_zero_iff, h.length_eq]
    refine refuse_bind_congr ?_ fun _ => ?_
    · simp only [hids]
    refine refuse_bind_congr ((h.map _).nodup_iff.not) fun hunique => ?_
    refine refuse_bind_congr ?_ fun _ => ?_
    · simp only [hids]
    dsimp only
    rw [rankCandidates_perm (not_not.mp hunique) h]

end Call

/-! ### The promises -/

/-- The kinds of terminal constraint the allocator knows. -/
def IsTerminalKind (kind : String) : Prop :=
  kind = "basis_no_longer_current" ∨ kind = "candidate_already_selected"

/-- What makes a candidate eligible: no terminal constraint, every gate passed, and worth more
than the policy asks. -/
structure Selectable (policy : ReconsiderationPolicySnapshot) (terminalConstraints : Dict String)
    (foregroundDemandRefs : List String) (allocatedAt : Datetime)
    (candidate : ReconsiderationCandidate) : Prop where
  unconstrained : terminalConstraints.get? candidate.candidateId = none
  gates : ∀ gate ∈ hardGates candidate (termsAt policy allocatedAt candidate).featuresCurrent
    foregroundDemandRefs.isEmpty, gate.passed = true
  worth : policy.minimumNetVoc.number < (termsAt policy allocatedAt candidate).netVoc.number

/-- **What a call of the allocator promises**: the order of the candidates plays no part; what
it records as consumed keeps within every ceiling and the interruption ceiling, but for the
tolerance, and near the true sum of what it selected; it selects no more than the slots,
nothing beside foreground demand and nothing that is not selectable; what it defers for the
budget finds no room after what was selected before; and it raises nothing on inputs that
pass its entry checks, whose constraints are `Supported`. -/
structure PortfolioSound (ids : ReconsiderationIds) (scan : ReconsiderationScanRequest)
    (policy : ReconsiderationPolicySnapshot) (candidates : List ReconsiderationCandidate)
    (derivedInformationId : String) (foregroundDemandRefs : List String)
    (terminalConstraints : Dict String) (allocatedAt : Datetime) (Supported : String → Prop) :
    Prop where
  order : ∀ candidates', candidates'.Perm candidates →
    allocateReconsiderationWith .rational scan policy ids candidates' derivedInformationId
        foregroundDemandRefs terminalConstraints allocatedAt =
      allocateReconsiderationWith .rational scan policy ids candidates derivedInformationId
        foregroundDemandRefs terminalConstraints allocatedAt
  ceiling : ∀ allocation, allocateReconsiderationWith .rational scan policy ids candidates
      derivedInformationId foregroundDemandRefs terminalConstraints allocatedAt = .ok allocation →
    ∀ dimension, allocation.consumed.amount dimension ≤
      scan.budget.ceiling.amount dimension + 1 / 10 ^ 12
  interruption : ∀ allocation, allocateReconsiderationWith .rational scan policy ids candidates
      derivedInformationId foregroundDemandRefs terminalConstraints allocatedAt = .ok allocation →
    allocation.consumed.amount .interruption ≤ scan.maximumInterruptionUnits.number + 1 / 10 ^ 12
  drift : ∀ allocation, allocateReconsiderationWith .rational scan policy ids candidates
      derivedInformationId foregroundDemandRefs terminalConstraints allocatedAt = .ok allocation →
    ∀ dimension, |allocation.consumed.amount dimension -
        ((selectedFrom candidates allocation.decisions).map fun candidate =>
          candidate.costs.amount dimension).sum| ≤
      allocation.selectedCandidateIds.length * (1 / 10 ^ 12)
  slots : ∀ allocation, allocateReconsiderationWith .rational scan policy ids candidates
      derivedInformationId foregroundDemandRefs terminalConstraints allocatedAt = .ok allocation →
    (allocation.selectedCandidateIds.length : Int) ≤ scan.budget.maxCandidates
  foreground : ∀ allocation, allocateReconsiderationWith .rational scan policy ids candidates
      derivedInformationId foregroundDemandRefs terminalConstraints allocatedAt = .ok allocation →
    foregroundDemandRefs ≠ [] → allocation.selectedCandidateIds = []
  selectable : ∀ allocation, allocateReconsiderationWith .rational scan policy ids candidates
      derivedInformationId foregroundDemandRefs terminalConstraints allocatedAt = .ok allocation →
    ∀ decision ∈ allocation.decisions, decision.label = .selected →
      ∃ candidate ∈ candidates, candidate.candidateId = decision.candidateId ∧
        Selectable policy terminalConstraints foregroundDemandRefs allocatedAt candidate
  ranked : ∀ allocation, allocateReconsiderationWith .rational scan policy ids candidates
      derivedInformationId foregroundDemandRefs terminalConstraints allocatedAt = .ok allocation →
    allocation.decisions.map ReconsiderationDecision.candidateId =
      (rankCandidates (termsAt policy allocatedAt) candidates).map
        ReconsiderationCandidate.candidateId
  exhausted : ∀ allocation, allocateReconsiderationWith .rational scan policy ids candidates
      derivedInformationId foregroundDemandRefs terminalConstraints allocatedAt = .ok allocation →
    ∀ before decision later, allocation.decisions = before ++ decision :: later →
      decision.causalReason = budgetExhausted →
      ∃ candidate ∈ candidates, candidate.candidateId = decision.candidateId ∧
        LeavesNoRoom scan (progressFrom ⟨.zero, 0⟩ (selectedFrom candidates before))
          candidate.costs
  total : PortfolioAdmitted scan policy candidates terminalConstraints →
    (∀ row ∈ terminalConstraints.rows, Supported row.2) →
    ∃ allocation, allocateReconsiderationWith .rational scan policy ids candidates
      derivedInformationId foregroundDemandRefs terminalConstraints allocatedAt = .ok allocation

section Promises
variable {ids : ReconsiderationIds} {scan : ReconsiderationScanRequest}
  {policy : ReconsiderationPolicySnapshot} {candidates : List ReconsiderationCandidate}
  {derivedInformationId : String} {foregroundDemandRefs : List String}
  {terminalConstraints : Dict String} {allocatedAt : Datetime}
  {allocation : ReconsiderationAllocation}

theorem terminalReason_of {kind : String} (h : IsTerminalKind kind) :
    ∃ reason, terminalReason kind = .ok reason := by
  rcases h with rfl | rfl
  · exact ⟨_, rfl⟩
  · exact ⟨_, rfl⟩

namespace Allocated

theorem found (h : Allocated scan policy candidates foregroundDemandRefs terminalConstraints
      allocatedAt allocation) :
    ∀ candidate ∈ rankCandidates (termsAt policy allocatedAt) candidates,
      candidates.find? (fun other => other.candidateId = candidate.candidateId) =
        some candidate := fun _ hmem =>
  find_candidate h.admitted.candidates_unique (rankCandidates_subset hmem)

/-- What is recorded as consumed is the rounded sum of what was selected. -/
theorem consumed_eq (h : Allocated scan policy candidates foregroundDemandRefs terminalConstraints
      allocatedAt allocation) :
    allocation.consumed = costsFrom .zero (selectedFrom candidates allocation.decisions) ∧
      allocation.selectedCandidateIds.length =
        (selectedFrom candidates allocation.decisions).length := by
  obtain ⟨progress, hconsumed, hwalk⟩ := h.walk
  have hspent := hwalk.spent h.found
  have hcount := hwalk.count
  rw [hspent] at hconsumed hcount
  refine ⟨hconsumed, ?_⟩
  rw [ReconsiderationAllocationContent.selectedCandidateIds, List.length_map]
  simp only [progressFrom] at hcount
  omega

theorem fits (h : Allocated scan policy candidates foregroundDemandRefs terminalConstraints
      allocatedAt allocation)
    (hchecked : PortfolioChecked ids scan policy candidates derivedInformationId
      foregroundDemandRefs) :
    allocation.consumed.fitsWith .rational scan.budget.ceiling = true ∧
      allocation.consumed.amount .interruption ≤
        scan.maximumInterruptionUnits.number + 1 / 10 ^ 12 := by
  obtain ⟨progress, hconsumed, hwalk⟩ := h.walk
  have hfits := hwalk.fits (fitsScan_zero hchecked)
  rw [hconsumed]
  exact ⟨hfits.ceiling, hfits.interruption⟩

/-- A selected candidate was selectable. -/
theorem selectable (h : Allocated scan policy candidates foregroundDemandRefs terminalConstraints
      allocatedAt allocation)
    (hchecked : PortfolioChecked ids scan policy candidates derivedInformationId
      foregroundDemandRefs)
    {decision : ReconsiderationDecision} (hmem : decision ∈ allocation.decisions)
    (hlabel : decision.label = .selected) :
    ∃ candidate ∈ candidates, candidate.candidateId = decision.candidateId ∧
      Selectable policy terminalConstraints foregroundDemandRefs allocatedAt candidate := by
  obtain ⟨progress, -, hwalk⟩ := h.walk
  obtain ⟨candidate, hranked, hid, hworth⟩ := hwalk.worthwhile hmem hlabel
  have hcandidate := rankCandidates_subset hranked
  refine ⟨candidate, hcandidate, hid, hworth.unconstrained, hworth.gates, ?_⟩
  obtain ⟨net, hnet⟩ :=
    (@reconsiderationTerms_sound _ _ _ _ _ _ allocatedAt _ hchecked hcandidate).isFinite
  obtain ⟨least, -, hleast⟩ := hchecked.minimum
  have hmore := hworth.worth
  have hterm : (termsAt policy allocatedAt candidate).netVoc = .finite net := hnet
  rw [hterm, hleast] at hmore ⊢
  exact not_le.mp (of_decide_eq_false hmore)

/-- Beside foreground demand a gate of every candidate fails. -/
theorem foreground (h : Allocated scan policy candidates foregroundDemandRefs terminalConstraints
      allocatedAt allocation) (hdemand : foregroundDemandRefs ≠ []) :
    allocation.selectedCandidateIds = [] := by
  obtain ⟨progress, -, hwalk⟩ := h.walk
  have hclear : foregroundDemandRefs.isEmpty = false := List.isEmpty_eq_false_iff.mpr hdemand
  rw [ReconsiderationAllocationContent.selectedCandidateIds, List.map_eq_nil_iff,
    List.filter_eq_nil_iff]
  intro decision hmem hlabel
  obtain ⟨candidate, -, -, hworth⟩ := hwalk.worthwhile hmem (of_decide_eq_true hlabel)
  have hgate := hworth.gates (hardGate "foreground_preemption" foregroundDemandRefs.isEmpty
    "no foreground demand is pinned by the scan" "foreground demand preempts reconsideration")
    (by simp [hardGates])
  rw [hclear] at hgate
  cases hgate

/-- For a candidate deferred for the budget there was no room at its rank. -/
theorem exhausted (h : Allocated scan policy candidates foregroundDemandRefs terminalConstraints
      allocatedAt allocation) {before later : List ReconsiderationDecision}
    {decision : ReconsiderationDecision}
    (hsplit : allocation.decisions = before ++ decision :: later)
    (hreason : decision.causalReason = budgetExhausted) :
    ∃ candidate ∈ candidates, candidate.candidateId = decision.candidateId ∧
      LeavesNoRoom scan (progressFrom ⟨.zero, 0⟩ (selectedFrom candidates before))
        candidate.costs := by
  obtain ⟨progress, -, hwalk⟩ := h.walk
  obtain ⟨first, candidate, rest, middle, hranked, hid, hbefore, hroom⟩ :=
    hwalk.exhausted hsplit hreason
  have hmem : ∀ other ∈ first ++ candidate :: rest,
      other ∈ rankCandidates (termsAt policy allocatedAt) candidates := fun other hother =>
    hranked ▸ hother
  have hspent := hbefore.spent fun other hother =>
    h.found other (hmem other (List.mem_append_left _ hother))
  refine ⟨candidate, rankCandidates_subset
    (hmem candidate (List.mem_append_right _ List.mem_cons_self)), hid.symm, ?_⟩
  rw [← hspent]
  exact hroom

end Allocated

/-- **A call on checked records keeps every promise.** -/
theorem portfolioSound
    (hchecked : PortfolioChecked ids scan policy candidates derivedInformationId
      foregroundDemandRefs) :
    PortfolioSound ids scan policy candidates derivedInformationId foregroundDemandRefs
      terminalConstraints allocatedAt IsTerminalKind where
  order := fun _ h => allocate_perm h
  ceiling := fun _ h => (ScarceCognitionCostSnapshot.fitsWith_rational _ _).mp
    ((allocate_ok hchecked.interruption h).fits hchecked).1
  interruption := fun _ h => ((allocate_ok hchecked.interruption h).fits hchecked).2
  drift := by
    intro allocation h dimension
    obtain ⟨hconsumed, hlength⟩ := (allocate_ok hchecked.interruption h).consumed_eq
    rw [hconsumed, hlength]
    exact abs_costs_sub_le _ dimension
  slots := fun _ h => (allocate_ok hchecked.interruption h).slots
  foreground := fun _ h hdemand => (allocate_ok hchecked.interruption h).foreground hdemand
  selectable := fun _ h _ hmem hlabel =>
    (allocate_ok hchecked.interruption h).selectable hchecked hmem hlabel
  ranked := by
    intro allocation h
    obtain ⟨progress, -, hwalk⟩ := (allocate_ok hchecked.interruption h).walk
    exact hwalk.ids
  exhausted := fun _ h _ _ _ hsplit hreason =>
    (allocate_ok hchecked.interruption h).exhausted hsplit hreason
  total := fun hadmitted hsupported => allocate_of hchecked hadmitted fun row hrow =>
    terminalReason_of (hsupported row hrow)

end Promises

/-! ### A constraint of another kind -/

namespace PortfolioExample

/-- Digests of no content. -/
def ids : ReconsiderationIds :=
  ⟨fun _ => "", fun _ => "", fun _ => "", fun _ => "", fun _ => "", fun _ => "", fun _ => "",
    fun _ => "", fun _ => "", fun _ => "", fun _ => ""⟩

def policy : ReconsiderationPolicySnapshot where
  policyId := "reconsideration-policy:"
  version := "v1"
  allocatorId := stableReconsiderationAllocatorId
  allocatorVersion := stableReconsiderationAllocatorVersion
  featureWeights := defaultFeatureWeights
  costWeights := defaultCostWeights
  minimumNetVoc := .finite 0
  foregroundEventTypes := ["foreground.demand"]

def estimate : EvidenceBackedEstimate where
  value := .finite 1
  kind := .explicit
  confidence := .finite 1
  evidenceRefs := ["event:1"]
  observedAt := .utc 0
  validUntil := .utc 10

def features : ReconsiderationFeatureSnapshot where
  unresolvedness := .finite 1
  evidenceFreshness := .finite 1
  meaningfulNewEvidence := .finite 1
  opportunityWindow := .finite 1
  currentBasisValidity := .finite 1
  valueAlignmentEstimate := some estimate
  expectedOutcomeValue := some estimate
  motivationEstimate := some estimate
  provenanceRefs := ["event:1"]

/-- An id with a digest. -/
def informationId : String := "information_00000000000000000000000000000000"

def candidate : ReconsiderationCandidate where
  candidateId := "reconsideration-candidate:"
  historical := ⟨.inquiry, "inquiry:1", "epoch:1", 1, [⟨"goal-1", "revision-1"⟩], ["event:1"],
    ["information-1"]⟩
  currentBasis := ⟨.reconsiderationMandate "mandate-1", "cognitive-basis:"⟩
  domain := "work"
  currentEvidenceRefs := ["event:1"]
  features := features
  costs := .zero
  derivedInformationId := informationId
  scanRequestId := "reconsideration-scan:"
  currentCausalCursor := 2
  informationAccessDecisionIds := ["decision-1"]
  createdAt := .utc 1

def scan : ReconsiderationScanRequest where
  requestId := "reconsideration-scan:"
  basis := ⟨.reconsiderationMandate "mandate-1", "cognitive-basis:"⟩
  policyId := policy.policyId
  budget := ⟨⟨1, .zero⟩, "scarce-cognition-budget:"⟩
  maximumInterruptionUnits := .finite 0
  candidateInputs := [⟨candidate.candidateId, candidate.historical, informationId,
    ⟨"inquiry:1", "work", ["event:1"], ["information-1"], features, .zero⟩, ["decision-1"]⟩]
  informationUsePurpose := "reconsideration"
  informationPolicyIds := ["information-policy-1"]
  requestedAt := .utc 1
  triggerEventId := none
  foregroundDemandRefs := []

theorem checked : PortfolioChecked ids scan policy [candidate] informationId [] where
  scan_checked := by decide +kernel
  budget_checked := by decide +kernel
  policy_checked := by decide +kernel
  candidates_checked := by
    intro given hgiven
    obtain rfl := List.mem_singleton.mp hgiven
    decide +kernel
  features_checked := by
    intro given hgiven
    obtain rfl := List.mem_singleton.mp hgiven
    decide +kernel
  estimates_checked := by
    intro given hgiven
    obtain rfl := List.mem_singleton.mp hgiven
    decide +kernel
  derived_checked := by decide +kernel
  foreground_checked := by
    intro ref href
    cases href

/-- A candidate under a constraint. -/
def constrainedBy (kind : String) : Dict String := .ofList [(candidate.candidateId, kind)]

theorem portfolioSound_one : PortfolioSound ids scan policy [candidate] informationId []
    (constrainedBy "basis_no_longer_current") (.utc 2) IsTerminalKind :=
  portfolioSound checked

theorem admitted : PortfolioAdmitted scan policy [candidate]
    (constrainedBy "candidate_withdrawn") where
  allocator_supported := by decide
  policy_pinned := rfl
  some_candidate := by simp
  scanned := by simp [scan]
  present := by simp [scan]
  candidates_unique := by simp
  constrained := by
    intro row hrow
    have hrows : (constrainedBy "candidate_withdrawn").rows =
        [(candidate.candidateId, "candidate_withdrawn")] := rfl
    rw [hrows] at hrow
    obtain rfl := List.mem_singleton.mp hrow
    exact ⟨candidate, List.mem_singleton_self _, rfl⟩

/-- A constraint of a kind that the allocator does not know passes its entry checks and raises
in the loop. -/
theorem not_portfolioSound : ¬ ∀ (ids : ReconsiderationIds) (scan : ReconsiderationScanRequest)
    (policy : ReconsiderationPolicySnapshot) (candidates : List ReconsiderationCandidate)
    (derivedInformationId : String) (foregroundDemandRefs : List String)
    (terminalConstraints : Dict String) (allocatedAt : Datetime),
    PortfolioChecked ids scan policy candidates derivedInformationId foregroundDemandRefs →
    PortfolioSound ids scan policy candidates derivedInformationId foregroundDemandRefs
      terminalConstraints allocatedAt fun _ => True := by
  intro h
  have hsound := h ids scan policy [candidate] informationId []
    (constrainedBy "candidate_withdrawn") (.utc 2) checked
  obtain ⟨allocation, hallocation⟩ := hsound.total admitted fun _ _ => trivial
  have hraised : (allocateReconsiderationWith .rational scan policy ids [candidate] informationId
      [] (constrainedBy "candidate_withdrawn") (.utc 2)).isOk = false := by
    decide +kernel
  rw [hallocation] at hraised
  cases hraised

end PortfolioExample
end Noema
