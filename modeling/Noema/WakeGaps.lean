import Noema.WakePlans

/-!
# A wake covers its gaps

A plan reconciles the gaps of the coverage on the same inputs, and leaves one for later only
where it does not fit.
-/
namespace Noema

namespace Continuity

variable {r : WakeReconciler} {b : WakeBuiltins} {states : List SourceState}
  {demands : List AwarenessDemand} {freshnessBySource : String → Option ℚ}
  {budget : ObservationBudget} {createdAt : Datetime} {sources : List AssessedSource}
  {source : AssessedSource}

/-! ## The coverage -/

/-- An entry holds what is known of the source that is demanded. -/
structure EntryFor (states : List SourceState) (freshnessBySource : String → Option ℚ)
    (demand : AwarenessDemand) (entry : CoverageEntry) : Prop where
  sourceId : entry.sourceId = demand.sourceId
  importance : entry.importance = demand.importance
  sufficient : ∃ state ∈ states, ∃ freshness, state.sourceId = demand.sourceId ∧
    freshnessBySource demand.sourceId = some freshness ∧
    (entry.sufficient ↔ demand.requiredFreshness ≤ freshness ∧
      demand.requiredConfidence ≤ state.confidence)

theorem entry_check_ok (demand : AwarenessDemand) (state : SourceState) {freshness : ℚ}
    (hfreshness : InUnit freshness) : CoverageContent.check
      { sourceId := demand.sourceId, governingGoalRefs := demand.governingGoalRefs
        domain := state.domain, confidence := state.confidence, freshness
        relevance := demand.relevance, decisionSensitivity := demand.decisionSensitivity
        requiredFreshness := demand.requiredFreshness
        requiredConfidence := demand.requiredConfidence } = .ok () := by
  have hrequiredFreshness := demand.requiredFreshness_unit
  have hrequiredConfidence := demand.requiredConfidence_unit
  refine (bind_of_ok (refuse_of ?_) _).trans ?_
  · simp [demand.text, state.texts.2]
  refine (bind_of_ok (refuse_of ?_) _).trans ?_
  · rintro ⟨ref, href, hblank⟩
    rw [demand.refs ref href] at hblank
    cases hblank
  refine (bind_of_ok (refuse_of (not_not.mpr demand.refs_unique)) _).trans ?_
  refine (bind_of_ok (requireBounded_of state.confidence_unit) _).trans ?_
  refine (bind_of_ok (requireBounded_of hfreshness) _).trans ?_
  refine (bind_of_ok (requireBounded_of demand.relevance_unit) _).trans ?_
  refine (bind_of_ok (requireBounded_of demand.decisionSensitivity_unit) _).trans ?_
  refine (bind_of_ok (requireBounded_of
    ⟨hrequiredFreshness.1.le, hrequiredFreshness.2⟩) _).trans ?_
  refine (bind_of_ok (requireBounded_of
    ⟨hrequiredConfidence.1.le, hrequiredConfidence.2⟩) _).trans (refuse_of ?_)
  rintro (hzero | hzero)
  · exact hrequiredFreshness.1.ne' hzero
  · exact hrequiredConfidence.1.ne' hzero

theorem ofDemand_ok (h : Fitting states demands freshnessBySource) {demand : AwarenessDemand}
    (hmem : demand ∈ demands) :
    ∃ entry, CoverageEntry.ofDemand states freshnessBySource demand = .ok entry ∧
      EntryFor states freshnessBySource demand entry := by
  obtain ⟨freshness, hfreshness, hunit⟩ := h.fresh demand hmem
  obtain ⟨state, hstate, hid⟩ := List.mem_map.mp (h.known demand hmem)
  have hfind : states.find? (fun state => state.sourceId = demand.sourceId) = some state := by
    rw [← hid]
    exact KeyedTable.find_of_mem (t := ⟨states, h.sources⟩) hstate
  have hcheck := entry_check_ok demand state hunit
  refine ⟨⟨_, hcheck⟩, ?_, rfl, rfl, state, hstate, freshness, hid, hfreshness, Iff.rfl⟩
  unfold CoverageEntry.ofDemand
  rw [hfind, hfreshness]
  exact checkedBy_of hcheck

/-- The gaps of a coverage are the demands that are relevant and fall short. -/
theorem mem_gaps {coverage : AwarenessCoverage} {sorted : List AwarenessDemand}
    (hstates : (states.map SourceState.sourceId).Nodup) (hsorted : sorted.Perm demands)
    (heach : List.Forall₂ (EntryFor states freshnessBySource) sorted coverage.entries)
    (sourceId : String) :
    sourceId ∈ (coverage.gaps.map fun entry => entry.sourceId) ↔
      ∃ demand ∈ demands, ∃ state ∈ states, ∃ freshness, demand.sourceId = sourceId ∧
        state.sourceId = sourceId ∧ freshnessBySource sourceId = some freshness ∧
        coverage.relevanceFloor ≤ demand.importance ∧ (freshness < demand.requiredFreshness ∨
          state.confidence < demand.requiredConfidence) := by
  have hgaps : sourceId ∈ (coverage.gaps.map fun entry => entry.sourceId) ↔
      ∃ entry ∈ coverage.entries, ¬entry.sufficient ∧
        coverage.relevanceFloor ≤ entry.importance ∧ entry.sourceId = sourceId := by
    simp [AwarenessCoverage.gaps, AwarenessCoverage.relevantEntries, and_assoc]
  rw [hgaps]
  simp only [← hsorted.mem_iff]
  refine exists_mem_iff_of_forall₂ heach fun demand entry hentry => ?_
  obtain ⟨state, hstate, freshness, hid, hfresh, hsufficient⟩ := hentry.sufficient
  rw [hentry.sourceId, hentry.importance, hsufficient, not_and_or, not_le, not_le]
  constructor
  · rintro ⟨hshort, hfloor, rfl⟩
    exact ⟨state, hstate, freshness, rfl, hid, hfresh, hfloor, hshort⟩
  · rintro ⟨other, hother, value, rfl, hsame, hvalue, hfloor, hshort⟩
    have hstateEq : other = state :=
      List.inj_on_of_nodup_map hstates hother hstate (hsame.trans hid.symm)
    cases hfresh.symm.trans hvalue
    exact ⟨hstateEq ▸ hshort, hfloor, rfl⟩

/-- **A coverage is found on the inputs of a plan.** -/
theorem fromInputs_ok (h : Fitting states demands freshnessBySource) :
    ∃ coverage, AwarenessCoverage.fromInputs b states demands freshnessBySource
        r.relevanceFloor = .ok coverage ∧
      ∀ sourceId, sourceId ∈ (coverage.gaps.map fun entry => entry.sourceId) ↔
        ∃ demand ∈ demands, ∃ state ∈ states, ∃ freshness, demand.sourceId = sourceId ∧
          state.sourceId = sourceId ∧ freshnessBySource sourceId = some freshness ∧
          r.relevanceFloor ≤ demand.importance ∧ (freshness < demand.requiredFreshness ∨
            state.confidence < demand.requiredConfidence) := by
  have hsorted := List.perm_insertionSort
    (fun a b : AwarenessDemand => a.sourceId ≤ b.sourceId) demands
  obtain ⟨entries, hentries⟩ := exists_mapM fun demand hmem =>
    (ofDemand_ok h (hsorted.mem_iff.mp hmem)).imp fun _ hentry => hentry.1
  have heach : List.Forall₂ (EntryFor states freshnessBySource)
      (demands.insertionSort fun a b => a.sourceId ≤ b.sourceId) entries := by
    refine ((List.forall₂_and_left _ _).mpr
      ⟨fun demand hmem => ofDemand_ok h (hsorted.mem_iff.mp hmem),
        mapM_ok.mp hentries⟩).imp fun demand entry => ?_
    rintro ⟨⟨other, hother, hentry⟩, hok⟩
    cases hother.symm.trans hok
    exact hentry
  have hunique : (entries.map fun entry => entry.sourceId).Nodup := by
    rw [map_eq_of_forall₂ heach fun _ _ hentry => hentry.sourceId]
    exact ((hsorted.map _).nodup_iff).mpr h.demanded
  refine ⟨⟨entries, r.relevanceFloor, r.relevanceFloor_unit, hunique⟩, ?_, ?_⟩
  · unfold AwarenessCoverage.fromInputs
    rw [bind_of_ok (refuse_of (not_not.mpr h.sources)),
      bind_of_ok (refuse_of (not_not.mpr h.demanded)),
      bind_of_ok (refuse_of (not_not.mpr (unknownDemands_eq_nil h))),
      bind_of_ok (refuse_of (not_not.mpr (missingFreshness_eq_nil h)))]
    refine (bind_of_ok hentries _).trans ?_
    rw [dif_pos r.relevanceFloor_unit, dif_pos hunique]
    rfl
  · intro sourceId
    exact mem_gaps h.sources hsorted heach sourceId

/-! ## The plan -/

/-- What is refreshed or deferred is a candidate. -/
theorem disposed_iff (hids : (sources.map fun source => source.state.sourceId).Nodup)
    (hmem : source ∈ sources) :
    (r.dispositionOf (r.selectedIds budget sources) source = .refresh ∨
      r.dispositionOf (r.selectedIds budget sources) source = .defer) ↔ r.Candidate source := by
  unfold WakeReconciler.dispositionOf
  by_cases hselected : source.state.sourceId ∈ r.selectedIds budget sources
  · simp [hselected, candidate_of_selected hids hmem hselected]
  · by_cases hcandidate : r.Candidate source
    · simp [hselected, hcandidate]
    · simp [hselected, hcandidate]

section Plan

variable {plan : ReconciliationPlan} {sorted : List AssessedSource}
  (hsorted : sorted.Perm sources)
  (hdecisions : List.Forall₂ (fun source decision =>
    decision.sourceId = source.state.sourceId ∧
      decision.disposition = r.dispositionOf (r.selectedIds budget sources) source)
    sorted plan.decisions)
include hsorted hdecisions

theorem refreshed_iff (hmem : source ∈ sources) :
    (∃ decision ∈ plan.decisions, decision.sourceId = source.state.sourceId ∧
      decision.disposition = .refresh) ↔
      source.state.sourceId ∈ r.selectedIds budget sources := by
  rw [decisions_iff hsorted hdecisions fun id disposition =>
    id = source.state.sourceId ∧ disposition = .refresh]
  constructor
  · rintro ⟨other, hother, hid, hrefresh⟩
    rw [← hid]
    unfold WakeReconciler.dispositionOf at hrefresh
    split_ifs at hrefresh with hselected
    exact hselected
  · intro hselected
    exact ⟨source, hmem, rfl, if_pos hselected⟩

/-- What a plan refreshes of some of its sources. -/
theorem refreshed_eq {some : List AssessedSource} (hsome : some ⊆ sources) :
    plan.refreshed (some.map AssessedSource.state) =
      (some.filter fun source => source.state.sourceId ∈ r.selectedIds budget sources).map
        AssessedSource.state := by
  unfold ReconciliationPlan.refreshed
  rw [List.filter_map]
  refine congrArg _ (List.filter_congr fun source hmem => ?_)
  exact decide_eq_decide.mpr (refreshed_iff hsorted hdecisions (hsome hmem))

/-- **What a plan refreshes is within the budget.** -/
theorem refreshed_within (hids : (sources.map fun source => source.state.sourceId).Nodup) :
    totalCost (plan.refreshed (sources.map AssessedSource.state)) =
        budget.maxCost - (r.selectSources budget sources).2 ∧
      totalCost (plan.refreshed (sources.map AssessedSource.state)) ≤ budget.maxCost ∧
      ((plan.refreshed (sources.map AssessedSource.state)).length : Int) ≤ budget.maxSources := by
  have hperm := (selected_perm hids r budget).map AssessedSource.state
  obtain ⟨taken, -, htaken, hleft⟩ := GreedyBudget.walk_taken
    (fun source : AssessedSource => source.state.refreshCost) budget.maxSources
    (r.candidates sources) [] budget.maxCost
  have hlimit : ((r.selectSources budget sources).1.length : Int) ≤ budget.maxSources :=
    GreedyBudget.walk_length_le budget.maxSources_nonneg
  have hnonneg : 0 ≤ (r.selectSources budget sources).2 :=
    GreedyBudget.walk_left_nonneg budget.maxCost_nonneg
  have hcost : totalCost (plan.refreshed (sources.map AssessedSource.state)) =
      budget.maxCost - (r.selectSources budget sources).2 := by
    rw [refreshed_eq hsorted hdecisions (List.Subset.refl _), totalCost,
      (hperm.map _).sum_eq, WakeReconciler.selectSources, htaken, hleft, List.nil_append,
      sub_sub_cancel, List.map_map]
    rfl
  refine ⟨hcost, ?_, ?_⟩
  · rw [hcost]
    exact sub_le_self _ hnonneg
  · rw [refreshed_eq hsorted hdecisions (List.Subset.refl _), hperm.length_eq,
      List.length_map]
    exact hlimit

/-- **What a plan defers did not fit** after the sources ranked before it. -/
theorem deferred_left_out (hids : (sources.map fun source => source.state.sourceId).Nodup)
    {decision : ReconciliationDecision} (hmem : decision ∈ plan.decisions)
    (hdefer : decision.disposition = .defer) :
    ∃ before source after, r.candidates sources = before ++ source :: after ∧
      source.state.sourceId = decision.sourceId ∧
      (budget.maxSources ≤ ((plan.refreshed (before.map AssessedSource.state)).length : Int) ∨
        budget.maxCost - totalCost (plan.refreshed (before.map AssessedSource.state)) <
          source.state.refreshCost) := by
  obtain ⟨source, hsource, hid, hdisposed⟩ := (decisions_iff hsorted hdecisions
    fun id disposition => id = decision.sourceId ∧ disposition = .defer).mp
      ⟨decision, hmem, rfl, hdefer⟩
  unfold WakeReconciler.dispositionOf at hdisposed
  split_ifs at hdisposed with hselected hcandidate
  obtain ⟨before, after, hsplit⟩ := List.append_of_mem (mem_candidates.mpr ⟨hsource, hcandidate⟩)
  refine ⟨before, source, after, hsplit, hid, ?_⟩
  have hsubset : before ⊆ sources := fun other hother =>
    (mem_candidates.mp (hsplit ▸ List.mem_append_left _ hother)).1
  obtain ⟨taken, -, htaken, hleft⟩ := GreedyBudget.walk_taken
    (fun source : AssessedSource => source.state.refreshCost) budget.maxSources before []
    budget.maxCost
  have hrefreshed := refreshed_eq hsorted hdecisions hsubset
  rw [selected_before hids r budget hsplit, htaken, List.nil_append] at hrefreshed
  have hout : source ∉ (GreedyBudget.walk (fun source : AssessedSource =>
      source.state.refreshCost) budget.maxSources (before ++ source :: after) []
      budget.maxCost).1 := by
    intro hin
    rw [← hsplit] at hin
    exact hselected (List.mem_map_of_mem hin)
  rw [hrefreshed, totalCost, List.map_map, List.length_map]
  refine (GreedyBudget.left_out hout).imp (fun hfull => ?_) fun hcost => ?_
  · rwa [htaken] at hfull
  · rwa [hleft] at hcost

end Plan

theorem noCursor : ∀ cursor ∈ (none : Option String), blank cursor = false := by simp

theorem floor_unit : (0 : ℚ) ≤ 3 / 20 ∧ (3 / 20 : ℚ) ≤ 1 := by norm_num

theorem room_nonneg : (0 : ℚ) ≤ 3 := by norm_num

theorem places_nonneg : (0 : Int) ≤ 2 := by decide

/-- A mailbox that was read a while ago. -/
def mailbox : SourceState where
  sourceId := "mailbox"
  domain := "mail"
  lastObservedAt := .utc 0
  lastCursor := none
  changeHazard := 1
  confidence := 1
  refreshCost := 2
  capturedAt := .utc 60
  texts := by decide
  captured := by decide
  cursor := noCursor
  changeHazard_nonneg := one_unit.1
  confidence_unit := one_unit
  refreshCost_nonneg := by norm_num

/-- A chat that was read then too. -/
def chatroom : SourceState :=
  { mailbox with
    sourceId := "chatroom", domain := "chat", texts := by decide }

/-- Both decide what happens next. -/
def demandFresh (sourceId : String) (text : blank sourceId = false) : AwarenessDemand where
  sourceId := sourceId
  governingGoalRefs := []
  relevance := 1
  decisionSensitivity := 1
  requiredFreshness := 1
  requiredConfidence := 1
  text := text
  refs := by simp
  refs_unique := List.nodup_nil
  relevance_unit := one_unit
  decisionSensitivity_unit := one_unit
  requiredFreshness_unit := one_unit_pos
  requiredConfidence_unit := one_unit_pos

end Continuity

end Noema
