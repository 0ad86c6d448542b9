import Mathlib.Data.List.Forall2
import Noema.WakeCoverage
import Noema.WorkModels

/-!
# Plans and gaps

What `plan` returns is read off its decisions: which sources it refreshes, what they cost, and
which it leaves for later.  `AwarenessCoverage.from_inputs` finds the same gaps by itself.
-/
namespace Noema

namespace Continuity

/-- The sources of a list that a plan refreshes. -/
def ReconciliationPlan.refreshed (plan : ReconciliationPlan) (states : List SourceState) :
    List SourceState :=
  states.filter fun state => ∃ decision ∈ plan.decisions,
    decision.sourceId = state.sourceId ∧ decision.disposition = .refresh

/-- What it costs to refresh sources. -/
def totalCost (states : List SourceState) : ℚ :=
  (states.map SourceState.refreshCost).sum

/-- A plan decides on every source, keeps to the budget, refreshes or defers the gaps of a
coverage, and defers what does not fit after the sources ranked before it. -/
structure WakePlanned (r : WakeReconciler) (states : List SourceState)
    (sources : List AssessedSource) (budget : ObservationBudget) (coverage : AwarenessCoverage)
    (plan : ReconciliationPlan) : Prop where
  decided : (plan.decisions.map fun decision => decision.sourceId).Perm
    (states.map SourceState.sourceId)
  total : plan.totalRefreshCost = totalCost (plan.refreshed states)
  cost : totalCost (plan.refreshed states) ≤ budget.maxCost
  count : ((plan.refreshed states).length : Int) ≤ budget.maxSources
  gaps : ∀ sourceId, (∃ decision ∈ plan.decisions, decision.sourceId = sourceId ∧
    (decision.disposition = .refresh ∨ decision.disposition = .defer)) ↔
      sourceId ∈ coverage.gaps.map fun entry => entry.sourceId
  deferred : ∀ decision ∈ plan.decisions, decision.disposition = .defer →
    ∃ before source after, r.candidates sources = before ++ source :: after ∧
      source.state.sourceId = decision.sourceId ∧
      (budget.maxSources ≤ ((plan.refreshed (before.map AssessedSource.state)).length : Int) ∨
        budget.maxCost - totalCost (plan.refreshed (before.map AssessedSource.state)) <
          source.state.refreshCost)

variable {r : WakeReconciler} {b : WakeBuiltins} {states : List SourceState}
  {demands : List AwarenessDemand} {freshnessBySource : String → Option ℚ}
  {budget : ObservationBudget} {createdAt : Datetime} {sources : List AssessedSource}
  {source : AssessedSource}

/-! ## Lists that correspond -/

theorem map_eq_of_forall₂ {α β γ : Type} {R : α → β → Prop} {l : List α} {l' : List β}
    {f : α → γ} {g : β → γ} (h : List.Forall₂ R l l') (hR : ∀ a b, R a b → g b = f a) :
    l'.map g = l.map f := by
  induction h with
  | nil => rfl
  | cons hab _ ih => rw [List.map_cons, List.map_cons, hR _ _ hab, ih]

theorem exists_mem_iff_of_forall₂ {α β : Type} {R : α → β → Prop} {l : List α} {l' : List β}
    {P : α → Prop} {Q : β → Prop} (h : List.Forall₂ R l l') (hR : ∀ a b, R a b → (Q b ↔ P a)) :
    (∃ b ∈ l', Q b) ↔ ∃ a ∈ l, P a := by
  induction h with
  | nil => simp
  | cons hab _ ih =>
    rw [List.exists_mem_cons_iff, List.exists_mem_cons_iff, hR _ _ hab]
    exact or_congr_right ih

/-! ## Inputs -/

theorem unknownDemands_eq_nil (h : Fitting states demands freshnessBySource) :
    unknownDemands demands states = [] := by
  have hnone : ((demands.map AwarenessDemand.sourceId).filter fun id =>
      id ∉ states.map SourceState.sourceId) = [] := by
    rw [List.filter_eq_nil_iff]
    intro id hid
    obtain ⟨demand, hdemand, rfl⟩ := List.mem_map.mp hid
    simpa using h.known demand hdemand
  rw [unknownDemands, hnone]
  rfl

theorem missingFreshness_eq_nil (h : Fitting states demands freshnessBySource) :
    missingFreshness demands freshnessBySource = [] := by
  have hnone : ((demands.map AwarenessDemand.sourceId).filter fun id =>
      (freshnessBySource id).isNone) = [] := by
    rw [List.filter_eq_nil_iff]
    intro id hid
    obtain ⟨demand, hdemand, rfl⟩ := List.mem_map.mp hid
    obtain ⟨freshness, hfreshness, -⟩ := h.fresh demand hdemand
    simp [hfreshness]
  rw [missingFreshness, hnone]
  rfl

/-- The sources of a wake, each as `assess` finds it. -/
structure Assessed (demands : List AwarenessDemand) (freshnessBySource : String → Option ℚ)
    (states : List SourceState) (sources : List AssessedSource) : Prop where
  states_eq : sources.map AssessedSource.state = states
  each : ∀ source ∈ sources, Assessment demands freshnessBySource source.state source

theorem assess_all (h : Fitting states demands freshnessBySource) :
    ∃ sources, states.mapM (assess demands freshnessBySource) = .ok sources ∧
      Assessed demands freshnessBySource states sources := by
  obtain ⟨sources, hsources⟩ := exists_mapM fun state (_ : state ∈ states) =>
    (assess_ok h state).imp fun _ hsource => hsource.1
  have hall : List.Forall₂ (Assessment demands freshnessBySource) states sources := by
    refine (mapM_ok.mp hsources).imp fun state source hsource => ?_
    obtain ⟨other, hother, hassessment⟩ := assess_ok h state
    cases hother.symm.trans hsource
    exact hassessment
  refine ⟨sources, hsources, ?_⟩
  clear hsources h
  induction hall with
  | nil => exact ⟨rfl, fun source hmem => nomatch hmem⟩
  | @cons state source states sources hsource _ ih =>
    refine ⟨?_, fun other hother => ?_⟩
    · rw [List.map_cons, hsource.state_eq, ih.states_eq]
    · rcases List.mem_cons.mp hother with rfl | hother
      · rwa [← hsource.state_eq] at hsource
      · exact ih.each other hother

namespace Assessed

variable (h : Assessed demands freshnessBySource states sources)
include h

theorem ids_eq : (sources.map fun source => source.state.sourceId) =
    states.map SourceState.sourceId := by
  rw [← h.states_eq, List.map_map]
  rfl

theorem mem_states {state : SourceState} :
    state ∈ states ↔ ∃ source ∈ sources, source.state = state := by
  rw [← h.states_eq, List.mem_map]

/-- A candidate is short of what is demanded of it. -/
theorem candidate_iff (hmem : source ∈ sources) : r.Candidate source ↔ ∃ demand freshness,
    demandFor demands source.state.sourceId = some demand ∧
      freshnessBySource source.state.sourceId = some freshness ∧
      r.relevanceFloor ≤ demand.importance ∧ (freshness < demand.requiredFreshness ∨
        source.state.confidence < demand.requiredConfidence) := by
  constructor
  · rintro ⟨⟨demand, freshness⟩, hdemand, hfloor, hshort⟩
    obtain ⟨hfor, hfresh⟩ := ((h.each source hmem).demand_iff demand freshness).mp hdemand
    exact ⟨demand, freshness, hfor, hfresh, hfloor, hshort⟩
  · rintro ⟨demand, freshness, hfor, hfresh, hfloor, hshort⟩
    exact ⟨(demand, freshness), ((h.each source hmem).demand_iff demand freshness).mpr
      ⟨hfor, hfresh⟩, hfloor, hshort⟩

end Assessed

/-! ## Selection -/

theorem mem_candidates : source ∈ r.candidates sources ↔ source ∈ sources ∧ r.Candidate source := by
  rw [WakeReconciler.candidates, List.mem_insertionSort, List.mem_filter, decide_eq_true_iff]

/-- The ids that are refreshed. -/
def WakeReconciler.selectedIds (r : WakeReconciler) (budget : ObservationBudget)
    (sources : List AssessedSource) : List String :=
  (r.selectSources budget sources).1.map fun source => source.state.sourceId

section Distinct

variable (hids : (sources.map fun source => source.state.sourceId).Nodup)
include hids

theorem eq_of_sourceId {other : AssessedSource} (hmem : source ∈ sources)
    (hother : other ∈ sources) (hid : source.state.sourceId = other.state.sourceId) :
    source = other :=
  List.inj_on_of_nodup_map hids hmem hother hid

theorem candidates_ids_nodup :
    ((r.candidates sources).map fun source => source.state.sourceId).Nodup :=
  (((List.perm_insertionSort _ _).map _).nodup_iff).mpr
    ((List.filter_sublist.map _).nodup hids)

/-- What is refreshed of the candidates before one. -/
theorem selected_before (r : WakeReconciler) (budget : ObservationBudget) {before after : List AssessedSource}
    (hsplit : r.candidates sources = before ++ after) :
    (before.filter fun source => source.state.sourceId ∈ r.selectedIds budget sources) =
      (GreedyBudget.walk (fun source : AssessedSource => source.state.refreshCost)
        budget.maxSources before [] budget.maxCost).1 := by
  have hkeys := candidates_ids_nodup (r := r) hids
  unfold WakeReconciler.selectedIds WakeReconciler.selectSources
  rw [hsplit] at hkeys ⊢
  exact GreedyBudget.filter_before (fun source : AssessedSource => source.state.sourceId) hkeys

theorem candidate_of_selected (hmem : source ∈ sources)
    (hselected : source.state.sourceId ∈ r.selectedIds budget sources) : r.Candidate source := by
  obtain ⟨taken, htaken, hid⟩ := List.mem_map.mp hselected
  obtain ⟨more, hsub, hmore, -⟩ := GreedyBudget.walk_taken
    (fun source : AssessedSource => source.state.refreshCost) budget.maxSources
    (r.candidates sources) [] budget.maxCost
  have hcandidate : taken ∈ r.candidates sources := by
    refine hsub.subset ?_
    rw [WakeReconciler.selectSources, hmore] at htaken
    exact htaken
  obtain ⟨htakenMem, hcandidate⟩ := mem_candidates.mp hcandidate
  rwa [← eq_of_sourceId hids htakenMem hmem hid]

/-- What is refreshed of all sources. -/
theorem selected_perm (r : WakeReconciler) (budget : ObservationBudget) :
    (sources.filter fun source => source.state.sourceId ∈ r.selectedIds budget sources).Perm
      (r.selectSources budget sources).1 := by
  have hcandidates : (sources.filter fun source =>
      source.state.sourceId ∈ r.selectedIds budget sources) =
      (sources.filter fun source => r.Candidate source).filter fun source =>
        source.state.sourceId ∈ r.selectedIds budget sources := by
    rw [List.filter_filter]
    refine List.filter_congr fun source hmem => ?_
    by_cases hselected : source.state.sourceId ∈ r.selectedIds budget sources
    · simp [hselected, candidate_of_selected hids hmem hselected]
    · simp [hselected]
  have hall := selected_before hids r budget
    (List.append_nil (r.candidates sources)).symm
  rw [hcandidates]
  exact ((List.perm_insertionSort _ _).symm.filter _).trans (List.Perm.of_eq hall)

end Distinct

/-! ## Decisions -/

/-- The decisions of a plan are those on its sources. -/
theorem decisions_iff {selected : List String} {decisions : List ReconciliationDecision}
    {sorted : List AssessedSource} (hsorted : sorted.Perm sources)
    (hdecisions : List.Forall₂ (fun source decision =>
      decision.sourceId = source.state.sourceId ∧
        decision.disposition = r.dispositionOf selected source) sorted decisions)
    (P : String → ReconciliationDisposition → Prop) :
    (∃ decision ∈ decisions, P decision.sourceId decision.disposition) ↔
      ∃ source ∈ sources, P source.state.sourceId (r.dispositionOf selected source) := by
  have hmem : (∃ source ∈ sources, P source.state.sourceId (r.dispositionOf selected source)) ↔
      ∃ source ∈ sorted, P source.state.sourceId (r.dispositionOf selected source) := by
    simp only [hsorted.mem_iff]
  rw [hmem]
  refine exists_mem_iff_of_forall₂ hdecisions fun source decision hdecision => ?_
  rw [hdecision.1, hdecision.2]

/-- **`plan` does not raise**: it decides on each source as it is disposed of. -/
theorem plan_ok (r : WakeReconciler) (b : WakeBuiltins) (budget : ObservationBudget)
    (createdAt : Datetime) (h : Fitting states demands freshnessBySource)
    (hsources : states.mapM (assess demands freshnessBySource) = .ok sources)
    (hall : Assessed demands freshnessBySource states sources) :
    ∃ plan sorted, r.plan b states demands freshnessBySource budget createdAt = .ok plan ∧
      sorted.Perm sources ∧
      List.Forall₂ (fun source decision => decision.sourceId = source.state.sourceId ∧
        decision.disposition = r.dispositionOf (r.selectedIds budget sources) source)
        sorted plan.decisions ∧
      plan.totalRefreshCost = budget.maxCost - (r.selectSources budget sources).2 := by
  have hids : (sources.map fun source => source.state.sourceId).Nodup := hall.ids_eq ▸ h.sources
  have hsorted := List.perm_insertionSort
    (fun a b : AssessedSource => a.state.sourceId ≤ b.state.sourceId) sources
  have hdecided : ∀ source ∈ sources, ∃ decision,
      r.decideSource b (r.selectedIds budget sources) createdAt source = .ok decision ∧
        decision.sourceId = source.state.sourceId ∧
        decision.disposition = r.dispositionOf (r.selectedIds budget sources) source :=
    fun source hmem => WakeReconciler.decideSource_ok (hall.each source hmem).need
      (candidate_of_selected hids hmem)
  obtain ⟨decisions, hdecisions⟩ := exists_mapM fun source hmem =>
    (hdecided source (hsorted.mem_iff.mp hmem)).imp fun _ hdecision => hdecision.1
  have heach : List.Forall₂ (fun source decision => decision.sourceId = source.state.sourceId ∧
      decision.disposition = r.dispositionOf (r.selectedIds budget sources) source)
      (sources.insertionSort fun a b => a.state.sourceId ≤ b.state.sourceId) decisions := by
    refine ((List.forall₂_and_left _ _).mpr ⟨fun source hmem => hdecided source (hsorted.mem_iff.mp hmem),
      mapM_ok.mp hdecisions⟩).imp fun source decision => ?_
    rintro ⟨⟨other, hother, hdecision⟩, hok⟩
    cases hother.symm.trans hok
    exact hdecision
  have hunique : (decisions.map fun decision => decision.sourceId).Nodup := by
    rw [map_eq_of_forall₂ heach fun _ _ hdecision => hdecision.1]
    exact ((hsorted.map _).nodup_iff).mpr hids
  have hcost : 0 ≤ budget.maxCost - (r.selectSources budget sources).2 := by
    obtain ⟨taken, -, -, hleft⟩ := GreedyBudget.walk_taken
      (fun source : AssessedSource => source.state.refreshCost) budget.maxSources
      (r.candidates sources) [] budget.maxCost
    rw [WakeReconciler.selectSources, hleft, sub_sub_cancel]
    refine List.sum_nonneg fun cost hcost => ?_
    obtain ⟨source, -, rfl⟩ := List.mem_map.mp hcost
    exact source.state.refreshCost_nonneg
  refine ⟨⟨decisions, _⟩, _, ?_, hsorted, heach, rfl⟩
  unfold WakeReconciler.plan
  rw [bind_of_ok (refuse_of (not_not.mpr h.sources)),
    bind_of_ok (refuse_of (not_not.mpr h.demanded)),
    bind_of_ok (refuse_of (not_not.mpr (unknownDemands_eq_nil h))),
    bind_of_ok (refuse_of (not_not.mpr (missingFreshness_eq_nil h))), bind_of_ok hsources]
  refine (bind_of_ok hdecisions _).trans ?_
  exact (bind_of_ok (refuse_of (not_not.mpr hunique)) _).trans
    (bind_of_ok (refuse_of (not_lt.mpr hcost)) _)

end Continuity

end Noema
