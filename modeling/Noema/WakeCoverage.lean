import Noema.WakePlanning
import Noema.Lib.UnitInterval

/-!
# A wake's plan is complete

On inputs whose ids fit together and whose freshness is between zero and one, `plan` does not
raise: it decides on every source once, keeps to the budget, and refreshes or defers exactly
the gaps of the coverage on the same inputs.
-/
namespace Noema

namespace Continuity

/-- What the id checks of `plan` and of `from_inputs` ask of their inputs, with a freshness
between zero and one for every demand. -/
structure Fitting (states : List SourceState) (demands : List AwarenessDemand)
    (freshnessBySource : String → Option ℚ) : Prop where
  sources : (states.map SourceState.sourceId).Nodup
  demanded : (demands.map AwarenessDemand.sourceId).Nodup
  known : ∀ demand ∈ demands, demand.sourceId ∈ states.map SourceState.sourceId
  fresh : ∀ demand ∈ demands, ∃ freshness, freshnessBySource demand.sourceId = some freshness ∧
    InUnit freshness

variable {r : WakeReconciler} {b : WakeBuiltins} {states : List SourceState}
  {demands : List AwarenessDemand} {freshnessBySource : String → Option ℚ}
  {budget : ObservationBudget} {createdAt : Datetime} {sources : List AssessedSource}
  {source : AssessedSource}

theorem demandFor_eq_some {sourceId : String} {demand : AwarenessDemand}
    (h : (demands.map AwarenessDemand.sourceId).Nodup) :
    demandFor demands sourceId = some demand ↔ demand ∈ demands ∧ demand.sourceId = sourceId := by
  constructor
  · intro hfind
    unfold demandFor at hfind
    exact ⟨List.mem_of_find?_eq_some hfind, by simpa using List.find?_some hfind⟩
  · rintro ⟨hmem, rfl⟩
    exact KeyedTable.find_of_mem (t := ⟨demands, h⟩) hmem

theorem requireBounded_of {value : ℚ} {name : String} (h : InUnit value) :
    requireBounded (.finite value) name = .ok () := if_pos h

/-! ## Needs -/

theorem importance_inUnit (demand : AwarenessDemand) : InUnit demand.importance :=
  InUnit.mul demand.relevance_unit demand.decisionSensitivity_unit

/-- **A need is between zero and one.** -/
theorem refreshNeed_ok {state : SourceState} {demand : AwarenessDemand} {freshness : ℚ}
    (hid : state.sourceId = demand.sourceId) (hfresh : InUnit freshness) :
    ∃ need, refreshNeed state demand freshness = .ok need ∧ InUnit need := by
  refine ⟨_, (bind_of_ok (refuse_of (not_not.mpr hid)) _).trans
    (bind_of_ok (refuse_of fun hno => hno hfresh) _), ?_⟩
  have hfreshnessGap := InUnit.max_one_sub
    (div_nonneg hfresh.1 demand.requiredFreshness_unit.1.le)
  have hconfidenceGap := InUnit.max_one_sub
    (div_nonneg state.confidence_unit.1 demand.requiredConfidence_unit.1.le)
  exact (importance_inUnit demand).mul
    (hfreshnessGap.one_sub.mul hconfidenceGap.one_sub).one_sub

/-- What `assess` finds of a source. -/
structure Assessment (demands : List AwarenessDemand) (freshnessBySource : String → Option ℚ)
    (state : SourceState) (source : AssessedSource) : Prop where
  state_eq : source.state = state
  need : InUnit source.need
  demand_iff : ∀ demand freshness, source.demand = some (demand, freshness) ↔
    demandFor demands state.sourceId = some demand ∧
      freshnessBySource state.sourceId = some freshness

theorem assess_ok (h : Fitting states demands freshnessBySource) (state : SourceState) :
    ∃ source, assess demands freshnessBySource state = .ok source ∧
      Assessment demands freshnessBySource state source := by
  unfold assess
  cases hdemand : demandFor demands state.sourceId with
  | none =>
    refine ⟨_, rfl, rfl, ⟨le_rfl, zero_le_one⟩, fun demand freshness => ?_⟩
    simp [hdemand]
  | some demand =>
    obtain ⟨hmem, hid⟩ := (demandFor_eq_some h.demanded).mp hdemand
    obtain ⟨freshness, hfreshness, hunit⟩ := h.fresh demand hmem
    rw [hid] at hfreshness
    obtain ⟨need, hneed, hneedUnit⟩ := refreshNeed_ok hid.symm hunit
    rw [hfreshness]
    refine ⟨_, bind_of_ok hneed _, rfl, hneedUnit, fun other value => ?_⟩
    simp [hdemand, hfreshness]

/-! ## Decisions -/

namespace WakeReconciler

/-- How a source is disposed of. -/
def dispositionOf (r : WakeReconciler) (selected : List String) (source : AssessedSource) :
    ReconciliationDisposition :=
  if source.state.sourceId ∈ selected then .refresh
  else if r.Candidate source then .defer
  else .acceptExisting

theorem decision_ok (content : ReconciliationContent) (hsource : blank content.sourceId = false)
    (hreason : blank content.reason = false) (hneed : InUnit content.refreshNeed)
    (hrequest : content.disposition = .refresh ↔ content.request.isSome = true)
    (hsame : ∀ request ∈ content.request, request.sourceId = content.sourceId) :
    ∃ decision, ReconciliationDecision.create content = .ok decision ∧
      decision.toReconciliationContent = content := by
  have hcheck : content.check = .ok () := by
    refine (bind_of_ok (refuse_of ?_) _).trans ((bind_of_ok (requireBounded_of hneed) _).trans ?_)
    · simp [hsource, hreason]
    · refine (bind_of_ok (refuse_of (not_not.mpr hrequest)) _).trans (refuse_of ?_)
      rintro ⟨request, hmem, hne⟩
      exact hne (hsame request hmem)
  exact ⟨_, checkedBy_of hcheck, rfl⟩

theorem request_ok (b : WakeBuiltins) (content : RefreshContent) (hsource : blank content.sourceId = false)
    (hreason : blank content.reason = false) (hfreshness : InUnit content.desiredFreshness)
    (hconfidence : InUnit content.desiredConfidence) (hpriority : InUnit content.priority)
    (hcost : 0 ≤ content.maxCost) : ∃ request, RefreshRequest.create b content = .ok request ∧
      request.sourceId = content.sourceId := by
  have hid : blank ("refresh-request:" ++ b.request content) = false := blank_append (by decide)
  have hcheck : content.check ("refresh-request:" ++ b.request content) = .ok () := by
    refine (bind_of_ok (refuse_of ?_) _).trans ?_
    · simp [hid, hsource, hreason]
    · refine (bind_of_ok (requireBounded_of hfreshness) _).trans ?_
      refine (bind_of_ok (requireBounded_of hconfidence) _).trans ?_
      exact (bind_of_ok (requireBounded_of hpriority) _).trans (refuse_of (not_lt.mpr hcost))
  exact ⟨⟨content, _, hcheck⟩, checkedBy_of hcheck, rfl⟩

/-- **A source is decided on as it is disposed of.** -/
theorem decideSource_ok {selected : List String} (hneed : InUnit source.need)
    (hselected : source.state.sourceId ∈ selected → r.Candidate source) :
    ∃ decision, r.decideSource b selected createdAt source = .ok decision ∧
      decision.sourceId = source.state.sourceId ∧
      decision.disposition = r.dispositionOf selected source := by
  have htext := source.state.texts.1
  -- Without a request, any content makes a decision.
  have hplain : ∀ disposition reason, disposition ≠ .refresh → blank reason = false →
      ∃ decision, ReconciliationDecision.create
        { sourceId := source.state.sourceId, disposition, refreshNeed := source.need, reason
          request := none } = .ok decision ∧ decision.sourceId = source.state.sourceId ∧
        decision.disposition = disposition := by
    intro disposition reason hdisposition hreason
    obtain ⟨decision, hdecision, hcontent⟩ := decision_ok
      { sourceId := source.state.sourceId, disposition, refreshNeed := source.need, reason
        request := none } htext hreason hneed (iff_of_false hdisposition Bool.false_ne_true)
      fun request hmem => nomatch hmem
    exact ⟨decision, hdecision, by rw [hcontent], by rw [hcontent]⟩
  unfold decideSource dispositionOf
  dsimp only
  by_cases hmem : source.state.sourceId ∈ selected
  · obtain ⟨⟨demand, freshness⟩, hdemand, -⟩ := hselected hmem
    rw [if_pos hmem, if_pos hmem, Option.mem_def.mp hdemand]
    dsimp only
    have hrequestReason :
        blank "insufficient decision-relevant freshness or confidence" = false := by decide
    have hreason : blank "epistemic coverage is below the decision threshold" = false := by decide
    obtain ⟨request, hrequest, hsame⟩ := request_ok b
      { sourceId := source.state.sourceId
        reason := "insufficient decision-relevant freshness or confidence"
        desiredFreshness := demand.requiredFreshness
        desiredConfidence := demand.requiredConfidence, priority := source.need
        maxCost := source.state.refreshCost, createdAt } htext hrequestReason
      ⟨demand.requiredFreshness_unit.1.le, demand.requiredFreshness_unit.2⟩
      ⟨demand.requiredConfidence_unit.1.le, demand.requiredConfidence_unit.2⟩ hneed
      source.state.refreshCost_nonneg
    obtain ⟨decision, hdecision, hcontent⟩ := decision_ok
      { sourceId := source.state.sourceId, disposition := .refresh, refreshNeed := source.need
        reason := "epistemic coverage is below the decision threshold"
        request := some request } htext hreason hneed (iff_of_true rfl rfl)
      fun other hother => Option.some.inj hother ▸ hsame
    exact ⟨decision, (bind_of_ok hrequest _).trans hdecision, by rw [hcontent], by rw [hcontent]⟩
  · rw [if_neg hmem, if_neg hmem]
    cases hdemand : source.demand with
    | none =>
      rw [if_neg fun hcandidate => by
        obtain ⟨demanded, hdemanded, -⟩ := hcandidate
        rw [hdemand] at hdemanded
        cases hdemanded]
      exact hplain _ _ (by decide) (by decide)
    | some demanded =>
      obtain ⟨demand, freshness⟩ := demanded
      have hcandidate : r.Candidate source ↔ r.relevanceFloor ≤ demand.importance ∧
          (freshness < demand.requiredFreshness ∨
            source.state.confidence < demand.requiredConfidence) := by
        simp [Candidate, hdemand]
      dsimp only
      by_cases hfloor : demand.importance < r.relevanceFloor
      · rw [if_pos hfloor, if_neg fun h => not_le.mpr hfloor (hcandidate.mp h).1]
        exact hplain _ _ (by decide) (by decide)
      · rw [if_neg hfloor]
        by_cases henough : demand.requiredFreshness ≤ freshness ∧
            demand.requiredConfidence ≤ source.state.confidence
        · rw [if_pos henough, if_neg fun h => (hcandidate.mp h).2.elim
            (not_lt.mpr henough.1) (not_lt.mpr henough.2)]
          exact hplain _ _ (by decide) (by decide)
        · have hshort : freshness < demand.requiredFreshness ∨
              source.state.confidence < demand.requiredConfidence := by
            rwa [not_and_or, not_le, not_le] at henough
          rw [if_neg henough, if_pos (hcandidate.mpr ⟨not_lt.mp hfloor, hshort⟩)]
          exact hplain _ _ (by decide) (by decide)

end WakeReconciler

end Continuity

end Noema
