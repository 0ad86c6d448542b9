import Noema.AgendaSelection
import Noema.GoalViews
import Noema.Lib.StableOrder

/-!
# What a selected agenda keeps

The loop of the selector is a walk over the ranked activities, each decision on what the
ones before it have consumed.  Over the rationals the walk never raises, what it consumed is
the rounded sum of what it selected and fits the ceiling, and an activity that it defers
would not have fitted.
-/
namespace Noema

section
variable (epoch : DreamEpoch) (policy : EndogenousPolicySnapshot) (activities : List IntrinsicActivity)
  (estimates : List ValueOfCognitionEstimate) (selectedAt : Datetime)

/-- What the selector asks before it ranks anything. -/
structure AgendaAdmitted : Prop where
  selector_pinned : epoch.selectorId = policy.selectorId ∧
    epoch.selectorVersion = policy.selectorVersion
  selector_supported : policy.selectorId = stableGreedySelectorId ∧
    policy.selectorVersion = stableGreedySelectorVersion
  live : selectedAt.instant < epoch.expiresAt.instant
  policy_pinned : epoch.policyId = policy.policyId
  activities_unique : (activities.map fun activity => activity.activityId).Nodup
  known : ∀ estimate ∈ estimates, ∃ activity ∈ activities, activity.activityId = estimate.activityId
  estimated : ∀ activity ∈ activities, ∃ estimate ∈ estimates,
    estimate.activityId = activity.activityId
  belong : ∀ estimate ∈ estimates, estimate.epochId = epoch.epochId ∧
    estimate.policyId = policy.policyId

/-- The selected ones, in the order of the decisions. -/
def selectedIn (decisions : List AgendaDecision) : List IntrinsicActivity :=
  decisions.filterMap fun decision =>
    if decision.disposition = .selected then
      activities.find? fun activity => activity.activityId = decision.activityId
    else none

end

/-- What activities consume after one another, rounded at every step. -/
def spentFrom (consumed : CognitiveResourceVector) (chosen : List IntrinsicActivity) :
    CognitiveResourceVector :=
  chosen.foldl (fun consumed activity => consumed.sum activity.resources) consumed

/-- More than the ceiling leaves: too many activities, or too much in some dimension. -/
def Exceeds (ceiling consumed resources : CognitiveResourceVector) : Prop :=
  ceiling.activities - consumed.activities < resources.activities ∨
    ∃ dimension, ceiling.amount dimension - consumed.amount dimension < resources.amount dimension

theorem activities_spentFrom (consumed : CognitiveResourceVector) (chosen : List IntrinsicActivity) :
    (spentFrom consumed chosen).activities =
      consumed.activities + (chosen.map fun activity => activity.resources.activities).sum := by
  induction chosen generalizing consumed with
  | nil => simp [spentFrom]
  | cons activity chosen ih =>
    have hstep : spentFrom consumed (activity :: chosen) =
        spentFrom (consumed.sum activity.resources) chosen := rfl
    rw [hstep, ih, CognitiveResourceVector.activities_sum, List.map_cons, List.sum_cons]
    ring

theorem amount_spentFrom (consumed : CognitiveResourceVector) (chosen : List IntrinsicActivity)
    (dimension : CognitiveDimension) : (spentFrom consumed chosen).amount dimension =
      RoundedSum.sum round12 (consumed.amount dimension)
        (chosen.map fun activity => activity.resources.amount dimension) := by
  induction chosen generalizing consumed with
  | nil => rfl
  | cons activity chosen ih =>
    have hstep : spentFrom consumed (activity :: chosen) =
        spentFrom (consumed.sum activity.resources) chosen := rfl
    rw [hstep, ih, CognitiveResourceVector.amount_sum]
    rfl

/-- **The rounded sum is off by at most half a unit of the twelfth digit for each term.** -/
theorem unrounded_sum_le (chosen : List IntrinsicActivity) (dimension : CognitiveDimension) :
    (chosen.map fun activity => activity.resources.amount dimension).sum ≤
      (spentFrom .zero chosen).amount dimension + chosen.length * (1 / 2 / 10 ^ 12) := by
  have herror := RoundedSum.abs_sum_sub_le abs_round12_sub_le
    (CognitiveResourceVector.zero.amount dimension)
    (chosen.map fun activity => activity.resources.amount dimension)
  have hzero : CognitiveResourceVector.zero.amount dimension = 0 := by cases dimension <;> rfl
  rw [← amount_spentFrom, List.length_map, hzero, zero_add] at herror
  have hlow := (abs_le.mp herror).1
  linarith

/-! ### The walk -/

section
variable {epoch : DreamEpoch} {policy : EndogenousPolicySnapshot} {selectedAt : Datetime}
  {ceiling consumed after : CognitiveResourceVector} {activity : IntrinsicActivity}

/-- The decisions on an activity, and what is consumed after each. -/
inductive ActivityDecided (ceiling consumed : CognitiveResourceVector) (activity : IntrinsicActivity) :
    CognitiveResourceVector → AgendaDecision → Prop
  | selected (reason : String)
      (hfits : (consumed.sum activity.resources).fitsWith .rational ceiling = true) :
      ActivityDecided ceiling consumed activity (consumed.sum activity.resources)
        ⟨activity.activityId, .selected, reason⟩
  | deferred (reason : String)
      (hfits : ¬ (consumed.sum activity.resources).fitsWith .rational ceiling = true) :
      ActivityDecided ceiling consumed activity consumed ⟨activity.activityId, .deferred, reason⟩
  | suppressed (reason : String) :
      ActivityDecided ceiling consumed activity consumed ⟨activity.activityId, .suppressed, reason⟩

/-- Decisions one after another. -/
inductive AgendaWalk (ceiling : CognitiveResourceVector) : CognitiveResourceVector →
    List IntrinsicActivity → CognitiveResourceVector → List AgendaDecision → Prop
  | nil (consumed : CognitiveResourceVector) : AgendaWalk ceiling consumed [] consumed []
  | cons {consumed next after : CognitiveResourceVector} {activity : IntrinsicActivity}
      {ranked : List IntrinsicActivity} {decision : AgendaDecision}
      {decisions : List AgendaDecision} (first : ActivityDecided ceiling consumed activity next decision)
      (rest : AgendaWalk ceiling next ranked after decisions) :
      AgendaWalk ceiling consumed (activity :: ranked) after (decision :: decisions)

/-- Over the rationals every activity is decided on. -/
theorem decideActivity_rational (netValue : PyFloat) : ∃ next decision,
    decideActivityWith .rational epoch policy selectedAt consumed activity netValue =
        .ok (next, decision) ∧
      ActivityDecided epoch.budget.ceiling consumed activity next decision := by
  unfold decideActivityWith
  dsimp only
  split_ifs with hexpired hvalue
  · exact ⟨_, _, rfl, .suppressed _⟩
  · exact ⟨_, _, rfl, .suppressed _⟩
  · rw [CognitiveResourceVector.plusWith_rational, ok_bind]
    by_cases hfits : (consumed.sum activity.resources).fitsWith .rational epoch.budget.ceiling = true
    · rw [if_pos hfits]
      exact ⟨_, _, rfl, .selected _ hfits⟩
    · rw [if_neg hfits]
      exact ⟨_, _, rfl, .deferred _ hfits⟩

/-- **The loop is a walk**, which never raises. -/
theorem decideAgenda_rational (ranked : List (IntrinsicActivity × PyFloat)) :
    ∃ after decisions,
      decideAgendaWith .rational epoch policy selectedAt consumed ranked = .ok (after, decisions) ∧
        AgendaWalk epoch.budget.ceiling consumed (ranked.map Prod.fst) after decisions := by
  induction ranked generalizing consumed with
  | nil => exact ⟨consumed, [], rfl, .nil consumed⟩
  | cons row ranked ih =>
    obtain ⟨next, decision, hnext, hdecided⟩ :=
      @decideActivity_rational epoch policy selectedAt consumed row.1 row.2
    obtain ⟨after, decisions, hrest, hwalk⟩ := @ih next
    refine ⟨after, decision :: decisions, ?_, .cons hdecided hwalk⟩
    simp only [decideAgendaWith, hnext, ok_bind, hrest]
    rfl

theorem ActivityDecided.activityId_eq {next : CognitiveResourceVector} {decision : AgendaDecision}
    (h : ActivityDecided ceiling consumed activity next decision) :
    decision.activityId = activity.activityId := by
  cases h <;> rfl

namespace AgendaWalk

variable {ranked : List IntrinsicActivity} {decisions : List AgendaDecision}

/-- One decision for each activity, in their order. -/
theorem ids (h : AgendaWalk ceiling consumed ranked after decisions) :
    decisions.map (fun decision => decision.activityId) =
      ranked.map fun activity => activity.activityId := by
  induction h with
  | nil => rfl
  | cons first _ ih => rw [List.map_cons, List.map_cons, ih, first.activityId_eq]

/-- **What was consumed keeps fitting.** -/
theorem fits (h : AgendaWalk ceiling consumed ranked after decisions)
    (hfits : consumed.fitsWith .rational ceiling = true) :
    after.fitsWith .rational ceiling = true := by
  induction h with
  | nil => exact hfits
  | cons first _ ih =>
    refine ih ?_
    cases first with
    | selected _ hnext => exact hnext
    | deferred => exact hfits
    | suppressed => exact hfits

/-- **What was consumed is the rounded sum of what was selected.** -/
theorem spent {activities : List IntrinsicActivity}
    (h : AgendaWalk ceiling consumed ranked after decisions)
    (hfound : ∀ activity ∈ ranked,
      activities.find? (fun other => other.activityId = activity.activityId) = some activity) :
    after = spentFrom consumed (selectedIn activities decisions) := by
  induction h with
  | nil => rfl
  | cons first _ ih =>
    obtain ⟨hactivity, hrest⟩ := List.forall_mem_cons.mp hfound
    rw [ih hrest]
    cases first with
    | selected reason =>
      rw [selectedIn, selectedIn, List.filterMap_cons, if_pos rfl, hactivity]
      rfl
    | deferred =>
      rw [selectedIn, selectedIn, List.filterMap_cons, if_neg (by simp)]
    | suppressed =>
      rw [selectedIn, selectedIn, List.filterMap_cons, if_neg (by simp)]

/-- A deferred activity did not fit on top of what was consumed before it. -/
theorem deferred (h : AgendaWalk ceiling consumed ranked after decisions)
    {before later : List AgendaDecision} {decision : AgendaDecision}
    (hsplit : decisions = before ++ decision :: later) (hdeferred : decision.disposition = .deferred) :
    ∃ first activity rest middle, ranked = first ++ activity :: rest ∧
      decision.activityId = activity.activityId ∧ AgendaWalk ceiling consumed first middle before ∧
      ¬ (middle.sum activity.resources).fitsWith .rational ceiling = true := by
  induction h generalizing before with
  | nil => simp at hsplit
  | @cons consumed next after activity ranked given decisions first walk ih =>
    cases before with
    | nil =>
      rw [List.nil_append] at hsplit
      obtain ⟨rfl, rfl⟩ := List.cons.inj hsplit
      refine ⟨[], activity, ranked, consumed, rfl, first.activityId_eq, .nil consumed, ?_⟩
      cases first with
      | deferred _ hfits => exact hfits
      | selected | suppressed => cases hdeferred
    | cons earlier before =>
      rw [List.cons_append] at hsplit
      obtain ⟨rfl, hrest⟩ := List.cons.inj hsplit
      obtain ⟨others, other, rest, middle, hranked, hid, hwalk, hfits⟩ := ih hrest
      exact ⟨activity :: others, other, rest, middle, by rw [hranked]; rfl, hid, .cons first hwalk,
        hfits⟩

end AgendaWalk

/-- Nothing consumed fits every ceiling. -/
theorem zero_fitsWith (ceiling : CognitiveResourceVector) :
    CognitiveResourceVector.zero.fitsWith .rational ceiling = true := by
  rw [CognitiveResourceVector.fitsWith_rational]
  refine ⟨ceiling.activities_nonneg, fun dimension => ?_⟩
  have hzero : CognitiveResourceVector.zero.amount dimension = 0 := by cases dimension <;> rfl
  have hceiling := ceiling.amount_nonneg dimension
  rw [hzero]
  positivity

/-- **What does not fit is more than what is left.** -/
theorem exceeds_of_not_fits {resources : CognitiveResourceVector}
    (h : ¬ (consumed.sum resources).fitsWith .rational ceiling = true) :
    Exceeds ceiling consumed resources := by
  rw [CognitiveResourceVector.fitsWith_rational, CognitiveResourceVector.activities_sum] at h
  by_cases hslots : consumed.activities + resources.activities ≤ ceiling.activities
  · have hunits : ∃ dimension, ¬ (consumed.sum resources).amount dimension ≤
        ceiling.amount dimension + 1 / 10 ^ 12 := by
      by_contra hall
      exact h ⟨hslots, fun dimension => not_not.mp fun hnot => hall ⟨dimension, hnot⟩⟩
    obtain ⟨dimension, hdimension⟩ := hunits
    rw [CognitiveResourceVector.amount_sum, not_le] at hdimension
    have herror := (abs_le.mp
      (abs_round12_sub_le (consumed.amount dimension + resources.amount dimension))).2
    have htolerance : (1 / 2 / 10 ^ 12 : ℚ) < 1 / 10 ^ 12 := by norm_num
    exact .inr ⟨dimension, by linarith⟩
  · exact .inl (by omega)

end

/-! ### The ranking -/

section
variable {activities activities' : List IntrinsicActivity}
  {estimates estimates' : List ValueOfCognitionEstimate}

/-- The one estimate of an activity is found. -/
theorem estimateFor_iff
    (hunique : (estimates.map fun estimate => estimate.activityId).Nodup) {activityId : String}
    {estimate : ValueOfCognitionEstimate} : estimateFor estimates activityId = some estimate ↔
      estimate ∈ estimates ∧ estimate.activityId = activityId := by
  unfold estimateFor
  constructor
  · intro h
    exact ⟨List.mem_reverse.mp (List.mem_of_find?_eq_some h), by simpa using List.find?_some h⟩
  · rintro ⟨hmem, rfl⟩
    have hsome : (estimates.reverse.find? fun other =>
        other.activityId = estimate.activityId).isSome :=
      List.find?_isSome.mpr ⟨estimate, List.mem_reverse.mpr hmem, by simp⟩
    obtain ⟨found, hfound⟩ := Option.isSome_iff_exists.mp hsome
    have hid : found.activityId = estimate.activityId := by simpa using List.find?_some hfound
    have hfoundMem := List.mem_reverse.mp (List.mem_of_find?_eq_some hfound)
    rw [hfound, List.inj_on_of_nodup_map hunique hfoundMem hmem hid]

theorem estimateFor_isSome {activityId : String}
    (h : ∃ estimate ∈ estimates, estimate.activityId = activityId) :
    (estimateFor estimates activityId).isSome := by
  obtain ⟨estimate, hmem, hid⟩ := h
  exact List.find?_isSome.mpr ⟨estimate, List.mem_reverse.mpr hmem, by simpa using hid⟩

/-- Where estimates are unique their order plays no part. -/
theorem estimateFor_perm (hunique : (estimates.map fun estimate => estimate.activityId).Nodup)
    (h : estimates'.Perm estimates) (activityId : String) :
    estimateFor estimates' activityId = estimateFor estimates activityId := by
  have hunique' : (estimates'.map fun estimate => estimate.activityId).Nodup :=
    (h.map _).nodup_iff.mpr hunique
  refine Option.ext fun estimate => ?_
  rw [estimateFor_iff hunique', estimateFor_iff hunique, h.mem_iff]

/-- The activities with their net values, as they come. -/
theorem rated_fst (hestimated : ∀ activity ∈ activities,
    ∃ estimate ∈ estimates, estimate.activityId = activity.activityId) :
    (activities.filterMap fun activity => (estimateFor estimates activity.activityId).map
      fun estimate => (activity, estimate.netValue)).map Prod.fst = activities := by
  induction activities with
  | nil => rfl
  | cons activity activities ih =>
    obtain ⟨hfirst, hrest⟩ := List.forall_mem_cons.mp hestimated
    obtain ⟨estimate, hestimate⟩ := Option.isSome_iff_exists.mp (estimateFor_isSome hfirst)
    rw [List.filterMap_cons, hestimate]
    exact congrArg (activity :: ·) (ih hrest)

/-- **Every activity is ranked once.** -/
theorem rankActivities_fst (hestimated : ∀ activity ∈ activities,
    ∃ estimate ∈ estimates, estimate.activityId = activity.activityId) :
    ((rankActivities activities estimates).map Prod.fst).Perm activities := by
  unfold rankActivities
  exact ((List.perm_insertionSort _ _).map Prod.fst).trans (.of_eq (rated_fst hestimated))

/-- Activities with one key have one id. -/
theorem activityId_of_agendaKey {row row' : IntrinsicActivity × PyFloat}
    (h : agendaKey row = agendaKey row') : row.1.activityId = row'.1.activityId := by
  have hlast := congrArg (fun key => (ofLex (ofLex (ofLex key).2).2).2) h
  exact hlast

/-- **The ranking does not depend on the order of its inputs.** -/
theorem rankActivities_perm
    (hactivities : (activities.map fun activity => activity.activityId).Nodup)
    (hestimates : (estimates.map fun estimate => estimate.activityId).Nodup)
    (h : activities'.Perm activities) (h' : estimates'.Perm estimates) :
    rankActivities activities' estimates' = rankActivities activities estimates := by
  have hsame : (fun activity : IntrinsicActivity =>
      (estimateFor estimates' activity.activityId).map fun estimate => (activity, estimate.netValue)) =
      fun activity => (estimateFor estimates activity.activityId).map
        fun estimate => (activity, estimate.netValue) := by
    funext activity
    rw [estimateFor_perm hestimates h']
  unfold rankActivities
  rw [hsame]
  refine StableOrder.insertionSort_eq_of_perm (fun row hrow row' hrow' hle hge => ?_)
    (h.filterMap _)
  -- one key, one id, one activity and its one estimate
  have hid := activityId_of_agendaKey (le_antisymm hle hge)
  obtain ⟨activity, hmem, hrated⟩ := List.mem_filterMap.mp hrow
  obtain ⟨activity', hmem', hrated'⟩ := List.mem_filterMap.mp hrow'
  obtain ⟨estimate, hestimate, rfl⟩ := Option.map_eq_some_iff.mp hrated
  obtain ⟨estimate', hestimate', rfl⟩ := Option.map_eq_some_iff.mp hrated'
  obtain rfl := List.inj_on_of_nodup_map hactivities hmem hmem' hid
  rw [hestimate] at hestimate'
  rw [Option.some.inj hestimate']

end

/-! ### The selection -/

/-- A refusal whose condition means the same, before what comes to the same. -/
theorem refuse_bind_congr {α : Type} {P Q : Prop} [Decidable P] [Decidable Q] {message : String}
    {f g : Unit → Except PyError α} (h : P ↔ Q) (hf : ¬ Q → f () = g ()) :
    (refuse P message >>= f) = (refuse Q message >>= g) := by
  by_cases hQ : Q
  · have hP : refuse P message = .error (.valueError message) := if_pos (h.mpr hQ)
    have hQ' : refuse Q message = .error (.valueError message) := if_pos hQ
    rw [hP, hQ']
    rfl
  · rw [refuse_of (mt h.mp hQ), refuse_of hQ, ok_bind, ok_bind, hf hQ]

section
variable {ids : EndogenousIds} {epoch : DreamEpoch} {policy : EndogenousPolicySnapshot}
  {activities activities' : List IntrinsicActivity}
  {estimates estimates' : List ValueOfCognitionEstimate} {selectedAt : Datetime}

theorem ensureSelectorSupported_iff {answer : Unit} :
    ensureSelectorSupported policy = .ok answer ↔ policy.selectorId = stableGreedySelectorId ∧
      policy.selectorVersion = stableGreedySelectorVersion := by
  rw [ensureSelectorSupported, refuse_iff]
  constructor
  · intro h
    exact ⟨not_not.mp fun hid => h (.inl hid), not_not.mp fun hversion => h (.inr hversion)⟩
  · rintro ⟨hid, hversion⟩ (hnot | hnot)
    · exact hnot hid
    · exact hnot hversion

/-- Every activity has an estimate and every estimate an activity. -/
theorem sameIds_iff : ¬ ((∃ activityId ∈ estimates.map fun estimate => estimate.activityId,
      activityId ∉ activities.map fun activity => activity.activityId) ∨
      ∃ activityId ∈ activities.map fun activity => activity.activityId,
        activityId ∉ estimates.map fun estimate => estimate.activityId) ↔
    (∀ estimate ∈ estimates, ∃ activity ∈ activities, activity.activityId = estimate.activityId) ∧
      ∀ activity ∈ activities, ∃ estimate ∈ estimates, estimate.activityId = activity.activityId := by
  simp only [List.mem_map, not_or, not_exists, not_and, forall_exists_index, and_imp,
    forall_apply_eq_imp_iff₂, not_forall, not_not, exists_prop]

theorem belong_iff : ¬ (∃ estimate ∈ estimates, estimate.epochId ≠ epoch.epochId ∨
      estimate.policyId ≠ policy.policyId) ↔
    ∀ estimate ∈ estimates, estimate.epochId = epoch.epochId ∧
      estimate.policyId = policy.policyId := by
  simp only [not_exists, not_and, not_or, ne_eq, not_not]

/-- **A selection is a walk** over admitted inputs. -/
theorem select_ok {selection : IntrinsicAgendaSelection}
    (h : selectIntrinsicAgendaWith .rational ids epoch policy activities estimates selectedAt =
      .ok selection) :
    AgendaAdmitted epoch policy activities estimates selectedAt ∧
      AgendaWalk epoch.budget.ceiling .zero ((rankActivities activities estimates).map Prod.fst)
        selection.consumed selection.decisions := by
  obtain ⟨_, hpinned, h⟩ := bind_eq_ok h
  obtain ⟨_, hsupported, h⟩ := bind_eq_ok h
  obtain ⟨_, hlive, h⟩ := bind_eq_ok h
  obtain ⟨_, hpolicy, h⟩ := bind_eq_ok h
  obtain ⟨_, hunique, h⟩ := bind_eq_ok h
  obtain ⟨_, hsame, h⟩ := bind_eq_ok h
  obtain ⟨_, hbelong, h⟩ := bind_eq_ok h
  obtain ⟨⟨consumed, decisions⟩, hagenda, h⟩ := bind_eq_ok h
  obtain ⟨_, -, h⟩ := bind_eq_ok h
  obtain ⟨remaining, -, h⟩ := bind_eq_ok h
  obtain ⟨_, -, h⟩ := bind_eq_ok h
  obtain rfl := Except.ok.inj h
  obtain ⟨hknown, hestimated⟩ := sameIds_iff.mp (refuse_ok hsame)
  have hpinned := refuse_ok hpinned
  refine ⟨{
    selector_pinned := ⟨not_not.mp fun hid => hpinned (.inl hid),
      not_not.mp fun hversion => hpinned (.inr hversion)⟩
    selector_supported := ensureSelectorSupported_iff.mp hsupported
    live := not_le.mp (refuse_ok hlive)
    policy_pinned := not_not.mp (refuse_ok hpolicy)
    activities_unique := not_not.mp (refuse_ok hunique)
    known := hknown
    estimated := hestimated
    belong := belong_iff.mp (refuse_ok hbelong) }, ?_⟩
  obtain ⟨after, decided, hsame, hwalk⟩ := @decideAgenda_rational epoch policy selectedAt .zero
    (rankActivities activities estimates)
  rw [hsame] at hagenda
  obtain ⟨rfl, rfl⟩ := Prod.mk.inj (Except.ok.inj hagenda)
  exact hwalk

theorem requireUnique_of {values : List String} {name : String} (hne : values ≠ [])
    (hblank : ∀ value ∈ values, blank value = false) (hunique : values.Nodup) :
    requireUnique values name true = .ok () := by
  have hempty : values.isEmpty = false := List.isEmpty_eq_false_iff.mpr hne
  have hany : values.any blank = false := List.any_eq_false.mpr fun value hvalue => by
    rw [hblank value hvalue]
    exact Bool.false_ne_true
  unfold requireUnique
  rw [hempty, hany]
  exact if_pos hunique

/-- The records of a call, as their constructors let them through. -/
structure AgendaChecked (ids : EndogenousIds) (epoch : DreamEpoch)
    (policy : EndogenousPolicySnapshot) (activities : List IntrinsicActivity)
    (estimates : List ValueOfCognitionEstimate) : Prop where
  epoch_checked : epoch.check ids = .ok ()
  policy_checked : policy.check ids = .ok ()
  activities_checked : ∀ activity ∈ activities, activity.check ids = .ok ()
  estimates_checked : ∀ estimate ∈ estimates, estimate.check = .ok ()

/-- **Admitted inputs get a selection.** -/
theorem select_of (hchecked : AgendaChecked ids epoch policy activities estimates)
    (h : AgendaAdmitted epoch policy activities estimates selectedAt) (hne : activities ≠ []) :
    ∃ selection, selectIntrinsicAgendaWith .rational ids epoch policy activities estimates selectedAt =
      .ok selection := by
  obtain ⟨consumed, decisions, hagenda, hwalk⟩ := @decideAgenda_rational epoch policy selectedAt
    .zero (rankActivities activities estimates)
  have hranked := rankActivities_fst h.estimated
  have hids : (decisions.map fun decision => decision.activityId).Perm
      (activities.map fun activity => activity.activityId) := by
    rw [hwalk.ids]
    exact hranked.map _
  have hdecisions : decisions ≠ [] := by
    rintro rfl
    have hnone := hids.length_eq
    rw [List.length_map, List.length_map] at hnone
    exact hne (List.length_eq_zero_iff.mp hnone.symm)
  have hfits := hwalk.fits (zero_fitsWith _)
  obtain ⟨remaining, hremaining⟩ :=
    CognitiveResourceVector.minusWith_rational consumed epoch.budget.ceiling hfits
  obtain ⟨_, hepoch, -⟩ := bind_eq_ok hchecked.epoch_checked
  obtain ⟨_, hpolicy, -⟩ := bind_eq_ok hchecked.policy_checked
  have hblank : ∀ key ∈ decisions.map (fun decision => decision.activityId), blank key = false := by
    intro key hkey
    obtain ⟨activity, hactivity, rfl⟩ := List.mem_map.mp (hids.subset hkey)
    obtain ⟨_, htext, -⟩ := bind_eq_ok (hchecked.activities_checked activity hactivity)
    exact requireText_ok htext
  let content : AgendaContent :=
    { epochId := epoch.epochId, policyId := policy.policyId, decisions, consumed, remaining,
      selectedAt }
  let selection : IntrinsicAgendaSelection :=
    { content with selectionId := "intrinsic-agenda:" ++ ids.agenda content }
  have hcheck : selection.check ids = .ok () := by
    have hprefix : blank "intrinsic-agenda:" = false := by decide
    rw [IntrinsicAgendaSelection.check, requireText_of (blank_append hprefix), ok_bind,
      requireText_of (requireText_ok hepoch), ok_bind, requireText_of (requireText_ok hpolicy),
      ok_bind, refuse_of hdecisions, ok_bind, requireUnique_of (by simpa using hdecisions) hblank
        (hids.nodup_iff.mpr h.activities_unique), ok_bind, refuse_of (not_not.mpr rfl)]
  have hsupported : ensureSelectorSupported policy = .ok () :=
    ensureSelectorSupported_iff.mpr h.selector_supported
  refine ⟨selection, ?_⟩
  unfold selectIntrinsicAgendaWith selectStableGreedyV1With
  rw [refuse_of (by
      rintro (hid | hversion)
      · exact hid h.selector_pinned.1
      · exact hversion h.selector_pinned.2), ok_bind,
    hsupported, ok_bind, refuse_of (not_le.mpr h.live),
    ok_bind, refuse_of (not_not.mpr h.policy_pinned), ok_bind]
  dsimp only
  rw [refuse_of (not_not.mpr h.activities_unique), ok_bind,
    refuse_of (sameIds_iff.mpr ⟨h.known, h.estimated⟩), ok_bind,
    refuse_of (belong_iff.mpr h.belong), ok_bind, hagenda, ok_bind]
  dsimp only
  rw [refuse_of hdecisions, ok_bind, hremaining, ok_bind]
  exact bind_of_ok hcheck _

/-- **The order of admitted inputs plays no part**, provided the estimates are unique. -/
theorem select_perm (hunique : AgendaAdmitted epoch policy activities estimates selectedAt →
      (estimates.map fun estimate => estimate.activityId).Nodup)
    (h : activities'.Perm activities) (h' : estimates'.Perm estimates) :
    selectIntrinsicAgendaWith .rational ids epoch policy activities' estimates' selectedAt =
      selectIntrinsicAgendaWith .rational ids epoch policy activities estimates selectedAt := by
  unfold selectIntrinsicAgendaWith selectStableGreedyV1With
  refine refuse_bind_congr Iff.rfl fun hpinned => ?_
  cases hsupported : ensureSelectorSupported policy with
  | error error => rfl
  | ok answer =>
    rw [ok_bind, ok_bind]
    refine refuse_bind_congr Iff.rfl fun hlive => ?_
    refine refuse_bind_congr Iff.rfl fun hpolicy => ?_
    refine refuse_bind_congr ((h.map _).nodup_iff.not) fun hactivities => ?_
    refine refuse_bind_congr ?_ fun hsame => ?_
    · simp only [(h.map fun activity : IntrinsicActivity => activity.activityId).mem_iff,
        (h'.map fun estimate : ValueOfCognitionEstimate => estimate.activityId).mem_iff]
    refine refuse_bind_congr ?_ fun hbelong => ?_
    · simp only [h'.mem_iff]
    have hadmitted : AgendaAdmitted epoch policy activities estimates selectedAt := {
      selector_pinned := ⟨not_not.mp fun hid => hpinned (.inl hid),
        not_not.mp fun hversion => hpinned (.inr hversion)⟩
      selector_supported := ensureSelectorSupported_iff.mp hsupported
      live := not_le.mp hlive
      policy_pinned := not_not.mp hpolicy
      activities_unique := not_not.mp hactivities
      known := (sameIds_iff.mp hsame).1
      estimated := (sameIds_iff.mp hsame).2
      belong := belong_iff.mp hbelong }
    rw [rankActivities_perm hadmitted.activities_unique (hunique hadmitted) h h']

/-! ### What a call promises -/

/-- **What a call of the selector promises**: the order of its inputs plays no part; an
activity without exactly one estimate is refused; every activity is decided on; what is
selected stays within the ceiling, but for a unit of the twelfth digit for each term and one
more; what is deferred exceeds what is left; and what was consumed can be subtracted. -/
structure AgendaSound (ids : EndogenousIds) (epoch : DreamEpoch) (policy : EndogenousPolicySnapshot)
    (activities : List IntrinsicActivity) (estimates : List ValueOfCognitionEstimate)
    (selectedAt : Datetime) : Prop where
  order : ∀ activities' estimates', activities'.Perm activities → estimates'.Perm estimates →
    selectIntrinsicAgendaWith .rational ids epoch policy activities' estimates' selectedAt =
      selectIntrinsicAgendaWith .rational ids epoch policy activities estimates selectedAt
  one_estimate : (∃ activity ∈ activities,
      (estimates.map fun estimate => estimate.activityId).count activity.activityId ≠ 1) →
    ∃ error, selectIntrinsicAgendaWith .rational ids epoch policy activities estimates selectedAt =
      .error error
  decided : ∀ selection,
    selectIntrinsicAgendaWith .rational ids epoch policy activities estimates selectedAt =
        .ok selection →
    (selection.decisions.map fun decision => decision.activityId).Perm
      (activities.map fun activity => activity.activityId)
  slots : ∀ selection,
    selectIntrinsicAgendaWith .rational ids epoch policy activities estimates selectedAt =
        .ok selection →
    ((selectedIn activities selection.decisions).map fun activity =>
      activity.resources.activities).sum ≤ epoch.budget.ceiling.activities
  units : ∀ selection,
    selectIntrinsicAgendaWith .rational ids epoch policy activities estimates selectedAt =
        .ok selection →
    ∀ dimension, ((selectedIn activities selection.decisions).map fun activity =>
        activity.resources.amount dimension).sum ≤ epoch.budget.ceiling.amount dimension +
      ((selectedIn activities selection.decisions).length + 1) * (1 / 10 ^ 12)
  deferred : ∀ selection,
    selectIntrinsicAgendaWith .rational ids epoch policy activities estimates selectedAt =
        .ok selection →
    ∀ before decision later, selection.decisions = before ++ decision :: later →
      decision.disposition = .deferred →
      ∃ activity ∈ activities, activity.activityId = decision.activityId ∧
        Exceeds epoch.budget.ceiling (spentFrom .zero (selectedIn activities before))
          activity.resources
  subtracts : ∀ consumed decisions,
    decideAgendaWith .rational epoch policy selectedAt .zero (rankActivities activities estimates) =
        .ok (consumed, decisions) →
    ∃ remaining, epoch.budget.ceiling.minusWith .rational consumed = .ok remaining

/-- A walk over what is ranked finds each activity by its id. -/
theorem find_ranked (hunique : (activities.map fun activity => activity.activityId).Nodup)
    {activity : IntrinsicActivity} (h : activity ∈ activities) :
    activities.find? (fun other => other.activityId = activity.activityId) = some activity := by
  have hsome : (activities.find? fun other => other.activityId = activity.activityId).isSome :=
    List.find?_isSome.mpr ⟨activity, h, by simp⟩
  obtain ⟨found, hfound⟩ := Option.isSome_iff_exists.mp hsome
  have hid : found.activityId = activity.activityId := by simpa using List.find?_some hfound
  rw [hfound, List.inj_on_of_nodup_map hunique (List.mem_of_find?_eq_some hfound) h hid]

/-- **A ceiling is never exceeded** by more than the roundings and the tolerance. -/
theorem selected_units {selection : IntrinsicAgendaSelection}
    (h : selectIntrinsicAgendaWith .rational ids epoch policy activities estimates selectedAt =
      .ok selection) (dimension : CognitiveDimension) :
    ((selectedIn activities selection.decisions).map fun activity =>
        activity.resources.amount dimension).sum ≤ epoch.budget.ceiling.amount dimension +
      ((selectedIn activities selection.decisions).length + 1) * (1 / 10 ^ 12) := by
  obtain ⟨hadmitted, hwalk⟩ := select_ok h
  have hspent := hwalk.spent fun activity hmem => find_ranked hadmitted.activities_unique
    ((rankActivities_fst hadmitted.estimated).subset hmem)
  have hfits := ((CognitiveResourceVector.fitsWith_rational _ _).mp
    (hwalk.fits (zero_fitsWith _))).2 dimension
  have hsum := unrounded_sum_le (selectedIn activities selection.decisions) dimension
  rw [hspent] at hfits
  have hlength : (0 : ℚ) ≤ (selectedIn activities selection.decisions).length := by positivity
  have hhalf : ((selectedIn activities selection.decisions).length : ℚ) * (1 / 2 / 10 ^ 12) ≤
      (selectedIn activities selection.decisions).length * (1 / 10 ^ 12) :=
    mul_le_mul_of_nonneg_left (by norm_num) hlength
  rw [add_mul, one_mul]
  linarith

theorem selected_slots {selection : IntrinsicAgendaSelection}
    (h : selectIntrinsicAgendaWith .rational ids epoch policy activities estimates selectedAt =
      .ok selection) :
    ((selectedIn activities selection.decisions).map fun activity =>
      activity.resources.activities).sum ≤ epoch.budget.ceiling.activities := by
  obtain ⟨hadmitted, hwalk⟩ := select_ok h
  have hspent := hwalk.spent fun activity hmem => find_ranked hadmitted.activities_unique
    ((rankActivities_fst hadmitted.estimated).subset hmem)
  have hfits := ((CognitiveResourceVector.fitsWith_rational _ _).mp
    (hwalk.fits (zero_fitsWith _))).1
  rw [hspent, activities_spentFrom] at hfits
  have hzero : CognitiveResourceVector.zero.activities = 0 := rfl
  omega

/-- **A deferred activity exceeds what is left at its rank.** -/
theorem deferred_exceeds {selection : IntrinsicAgendaSelection}
    (h : selectIntrinsicAgendaWith .rational ids epoch policy activities estimates selectedAt =
      .ok selection) {before later : List AgendaDecision} {decision : AgendaDecision}
    (hsplit : selection.decisions = before ++ decision :: later)
    (hdeferred : decision.disposition = .deferred) :
    ∃ activity ∈ activities, activity.activityId = decision.activityId ∧
      Exceeds epoch.budget.ceiling (spentFrom .zero (selectedIn activities before))
        activity.resources := by
  obtain ⟨hadmitted, hwalk⟩ := select_ok h
  obtain ⟨first, activity, rest, middle, hranked, hid, hbefore, hfits⟩ :=
    hwalk.deferred hsplit hdeferred
  have hmem : ∀ other ∈ first ++ activity :: rest, other ∈ activities := fun other hother =>
    (rankActivities_fst hadmitted.estimated).subset (hranked ▸ hother)
  have hspent := hbefore.spent fun other hother => find_ranked hadmitted.activities_unique
    (hmem other (List.mem_append_left _ hother))
  refine ⟨activity, hmem activity (List.mem_append_right _ List.mem_cons_self), hid.symm, ?_⟩
  rw [← hspent]
  exact exceeds_of_not_fits hfits

/-- An activity whose estimate is not unique is estimated more than once. -/
theorem exists_count_ne_one
    (hknown : ∀ estimate ∈ estimates, ∃ activity ∈ activities,
      activity.activityId = estimate.activityId)
    (h : ¬ (estimates.map fun estimate => estimate.activityId).Nodup) :
    ∃ activity ∈ activities,
      (estimates.map fun estimate => estimate.activityId).count activity.activityId ≠ 1 := by
  rw [List.nodup_iff_count_le_one] at h
  simp only [not_forall, not_le] at h
  obtain ⟨key, hkey⟩ := h
  obtain ⟨estimate, hestimate, rfl⟩ := List.mem_map.mp
    (List.count_pos_iff.mp (Nat.lt_of_lt_of_le Nat.zero_lt_one hkey.le))
  obtain ⟨activity, hactivity, hid⟩ := hknown estimate hestimate
  refine ⟨activity, hactivity, ?_⟩
  rw [hid]
  exact (Nat.ne_of_lt hkey).symm

/-- Unique estimates of every activity are one for each. -/
theorem count_eq_one {activity : IntrinsicActivity}
    (hunique : (estimates.map fun estimate => estimate.activityId).Nodup)
    (h : ∃ estimate ∈ estimates, estimate.activityId = activity.activityId) :
    (estimates.map fun estimate => estimate.activityId).count activity.activityId = 1 := by
  obtain ⟨estimate, hestimate, hid⟩ := h
  exact List.count_eq_one_of_mem hunique (List.mem_map.mpr ⟨estimate, hestimate, hid⟩)

/-- What a call promises makes the estimates unique. -/
theorem unique_of_sound (hchecked : AgendaChecked ids epoch policy activities estimates)
    (h : AgendaSound ids epoch policy activities estimates selectedAt)
    (hadmitted : AgendaAdmitted epoch policy activities estimates selectedAt) :
    (estimates.map fun estimate => estimate.activityId).Nodup := by
  by_contra hdouble
  have hmany := exists_count_ne_one hadmitted.known hdouble
  have hne : activities ≠ [] := by
    obtain ⟨activity, hactivity, -⟩ := hmany
    exact List.ne_nil_of_mem hactivity
  obtain ⟨selection, hselection⟩ := select_of hchecked hadmitted hne
  obtain ⟨error, herror⟩ := h.one_estimate hmany
  rw [hselection] at herror
  cases herror

/-- **A call keeps its promises exactly when no admitted activity has two estimates.** -/
theorem agendaSound_iff (hchecked : AgendaChecked ids epoch policy activities estimates) :
    AgendaSound ids epoch policy activities estimates selectedAt ↔
      (AgendaAdmitted epoch policy activities estimates selectedAt →
        (estimates.map fun estimate => estimate.activityId).Nodup) := by
  refine ⟨unique_of_sound hchecked, fun hunique => ?_⟩
  exact {
    order := fun _ _ h h' => select_perm hunique h h'
    one_estimate := by
      rintro ⟨activity, hactivity, hcount⟩
      cases hselect : selectIntrinsicAgendaWith .rational ids epoch policy activities estimates
          selectedAt with
      | error error => exact ⟨error, rfl⟩
      | ok selection =>
        obtain ⟨hadmitted, -⟩ := select_ok hselect
        exact absurd (count_eq_one (hunique hadmitted) (hadmitted.estimated activity hactivity)) hcount
    decided := by
      intro selection hselection
      obtain ⟨hadmitted, hwalk⟩ := select_ok hselection
      rw [hwalk.ids]
      exact (rankActivities_fst hadmitted.estimated).map _
    slots := fun _ h => selected_slots h
    units := fun _ h dimension => selected_units h dimension
    deferred := fun _ h _ _ _ hsplit hdeferred => deferred_exceeds h hsplit hdeferred
    subtracts := by
      intro consumed decisions hagenda
      obtain ⟨after, decided, hsame, hwalk⟩ := @decideAgenda_rational epoch policy selectedAt .zero
        (rankActivities activities estimates)
      rw [hsame] at hagenda
      obtain ⟨rfl, rfl⟩ := Prod.mk.inj (Except.ok.inj hagenda)
      exact CognitiveResourceVector.minusWith_rational _ _ (hwalk.fits (zero_fitsWith _)) }

end

/-! ### Two estimates of one activity -/

namespace AgendaExample

/-- Digests of no content. -/
def ids : EndogenousIds :=
  ⟨fun _ => "", fun _ => "", fun _ => "", fun _ => "", fun _ => "", fun _ => "", fun _ => "",
    fun _ => "", fun _ => ""⟩

def policy : EndogenousPolicySnapshot where
  policyId := "endogenous-policy:"
  version := "v1"
  selectorId := stableGreedySelectorId
  selectorVersion := stableGreedySelectorVersion
  computeCostWeight := .finite 1
  delayCostWeight := .finite 1
  attentionCostWeight := .finite 1
  opportunityCostWeight := .finite 1
  privacyRiskCostWeight := .finite 1
  minimumNetVoc := .finite 0

def epoch : DreamEpoch where
  epochId := "dream-epoch:"
  consumerId := "dreamer"
  triggerEventId := "event-1"
  eventLogCursor := 1
  policyId := policy.policyId
  policyVersion := "v1"
  selectorId := stableGreedySelectorId
  selectorVersion := stableGreedySelectorVersion
  budget := ⟨"cognitive-budget:", ⟨⟨1, .finite 1, .finite 1, .finite 1, .finite 1⟩, by decide⟩⟩
  startedAt := .utc 0
  expiresAt := .utc 10
  authorityCeiling := .dreamProposalOnly

def activity : IntrinsicActivity where
  activityId := "intrinsic-activity:"
  kind := .inquiry
  inquiryId := "inquiry-1"
  governingIntentRefs := [⟨"goal-1", "revision-1"⟩]
  evidenceRefs := ["event-1"]
  targetRefs := ["goal-1"]
  vocInputs := ⟨.finite 1, .finite 0, .finite 0, .finite 0, .finite 0, .finite 0⟩
  urgency := .finite 0
  confidence := .finite 0
  interruptible := true
  expiresAt := .utc 10
  resources := ⟨⟨1, .finite 1, .finite 0, .finite 0, .finite 0⟩, by decide⟩
  causalCursor := 1
  producerId := "detector"

/-- An estimate that is worth what it is expected to improve. -/
def estimate (improvement : ℚ) : ValueOfCognitionEstimate where
  estimateId := "voc-estimate:"
  epochId := epoch.epochId
  activityId := activity.activityId
  policyId := policy.policyId
  expectedDecisionImprovement := .finite improvement
  computeCost := .finite 0
  delayCost := .finite 0
  attentionCost := .finite 0
  opportunityCost := .finite 0
  privacyRiskCost := .finite 0
  netValue := .finite improvement
  evaluatedAt := .utc 1

theorem checked (improvements : List ℚ) (h : ∀ q ∈ improvements, (estimate q).check = .ok ()) :
    AgendaChecked ids epoch policy [activity] (improvements.map estimate) where
  epoch_checked := by decide +kernel
  policy_checked := by decide +kernel
  activities_checked := by
    intro given hgiven
    obtain rfl := List.mem_singleton.mp hgiven
    decide +kernel
  estimates_checked := by
    intro given hgiven
    obtain ⟨q, hq, rfl⟩ := List.mem_map.mp hgiven
    exact h q hq

theorem agendaSound_one : AgendaSound ids epoch policy [activity] ([1].map estimate) (.utc 2) ↔
    (AgendaAdmitted epoch policy [activity] ([1].map estimate) (.utc 2) →
      (([1].map estimate).map fun estimate => estimate.activityId).Nodup) :=
  agendaSound_iff (checked [1] (by decide +kernel))

/-- With two estimates the selector raises nothing. -/
theorem not_agendaSound : ¬ ∀ (ids : EndogenousIds) (epoch : DreamEpoch)
    (policy : EndogenousPolicySnapshot) (activities : List IntrinsicActivity)
    (estimates : List ValueOfCognitionEstimate) (selectedAt : Datetime),
    AgendaChecked ids epoch policy activities estimates →
    AgendaSound ids epoch policy activities estimates selectedAt := by
  intro h
  have hsound := h ids epoch policy [activity] ([1, 0].map estimate) (.utc 2)
    (checked [1, 0] (by decide +kernel))
  have hadmitted : AgendaAdmitted epoch policy [activity] ([1, 0].map estimate) (.utc 2) :=
    ⟨by decide, by decide, by decide, by decide, by decide, by decide, by decide, by decide⟩
  have hunique := unique_of_sound (checked [1, 0] (by decide +kernel)) hsound hadmitted
  exact absurd hunique (by decide)

end AgendaExample
end Noema
