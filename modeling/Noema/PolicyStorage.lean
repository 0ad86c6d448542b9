import Noema.WorkRecordStorage

/-!
# Budgets and policies in storage

Their constructors compare the id with the digest of the content, so that an accepted record
has the id that `create` gives it.
-/
namespace Noema

/-- The comparison of an id with the digest of a content. -/
theorem compared_iff {digest : Except PyError String} {id message : String} :
    (do let expected ← digest; refuse (id ≠ expected) message) = .ok () ↔ digest = .ok id := by
  constructor
  · intro h
    obtain ⟨expected, hexpected, hsame⟩ := bind_eq_ok h
    rw [hexpected, not_not.mp (refuse_ok hsame)]
  · intro h
    exact (bind_of_ok h _).trans (refuse_of (not_not.mpr rfl))

namespace Given

variable {b : ContentBuiltins} {q : Payload}

/-! ## Background budgets -/

namespace CognitiveResourceVector

variable {resources read : CognitiveResourceVector}

def spelled (resources : CognitiveResourceVector) : CognitiveResourceVector where
  activities := resources.activities.asInt
  computeUnits := resources.computeUnits.asFloat
  wallTimeSeconds := resources.wallTimeSeconds.asFloat
  attentionUnits := resources.attentionUnits.asFloat
  privacyRiskUnits := resources.privacyRiskUnits.asFloat

def valued (resources : CognitiveResourceVector) : CognitiveResourceVector :=
  { resources.spelled with activities := resources.activities.asFloat }

def floats (resources : CognitiveResourceVector) : List PyNumber :=
  [resources.computeUnits, resources.wallTimeSeconds, resources.attentionUnits,
   resources.privacyRiskUnits]

/-- Resources with their numbers read again. -/
def reread (b : ContentBuiltins) (resources : CognitiveResourceVector) :
    Except PyError CognitiveResourceVector := do
  let activities ← resources.activities.readInt b
  let computeUnits ← resources.computeUnits.readFloat b
  let wallTimeSeconds ← resources.wallTimeSeconds.readFloat b
  let attentionUnits ← resources.attentionUnits.readFloat b
  let privacyRiskUnits ← resources.privacyRiskUnits.readFloat b
  constructed (check b)
    { activities, computeUnits, wallTimeSeconds, attentionUnits, privacyRiskUnits }

theorem distinct (resources : CognitiveResourceVector) : (resources.fields.map Prod.fst).Nodup := by
  show ["activities", "compute_units", "wall_time_seconds", "attention_units",
    "privacy_risk_units"].Nodup
  decide

theorem fromDict_respells (h : q.Respells resources.toDict) :
    fromDict b q = resources.reread b := by
  have hfields := h.fields resources.distinct
  simp only [fields, List.forall_mem_cons] at hfields
  obtain ⟨hactivities, hcompute, hwall, hattention, hprivacy, -⟩ := hfields
  simp only [fromDict, reread, hactivities.countOrZero, hcompute.numberOrZero, hwall.numberOrZero,
    hattention.numberOrZero, hprivacy.numberOrZero]

theorem check_spelled (h : check b resources = .ok ()) (hwhole : resources.activities.Whole) :
    check b resources.spelled = .ok () := by
  refine check_mono h (fun h => ?_) fun h =>
    check_mono h PyNumber.requireNonNegative_asFloat fun h =>
      check_mono h PyNumber.requireNonNegative_asFloat fun h =>
        check_mono h PyNumber.requireNonNegative_asFloat PyNumber.requireNonNegative_asFloat
  show refuse (resources.activities.asInt.real.less (.finite 0) = true) _ = _
  rw [PyNumber.real_asInt hwhole]
  exact h

theorem reread_ok (h : resources.reread b = .ok read) (hsame : read.valued = resources.valued) :
    (∀ number ∈ resources.floats, number.Held b) ∧ resources.activities.Whole ∧
      read = resources.spelled := by
  obtain ⟨activities, hactivities, h⟩ := bind_eq_ok h
  obtain ⟨compute, hcompute, h⟩ := bind_eq_ok h
  obtain ⟨wall, hwall, h⟩ := bind_eq_ok h
  obtain ⟨attention, hattention, h⟩ := bind_eq_ok h
  obtain ⟨privacy, hprivacy, h⟩ := bind_eq_ok h
  obtain ⟨-, rfl⟩ := constructed_iff.mp h
  obtain ⟨hwhole, rfl⟩ := PyNumber.readInt_ok hactivities
    (congrArg CognitiveResourceVector.activities hsame)
  obtain ⟨heldCompute, rfl⟩ := PyNumber.readFloat_ok hcompute (congrArg computeUnits hsame)
  obtain ⟨heldWall, rfl⟩ := PyNumber.readFloat_ok hwall (congrArg wallTimeSeconds hsame)
  obtain ⟨heldAttention, rfl⟩ := PyNumber.readFloat_ok hattention (congrArg attentionUnits hsame)
  obtain ⟨heldPrivacy, rfl⟩ := PyNumber.readFloat_ok hprivacy (congrArg privacyRiskUnits hsame)
  refine ⟨?_, hwhole, rfl⟩
  simp only [floats, List.forall_mem_cons]
  exact ⟨heldCompute, heldWall, heldAttention, heldPrivacy, nofun⟩

theorem reread_of (hcheck : check b resources = .ok ())
    (hheld : ∀ number ∈ resources.floats, number.Held b) (hwhole : resources.activities.Whole) :
    resources.reread b = .ok resources.spelled := by
  simp only [floats, List.forall_mem_cons] at hheld
  obtain ⟨hcompute, hwall, hattention, hprivacy, -⟩ := hheld
  simp only [reread, PyNumber.readInt_of hwhole, PyNumber.readFloat_of hcompute,
    PyNumber.readFloat_of hwall, PyNumber.readFloat_of hattention, PyNumber.readFloat_of hprivacy,
    ok_bind]
  exact constructed_iff.mpr ⟨check_spelled hcheck hwhole, rfl⟩

theorem valued_spelled (hwhole : resources.activities.Whole) :
    resources.spelled.valued = resources.valued := by
  have hactivities : resources.activities.asInt.asFloat = resources.activities.asFloat :=
    PyNumber.asFloat_asInt hwhole
  rw [valued, valued, spelled, spelled, hactivities]
  rfl

theorem printable_spelled (hbounded : b.FloatsBounded)
    (hheld : ∀ number ∈ resources.floats, number.Held b)
    (h : resources.spelled.toDict.value.printable = true) :
    resources.toDict.value.printable = true := by
  rw [Payload.value, JSONValue.printable, toDict, Payload.ofList_rows_of_nodup (distinct _)] at h ⊢
  have hprintable : ∀ number ∈ resources.floats, number.toJson.printable = true :=
    fun number hnumber => PyNumber.printable_of_held hbounded (hheld number hnumber)
  simp only [floats, List.forall_mem_cons] at hprintable
  obtain ⟨hcompute, hwall, hattention, hprivacy, -⟩ := hprintable
  refine printableFields_mono ?_ h
  exact .cons PyNumber.printable_of_asInt (.cons (fun _ => hcompute) (.cons (fun _ => hwall)
    (.cons (fun _ => hattention) (.cons (fun _ => hprivacy) .nil))))

theorem respelled (h : resources.spelled.toDict.Respells resources.toDict) :
    resources.spelled = resources := by
  have hsame := h.forall₂ (distinct _) rfl
  simp only [fields, spelled, List.forall₂_cons, PyNumber.sortKeys_inj] at hsame
  obtain ⟨hactivities, hcompute, hwall, hattention, hprivacy, -⟩ := hsame
  rw [spelled, hactivities, hcompute, hwall, hattention, hprivacy]

theorem exact_of_spelled (h : resources.spelled = resources) :
    (∀ number ∈ resources.floats, number.Held b) ∧ resources.activities.Whole :=
  ⟨PyNumber.held_of_fixed (congrArg floats h), PyNumber.whole_of_asInt (congrArg activities h)⟩

end CognitiveResourceVector

namespace BackgroundCognitiveBudget

variable {budget : BackgroundCognitiveBudget}

def spelled (budget : BackgroundCognitiveBudget) : BackgroundCognitiveBudget :=
  { budget with ceiling := budget.ceiling.spelled }

def code (b : ContentBuiltins) : RecordCode b BackgroundCognitiveBudget where
  kind := "cognitive-budget"
  idKey := "budget_id"
  id := budgetId
  identity := fun budget => identity budget.ceiling
  Accepted := fun budget => check b budget = .ok () ∧ budget.ceiling.check b = .ok ()
  fromDict := fromDict b
  spelled := spelled
  valued := fun budget => { budget with ceiling := budget.ceiling.valued }
  floats := fun budget => budget.ceiling.floats
  counts := fun budget => [budget.ceiling.activities]

theorem distinct (budget : BackgroundCognitiveBudget) :
    ((code b).idKey :: ((code b).identity budget).map Prod.fst).Nodup := by
  show ["budget_id", "ceiling"].Nodup
  decide

theorem created_of_check (h : check b budget = .ok ()) : (code b).Created budget := by
  obtain ⟨_, -, h⟩ := bind_eq_ok h
  obtain ⟨_, -, h⟩ := bind_eq_ok h
  exact compared_iff.mp h

theorem check_spelled (h : check b budget = .ok ()) (hwhole : budget.ceiling.activities.Whole)
    (hid : (code b).contentId budget.spelled = .ok budget.budgetId) :
    check b budget.spelled = .ok () := by
  refine check_mono h id fun h => check_mono h (fun h => ?_) fun _ => compared_iff.mpr hid
  show refuse (budget.ceiling.activities.asInt.real.atMost (.finite 0) = true) _ = _
  rw [PyNumber.real_asInt hwhole]
  exact h

theorem fromDict_respells (h : q.Respells ((code b).toDict budget)) :
    fromDict b q = (do
      let ceiling ← budget.ceiling.reread b
      constructed (check b) { budget with ceiling }) := by
  have hfields := h.fields (distinct budget)
  simp only [code, identity, List.forall_mem_cons] at hfields
  obtain ⟨hid, hceiling, -⟩ := hfields
  obtain ⟨stored, hstored, hrespells⟩ := hceiling.mapping
  simp only [fromDict, hid.text, hstored, ok_bind,
    CognitiveResourceVector.fromDict_respells hrespells]

theorem lawful (hbounded : b.FloatsBounded) : (code b).Lawful where
  distinct := distinct
  reads := by
    rintro budget q ⟨hcheck, hceiling⟩ h
    show (∃ other, fromDict b q = .ok other ∧ _) ↔ _
    rw [fromDict_respells h]
    constructor
    · rintro ⟨other, hread, hsame⟩
      obtain ⟨ceiling, hreread, hread⟩ := bind_eq_ok hread
      obtain ⟨hcheck', rfl⟩ := constructed_iff.mp hread
      obtain ⟨hheld, hwhole, rfl⟩ := CognitiveResourceVector.reread_ok hreread
        (congrArg BackgroundCognitiveBudget.ceiling hsame)
      exact ⟨⟨hheld, List.forall_mem_singleton.mpr hwhole, trivial⟩, created_of_check hcheck'⟩
    · rintro ⟨⟨hheld, hcounts, -⟩, hid⟩
      have hwhole := List.forall_mem_singleton.mp hcounts
      refine ⟨budget.spelled, ?_, ?_⟩
      · rw [CognitiveResourceVector.reread_of hceiling hheld hwhole, ok_bind]
        exact constructed_iff.mpr ⟨check_spelled hcheck hwhole hid, rfl⟩
      · show ({ budget with ceiling := _ } : BackgroundCognitiveBudget) = { budget with ceiling := _ }
        rw [← CognitiveResourceVector.valued_spelled hwhole]
        rfl
  printable := by
    rintro budget - ⟨hheld, -, -⟩ hprintable
    exact printableFields_mono
      (.cons (CognitiveResourceVector.printable_spelled hbounded hheld) .nil) hprintable
  respelled := fun {budget} h => by
    have hsame := h.forall₂ (List.nodup_cons.mp (distinct (b := b) _)).2 rfl
    simp only [code, identity, List.forall₂_cons] at hsame
    have hceiling := Payload.respells_of_sortKeys hsame.1
    show ({ budget with ceiling := budget.ceiling.spelled } : BackgroundCognitiveBudget) = budget
    rw [CognitiveResourceVector.respelled hceiling]
  plain := fun {budget} h => by
    obtain ⟨hheld, hwhole⟩ := CognitiveResourceVector.exact_of_spelled
      (b := b) (congrArg BackgroundCognitiveBudget.ceiling h)
    exact ⟨hheld, List.forall_mem_singleton.mpr hwhole, trivial⟩

end BackgroundCognitiveBudget

/-! ## Endogenous policies -/

namespace EndogenousPolicySnapshot

variable {policy : EndogenousPolicySnapshot}

def spelled (policy : EndogenousPolicySnapshot) : EndogenousPolicySnapshot :=
  { policy with
    selectorVersion := policy.selectorVersion.asInt
    computeCostWeight := policy.computeCostWeight.asFloat
    delayCostWeight := policy.delayCostWeight.asFloat
    attentionCostWeight := policy.attentionCostWeight.asFloat
    opportunityCostWeight := policy.opportunityCostWeight.asFloat
    privacyRiskCostWeight := policy.privacyRiskCostWeight.asFloat
    minimumNetVoc := policy.minimumNetVoc.asFloat }

def valued (policy : EndogenousPolicySnapshot) : EndogenousPolicySnapshot :=
  { policy.spelled with selectorVersion := policy.selectorVersion.asFloat }

def code (b : ContentBuiltins) : RecordCode b EndogenousPolicySnapshot where
  kind := "endogenous-policy"
  idKey := "policy_id"
  id := policyId
  identity := fun policy => identity policy.toEndogenousPolicyContent
  Accepted := fun policy => check b policy = .ok ()
  fromDict := fromDict b
  spelled := spelled
  valued := valued
  floats := fun policy =>
    [policy.computeCostWeight, policy.delayCostWeight, policy.attentionCostWeight,
     policy.opportunityCostWeight, policy.privacyRiskCostWeight, policy.minimumNetVoc]
  counts := fun policy => [policy.selectorVersion]

theorem distinct (policy : EndogenousPolicySnapshot) :
    ((code b).idKey :: ((code b).identity policy).map Prod.fst).Nodup := by
  show ["policy_id", "version", "selector_id", "selector_version", "compute_cost_weight",
    "delay_cost_weight", "attention_cost_weight", "opportunity_cost_weight",
    "privacy_risk_cost_weight", "minimum_net_voc"].Nodup
  decide

theorem created_of_check (h : check b policy = .ok ()) : (code b).Created policy := by
  unfold check at h
  iterate 10 obtain ⟨_, -, h⟩ := bind_eq_ok h
  exact compared_iff.mp h

theorem check_spelled (h : check b policy = .ok ()) (hwhole : policy.selectorVersion.Whole)
    (hid : (code b).contentId policy.spelled = .ok policy.policyId) :
    check b policy.spelled = .ok () := by
  refine check_mono h id fun h => check_mono h id fun h => check_mono h id fun h =>
    check_mono h (fun h => ?_) fun h =>
      check_mono h PyNumber.requireNonNegative_asFloat fun h =>
        check_mono h PyNumber.requireNonNegative_asFloat fun h =>
          check_mono h PyNumber.requireNonNegative_asFloat fun h =>
            check_mono h PyNumber.requireNonNegative_asFloat fun h =>
              check_mono h PyNumber.requireNonNegative_asFloat fun h =>
                check_mono h PyNumber.requireNonNegative_asFloat fun _ => compared_iff.mpr hid
  show refuse (policy.selectorVersion.asInt.real.atMost (.finite 0) = true) _ = _
  rw [PyNumber.real_asInt hwhole]
  exact h

theorem fromDict_respells (h : q.Respells ((code b).toDict policy)) :
    fromDict b q = (do
      let selectorVersion ← policy.selectorVersion.readInt b
      let computeCostWeight ← policy.computeCostWeight.readFloat b
      let delayCostWeight ← policy.delayCostWeight.readFloat b
      let attentionCostWeight ← policy.attentionCostWeight.readFloat b
      let opportunityCostWeight ← policy.opportunityCostWeight.readFloat b
      let privacyRiskCostWeight ← policy.privacyRiskCostWeight.readFloat b
      let minimumNetVoc ← policy.minimumNetVoc.readFloat b
      constructed (check b)
        { policy with selectorVersion, computeCostWeight, delayCostWeight, attentionCostWeight,
                      opportunityCostWeight, privacyRiskCostWeight, minimumNetVoc }) := by
  have hfields := h.fields (distinct policy)
  simp only [code, identity, List.forall_mem_cons] at hfields
  obtain ⟨hid, hversion, hselector, hselectorVersion, hcompute, hdelay, hattention, hopportunity,
    hprivacy, hminimum, -⟩ := hfields
  simp only [fromDict, hid.text, hversion.text, hselector.text, hselectorVersion.count,
    hcompute.number, hdelay.number, hattention.number, hopportunity.number, hprivacy.number,
    hminimum.numberOrZero, ok_bind]

theorem reads (hcheck : check b policy = .ok ()) (h : q.Respells ((code b).toDict policy)) :
    (code b).ReadsBack policy q ↔ (code b).Exact policy ∧
      (code b).contentId policy.spelled = .ok policy.policyId := by
  show (∃ other, fromDict b q = .ok other ∧ _) ↔ _
  rw [fromDict_respells h]
  constructor
  · rintro ⟨other, hread, hsame⟩
    obtain ⟨version, hversion, hread⟩ := bind_eq_ok hread
    obtain ⟨compute, hcompute, hread⟩ := bind_eq_ok hread
    obtain ⟨delay, hdelay, hread⟩ := bind_eq_ok hread
    obtain ⟨attention, hattention, hread⟩ := bind_eq_ok hread
    obtain ⟨opportunity, hopportunity, hread⟩ := bind_eq_ok hread
    obtain ⟨privacy, hprivacy, hread⟩ := bind_eq_ok hread
    obtain ⟨minimum, hminimum, hread⟩ := bind_eq_ok hread
    obtain ⟨hcheck', rfl⟩ := constructed_iff.mp hread
    have hsame := congrArg toEndogenousPolicyContent hsame
    obtain ⟨hwhole, rfl⟩ := PyNumber.readInt_ok hversion
      (congrArg EndogenousPolicyContent.selectorVersion hsame)
    obtain ⟨heldCompute, rfl⟩ := PyNumber.readFloat_ok hcompute
      (congrArg EndogenousPolicyContent.computeCostWeight hsame)
    obtain ⟨heldDelay, rfl⟩ := PyNumber.readFloat_ok hdelay
      (congrArg EndogenousPolicyContent.delayCostWeight hsame)
    obtain ⟨heldAttention, rfl⟩ := PyNumber.readFloat_ok hattention
      (congrArg EndogenousPolicyContent.attentionCostWeight hsame)
    obtain ⟨heldOpportunity, rfl⟩ := PyNumber.readFloat_ok hopportunity
      (congrArg EndogenousPolicyContent.opportunityCostWeight hsame)
    obtain ⟨heldPrivacy, rfl⟩ := PyNumber.readFloat_ok hprivacy
      (congrArg EndogenousPolicyContent.privacyRiskCostWeight hsame)
    obtain ⟨heldMinimum, rfl⟩ := PyNumber.readFloat_ok hminimum
      (congrArg EndogenousPolicyContent.minimumNetVoc hsame)
    refine ⟨⟨?_, List.forall_mem_singleton.mpr hwhole, trivial⟩, created_of_check hcheck'⟩
    simp only [code, List.forall_mem_cons]
    exact ⟨heldCompute, heldDelay, heldAttention, heldOpportunity, heldPrivacy, heldMinimum, nofun⟩
  · rintro ⟨⟨hheld, hcounts, -⟩, hid⟩
    have hwhole := List.forall_mem_singleton.mp hcounts
    simp only [code, List.forall_mem_cons] at hheld
    obtain ⟨hcompute, hdelay, hattention, hopportunity, hprivacy, hminimum, -⟩ := hheld
    refine ⟨policy.spelled, ?_, ?_⟩
    · simp only [PyNumber.readInt_of hwhole, PyNumber.readFloat_of hcompute,
        PyNumber.readFloat_of hdelay, PyNumber.readFloat_of hattention,
        PyNumber.readFloat_of hopportunity, PyNumber.readFloat_of hprivacy,
        PyNumber.readFloat_of hminimum, ok_bind]
      exact constructed_iff.mpr ⟨check_spelled hcheck hwhole hid, rfl⟩
    · have hversion : policy.selectorVersion.asInt.asFloat = policy.selectorVersion.asFloat :=
        PyNumber.asFloat_asInt hwhole
      show valued _ = valued _
      rw [valued, valued, spelled, spelled, hversion]
      rfl

theorem respelled
    (h : Payload.Respells (.ofList ((code b).identity policy.spelled))
      (.ofList ((code b).identity policy))) : policy.spelled = policy := by
  have hsame := h.forall₂ (List.nodup_cons.mp (distinct (b := b) _)).2 rfl
  simp only [code, identity, spelled, List.forall₂_cons, PyNumber.sortKeys_inj, true_and] at hsame
  obtain ⟨hversion, hcompute, hdelay, hattention, hopportunity, hprivacy, hminimum, -⟩ := hsame
  rw [spelled, hversion, hcompute, hdelay, hattention, hopportunity, hprivacy, hminimum]

theorem lawful (hbounded : b.FloatsBounded) : (code b).Lawful where
  distinct := distinct
  reads := reads
  printable := by
    rintro policy - ⟨hheld, -, -⟩ hprintable
    have hfloats : ∀ number ∈ (code b).floats policy, number.toJson.printable = true :=
      fun number hnumber => PyNumber.printable_of_held hbounded (hheld number hnumber)
    simp only [code, List.forall_mem_cons] at hfloats
    obtain ⟨hcompute, hdelay, hattention, hopportunity, hprivacy, hminimum, -⟩ := hfloats
    refine printableFields_mono ?_ hprintable
    exact .cons id (.cons id (.cons PyNumber.printable_of_asInt (.cons (fun _ => hcompute)
      (.cons (fun _ => hdelay) (.cons (fun _ => hattention) (.cons (fun _ => hopportunity)
        (.cons (fun _ => hprivacy) (.cons (fun _ => hminimum) .nil))))))))
  respelled := respelled
  plain := fun {policy} h => by
    have hversion := congrArg EndogenousPolicyContent.selectorVersion
      (congrArg toEndogenousPolicyContent h)
    exact ⟨PyNumber.held_of_fixed (congrArg (code b).floats h),
      List.forall_mem_singleton.mpr (PyNumber.whole_of_asInt hversion), trivial⟩

end EndogenousPolicySnapshot

end Given
end Noema
