import Noema.Authority
import Noema.Lib.BetaBound

/-!
# Evidence-weighted delegation

A ledger holds the successes and failures of every actor in every domain, and
recommends an authority from a conservative bound of the actor's reliability.  Weights
are exact real numbers here.  More evidence for an actor never lowers the
recommendation and more evidence against it never raises it.  A greater risk should
not raise it either; the two branches that grant more than a proposal are ordered so
that it does, for a reversible action of a well trusted actor.
-/
namespace Noema

/-- `TrustEstimate`. -/
structure TrustEstimate where
  successes : ℝ := 1
  failures : ℝ := 1

namespace TrustEstimate

noncomputable def mean (estimate : TrustEstimate) : ℝ :=
  estimate.successes / (estimate.successes + estimate.failures)

noncomputable def variance (estimate : TrustEstimate) : ℝ :=
  let total := estimate.successes + estimate.failures
  estimate.successes * estimate.failures / (total * total * (total + 1))

noncomputable def conservativeBound (estimate : TrustEstimate) : ℝ :=
  max 0 (estimate.mean - 2 * √estimate.variance)

noncomputable def updated (estimate : TrustEstimate) (success : Bool) (weight : ℝ) :
    Except PyError TrustEstimate :=
  if weight ≤ 0 then .error (.valueError "weight must be positive")
  else if success then .ok ⟨estimate.successes + weight, estimate.failures⟩
  else .ok ⟨estimate.successes, estimate.failures + weight⟩

theorem conservativeBound_eq (estimate : TrustEstimate) :
    estimate.conservativeBound =
      BetaBound.lowerBound 2 estimate.successes estimate.failures := rfl

/-- Both counts start at one and only grow. -/
def Started (estimate : TrustEstimate) : Prop :=
  1 ≤ estimate.successes ∧ 1 ≤ estimate.failures

/-- `better` has the evidence of `estimate`, and perhaps more successes and fewer failures. -/
def AtMost (estimate better : TrustEstimate) : Prop :=
  estimate.successes ≤ better.successes ∧ better.failures ≤ estimate.failures

/-- **Better evidence gives a bound no lower.** -/
theorem conservativeBound_mono {estimate better : TrustEstimate} (h : estimate.AtMost better)
    (hestimate : estimate.Started) (hbetter : better.Started) :
    estimate.conservativeBound ≤ better.conservativeBound := by
  rw [conservativeBound_eq, conservativeBound_eq]
  have hs : (0 : ℝ) < estimate.successes := lt_of_lt_of_le zero_lt_one hestimate.1
  have hs' : (0 : ℝ) < better.successes := lt_of_lt_of_le zero_lt_one hbetter.1
  have hf : (0 : ℝ) ≤ estimate.failures := zero_le_one.trans hestimate.2
  have hf' : (0 : ℝ) ≤ better.failures := zero_le_one.trans hbetter.2
  calc BetaBound.lowerBound 2 estimate.successes estimate.failures
      ≤ BetaBound.lowerBound 2 better.successes estimate.failures :=
        BetaBound.lowerBound_mono_left zero_le_two hs hf h.1
    _ ≤ BetaBound.lowerBound 2 better.successes better.failures :=
        BetaBound.lowerBound_anti_right zero_le_two hs' hf' h.2

end TrustEstimate

/-- One call of `TrustLedger.record` with a weight it accepts. -/
structure TrustRecord where
  actor : String
  domain : String
  success : Bool
  weight : ℝ
  weight_pos : 0 < weight

/-- The record is about this actor in this domain. -/
def TrustRecord.about (record : TrustRecord) (actor domain : String) : Bool :=
  (record.actor, record.domain) = (actor, domain)

/-- An entry of the ledger's dictionary. -/
def trustKey (entry : (String × String) × TrustEstimate) : String × String := entry.1

/-- `TrustLedger`. -/
structure TrustLedger where
  estimates : KeyedTable trustKey := .empty

namespace TrustLedger

variable (ledger : TrustLedger)

def estimate (actor domain : String) : TrustEstimate :=
  ((ledger.estimates.find (actor, domain)).map Prod.snd).getD {}

noncomputable def record (actor domain : String) (success : Bool) (weight : ℝ) :
    Except PyError TrustLedger := do
  let updated ← (ledger.estimate actor domain).updated success weight
  return ⟨ledger.estimates.put ((actor, domain), updated)⟩

/-- What `recommended_authority` makes of a score. -/
noncomputable def authorityOf (score : ℝ) (reversible : Bool) (risk : RiskLevel) :
    AuthorityLevel :=
  if score < 35 / 100 then .observe
  else if score < 55 / 100 then .propose
  else if reversible = true ∧ 55 / 100 ≤ score ∧ risk ≤ .medium then .actReversible
  else if 85 / 100 ≤ score ∧ risk ≤ .high then .actIrreversible
  else .propose

noncomputable def recommendedAuthority (actor domain : String) (reversible : Bool)
    (risk : RiskLevel) : AuthorityLevel :=
  authorityOf (ledger.estimate actor domain).conservativeBound reversible risk

/-! ### Histories -/

/-- The calls of `record`, one after another. -/
noncomputable def recordAll (history : List TrustRecord) : Except PyError TrustLedger :=
  history.foldlM (fun ledger r => ledger.record r.actor r.domain r.success r.weight) {}

/-- The weights of the records of one actor in one domain that have this outcome. -/
def evidence (history : List TrustRecord) (actor domain : String) (success : Bool) : ℝ :=
  ((history.filter fun r => r.about actor domain && r.success == success).map (·.weight)).sum

/-- The estimate that a history leads to. -/
def estimateAfter (history : List TrustRecord) (actor domain : String) : TrustEstimate :=
  ⟨1 + evidence history actor domain true, 1 + evidence history actor domain false⟩

/-- The ledger after a history. -/
noncomputable def ledgerAfter (history : List TrustRecord) : TrustLedger :=
  (recordAll history).toOption.getD {}

theorem evidence_append (history history' : List TrustRecord) (actor domain : String)
    (success : Bool) : evidence (history ++ history') actor domain success =
      evidence history actor domain success + evidence history' actor domain success := by
  simp [evidence]

theorem evidence_singleton (record : TrustRecord) (actor domain : String) (success : Bool) :
    evidence [record] actor domain success =
      if record.about actor domain = true ∧ record.success = success then record.weight else 0 := by
  by_cases h : record.about actor domain = true ∧ record.success = success
  · simp [evidence, h]
  · rw [if_neg h]
    have hnone : (record.about actor domain && record.success == success) = false := by
      simpa using h
    simp [evidence, hnone]

theorem evidence_nonneg (history : List TrustRecord) (actor domain : String) (success : Bool) :
    0 ≤ evidence history actor domain success := by
  refine List.sum_nonneg fun weight h => ?_
  obtain ⟨record, -, rfl⟩ := List.mem_map.mp h
  exact record.weight_pos.le

theorem estimateAfter_started (history : List TrustRecord) (actor domain : String) :
    (estimateAfter history actor domain).Started :=
  ⟨le_add_of_nonneg_right (evidence_nonneg ..), le_add_of_nonneg_right (evidence_nonneg ..)⟩

theorem updated_of_pos (estimate : TrustEstimate) (success : Bool) {weight : ℝ}
    (h : 0 < weight) : estimate.updated success weight = .ok
      ⟨estimate.successes + (if success = true then weight else 0),
        estimate.failures + (if success = true then 0 else weight)⟩ := by
  rw [TrustEstimate.updated, if_neg (not_le.mpr h)]
  cases success <;> simp

theorem estimate_put (key : String × String) (updated : TrustEstimate) (actor domain : String) :
    estimate ⟨ledger.estimates.put (key, updated)⟩ actor domain =
      if key = (actor, domain) then updated else ledger.estimate actor domain := by
  unfold estimate
  rw [KeyedTable.find_put]
  have hkey : trustKey (key, updated) = key := rfl
  rw [hkey]
  by_cases h : key = (actor, domain)
  · rw [if_pos h, if_pos h]
    rfl
  · rw [if_neg h, if_neg h]

/-- **A call of `record` adds its weight to one estimate and keeps the others.** -/
theorem record_ok (r : TrustRecord) :
    ∃ ledger', ledger.record r.actor r.domain r.success r.weight = .ok ledger' ∧
      ∀ actor domain, ledger'.estimate actor domain =
        ⟨(ledger.estimate actor domain).successes + evidence [r] actor domain true,
          (ledger.estimate actor domain).failures + evidence [r] actor domain false⟩ := by
  refine ⟨_, bind_of_ok (updated_of_pos _ r.success r.weight_pos) _, fun actor domain => ?_⟩
  rw [estimate_put, evidence_singleton, evidence_singleton]
  by_cases h : r.about actor domain = true
  · have hkey : (r.actor, r.domain) = (actor, domain) := of_decide_eq_true h
    obtain ⟨hactor, hdomain⟩ := Prod.mk.inj hkey
    rw [if_pos hkey, h, hactor, hdomain]
    cases r.success <;> simp
  · have hkey : ¬ (r.actor, r.domain) = (actor, domain) := fun heq => h (decide_eq_true heq)
    rw [if_neg hkey]
    simp [h]

/-- **A history leads to the sums of its weights**, whatever their order. -/
theorem recordAll_estimate (history : List TrustRecord) :
    ∃ ledger, recordAll history = .ok ledger ∧
      ∀ actor domain, ledger.estimate actor domain = estimateAfter history actor domain := by
  induction history using List.reverseRecOn with
  | nil => exact ⟨{}, rfl, fun actor domain => by simp [estimateAfter, evidence, estimate]⟩
  | append_singleton history r ih =>
    obtain ⟨ledger, hledger, hestimate⟩ := ih
    obtain ⟨ledger', hrecord, hafter⟩ := ledger.record_ok r
    refine ⟨ledger', ?_, fun actor domain => ?_⟩
    · rw [recordAll, List.foldlM_append]
      refine (bind_of_ok hledger _).trans ?_
      simp [hrecord]
    · rw [hafter, hestimate]
      simp only [estimateAfter, evidence_append, add_assoc]

/-- A call with a positive weight does not raise, so a history has a ledger. -/
theorem recordAll_ok (history : List TrustRecord) :
    recordAll history = .ok (ledgerAfter history) := by
  obtain ⟨ledger, hledger, -⟩ := recordAll_estimate history
  rw [ledgerAfter, hledger]
  rfl

theorem ledgerAfter_estimate (history : List TrustRecord) (actor domain : String) :
    (ledgerAfter history).estimate actor domain = estimateAfter history actor domain := by
  obtain ⟨ledger, hledger, hestimate⟩ := recordAll_estimate history
  rw [recordAll_ok] at hledger
  obtain rfl := Except.ok.inj hledger
  exact hestimate actor domain

/-- Only the records of the actor in the domain count. -/
theorem estimateAfter_filter (history : List TrustRecord) (actor domain : String) :
    estimateAfter (history.filter (·.about actor domain)) actor domain =
      estimateAfter history actor domain := by
  simp only [estimateAfter, evidence, List.filter_filter]
  congr <;> funext r <;> cases r.about actor domain <;> simp

/-- One more record adds the same wherever it stands in the history. -/
theorem evidence_insert (before after : List TrustRecord) (r : TrustRecord)
    (actor domain : String) (success : Bool) :
    evidence (before ++ r :: after) actor domain success =
      evidence (before ++ after) actor domain success + evidence [r] actor domain success := by
  rw [show before ++ r :: after = before ++ ([r] ++ after) from rfl]
  simp only [evidence_append]
  ring

/-! ### The recommendation -/

section
variable {score score' : ℝ} {reversible : Bool} {risk risk' : RiskLevel}

theorem authorityOf_of_lt (h : score < 55 / 100) :
    authorityOf score reversible risk = if score < 35 / 100 then .observe else .propose := by
  rw [authorityOf, if_pos h]

/-- From `0.55` on the score counts only where the first grant is not given. -/
theorem authorityOf_of_le (h : 55 / 100 ≤ score) :
    authorityOf score reversible risk =
      if reversible = true ∧ risk ≤ .medium then .actReversible
      else if 85 / 100 ≤ score ∧ risk ≤ .high then .actIrreversible
      else .propose := by
  have hlow : ¬ score < 35 / 100 := by linarith
  rw [authorityOf, if_neg hlow, if_neg (not_lt.mpr h)]
  simp only [h, true_and]

/-- **A greater score gives no lower authority.** -/
theorem authorityOf_mono (h : score ≤ score') :
    authorityOf score reversible risk ≤ authorityOf score' reversible risk := by
  by_cases hmid' : score' < 55 / 100
  · have hmid : score < 55 / 100 := lt_of_le_of_lt h hmid'
    rw [authorityOf_of_lt hmid, authorityOf_of_lt hmid']
    by_cases hlow : score < 35 / 100
    · rw [if_pos hlow]
      exact Nat.zero_le _
    · rw [if_neg hlow, if_neg fun hlt => hlow (h.trans_lt hlt)]
  have hle' : 55 / 100 ≤ score' := not_lt.mp hmid'
  rw [authorityOf_of_le hle']
  by_cases hmid : score < 55 / 100
  · rw [authorityOf_of_lt hmid]
    split_ifs <;> decide
  rw [authorityOf_of_le (not_lt.mp hmid)]
  by_cases hgrant : reversible = true ∧ risk ≤ .medium
  · rw [if_pos hgrant, if_pos hgrant]
  rw [if_neg hgrant, if_neg hgrant]
  by_cases htop : 85 / 100 ≤ score ∧ risk ≤ .high
  · rw [if_pos htop, if_pos ⟨htop.1.trans h, htop.2⟩]
  · rw [if_neg htop]
    split_ifs <;> decide

/-- The case in which the order of the two grants shows. -/
def GrantsOutOfOrder (score : ℝ) (reversible : Bool) (risk greater : RiskLevel) : Prop :=
  reversible = true ∧ 85 / 100 ≤ score ∧ risk ≤ .medium ∧ greater = .high

/-- **A greater risk gives no greater authority, but in one case.** -/
theorem authorityOf_risk_iff {greater : RiskLevel} (h : risk ≤ greater) :
    authorityOf score reversible greater ≤ authorityOf score reversible risk ↔
      ¬ GrantsOutOfOrder score reversible risk greater := by
  unfold GrantsOutOfOrder
  by_cases hmid : score < 55 / 100
  · have htop : ¬ 85 / 100 ≤ score := by linarith
    rw [authorityOf_of_lt hmid, authorityOf_of_lt hmid]
    simp [htop]
  rw [authorityOf_of_le (not_lt.mp hmid), authorityOf_of_le (not_lt.mp hmid)]
  revert h
  by_cases htop : 85 / 100 ≤ score
  · simp only [htop, true_and]
    cases reversible <;> cases risk <;> cases greater <;> decide
  · simp only [htop, false_and, and_false, if_false, not_false_iff, iff_true]
    cases reversible <;> cases risk <;> cases greater <;> decide

end

/-! ### Delegation over histories -/

/-- **What more evidence and more risk may do to a recommendation**: a record is added
between `before` and `after`, or the risk `risk` is compared with `greater`. -/
structure FollowsEvidence (before after : List TrustRecord) (actor domain : String)
    (reversible : Bool) (risk greater : RiskLevel) : Prop where
  recorded : recordAll (before ++ after) = .ok (ledgerAfter (before ++ after))
  success : ∀ r : TrustRecord, r.success = true →
    (ledgerAfter (before ++ after)).recommendedAuthority actor domain reversible risk ≤
      (ledgerAfter (before ++ r :: after)).recommendedAuthority actor domain reversible risk
  failure : ∀ r : TrustRecord, r.success = false →
    (ledgerAfter (before ++ r :: after)).recommendedAuthority actor domain reversible risk ≤
      (ledgerAfter (before ++ after)).recommendedAuthority actor domain reversible risk
  order : risk ≤ greater →
    (ledgerAfter (before ++ after)).recommendedAuthority actor domain reversible greater ≤
      (ledgerAfter (before ++ after)).recommendedAuthority actor domain reversible risk
  others : (ledgerAfter ((before ++ after).filter (·.about actor domain))).recommendedAuthority
      actor domain reversible risk =
    (ledgerAfter (before ++ after)).recommendedAuthority actor domain reversible risk

theorem recommendedAuthority_after (history : List TrustRecord) (actor domain : String)
    (reversible : Bool) (risk : RiskLevel) :
    (ledgerAfter history).recommendedAuthority actor domain reversible risk =
      authorityOf (estimateAfter history actor domain).conservativeBound reversible risk := by
  rw [recommendedAuthority, ledgerAfter_estimate]

theorem evidence_of_outcome {r : TrustRecord} (success : Bool) (h : r.success = !success)
    (actor domain : String) : evidence [r] actor domain success = 0 := by
  rw [evidence_singleton, if_neg]
  rintro ⟨-, heq⟩
  rw [heq] at h
  cases success <;> cases h

theorem atMost_of_success (before after : List TrustRecord) {r : TrustRecord}
    (h : r.success = true) (actor domain : String) :
    (estimateAfter (before ++ after) actor domain).AtMost
      (estimateAfter (before ++ r :: after) actor domain) := by
  have hpos := evidence_nonneg [r] actor domain true
  have hzero := evidence_of_outcome false h actor domain
  constructor
  · simp only [estimateAfter, evidence_insert]
    linarith
  · simp only [estimateAfter, evidence_insert, hzero, add_zero, le_refl]

theorem atMost_of_failure (before after : List TrustRecord) {r : TrustRecord}
    (h : r.success = false) (actor domain : String) :
    (estimateAfter (before ++ r :: after) actor domain).AtMost
      (estimateAfter (before ++ after) actor domain) := by
  have hpos := evidence_nonneg [r] actor domain false
  have hzero := evidence_of_outcome true h actor domain
  constructor
  · simp only [estimateAfter, evidence_insert, hzero, add_zero, le_refl]
  · simp only [estimateAfter, evidence_insert]
    linarith

/-- **Delegation follows the evidence exactly where the two grants are not out of
order**: the action is not reversible, the bound is below `0.85`, the lower risk is
already above medium, or the greater is not high. -/
theorem delegation_follows_evidence_iff (before after : List TrustRecord)
    (actor domain : String) (reversible : Bool) (risk greater : RiskLevel) :
    FollowsEvidence before after actor domain reversible risk greater ↔
      ¬ GrantsOutOfOrder
        ((ledgerAfter (before ++ after)).estimate actor domain).conservativeBound
        reversible risk greater := by
  constructor
  · intro h hout
    have hle : risk ≤ greater := hout.2.2.2 ▸ hout.2.2.1.trans (by decide)
    exact (authorityOf_risk_iff hle).mp (h.order hle) hout
  · intro h
    refine ⟨recordAll_ok _, fun r hr => ?_, fun r hr => ?_,
      fun hle => (authorityOf_risk_iff hle).mpr h, ?_⟩
    · rw [recommendedAuthority_after, recommendedAuthority_after]
      exact authorityOf_mono (TrustEstimate.conservativeBound_mono
        (atMost_of_success before after hr actor domain)
        (estimateAfter_started ..) (estimateAfter_started ..))
    · rw [recommendedAuthority_after, recommendedAuthority_after]
      exact authorityOf_mono (TrustEstimate.conservativeBound_mono
        (atMost_of_failure before after hr actor domain)
        (estimateAfter_started ..) (estimateAfter_started ..))
    · rw [recommendedAuthority_after, recommendedAuthority_after, estimateAfter_filter]

/-- One success of weight 999 earns a bound above `0.85`. -/
theorem bound_of_large_success : 85 / 100 ≤
    (estimateAfter [⟨"worker", "*", true, 999, by norm_num⟩] "worker" "*").conservativeBound := by
  have hestimate : estimateAfter [⟨"worker", "*", true, 999, by norm_num⟩] "worker" "*" =
      ⟨1000, 1⟩ := by
    simp only [estimateAfter, evidence_singleton, TrustRecord.about]
    norm_num
  have hvariance : √(TrustEstimate.variance ⟨1000, 1⟩) ≤ 1 / 1001 := by
    rw [Real.sqrt_le_left (by norm_num)]
    norm_num [TrustEstimate.variance]
  have hmean : TrustEstimate.mean ⟨1000, 1⟩ = 1000 / 1001 := by norm_num [TrustEstimate.mean]
  rw [hestimate]
  refine le_max_of_le_right ?_
  rw [hmean]
  linarith

/-- After it, a reversible action of high risk gets more authority than one of low risk. -/
theorem delegation_does_not_follow_risk :
    ¬ ∀ (before after : List TrustRecord) (actor domain : String) (reversible : Bool)
      (risk greater : RiskLevel),
      FollowsEvidence before after actor domain reversible risk greater := by
  intro h
  have horder := (h [] [⟨"worker", "*", true, 999, by norm_num⟩] "worker" "*" true
    .low .high).order (by decide)
  rw [recommendedAuthority_after, recommendedAuthority_after] at horder
  refine (authorityOf_risk_iff (by decide)).mp horder ⟨rfl, ?_, by decide, rfl⟩
  exact bound_of_large_success

end TrustLedger
end Noema
