import Mathlib.Algebra.Order.Field.Rat
import Noema.Types

/-!
# Intents, profiles and the policy engine

An action intent and the capability it names both declare authority, risk and
reversibility; `PolicyEngine.authorize` takes the more careful of the two and
compares it with the profile, then asks the custom rules, which can only deny.
Numbers are rationals here, as far as the code only adds and compares them.
-/
namespace Noema

inductive AuthorityLevel
  | observe
  | propose
  | actReversible
  | actIrreversible
  | administer

def AuthorityLevel.value : AuthorityLevel → Nat
  | .observe => 0
  | .propose => 1
  | .actReversible => 2
  | .actIrreversible => 3
  | .administer => 4

theorem AuthorityLevel.value_injective : Function.Injective AuthorityLevel.value := by
  intro a b h
  cases a <;> cases b <;> first | rfl | cases h

/-- An `IntEnum` compares by value. -/
instance : LinearOrder AuthorityLevel :=
  LinearOrder.lift' AuthorityLevel.value AuthorityLevel.value_injective

inductive RiskLevel
  | negligible
  | low
  | medium
  | high
  | critical

def RiskLevel.value : RiskLevel → Nat
  | .negligible => 0
  | .low => 1
  | .medium => 2
  | .high => 3
  | .critical => 4

theorem RiskLevel.value_injective : Function.Injective RiskLevel.value := by
  intro a b h
  cases a <;> cases b <;> first | rfl | cases h

instance : LinearOrder RiskLevel :=
  LinearOrder.lift' RiskLevel.value RiskLevel.value_injective

/-- `ActionIntent`, with what its constructor checks. -/
structure ActionIntent where
  capability : String
  arguments : Payload := .empty
  rationale : String := ""
  expectedValue : ℚ := 0
  informationValue : ℚ := 0
  riskReduction : ℚ := 0
  attentionCost : ℚ := 1
  switchingCost : ℚ := 0
  branchCost : ℚ := 0
  risk : RiskLevel := .low
  reversible : Bool := true
  requiredAuthority : AuthorityLevel := .actReversible
  confidence : ℚ := 1 / 2
  alternatives : List String := []
  falsifiers : List String := []
  idempotencyKey : Option String := none
  intentId : String
  metadata : Payload := .empty
  capability_ne : capability ≠ ""
  confidence_mem : 0 ≤ confidence ∧ confidence ≤ 1
  attentionCost_nonneg : 0 ≤ attentionCost

/-- `CapabilitySpec`, as far as the agent reads it. -/
structure CapabilitySpec where
  name : String
  riskLevel : RiskLevel := .low
  reversible : Bool := true
  idempotent : Bool := false
  requiredAuthority : AuthorityLevel := .actReversible
  maxRetries : Nat := 0
  name_ne : name ≠ ""

instance : DecidableEq CapabilitySpec := fun a c =>
  decidable_of_iff (a.name = c.name ∧ a.riskLevel = c.riskLevel ∧ a.reversible = c.reversible ∧
    a.idempotent = c.idempotent ∧ a.requiredAuthority = c.requiredAuthority ∧
    a.maxRetries = c.maxRetries) <| by
  cases a
  cases c
  simp

/-- `AutonomyProfile`; `maxAttentionPerAction` is `none` for infinity. -/
structure AutonomyProfile where
  authorityCeiling : AuthorityLevel := .actReversible
  maxRisk : RiskLevel := .medium
  allowIrreversible : Bool := false
  minConfidence : ℚ := 1 / 2
  maxAttentionPerAction : Option ℚ := some 20
  requireFalsifiersAboveRisk : RiskLevel := .high

/-- `AutonomyProfile.sovereign`. -/
def AutonomyProfile.sovereign : AutonomyProfile where
  authorityCeiling := .administer
  maxRisk := .critical
  allowIrreversible := true
  minConfidence := 0
  maxAttentionPerAction := none
  requireFalsifiersAboveRisk := .critical

structure AuthorizationDecision where
  allowed : Bool
  reason : String
  effectiveAuthority : AuthorityLevel
  effectiveRisk : RiskLevel

/-- A custom rule over situations of type `σ`: it may deny with a text, or raise. -/
abbrev PolicyRule (σ : Type) := ActionIntent → CapabilitySpec → σ → Except PyError (Option String)

namespace PolicyEngine

def effectiveAuthority (intent : ActionIntent) (capability : CapabilitySpec) : AuthorityLevel :=
  max intent.requiredAuthority capability.requiredAuthority

def effectiveRisk (intent : ActionIntent) (capability : CapabilitySpec) : RiskLevel :=
  max intent.risk capability.riskLevel

/-- What the profile itself denies, by its first check that fails. -/
def profileDenial (profile : AutonomyProfile) (intent : ActionIntent)
    (capability : CapabilitySpec) : Option String :=
  if effectiveAuthority intent capability > profile.authorityCeiling then
    some "required authority exceeds agent authority ceiling"
  else if effectiveRisk intent capability > profile.maxRisk then
    some "effective risk exceeds agent risk ceiling"
  else if !(intent.reversible && capability.reversible) && !profile.allowIrreversible then
    some "irreversible actions are disabled by the autonomy profile"
  else if intent.confidence < profile.minConfidence then
    some "intent confidence is below the autonomy threshold"
  else if profile.maxAttentionPerAction.any fun limit => intent.attentionCost > limit then
    some "action exceeds the per-action attention budget"
  else if effectiveRisk intent capability ≥ profile.requireFalsifiersAboveRisk
      ∧ intent.falsifiers = [] then
    some "high-risk actions require explicit falsifiers"
  else none

/-- What the first custom rule says that denies; an empty text does not. -/
def ruleDenial {σ : Type} (rules : List (PolicyRule σ)) (intent : ActionIntent)
    (capability : CapabilitySpec) (situation : σ) : Except PyError (Option String) :=
  match rules with
  | [] => .ok none
  | rule :: rules => do
    match ← rule intent capability situation with
    | none | some "" => ruleDenial rules intent capability situation
    | some denial => return some denial

/-- `PolicyEngine.authorize`. -/
def authorize {σ : Type} (profile : AutonomyProfile) (rules : List (PolicyRule σ))
    (intent : ActionIntent) (capability : CapabilitySpec) (situation : σ) :
    Except PyError AuthorizationDecision :=
  let decision := fun allowed reason => AuthorizationDecision.mk allowed reason
    (effectiveAuthority intent capability) (effectiveRisk intent capability)
  match profileDenial profile intent capability with
  | some denial => .ok (decision false denial)
  | none =>
    match ruleDenial rules intent capability situation with
    | .error error => .error error
    | .ok (some denial) => .ok (decision false denial)
    | .ok none => .ok (decision true "authorized")

/-- **What an authorization promises** about an intent and the capability it is for. -/
structure WithinProfile (profile : AutonomyProfile) (intent : ActionIntent)
    (capability : CapabilitySpec) : Prop where
  authority : effectiveAuthority intent capability ≤ profile.authorityCeiling
  risk : effectiveRisk intent capability ≤ profile.maxRisk
  reversibility : intent.reversible = true ∧ capability.reversible = true ∨
    profile.allowIrreversible = true
  confidence : profile.minConfidence ≤ intent.confidence
  attention : ∀ limit ∈ profile.maxAttentionPerAction, intent.attentionCost ≤ limit
  falsifiers : effectiveRisk intent capability < profile.requireFalsifiersAboveRisk ∨
    intent.falsifiers ≠ []

theorem profileDenial_eq_none {profile : AutonomyProfile} {intent : ActionIntent}
    {capability : CapabilitySpec} :
    profileDenial profile intent capability = none ↔ WithinProfile profile intent capability := by
  unfold profileDenial
  constructor
  · intro h
    split at h
    · cases h
    rename_i hauthority
    split at h
    · cases h
    rename_i hrisk
    split at h
    · cases h
    rename_i hreversible
    split at h
    · cases h
    rename_i hconfidence
    split at h
    · cases h
    rename_i hattention
    split at h
    · cases h
    rename_i hfalsifiers
    refine ⟨not_lt.mp hauthority, not_lt.mp hrisk, ?_, not_lt.mp hconfidence, ?_, ?_⟩
    · cases hi : intent.reversible <;> cases hc : capability.reversible <;>
        cases hp : profile.allowIrreversible <;> simp_all
    · intro limit hlimit
      rw [Option.mem_def.mp hlimit] at hattention
      simpa using hattention
    · by_cases hf : intent.falsifiers = []
      · exact Or.inl (not_le.mp fun hle => hfalsifiers ⟨hle, hf⟩)
      · exact Or.inr hf
  · intro h
    have hreversible : (!(intent.reversible && capability.reversible) &&
        !profile.allowIrreversible) = false := by
      rcases h.reversibility with ⟨hi, hc⟩ | hp
      · simp [hi, hc]
      · simp [hp]
    have hattention : (profile.maxAttentionPerAction.any fun limit =>
        decide (intent.attentionCost > limit)) = false := by
      cases hlimit : profile.maxAttentionPerAction with
      | none => rfl
      | some limit => simpa using h.attention limit (by rw [hlimit]; rfl)
    have hfalsifiers : ¬ (effectiveRisk intent capability ≥ profile.requireFalsifiersAboveRisk ∧
        intent.falsifiers = []) := by
      rintro ⟨hrisk, hnone⟩
      rcases h.falsifiers with hlt | hsome
      · exact absurd hrisk (not_le.mpr hlt)
      · exact hsome hnone
    rw [if_neg (not_lt.mpr h.authority), if_neg (not_lt.mpr h.risk), hreversible,
      if_neg (by simp), if_neg (not_lt.mpr h.confidence), hattention, if_neg (by simp),
      if_neg hfalsifiers]

/-- **An allowed intent is within the profile**, whatever the rules are. -/
theorem authorize_within {σ : Type} {profile : AutonomyProfile} {rules : List (PolicyRule σ)}
    {intent : ActionIntent} {capability : CapabilitySpec} {situation : σ}
    {decision : AuthorizationDecision}
    (h : authorize profile rules intent capability situation = .ok decision)
    (hallowed : decision.allowed = true) : WithinProfile profile intent capability := by
  dsimp only [authorize] at h
  split at h
  · cases h
    cases hallowed
  · rename_i hprofile
    exact profileDenial_eq_none.mp hprofile

end PolicyEngine
end Noema
