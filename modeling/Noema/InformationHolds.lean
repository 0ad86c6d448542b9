import Noema.InformationRestriction
import Noema.Lib.StableOrder

/-!
# The holds of a composition

A composition keeps one hold for each hold id, the one of the policy that comes last.  It
restricts a deletion by the active ones among those it keeps, so a hold that a later policy
carries as released is gone.
-/
namespace Noema

open InformationGovernance

/-- `sorted(policies, key=lambda value: value.policy_id)`. -/
def inOrder (policies : List InformationPolicy) : List InformationPolicy :=
  policies.insertionSort fun a b => a.policyId ≤ b.policyId

theorem mem_inOrder {policies : List InformationPolicy} {policy : InformationPolicy} :
    policy ∈ inOrder policies ↔ policy ∈ policies :=
  List.mem_insertionSort _

instance : Std.Total fun a b : InformationPolicy => a.policyId ≤ b.policyId :=
  ⟨fun a b => le_total a.policyId b.policyId⟩

instance : IsTrans InformationPolicy fun a b => a.policyId ≤ b.policyId :=
  ⟨fun _ _ _ => le_trans⟩

theorem inOrder_pairwise (policies : List InformationPolicy) :
    (inOrder policies).Pairwise fun a b => a.policyId ≤ b.policyId :=
  List.pairwise_insertionSort _ _

/-- A policy has a hold with this id. -/
def InformationPolicy.HasHold (policy : InformationPolicy) (holdId : String) : Prop :=
  ∃ hold ∈ policy.retention.holds, hold.holdId = holdId

/-- Of policies in this order, the hold is kept: no later policy has one with its id. -/
def KeepsHold (values : List InformationPolicy) (hold : HoldConstraint) : Prop :=
  ∃ before policy after, values = before ++ policy :: after ∧ hold ∈ policy.retention.holds ∧
    ∀ later ∈ after, ¬ later.HasHold hold.holdId

theorem mergedHolds_concat (values : List InformationPolicy) (policy : InformationPolicy) :
    mergedHolds (values ++ [policy]) = (mergedHolds values).putAll policy.retention.holds := by
  simp only [mergedHolds, KeyedTable.ofList, KeyedTable.putAll, List.flatMap_append,
    List.flatMap_cons, List.flatMap_nil, List.append_nil, List.foldl_append]

theorem keepsHold_concat {values : List InformationPolicy} {policy : InformationPolicy}
    {hold : HoldConstraint} : KeepsHold (values ++ [policy]) hold ↔
      hold ∈ policy.retention.holds ∨ (KeepsHold values hold ∧ ¬ policy.HasHold hold.holdId) := by
  constructor
  · rintro ⟨before, keeper, after, heq, hhold, hlater⟩
    rcases List.eq_nil_or_concat' after with rfl | ⟨after, last, rfl⟩
    · obtain ⟨-, hlast⟩ := List.append_inj' heq rfl
      rw [List.cons.injEq] at hlast
      exact .inl (hlast.1 ▸ hhold)
    · rw [← List.cons_append, ← List.append_assoc] at heq
      obtain ⟨hvalues, hlast⟩ := List.append_inj' heq rfl
      rw [List.cons.injEq] at hlast
      refine .inr ⟨⟨before, keeper, after, hvalues, hhold, fun later hmem =>
        hlater later (List.mem_append_left _ hmem)⟩, ?_⟩
      rw [hlast.1]
      exact hlater last (List.mem_append_right _ List.mem_cons_self)
  · rintro (hhold | ⟨⟨before, keeper, after, rfl, hhold, hlater⟩, hfree⟩)
    · exact ⟨values, policy, [], rfl, hhold, fun later hmem => nomatch hmem⟩
    · refine ⟨before, keeper, after ++ [policy], by simp, hhold, fun later hmem => ?_⟩
      rcases List.mem_append.mp hmem with hmem | hmem
      · exact hlater later hmem
      · rw [List.mem_singleton.mp hmem]
        exact hfree

/-- **The holds that a composition keeps.** -/
theorem mem_mergedHolds {values : List InformationPolicy} {hold : HoldConstraint} :
    hold ∈ (mergedHolds values).rows ↔ KeepsHold values hold := by
  induction values using List.reverseRecOn with
  | nil =>
    refine iff_of_false (fun hmem => nomatch hmem) ?_
    rintro ⟨before, policy, after, heq, -⟩
    simp at heq
  | append_singleton values policy ih =>
    rw [mergedHolds_concat, KeyedTable.mem_putAll policy.retention.unique, keepsHold_concat, ih]
    simp only [InformationPolicy.HasHold, not_exists, not_and]

/-- Every hold of a policy is kept, or gives way to a kept one. -/
theorem exists_keepsHold {values : List InformationPolicy} {policy : InformationPolicy}
    {holdId : String} (hpolicy : policy ∈ values) (hholds : policy.HasHold holdId) :
    ∃ hold, KeepsHold values hold ∧ hold.holdId = holdId := by
  induction values using List.reverseRecOn with
  | nil => cases hpolicy
  | append_singleton values last ih =>
    by_cases hlast : last.HasHold holdId
    · obtain ⟨hold, hmem, hid⟩ := hlast
      exact ⟨hold, keepsHold_concat.mpr (.inl hmem), hid⟩
    · rcases List.mem_append.mp hpolicy with hpolicy | hpolicy
      · obtain ⟨hold, hkept, rfl⟩ := ih hpolicy
        exact ⟨hold, keepsHold_concat.mpr (.inr ⟨hkept, hlast⟩), rfl⟩
      · rw [List.mem_singleton.mp hpolicy] at hholds
        exact absurd hholds hlast

/-- Two kept holds with one id are one. -/
theorem KeepsHold.unique {values : List InformationPolicy} {hold other : HoldConstraint}
    (h : KeepsHold values hold) (h' : KeepsHold values other) (hid : hold.holdId = other.holdId) :
    hold = other :=
  List.inj_on_of_nodup_map (mergedHolds values).unique (mem_mergedHolds.mpr h)
    (mem_mergedHolds.mpr h') hid

/-- A policy has one hold for an id. -/
theorem InformationPolicy.hold_unique (policy : InformationPolicy) {hold other : HoldConstraint}
    (h : hold ∈ policy.retention.holds) (h' : other ∈ policy.retention.holds)
    (hid : hold.holdId = other.holdId) : hold = other :=
  List.inj_on_of_nodup_map policy.retention.unique h h' hid

/-- Of these policies, none with a greater id has a hold with the id of this one. -/
def Foremost (policies : List InformationPolicy) (hold : HoldConstraint) : Prop :=
  ∃ policy ∈ policies, hold ∈ policy.retention.holds ∧
    ∀ other ∈ policies, policy.policyId < other.policyId → ¬ other.HasHold hold.holdId

/-- Of policies in the order of their ids, the kept hold is the one of the greatest. -/
theorem KeepsHold.foremost {policies : List InformationPolicy} {hold : HoldConstraint}
    (h : KeepsHold (inOrder policies) hold) : Foremost policies hold := by
  obtain ⟨before, policy, after, heq, hhold, hlater⟩ := h
  have hsorted := inOrder_pairwise policies
  rw [heq] at hsorted
  refine ⟨policy, mem_inOrder.mp ?_, hhold, fun other hother hlt => ?_⟩
  · rw [heq]
    exact List.mem_append_right _ List.mem_cons_self
  · rw [← mem_inOrder, heq] at hother
    rcases List.mem_append.mp hother with hbefore | hrest
    · have hle := (List.pairwise_append.mp hsorted).2.2 other hbefore policy List.mem_cons_self
      exact absurd hlt (not_lt.mpr hle)
    · rcases List.mem_cons.mp hrest with rfl | hafter
      · exact absurd hlt (lt_irrefl _)
      · exact hlater other hafter

/-! ## Compositions of policies in order -/

theorem composePolicies_inOrder {policies : List InformationPolicy} (h : policies ≠ [])
    (refs : List String) (conflicts : List PolicyConflict) :
    ∃ first rest, inOrder policies = first :: rest ∧ composePolicies policies refs conflicts =
      { joined first rest refs with
        conflicts := conflicts ++ fieldConflicts (joined first rest refs) } := by
  unfold composePolicies
  split
  · rename_i hnil
    obtain ⟨policy, hpolicy⟩ := List.exists_mem_of_ne_nil _ h
    have hmem := mem_inOrder.mpr hpolicy
    rw [inOrder, hnil] at hmem
    cases hmem
  · rename_i first rest hsorted
    exact ⟨first, rest, hsorted, rfl⟩

/-- A composition has an active hold exactly if it keeps one. -/
theorem activeHolds_composePolicies {policies : List InformationPolicy} (refs : List String)
    (conflicts : List PolicyConflict) :
    (composePolicies policies refs conflicts).retention.activeHolds = [] ↔
      ∀ hold, KeepsHold (inOrder policies) hold → hold.active = false := by
  by_cases hne : policies = []
  · subst hne
    refine iff_of_true rfl ?_
    rintro hold ⟨before, policy, after, heq, -⟩
    simp [inOrder] at heq
  · obtain ⟨first, rest, hsorted, heq⟩ := composePolicies_inOrder hne refs conflicts
    rw [heq, hsorted]
    show (mergedHolds (first :: rest)).sorted.filter HoldConstraint.active = [] ↔ _
    simp only [List.filter_eq_nil_iff, KeyedTable.mem_sorted, mem_mergedHolds, Bool.not_eq_true]

/-- A single policy keeps all its holds. -/
theorem keepsHold_singleton {policy : InformationPolicy} {hold : HoldConstraint} :
    KeepsHold (inOrder [policy]) hold ↔ hold ∈ policy.retention.holds := by
  have hsorted : inOrder [policy] = [] ++ [policy] := rfl
  rw [hsorted, keepsHold_concat]
  constructor
  · rintro (hhold | ⟨⟨before, other, after, heq, -⟩, -⟩)
    · exact hhold
    · simp at heq
  · exact .inl

/-! ## Fewer policies -/

/-- What passes meets no conflict that is added to a composition. -/
theorem unaffected_of_passes {policies : List InformationPolicy} {refs : List String}
    {conflicts : List PolicyConflict} {context : ContextContent}
    (hpass : Passes (composePolicies policies refs conflicts) context) :
    Unaffected conflicts context.operation := by
  unfold composePolicies at hpass
  intro conflict hconflict
  split at hpass <;> exact hpass.unaffected conflict (List.mem_append_left _ hconflict)

theorem composePolicies_conflicts {policies : List InformationPolicy} {refs : List String}
    {conflicts : List PolicyConflict} (h : policies ≠ []) :
    (composePolicies policies refs conflicts).conflicts =
      conflicts ++ fieldConflicts (composePolicies policies refs conflicts) := by
  obtain ⟨first, rest, -, heq⟩ := composePolicies_inOrder h refs conflicts
  rw [heq]
  rfl

section Fewer

variable {policies policies' : List InformationPolicy} {refs refs' : List String}
  {conflicts conflicts' : List PolicyConflict}

/-- Fewer policies restrict less. -/
theorem composePolicies_looser (hne : policies ≠ [])
    (hsub : ∀ policy ∈ policies, policy ∈ policies') :
    Looser (composePolicies policies' refs' conflicts')
      (composePolicies policies refs conflicts) := by
  obtain ⟨policy, hpolicy⟩ := List.exists_mem_of_ne_nil _ hne
  obtain ⟨first, rest, hmem, heq⟩ := composePolicies_of_ne_nil hne refs conflicts
  obtain ⟨first', rest', hmem', heq'⟩ :=
    composePolicies_of_ne_nil (List.ne_nil_of_mem (hsub policy hpolicy)) refs' conflicts'
  have hlooser : Looser (joined first' rest' refs') (joined first rest refs) :=
    joined_looser fun policy hpolicy => (hmem' policy).mpr (hsub policy ((hmem policy).mp hpolicy))
  rw [heq, heq']
  obtain ⟨hclass, hpurposes, hrecipients, hdomains, hlocalities, hproviders, hforms, hauthorities,
    huses, hsharing, huntil, hafter⟩ := hlooser
  exact ⟨hclass, hpurposes, hrecipients, hdomains, hlocalities, hproviders, hforms, hauthorities,
    huses, hsharing, huntil, hafter⟩

/-- An operation that is free of conflicts for more policies is free for fewer of them, if
these have no active hold against a deletion. -/
theorem unaffected_fewer {operation : InformationOperation} (hne : policies ≠ [])
    (hsub : ∀ policy ∈ policies, policy ∈ policies') (hadded : Unaffected conflicts operation)
    (hhold : operation = .delete →
      (composePolicies policies refs conflicts).retention.activeHolds = [])
    (hfree : Unaffected (composePolicies policies' refs' conflicts').conflicts operation) :
    Unaffected (composePolicies policies refs conflicts).conflicts operation := by
  obtain ⟨policy, hpolicy⟩ := List.exists_mem_of_ne_nil _ hne
  rw [composePolicies_conflicts (List.ne_nil_of_mem (hsub policy hpolicy))] at hfree
  rw [composePolicies_conflicts hne]
  intro conflict hconflict
  rcases List.mem_append.mp hconflict with hconflict | hconflict
  · exact hadded conflict hconflict
  · have hlooser : Looser (composePolicies policies' refs' conflicts')
        (composePolicies policies refs conflicts) := composePolicies_looser hne hsub
    have hfields := hlooser.unaffected hhold fun conflict hmem =>
      hfree conflict (List.mem_append_right _ hmem)
    exact hfields conflict hconflict

/-- **What passes for more policies passes for fewer of them**, if these have no active
hold against a deletion. -/
theorem passes_fewer_iff {context : ContextContent} (hne : policies ≠ [])
    (hsub : ∀ policy ∈ policies, policy ∈ policies')
    (hfree : Unaffected conflicts context.operation)
    (hpass : Passes (composePolicies policies' refs' conflicts') context) :
    Passes (composePolicies policies refs conflicts) context ↔
      (context.operation = .delete →
        (composePolicies policies refs conflicts).retention.activeHolds = []) := by
  refine ⟨activeHolds_of_passes, fun hholds => ?_⟩
  have hlooser : Looser (composePolicies policies' refs' conflicts')
      (composePolicies policies refs conflicts) := composePolicies_looser hne hsub
  exact ⟨unaffected_fewer hne hsub hfree hholds hpass.unaffected, hlooser.use hpass.use,
    hlooser.access hpass.access⟩

end Fewer

end Noema
