import Mathlib.Logic.Relation
import Noema.InformationProjection
import Noema.Lib.GrownGraph

/-!
# What an accepted governance event did

`Recorded` says what an accepted event did to the governance state, with the checks that
it passed.  Every state that a rebuild reaches is `Governed`: its lineages have no cycle,
and a binding names its lineage and only policies that are recorded.
-/
namespace Noema

/-! ## Equal records -/

theorem InformationLineage.same_of_beq {a c : InformationLineage} (h : (a == c) = true) :
    a.lineageId = c.lineageId ∧ a.sourceInformationIds = c.sourceInformationIds := by
  obtain ⟨hid, hcontent⟩ := Bool.and_eq_true_iff.mp h
  refine ⟨eq_of_beq hid, ?_⟩
  have hfields : (_ && (_ && (_ && _))) = true := hcontent
  simp only [Bool.and_eq_true] at hfields
  exact eq_of_beq hfields.2.1

namespace InformationGovernance

variable {b : InformationBuiltins} {p p' : InformationGovernance b.informationIds} {event : Event}

/-- What an event that was not applied before did. -/
inductive Recorded (b : InformationBuiltins) (p : InformationGovernance b.informationIds)
    (event : Event) : InformationGovernance b.informationIds → Prop
  | policy {policy} (hread : InformationPolicy.fromEvent b event = .ok policy)
      (hsame : ∀ existing, p.policy policy.policyId = some existing → (existing == policy) = true) :
      Recorded b p event { p with policies := p.policies.put policy }
  | lineage {lineage} (hread : InformationLineage.fromEvent b event = .ok lineage)
      (hsame : ∀ existing, p.lineage lineage.informationId = some existing →
        (existing == lineage) = true)
      (hknown : ∀ sourceId ∈ lineage.sourceInformationIds, (p.lineage sourceId).isSome = true) :
      Recorded b p event { p with lineages := p.lineages.put lineage }
  | binding {binding lineage} (hread : PolicyBinding.fromEvent b event = .ok binding)
      (hlineage : p.lineage binding.informationId = some lineage)
      (hmatch : lineage.lineageId = binding.lineageId) (hpolicies : binding.policyIds ≠ [])
      (hknown : ∀ policyId ∈ binding.policyIds, (p.policy policyId).isSome = true)
      (hsame : ∀ existing, p.binding binding.informationId = some existing →
        (existing == binding) = true) :
      Recorded b p event { p with
        bindings := p.bindings.put binding
        quarantines := p.quarantines.erase binding.informationId }
  | quarantine {quarantine} (hread : QuarantinedInformationRef.fromEvent b event = .ok quarantine)
      (hactive : ∀ existing, p.quarantine quarantine.informationId = some existing →
        (existing == quarantine) = true) :
      Recorded b p event { p with
        quarantineRecords := p.quarantineRecords.put quarantine
        quarantines := p.quarantines.put quarantine }
  | access {decisions}
      (hrecord : p.recordDecision b event (accessCodec b) (p.decideAccess b.informationIds)
        p.accessDecisions = .ok decisions) :
      Recorded b p event { p with accessDecisions := decisions }
  | disclosure {decisions}
      (hrecord : p.recordDecision b event (disclosureCodec b) (p.decideDisclosure b.informationIds)
        p.disclosureDecisions = .ok decisions) :
      Recorded b p event { p with disclosureDecisions := decisions }
  | declassification {decisions}
      (hrecord : p.recordDecision b event (declassificationCodec b)
        (p.decideDeclassification b.informationIds) p.declassificationDecisions = .ok decisions) :
      Recorded b p event { p with declassificationDecisions := decisions }
  | view {view decision expected}
      (hread : DeclassifiedDisclosureView.fromEvent b event = .ok view)
      (hdecision : p.declassificationDecisions.find view.declassificationDecisionId = some decision)
      (hallowed : decision.allowed = true)
      (hexpected : DeclassifiedDisclosureView.create b.informationIds decision view.createdAt
        p.lastSequence = .ok expected)
      (hequal : (view == expected) = true)
      (hpolicy : (p.policy view.approvedPolicyId).isSome = true)
      (hsame : ∀ existing, p.declassifiedView view.informationRef.informationId = some existing →
        (existing == view) = true) :
      Recorded b p event { p with declassifiedViews := p.declassifiedViews.put view }
  | elsewhere (htype : event.type ∉ informationGovernanceEventTypes ∨
        event.type = "information.security_audit_receipt") :
      Recorded b p event p

/-- A refusal of records that differ was not made. -/
theorem same_of_refuse {α : Type} [BEq α] {stored : Option α} {value : α} {message : String}
    {answer : Unit}
    (h : refuse (stored.any fun existing => (existing == value) = false) message = .ok answer) :
    ∀ existing, stored = some existing → (existing == value) = true := by
  rintro existing rfl
  have hany := refuse_ok h
  simpa using hany

theorem applyPolicy_ok (h : p.applyPolicy b event = .ok p') : Recorded b p event p' := by
  obtain ⟨policy, hread, h⟩ := bind_eq_ok h
  obtain ⟨policies, hput, h⟩ := bind_eq_ok h
  obtain ⟨_, hsame, hput⟩ := bind_eq_ok hput
  cases hput
  cases h
  exact .policy hread (same_of_refuse hsame)

theorem applyLineage_ok (h : p.applyLineage b event = .ok p') : Recorded b p event p' := by
  obtain ⟨lineage, hread, h⟩ := bind_eq_ok h
  obtain ⟨_, hsame, h⟩ := bind_eq_ok h
  obtain ⟨_, hknown, h⟩ := bind_eq_ok h
  cases h
  refine .lineage hread (same_of_refuse hsame) fun sourceId hsource => ?_
  by_contra hnone
  exact refuse_ok hknown ⟨sourceId, hsource, Option.isNone_iff_eq_none.mpr
    (Option.not_isSome_iff_eq_none.mp hnone)⟩

theorem applyBinding_ok (h : p.applyBinding b event = .ok p') : Recorded b p event p' := by
  obtain ⟨binding, hread, h⟩ := bind_eq_ok h
  obtain ⟨_, hlineage, h⟩ := bind_eq_ok h
  obtain ⟨_, hpolicies, h⟩ := bind_eq_ok h
  obtain ⟨_, hknown, h⟩ := bind_eq_ok h
  obtain ⟨_, hsame, h⟩ := bind_eq_ok h
  cases h
  have hmatch := refuse_ok hlineage
  cases hfind : p.lineage binding.informationId with
  | none =>
    rw [hfind] at hmatch
    exact absurd rfl hmatch
  | some lineage =>
    rw [hfind] at hmatch
    refine .binding hread hfind ?_ (refuse_ok hpolicies) (fun policyId hpolicy => ?_)
      (same_of_refuse hsame)
    · simpa using hmatch
    · by_contra hnone
      exact refuse_ok hknown ⟨policyId, hpolicy, Option.isNone_iff_eq_none.mpr
        (Option.not_isSome_iff_eq_none.mp hnone)⟩

theorem applyQuarantine_ok (h : p.applyQuarantine b event = .ok p') : Recorded b p event p' := by
  obtain ⟨quarantine, hread, h⟩ := bind_eq_ok h
  obtain ⟨-, -, h⟩ := bind_eq_ok h
  obtain ⟨_, hactive, h⟩ := bind_eq_ok h
  cases h
  exact .quarantine hread (same_of_refuse hactive)

theorem allowedDeclassification_ok {decisionId : String} {decision : DeclassificationDecision}
    (h : p.allowedDeclassification b decisionId = .ok decision) :
    p.declassificationDecisions.find decisionId = some decision ∧ decision.allowed = true := by
  unfold allowedDeclassification at h
  cases hfind : (p.declassificationDecisions.find decisionId).filter
      fun decision => decision.allowed with
  | none =>
    rw [hfind] at h
    cases h
  | some found =>
    rw [hfind] at h
    cases h
    exact Option.filter_eq_some_iff.mp hfind

theorem applyView_ok (h : p.applyView b event = .ok p') : Recorded b p event p' := by
  obtain ⟨view, hread, h⟩ := bind_eq_ok h
  obtain ⟨-, -, h⟩ := bind_eq_ok h
  obtain ⟨decision, hdecision, h⟩ := bind_eq_ok h
  obtain ⟨expected, hexpected, h⟩ := bind_eq_ok h
  obtain ⟨_, hequal, h⟩ := bind_eq_ok h
  obtain ⟨_, hpolicy, h⟩ := bind_eq_ok h
  obtain ⟨views, hput, h⟩ := bind_eq_ok h
  obtain ⟨_, hsame, hput⟩ := bind_eq_ok hput
  cases hput
  cases h
  obtain ⟨hfind, hallowed⟩ := allowedDeclassification_ok hdecision
  refine .view hread hfind hallowed hexpected (Bool.eq_true_of_not_eq_false (refuse_ok hequal)) ?_
    (same_of_refuse hsame)
  by_contra hnone
  exact refuse_ok hpolicy (Option.isNone_iff_eq_none.mpr (Option.not_isSome_iff_eq_none.mp hnone))

/-- **An accepted event did what its type says.** -/
theorem applyEvent_ok {handled : Bool} (h : p.applyEvent b event = .ok (p', handled)) :
    Recorded b p event p' := by
  unfold applyEvent at h
  dsimp only at h
  split at h
  · obtain ⟨q, hq, h⟩ := bind_eq_ok h
    cases h
    exact applyPolicy_ok hq
  · obtain ⟨q, hq, h⟩ := bind_eq_ok h
    cases h
    exact applyLineage_ok hq
  · obtain ⟨q, hq, h⟩ := bind_eq_ok h
    cases h
    exact applyBinding_ok hq
  · obtain ⟨q, hq, h⟩ := bind_eq_ok h
    cases h
    exact applyQuarantine_ok hq
  · obtain ⟨q, hq, h⟩ := bind_eq_ok h
    obtain ⟨decisions, hrecord, hq⟩ := bind_eq_ok hq
    cases hq
    cases h
    exact .access hrecord
  · obtain ⟨q, hq, h⟩ := bind_eq_ok h
    obtain ⟨decisions, hrecord, hq⟩ := bind_eq_ok hq
    cases hq
    cases h
    exact .disclosure hrecord
  · obtain ⟨q, hq, h⟩ := bind_eq_ok h
    obtain ⟨decisions, hrecord, hq⟩ := bind_eq_ok hq
    cases hq
    cases h
    exact .declassification hrecord
  · obtain ⟨q, hq, h⟩ := bind_eq_ok h
    cases h
    exact applyView_ok hq
  · rename_i htype
    obtain ⟨-, -, h⟩ := bind_eq_ok h
    cases h
    exact .elsewhere (.inr htype)
  · rename_i hpolicy hlineage hbound hquarantined haccess hdisclosure hdeclass hview haudit
    cases h
    refine .elsewhere (.inl ?_)
    simp only [informationGovernanceEventTypes, List.mem_cons, List.not_mem_nil, or_false, not_or]
    exact ⟨hpolicy, hlineage, hbound, hquarantined, haccess, hdisclosure, hdeclass, hview, haudit⟩

/-- **What `apply` does**: an event is skipped or recorded. -/
theorem step_ok (h : step b p event = .ok p') :
    (p' = p ∧ event.sequence = some p.lastSequence ∧ p.lastEventId = some event.id) ∨
    ∃ q sequence, event.sequence = some sequence ∧ p.lastSequence < sequence ∧
      Recorded b p event q ∧
      p' = { q with lastEventId := some event.id, lastSequence := sequence } := by
  obtain ⟨⟨q, handled⟩, happly, h⟩ := bind_eq_ok h
  cases h
  unfold apply at happly
  cases hsequence : event.sequence with
  | none =>
    rw [hsequence] at happly
    cases happly
  | some sequence =>
    rw [hsequence] at happly
    dsimp only at happly
    split_ifs at happly with hold hsame
    · cases happly
      exact .inl ⟨rfl, by rw [hsame.1], hsame.2⟩
    · obtain ⟨⟨r, handled'⟩, hevent, happly⟩ := bind_eq_ok happly
      cases happly
      exact .inr ⟨r, sequence, rfl, not_le.mp hold, applyEvent_ok hevent, rfl⟩

/-! ## Reachable states -/

/-- The sources of every object with a recorded lineage. -/
def sources (p : InformationGovernance b.informationIds) (informationId : String) :
    Option (List String) :=
  (p.lineage informationId).map fun lineage => lineage.sourceInformationIds

/-- What holds in every state that a rebuild reaches. -/
structure Governed (p : InformationGovernance b.informationIds) : Prop where
  ranked : GrownGraph.Ranked p.sources p.lineages.rows.length
  matched : ∀ informationId binding, p.binding informationId = some binding →
    ∃ lineage, p.lineage informationId = some lineage ∧ binding.lineageId = lineage.lineageId
  bound : ∀ informationId binding, p.binding informationId = some binding →
    binding.policyIds ≠ [] ∧ ∀ policyId ∈ binding.policyIds, (p.policy policyId).isSome = true

theorem governed_empty : (empty b.informationIds).Governed where
  ranked := GrownGraph.ranked_none 0
  matched := by
    intro informationId binding h
    cases h
  bound := by
    intro informationId binding h
    cases h

/-- The lineages only grow, over known sources. -/
theorem ranked_put {lineage : InformationLineage}
    (h : GrownGraph.Ranked p.sources p.lineages.rows.length)
    (hsame : ∀ existing, p.lineage lineage.informationId = some existing →
      (existing == lineage) = true)
    (hknown : ∀ sourceId ∈ lineage.sourceInformationIds, (p.lineage sourceId).isSome = true) :
    GrownGraph.Ranked (sources { p with lineages := p.lineages.put lineage })
      (p.lineages.put lineage).rows.length := by
  have hfind : ∀ informationId, (p.lineages.put lineage).find informationId =
      if lineage.informationId = informationId then some lineage else p.lineage informationId :=
    fun informationId => KeyedTable.find_put informationId
  cases hold : p.lineage lineage.informationId with
  | some existing =>
    -- Recorded again: the table has the same keys, and the same sources under them.
    obtain ⟨-, hsources⟩ := InformationLineage.same_of_beq (hsame existing hold)
    have hkey : existing.informationId = lineage.informationId :=
      KeyedTable.find_key (t := p.lineages) hold
    have hmem : lineage.informationId ∈
        p.lineages.rows.map fun lineage => lineage.informationId :=
      hkey ▸ List.mem_map_of_mem (KeyedTable.mem_of_find hold)
    have hrows : (p.lineages.put lineage).rows.length = p.lineages.rows.length := by
      rw [KeyedTable.put_rows hmem, List.length_map]
    have hnext : sources { p with lineages := p.lineages.put lineage } = p.sources := by
      funext informationId
      show ((p.lineages.put lineage).find informationId).map _ = (p.lineage informationId).map _
      rw [hfind]
      split_ifs with heq
      · rw [← heq, hold, Option.map_some, Option.map_some, hsources]
      · rfl
    rw [hrows, hnext]
    exact h
  | none =>
    have hnext : sources { p with lineages := p.lineages.put lineage } =
        Function.update p.sources lineage.informationId (some lineage.sourceInformationIds) := by
      funext informationId
      show ((p.lineages.put lineage).find informationId).map _ = _
      rw [hfind]
      by_cases heq : lineage.informationId = informationId
      · rw [if_pos heq, ← heq, Function.update_self]
        rfl
      · rw [if_neg heq, Function.update_of_ne (Ne.symm heq)]
        rfl
    have hrows : (p.lineages.put lineage).rows.length = p.lineages.rows.length + 1 := by
      rw [KeyedTable.put_rows_of_new (KeyedTable.not_mem_keys_of_find hold), List.length_append]
      rfl
    rw [hrows, hnext]
    refine h.update ?_ fun sourceId hsource => ?_
    · rw [sources, hold]
      rfl
    · rw [sources, Option.isSome_map]
      exact hknown sourceId hsource

/-- **A recorded event keeps the governance.** -/
theorem Recorded.governed {q : InformationGovernance b.informationIds}
    (h : Recorded b p event q) (hp : p.Governed) : q.Governed := by
  cases h with
  | @policy policy hread hsame =>
    refine ⟨hp.ranked, hp.matched, fun informationId binding hbinding => ?_⟩
    obtain ⟨hne, hknown⟩ := hp.bound informationId binding hbinding
    refine ⟨hne, fun policyId hpolicy => ?_⟩
    show ((p.policies.put policy).find policyId).isSome = true
    rw [KeyedTable.find_put]
    split_ifs
    · rfl
    · exact hknown policyId hpolicy
  | @lineage lineage hread hsame hknown =>
    refine ⟨ranked_put hp.ranked hsame hknown, fun informationId binding hbinding => ?_, hp.bound⟩
    obtain ⟨old, hold, hmatch⟩ := hp.matched informationId binding hbinding
    show ∃ found, (p.lineages.put lineage).find informationId = some found ∧ _
    rw [KeyedTable.find_put]
    split_ifs with heq
    · obtain ⟨hid, -⟩ := InformationLineage.same_of_beq (hsame old (heq ▸ hold))
      exact ⟨lineage, rfl, hmatch.trans hid⟩
    · exact ⟨old, hold, hmatch⟩
  | @binding binding lineage hread hlineage hmatch hpolicies hknown hsame =>
    have hfind : ∀ informationId found, (p.bindings.put binding).find informationId = some found →
        (found = binding ∧ informationId = binding.informationId) ∨
          p.binding informationId = some found := by
      intro informationId found h
      rw [KeyedTable.find_put] at h
      split_ifs at h with heq
      · cases h
        exact .inl ⟨rfl, heq.symm⟩
      · exact .inr h
    refine ⟨hp.ranked, fun informationId found hfound => ?_, fun informationId found hfound => ?_⟩
    · obtain ⟨rfl, rfl⟩ | hold := hfind informationId found hfound
      · exact ⟨lineage, hlineage, hmatch.symm⟩
      · exact hp.matched informationId found hold
    · obtain ⟨rfl, rfl⟩ | hold := hfind informationId found hfound
      · exact ⟨hpolicies, hknown⟩
      · exact hp.bound informationId found hold
  | quarantine | access | disclosure | declassification | view | elsewhere =>
    exact ⟨hp.ranked, hp.matched, hp.bound⟩

/-- **Every state that a rebuild reaches is governed.** -/
theorem governed_of_rebuild {events : List Event} (h : rebuild b events = .ok p) : p.Governed := by
  refine Folding.run_induction (I := fun _ p => p.Governed) governed_empty ?_ h
  intro es event p q _ hp hstep
  obtain ⟨rfl, -⟩ | ⟨r, sequence, -, -, hrecorded, rfl⟩ := step_ok hstep
  · exact hp
  · have hr := hrecorded.governed hp
    exact ⟨hr.ranked, hr.matched, hr.bound⟩

end InformationGovernance

end Noema
