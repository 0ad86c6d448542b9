import Noema.GoalAuthority
import Noema.InformationCompositions

/-!
# Restrictions along a lineage

An access that is allowed on a derived information is allowed on its ancestors, but for
what the engine does not carry down a lineage: a quarantine, a hold that a later policy
releases under the same id, a missing binding on a classification, and the approved policy
of a declassified view that is itself a source.
-/
namespace Noema

open InformationOperation

/-! ## Normalized compositions -/

/-- Putting a content in order loosens nothing. -/
theorem looser_normalized (content : CompositionContent) : Looser content content.normalized := by
  refine ⟨id, ?_, ?_, ?_, ?_, ?_, ?_, ?_, ?_, id, fun time htime => ⟨time, htime, le_rfl⟩,
    fun time htime => ⟨time, htime, le_rfl⟩⟩ <;>
    simp only [CompositionContent.normalized, mem_ordered, mem_sortedByText, imp_self, implies_true]

/-- And restricts nothing. -/
theorem normalized_looser (content : CompositionContent) : Looser content.normalized content := by
  refine ⟨id, ?_, ?_, ?_, ?_, ?_, ?_, ?_, ?_, id, fun time htime => ⟨time, htime, le_rfl⟩,
    fun time htime => ⟨time, htime, le_rfl⟩⟩ <;>
    simp only [CompositionContent.normalized, mem_ordered, mem_sortedByText, imp_self, implies_true]

theorem unaffected_normalized {content : CompositionContent} {operation : InformationOperation} :
    Unaffected content.normalized.conflicts operation ↔
      Unaffected content.conflicts operation := by
  simp only [Unaffected, CompositionContent.normalized, List.mem_insertionSort, List.mem_dedup]

/-- A composition lets a request pass, whatever ids its context names. -/
structure Passes (content : CompositionContent) (context : ContextContent) : Prop where
  unaffected : Unaffected content.conflicts context.operation
  use : PermitsUse content context context.operation
  access : PermitsAccess content context

theorem admitted_normalized {content : CompositionContent} {context : ContextContent} :
    Admitted content.normalized context ↔
      context.operation ≠ .unknown ∧ CurrentContext content.normalized context ∧ Passes content context := by
  constructor
  · rintro ⟨hknown, hfree, hcurrent, huse, haccess⟩
    exact ⟨hknown, hcurrent, unaffected_normalized.mp hfree, (normalized_looser content).use huse,
      (normalized_looser content).access haccess⟩
  · rintro ⟨hknown, hcurrent, hfree, huse, haccess⟩
    exact ⟨hknown, unaffected_normalized.mpr hfree, hcurrent, (looser_normalized content).use huse,
      (looser_normalized content).access haccess⟩

theorem insertionSort_ordered (values : List String) :
    (ordered values).insertionSort (· ≤ ·) = ordered values :=
  (List.pairwise_insertionSort _ _).insertionSort_eq

/-! ## Decisions -/

theorem GovernanceDecision.create_ok {ρ : Type} (form : DecisionForm ρ)
    (digest : DecisionContent ρ → Digest) (content : DecisionContent ρ)
    (hkind : isIdPrefix form.idKind.toList = true)
    (hcomposition : isOpaqueId content.compositionId = true) (hcursor : 0 ≤ content.causalEventCursor)
    (htime : content.decidedAt = (form.context content.request).decisionTime)
    (hoperation : content.policyDecision.operation = form.operation content.request) :
    ∃ decision, GovernanceDecision.create form digest content = .ok decision ∧
      decision.toDecisionContent = content := by
  have hcheck : content.check form ((digest content).id form.idKind) = .ok () := by
    refine (bind_of_ok (requireOpaqueId_of (Digest.isOpaqueId_id _ hkind)) _).trans ?_
    refine (bind_of_ok (requireOpaqueId_of hcomposition) _).trans ?_
    refine (bind_of_ok (refuse_of (not_lt.mpr hcursor)) _).trans ?_
    refine (bind_of_ok (refuse_of ?_) _).trans (refuse_of (not_not.mpr hoperation))
    rw [htime, beq_self_eq_true]
    exact Bool.noConfusion
  exact ⟨⟨content, _, hcheck⟩, checkedBy_of hcheck, rfl⟩

theorem PolicyComposition.id_opaque (composition : PolicyComposition) :
    isOpaqueId composition.compositionId = true := by
  obtain ⟨_, hid, -⟩ := bind_eq_ok composition.checked
  exact requireOpaqueId_ok hid

namespace InformationGovernance

variable {b : InformationBuiltins} {p : InformationGovernance b.informationIds}

/-- `decide_access` allows a request. -/
def Allows (p : InformationGovernance b.informationIds) (request : InformationAccessRequest) :
    Prop :=
  ∃ decision, p.decideAccess b.informationIds request = .ok decision ∧ decision.allowed = true

/-- `decide_access` allows the request on another information, with its context refreshed by
`context_for`. -/
def AllowsOn (p : InformationGovernance b.informationIds) (informationRef : GovernedInformationRef)
    (request : InformationAccessRequest) : Prop :=
  ∃ context refreshed, p.contextFor informationRef request.context.toContextContent = .ok context ∧
    InformationAccessRequest.create b.informationIds { informationRef, context } = .ok refreshed ∧
    p.Allows refreshed

/-- What the engine decides by: the quarantine of an information, or its composition. -/
def Opens (p : InformationGovernance b.informationIds) (informationId : String)
    (context : ContextContent) : Prop :=
  match p.quarantine informationId with
  | some quarantine => quarantine.policy.admits context
  | none => context.operation ≠ .unknown ∧ Passes (p.compositionOf informationId) context

theorem allowed_evaluateQuarantine {policy : QuarantinePolicy} {context : ContextContent} :
    (evaluateQuarantine policy context).allowed = true ↔ policy.admits context := by
  unfold evaluateQuarantine
  split_ifs with h
  · exact iff_of_true rfl h
  · exact iff_of_false Bool.false_ne_true h

theorem operation_evaluateQuarantine {policy : QuarantinePolicy} {context : ContextContent} :
    (evaluateQuarantine policy context).operation = context.operation := by
  unfold evaluateQuarantine
  split_ifs <;> rfl

/-- **What `decide_access` allows.** -/
theorem allows_iff (hp : p.Governed) (request : InformationAccessRequest) :
    p.Allows request ↔
      p.Opens request.informationRef.informationId request.context.toContextContent ∧
      (p.quarantine request.informationRef.informationId = none →
        CurrentContext (p.compositionOf request.informationRef.informationId).normalized
          request.context.toContextContent) := by
  obtain ⟨composition, hcomposition, hcontent⟩ := compositionFor_ok hp request.informationRef
  -- Whatever the verdict is, it makes a decision.
  have hdecide : ∀ verdict : PolicyDecision, verdict.operation = request.context.operation →
      ∃ decision, GovernanceDecision.create accessForm b.informationIds.accessDecision
        { request, compositionId := composition.compositionId, policyDecision := verdict,
          decidedAt := request.context.decisionTime, causalEventCursor := p.lastSequence } =
        .ok decision ∧ (decision.allowed = true ↔ verdict.allowed = true) := by
    intro verdict hoperation
    obtain ⟨decision, hdecision, hsame⟩ := GovernanceDecision.create_ok accessForm
      b.informationIds.accessDecision
      { request, compositionId := composition.compositionId, policyDecision := verdict,
        decidedAt := request.context.decisionTime, causalEventCursor := p.lastSequence }
      (by decide) composition.id_opaque (Int.natCast_nonneg p.lastSequence) rfl hoperation
    exact ⟨decision, hdecision, by rw [DecisionContent.allowed, hsame]⟩
  unfold Allows decideAccess Opens
  rw [hcomposition]
  dsimp only [bind, Except.bind]
  cases hquarantine : p.quarantine request.informationRef.informationId with
  | some quarantine =>
    obtain ⟨decision, hdecision, hallowed⟩ := hdecide
      (evaluateQuarantine quarantine.policy request.context.toContextContent)
      operation_evaluateQuarantine
    dsimp only
    rw [hdecision]
    simp only [Except.ok.injEq, exists_eq_left', hallowed, allowed_evaluateQuarantine,
      reduceCtorEq, false_implies, and_true]
  | none =>
    obtain ⟨verdict, hverdict, hoperation, hadmitted⟩ :=
      evaluateAccess_ok composition.toCompositionContent request.context.toContextContent
    obtain ⟨decision, hdecision, hallowed⟩ := hdecide verdict hoperation
    dsimp only
    rw [hverdict]
    dsimp only
    rw [hdecision]
    simp only [Except.ok.injEq, exists_eq_left', hallowed, hadmitted, hcontent,
      admitted_normalized, forall_const]
    tauto

/-! ## Refreshed contexts -/

/-- Two contexts that differ at most in the ids they cite and in the order of a posture. -/
theorem passes_refreshed {content : CompositionContent} {context : ContextContent}
    {policyIds refs : List String} :
    Passes content ({ context with policyIds, sourceLineageRefs := refs } : ContextContent).normalized
      ↔ Passes content context := by
  constructor <;> rintro ⟨hfree, ⟨hpurpose, huse, hlocality, hdomain, hprovider⟩,
    ⟨hrecipient, haddressee, hprincipal, hdestination, hsharing, hretention⟩⟩ <;>
    exact ⟨hfree, ⟨hpurpose, huse, hlocality, hdomain, hprovider⟩,
      ⟨hrecipient, haddressee, hprincipal, hdestination, hsharing, hretention⟩⟩

theorem PolicyComposition.refs_opaque (composition : PolicyComposition) :
    ∀ id ∈ composition.sourcePolicyIds ++ composition.sourceInformationIds,
      isOpaqueId id = true := by
  obtain ⟨_, -, h⟩ := bind_eq_ok composition.checked
  obtain ⟨_, hrefs, -⟩ := bind_eq_ok h
  exact fun id hid => requireOpaqueId_ok (forM_ok hrefs id hid)

/-- A context still can be built with the ids of a composition. -/
theorem context_refreshed (ids : InformationIds) (context : AccessContext)
    (composition : PolicyComposition) :
    ∃ refreshed, AccessContext.create ids
        { context.toContextContent with
          policyIds := composition.sourcePolicyIds
          sourceLineageRefs := composition.sourceInformationIds } = .ok refreshed ∧
      refreshed.toContextContent =
        ({ context.toContextContent with
          policyIds := composition.sourcePolicyIds
          sourceLineageRefs := composition.sourceInformationIds } : ContextContent).normalized := by
  have hrefs := PolicyComposition.refs_opaque composition
  have hpolicies : ∀ id ∈ composition.sourcePolicyIds, isOpaqueId id = true :=
    fun id hid => hrefs id (List.mem_append_left _ hid)
  have hsources : ∀ id ∈ composition.sourceInformationIds, isOpaqueId id = true :=
    fun id hid => hrefs id (List.mem_append_right _ hid)
  obtain ⟨_, -, h⟩ := bind_eq_ok context.checked
  obtain ⟨_, hactor, h⟩ := bind_eq_ok h
  obtain ⟨_, hpurpose, h⟩ := bind_eq_ok h
  obtain ⟨_, hdomain, h⟩ := bind_eq_ok h
  obtain ⟨_, hlocality, h⟩ := bind_eq_ok h
  obtain ⟨_, -, h⟩ := bind_eq_ok h
  obtain ⟨_, -, h⟩ := bind_eq_ok h
  obtain ⟨_, hposture, -⟩ := bind_eq_ok h
  generalize hcontent : ({ context.toContextContent with
    policyIds := composition.sourcePolicyIds
    sourceLineageRefs := composition.sourceInformationIds } : ContextContent) = content
  have hcheck : content.normalized.check ((ids.context content.normalized).id "access") =
      .ok () := by
    subst hcontent
    refine (bind_of_ok (requireOpaqueId_of (Digest.isOpaqueId_id _ (by decide))) _).trans ?_
    refine (bind_of_ok hactor _).trans ((bind_of_ok hpurpose _).trans ?_)
    refine (bind_of_ok hdomain _).trans ((bind_of_ok hlocality _).trans ?_)
    refine (bind_of_ok (requireDistinct_ordered fun id hid =>
      nonblank_of_isOpaqueId (hpolicies id hid)) _).trans ?_
    refine (bind_of_ok (requireDistinct_ordered fun id hid =>
      nonblank_of_isOpaqueId (hsources id hid)) _).trans ?_
    refine (bind_of_ok (requireDistinct_ordered (requireDistinct_ok hposture)) _).trans ?_
    refine (bind_of_ok (forM_of fun id hid => requireOpaqueId_of ?_) _).trans
      (forM_of fun id hid => requireOpaqueId_of ?_)
    · exact hpolicies id (mem_ordered.mp hid)
    · exact hsources id (mem_ordered.mp hid)
  exact ⟨⟨content.normalized, _, hcheck⟩, checkedBy_of hcheck, rfl⟩

/-- A refreshed context names its composition. -/
theorem currentContext_refreshed (content : CompositionContent) (context : ContextContent) :
    CurrentContext content.normalized
      ({ context with
        policyIds := content.normalized.sourcePolicyIds
        sourceLineageRefs := content.normalized.sourceInformationIds } :
          ContextContent).normalized := by
  simp only [CurrentContext, ContextContent.normalized, CompositionContent.normalized,
    ordered_ordered, insertionSort_ordered, and_self]

/-- **What `decide_access` allows after a refresh.** -/
theorem allowsOn_iff (hp : p.Governed) (informationRef : GovernedInformationRef)
    (request : InformationAccessRequest) : p.AllowsOn informationRef request ↔
      p.Opens informationRef.informationId request.context.toContextContent := by
  obtain ⟨composition, hcomposition, hcontent⟩ := compositionFor_ok hp informationRef
  obtain ⟨context, hcontext, hsame⟩ :=
    context_refreshed b.informationIds request.context composition
  have hfor : p.contextFor informationRef request.context.toContextContent = .ok context :=
    (bind_of_ok hcomposition _).trans hcontext
  have hoperation : context.operation = request.context.operation := by rw [hsame]; rfl
  obtain ⟨_, -, hallowedUse⟩ := bind_eq_ok request.checked
  have hcheck : RequestContent.checkAccess { informationRef, context }
      ((b.informationIds.accessRequest { informationRef, context }).id "iarequest") = .ok () := by
    refine (bind_of_ok (requireOpaqueId_of (Digest.isOpaqueId_id _ (by decide))) _).trans
      (refuse_of ?_)
    show ¬ (context.operation = .disclose ∨ context.operation = .declassify)
    rw [hoperation]
    exact refuse_ok hallowedUse
  have hopens : p.Opens informationRef.informationId context.toContextContent ↔
      p.Opens informationRef.informationId request.context.toContextContent := by
    unfold Opens
    rw [hsame]
    split
    · rfl
    · exact and_congr Iff.rfl passes_refreshed
  constructor
  · rintro ⟨context', refreshed, hcontext', hcreate, hallows⟩
    rw [hfor] at hcontext'
    cases hcontext'
    have hrefreshed : (⟨{ informationRef, context }, _, hcheck⟩ : InformationAccessRequest) =
        refreshed := Except.ok.inj ((checkedBy_of hcheck).symm.trans hcreate)
    subst hrefreshed
    exact hopens.mp ((allows_iff hp _).mp hallows).1
  · intro h
    refine ⟨context, ⟨{ informationRef, context }, _, hcheck⟩, hfor, checkedBy_of hcheck, ?_⟩
    refine (allows_iff hp _).mpr ⟨hopens.mpr h, fun _ => ?_⟩
    show CurrentContext _ context.toContextContent
    rw [hsame, ← hcontent]
    have hcurrent := currentContext_refreshed (p.compositionOf informationRef.informationId)
      request.context.toContextContent
    rw [← hcontent] at hcurrent
    exact hcurrent

/-! ## Compositions along a lineage -/

/-- The policies that are composed for an information that is neither quarantined nor a
declassified view. -/
def carriedPolicies (p : InformationGovernance b.informationIds) (informationId : String) :
    List InformationPolicy :=
  (ordered (p.resolve (p.lineages.rows.length + 1) [] informationId).policyIds).filterMap p.policy

theorem Governed.known (hp : p.Governed) {x policyId : String} (h : p.Carries x policyId) :
    (p.policy policyId).isSome = true := by
  obtain ⟨y, binding, lineage, -, hbound, hpolicy⟩ := h
  exact (hp.bound y binding hbound.binding_eq).2 policyId hpolicy

theorem mem_carriedPolicies (hp : p.Governed) {x : String} {policy : InformationPolicy} :
    policy ∈ p.carriedPolicies x ↔
      p.Carries x policy.policyId ∧ p.policy policy.policyId = some policy := by
  rw [carriedPolicies, List.mem_filterMap]
  constructor
  · rintro ⟨policyId, hcarried, hfind⟩
    have hid : policy.policyId = policyId := KeyedTable.find_key (t := p.policies) hfind
    subst hid
    exact ⟨((hp.resolves x).policyIds _).mp (mem_ordered.mp hcarried), hfind⟩
  · rintro ⟨hcarried, hfind⟩
    exact ⟨policy.policyId, mem_ordered.mpr (((hp.resolves x).policyIds _).mpr hcarried), hfind⟩

/-- Something is composed for an object exactly if it is bound. -/
theorem carriedPolicies_ne_nil (hp : p.Governed) {x : String} :
    p.carriedPolicies x ≠ [] ↔ p.Bound x := by
  constructor
  · intro hne
    obtain ⟨policy, hpolicy⟩ := List.exists_mem_of_ne_nil _ hne
    by_contra hunbound
    exact carries_of_unbound hunbound ((mem_carriedPolicies hp).mp hpolicy).1
  · rintro ⟨binding, lineage, hbound⟩
    obtain ⟨policyId, hpolicyId⟩ :=
      List.exists_mem_of_ne_nil _ (hp.bound x binding hbound.binding_eq).1
    have hcarried : p.Carries x policyId := ⟨x, binding, lineage, .refl, hbound, hpolicyId⟩
    obtain ⟨policy, hpolicy⟩ := Option.isSome_iff_exists.mp (hp.known hcarried)
    have hid : policy.policyId = policyId := KeyedTable.find_key (t := p.policies) hpolicy
    subst hid
    exact List.ne_nil_of_mem ((mem_carriedPolicies hp).mpr ⟨hcarried, hpolicy⟩)

/-- What an information is derived from carries no policy of its own that is not composed. -/
theorem carriedPolicies_subset (hp : p.Governed) {x y : String} (h : p.Reaches x y) :
    ∀ policy ∈ p.carriedPolicies y, policy ∈ p.carriedPolicies x := by
  intro policy hpolicy
  obtain ⟨⟨z, binding, lineage, hreach, hbound⟩, hfind⟩ := (mem_carriedPolicies hp).mp hpolicy
  exact (mem_carriedPolicies hp).mpr ⟨⟨z, binding, lineage, h.trans hreach, hbound⟩, hfind⟩

/-- No policy that a lineage binds is missing. -/
theorem compositionOf_ordinary (hp : p.Governed) {x : String} (hquarantine : p.quarantine x = none)
    (hview : p.declassifiedView x = none) : ∃ refs, p.compositionOf x =
      composePolicies (p.carriedPolicies x) refs
        (p.resolve (p.lineages.rows.length + 1) [] x).conflicts := by
  have hmissing : (ordered (p.resolve (p.lineages.rows.length + 1) [] x).policyIds).filter
      (fun policyId => (p.policy policyId).isNone) = [] := by
    refine List.filter_eq_nil_iff.mpr fun policyId hpolicyId hnone => ?_
    have hknown := hp.known (((hp.resolves x).policyIds policyId).mp (mem_ordered.mp hpolicyId))
    rw [Option.isNone_iff_eq_none.mp hnone] at hknown
    cases hknown
  unfold compositionOf
  rw [hquarantine, hview]
  dsimp only
  rw [hmissing, List.map_nil, List.append_nil]
  exact ⟨_, rfl⟩

theorem composePolicies_of_ne_nil {policies : List InformationPolicy} (h : policies ≠ [])
    (refs : List String) (conflicts : List PolicyConflict) :
    ∃ first rest, (∀ policy, policy ∈ first :: rest ↔ policy ∈ policies) ∧
      composePolicies policies refs conflicts =
        { joined first rest refs with
          conflicts := conflicts ++ fieldConflicts (joined first rest refs) } := by
  unfold composePolicies
  have hmem : ∀ policy, policy ∈ policies.insertionSort (fun a b => a.policyId ≤ b.policyId) ↔
      policy ∈ policies := fun policy => List.mem_insertionSort _
  split
  · rename_i hnil
    obtain ⟨policy, hpolicy⟩ := List.exists_mem_of_ne_nil _ h
    have := (hmem policy).mpr hpolicy
    rw [hnil] at this
    cases this
  · rename_i first rest hsorted
    exact ⟨first, rest, fun policy => by rw [← hsorted, hmem], rfl⟩

/-- Without a policy no known operation passes. -/
theorem not_passes_failed {refs : List String} {conflicts : List PolicyConflict}
    {context : ContextContent} (hknown : context.operation ≠ .unknown) :
    ¬ Passes (failedComposition refs conflicts) context := by
  intro h
  have hpurpose : context.operation ∈ purposeOperations := by
    revert hknown
    cases context.operation <;> decide
  cases h.use.purpose hpurpose

theorem composePolicies_nil (refs : List String) (conflicts : List PolicyConflict) :
    composePolicies [] refs conflicts =
      failedComposition refs (conflicts ++ [restrictedConflict .missingPolicyVersion]) := rfl

/-- Every operation that is neither unknown nor a classification is restricted. -/
theorem mem_allRestrictedOperations {operation : InformationOperation} :
    operation ∈ allRestrictedOperations ↔ operation ≠ .unknown ∧ operation ≠ .classify := by
  cases operation <;> decide

/-- What a composition permits does not depend on its conflicts. -/
theorem permitsUse_conflicts {content : CompositionContent} {conflicts : List PolicyConflict}
    {context : ContextContent} {operation : InformationOperation} :
    PermitsUse { content with conflicts } context operation ↔
      PermitsUse content context operation := by
  constructor <;> rintro ⟨hpurpose, huse, hlocality, hdomain, hprovider⟩ <;>
    exact ⟨hpurpose, huse, hlocality, hdomain, hprovider⟩

theorem permitsAccess_conflicts {content : CompositionContent} {conflicts : List PolicyConflict}
    {context : ContextContent} :
    PermitsAccess { content with conflicts } context ↔ PermitsAccess content context := by
  constructor <;> rintro ⟨hrecipient, haddressee, hprincipal, hdestination, hsharing, hretention⟩ <;>
    exact ⟨hrecipient, haddressee, hprincipal, hdestination, hsharing, hretention⟩

/-- **What passes for an information passes for those it is derived from**, without the
holds. -/
theorem passes_of_reaches (hp : p.Governed) {x y : String} {context : ContextContent}
    (hreach : p.Reaches x y) (hx : p.quarantine x = none ∧ p.declassifiedView x = none)
    (hy : p.quarantine y = none ∧ p.declassifiedView y = none)
    (hknown : context.operation ≠ .unknown) (hpass : Passes (p.compositionOf x) context)
    (hhold : context.operation = .delete → (p.compositionOf y).retention.activeHolds = [])
    (hbound : context.operation = .classify → p.Bound y) :
    Passes (p.compositionOf y) context := by
  obtain ⟨refs, hcontent⟩ := compositionOf_ordinary hp hx.1 hx.2
  obtain ⟨refs', hcontent'⟩ := compositionOf_ordinary hp hy.1 hy.2
  have hne : p.carriedPolicies x ≠ [] := by
    intro hnil
    rw [hcontent, hnil, composePolicies_nil] at hpass
    exact not_passes_failed hknown hpass
  obtain ⟨first, rest, hmem, heq⟩ := composePolicies_of_ne_nil hne refs
    (p.resolve (p.lineages.rows.length + 1) [] x).conflicts
  rw [hcontent, heq] at hpass
  -- A conflict of the resolution affects every operation but a classification.
  have hresolved : context.operation ≠ .classify → ∀ z, p.Reaches x z → p.Bound z := by
    intro hclassify
    refine (hp.resolves x).conflicts.mp (List.eq_nil_iff_forall_not_mem.mpr fun conflict hc => ?_)
    have hfree := hpass.unaffected conflict (List.mem_append_left _ hc)
    rw [(hp.resolves x).kind conflict hc] at hfree
    exact hfree (mem_allRestrictedOperations.mpr ⟨hknown, hclassify⟩)
  have hy' : p.Bound y := by
    by_cases hclassify : context.operation = .classify
    · exact hbound hclassify
    · exact hresolved hclassify y hreach
  obtain ⟨first', rest', hmem', heq'⟩ := composePolicies_of_ne_nil
    ((carriedPolicies_ne_nil hp).mpr hy') refs'
    (p.resolve (p.lineages.rows.length + 1) [] y).conflicts
  rw [hcontent', heq'] at hhold ⊢
  have hlooser : Looser (joined first rest refs) (joined first' rest' refs') :=
    joined_looser fun policy hpolicy => (hmem policy).mpr
      (carriedPolicies_subset hp hreach policy ((hmem' policy).mp hpolicy))
  refine ⟨fun conflict hc => ?_,
    permitsUse_conflicts.mpr (hlooser.use (permitsUse_conflicts.mp hpass.use)),
    permitsAccess_conflicts.mpr (hlooser.access (permitsAccess_conflicts.mp hpass.access))⟩
  rcases List.mem_append.mp hc with hc | hc
  · rw [(hp.resolves y).kind conflict hc]
    intro hrestricted
    have hall := hresolved (mem_allRestrictedOperations.mp hrestricted).2
    have hnil := (hp.resolves y).conflicts.mpr fun z hz => hall z (hreach.trans hz)
    rw [hnil] at hc
    cases hc
  · refine hlooser.unaffected hhold (fun conflict hc => ?_) conflict hc
    exact hpass.unaffected conflict (List.mem_append_right _ hc)

/-- A composition that lets a deletion pass has no active hold. -/
theorem activeHolds_of_passes {policies : List InformationPolicy} {refs : List String}
    {conflicts : List PolicyConflict} {context : ContextContent}
    (hpass : Passes (composePolicies policies refs conflicts) context)
    (hdelete : context.operation = .delete) :
    (composePolicies policies refs conflicts).retention.activeHolds = [] := by
  by_cases hne : policies = []
  · subst hne
    rfl
  · obtain ⟨first, rest, -, heq⟩ := composePolicies_of_ne_nil hne refs conflicts
    rw [heq] at hpass ⊢
    by_contra hholds
    refine hpass.unaffected ⟨.legalHoldDeletion, [.delete], by decide, by decide⟩ ?_
      (by rw [hdelete]; exact List.mem_singleton_self _)
    refine List.mem_append_right _ ?_
    simp only [fieldConflicts, List.mem_append, mem_conflictIf]
    exact .inl (.inr ⟨hholds, trivial⟩)

/-! ## Ancestors -/

/-- An information is derived from an ancestor through bound lineages, and not through a
declassified view. -/
def Ancestor (p : InformationGovernance b.informationIds) : String → String → Prop :=
  Relation.TransGen fun x y => p.declassifiedView x = none ∧ p.DerivedFrom x y

/-- When a request that is allowed on an information is allowed on an ancestor: a quarantine
of the ancestor has to admit it; a declassified view, and every ancestor of an information
whose own quarantine admitted the request, has to let it pass by its own policies; otherwise
a deletion must not meet an active hold there, and a classification needs a binding. -/
def Clear (p : InformationGovernance b.informationIds) (informationId ancestorId : String)
    (context : ContextContent) : Prop :=
  match p.quarantine ancestorId with
  | some quarantine => quarantine.policy.admits context
  | none =>
    if p.quarantine informationId = none ∧ p.declassifiedView ancestorId = none then
      (context.operation = .delete → (p.compositionOf ancestorId).retention.activeHolds = []) ∧
        (context.operation = .classify → p.Bound ancestorId)
    else Passes (p.compositionOf ancestorId) context

theorem Ancestor.reaches {x y : String} (h : p.Ancestor x y) :
    p.declassifiedView x = none ∧ p.Reaches x y := by
  constructor
  · obtain ⟨z, hfirst, -⟩ := Relation.TransGen.head'_iff.mp h
    exact hfirst.1
  · induction h with
    | single hlast => exact .single hlast.2
    | tail _ hlast ih => exact ih.tail hlast.2

end InformationGovernance

/-! ## A summary of a quarantined note -/

theorem isHexText_digits (value : Nat) :
    isHexText ((List.range 32).map fun i => Nat.digitChar (value / 16 ^ i % 16)) = true := by
  have hdigit : ∀ n < 16, ((Nat.digitChar n).isDigit ||
      ('a' ≤ Nat.digitChar n && Nat.digitChar n ≤ 'f')) = true := by decide
  simp only [isHexText, List.length_map, List.length_range, decide_true, Bool.true_and,
    List.all_map, List.all_eq_true, Function.comp_apply]
  exact fun i _ => hdigit _ (Nat.mod_lt _ (by decide))

/-- A digest whose text is a numeral. -/
def Digest.ofNat (value : Nat) : Digest where
  text := String.ofList ((List.range 32).map fun i => Nat.digitChar (value / 16 ^ i % 16))
  hex := by
    rw [String.toList_ofList]
    exact isHexText_digits value

/-- A digest of a text on which the examples run. -/
def digestOf (text : String) : Digest :=
  .ofNat (text.toList.foldl (fun value char => 31 * value + char.toNat) 0)

/-- Conversions on which the examples run. -/
def plainInformation : InformationBuiltins where
  toIntentBuiltins := StrategicProjection.plainIntent
  isoformat _ := "1970-01-01T00:00:00+00:00"
  informationIds :=
    { policy := fun content => digestOf (String.join content.allowedPurposes)
      legacyPolicy := fun content => digestOf (String.join content.allowedPurposes)
      principal := fun content => digestOf content.principalId
      context := fun content => digestOf (content.purpose ++ String.join content.sourceLineageRefs)
      lineage := fun content => digestOf content.informationId
      binding := fun content => digestOf content.informationId
      quarantine := fun content => digestOf content.informationId
      composition := fun content => digestOf (String.join content.sourceInformationIds)
      accessRequest := fun content => digestOf content.informationRef.informationId
      disclosureRequest := fun content => digestOf content.informationRef.informationId
      declassificationRequest := fun content => digestOf content.informationRef.informationId
      accessDecision := fun content => digestOf content.request.requestId
      disclosureDecision := fun content => digestOf content.request.requestId
      declassificationDecision := fun content => digestOf content.request.requestId
      view := fun content => digestOf content.declassificationDecisionId
      viewInformation := digestOf }

/-- The policy of the note: Ada may read it for review, in one place. -/
def reviewPolicyId : String := (digestOf "review").id "ipol"

def noteId : String := (digestOf "note").id "info"

def summaryId : String := (digestOf "summary").id "info"

def reviewPolicyRecorded : Event where
  type := "information.policy_recorded"
  source := "information-steward"
  payload := .ofList
    [("policy_id", .str reviewPolicyId), ("version", .int 1), ("origin_domains", .list [.str "home"]),
     ("classification", .str "internal"), ("allowed_purposes", .list [.str "review"]),
     ("allowed_recipients", .list [.str "ada"]), ("allowed_trust_domains", .list [.str "home"]),
     ("allowed_localities", .list [.str "desk"]), ("allowed_providers", .list [.str "local"]),
     ("cross_agent_sharing", .bool false),
     ("retention", .obj
       [("retain_until", .null), ("delete_after", .null), ("deletion_required", .bool false),
        ("holds", .list [])]),
     ("disclosure_forms", .list [.str "full"]), ("declassification_authorities", .list [.str "ada"]),
     ("allowed_secondary_uses", .list [.str "learn"]), ("secondary_use_semantics_version", .int 2),
     ("recorded_at", .str "1970-01-01T00:00:00+00:00")]
  subject := some reviewPolicyId
  id := "information-policy-recorded:" ++ reviewPolicyId
  timestamp := .utc 0
  correlationId := none
  causationId := none
  priority := 0
  sequence := some 1
  metadata := .empty
  schemaVersion := 2
  schemaVersion_pos := Nat.two_pos

/-- The lineage of an information. -/
def lineageRecorded (sequence : Nat) (informationId transformation : String)
    (sources : List String) : Event :=
  let lineageId := (digestOf informationId).id "lineage"
  { reviewPolicyRecorded with
    type := "information.lineage_recorded", id := "information-lineage-recorded:" ++ lineageId
    subject := some informationId, sequence := some sequence
    payload := .ofList
      [("lineage_id", .str lineageId), ("information_id", .str informationId),
       ("source_information_ids", JSONValue.texts sources), ("transformation", .str transformation),
       ("recorded_at", .str "1970-01-01T00:00:00+00:00")] }

/-- Its binding to the policy. -/
def policyBound (sequence : Nat) (informationId : String) : Event :=
  let bindingId := (digestOf informationId).id "binding"
  { reviewPolicyRecorded with
    type := "information.policy_bound", id := "information-policy-bound:" ++ bindingId
    subject := some informationId, sequence := some sequence
    payload := .ofList
      [("binding_id", .str bindingId), ("information_id", .str informationId),
       ("lineage_id", .str ((digestOf informationId).id "lineage")),
       ("policy_ids", .list [.str reviewPolicyId]),
       ("bound_at", .str "1970-01-01T00:00:00+00:00")] }

/-- The note and its summary, both bound. -/
def summarized : List Event :=
  [reviewPolicyRecorded, lineageRecorded 2 noteId "source" [], policyBound 3 noteId,
   lineageRecorded 4 summaryId "derivation" [noteId], policyBound 5 summaryId]

/-- The note is put into quarantine afterwards. -/
def noteQuarantined : Event :=
  let quarantineId := (digestOf noteId).id "quarantine"
  { reviewPolicyRecorded with
    type := "information.quarantined", id := "information-quarantined:" ++ quarantineId
    subject := some noteId, sequence := some 6
    payload := .ofList
      [("quarantine_id", .str quarantineId), ("information_id", .str noteId),
       ("policy", .obj
         [("allowed_localities", .list [.str "desk"]), ("allowed_trust_domains", .list [.str "home"]),
          ("human_resolution_required", .bool false)]),
       ("quarantined_at", .str "1970-01-01T00:00:00+00:00")] }

namespace InformationGovernance

/-- Ada's request to read an information for review, after a log. -/
def reading (events : List Event) (informationId : String) :
    Except PyError (InformationGovernance plainInformation.informationIds ×
      InformationAccessRequest) := do
  let ids := plainInformation.informationIds
  let p ← rebuild plainInformation events
  let principal ← PrincipalSnapshot.create ids
    { principalId := "ada", roles := [], groups := [], trustDomains := ["home"],
      capturedAt := .utc 0 }
  let informationRef ← GovernedInformationRef.create informationId
  let context ← p.contextFor informationRef
    { actorId := "agent", principal, purpose := "review", operation := .read,
      sourceTrustDomain := "home", destinationTrustDomain := none, recipient := none,
      decisionTime := .utc 0, policyIds := [], sourceLineageRefs := [], locality := "desk",
      providerId := none, providerSecurityPosture := [], disclosureForm := none }
  let request ← InformationAccessRequest.create ids { informationRef, context }
  return (p, request)

/-- Whether another information is a source of it, and the request is allowed on the one and
on the other. -/
def readingDecided (events : List Event) (informationId otherId : String) :
    Except PyError (Bool × Bool × Bool) := do
  let ids := plainInformation.informationIds
  let (p, request) ← reading events informationId
  let decision ← p.decideAccess ids request
  let other ← GovernedInformationRef.create otherId
  let context ← p.contextFor other request.context.toContextContent
  let refreshed ← InformationAccessRequest.create ids { informationRef := other, context }
  let decided ← p.decideAccess ids refreshed
  let source := (p.binding informationId).any fun binding => (p.lineage informationId).any
    fun lineage => binding.lineageId = lineage.lineageId ∧ otherId ∈ lineage.sourceInformationIds
  return (source && (p.declassifiedView informationId).isNone, decision.allowed, decided.allowed)

theorem reading_ok {events : List Event} {informationId : String}
    {p : InformationGovernance plainInformation.informationIds} {request : InformationAccessRequest}
    (h : reading events informationId = .ok (p, request)) :
    rebuild plainInformation events = .ok p ∧
      request.informationRef.informationId = informationId := by
  obtain ⟨p', hp, h⟩ := bind_eq_ok h
  obtain ⟨principal, -, h⟩ := bind_eq_ok h
  obtain ⟨informationRef, href, h⟩ := bind_eq_ok h
  obtain ⟨context, -, h⟩ := bind_eq_ok h
  obtain ⟨request', hrequest, h⟩ := bind_eq_ok h
  obtain ⟨rfl, rfl⟩ := Prod.mk.inj (Except.ok.inj h)
  obtain ⟨_, rfl⟩ := checkedBy_ok href
  obtain ⟨_, rfl⟩ := checkedBy_ok hrequest
  exact ⟨hp, rfl⟩

theorem readingDecided_ok {events : List Event} {informationId otherId : String}
    {source allowed decided : Bool}
    (h : readingDecided events informationId otherId = .ok (source, allowed, decided)) :
    ∃ p request otherRef, rebuild plainInformation events = .ok p ∧
      request.informationRef.informationId = informationId ∧
      otherRef.informationId = otherId ∧
      (source = true → p.Ancestor informationId otherId) ∧
      (p.Allows request ↔ allowed = true) ∧ (p.AllowsOn otherRef request ↔ decided = true) := by
  obtain ⟨⟨p, request⟩, hreading, h⟩ := bind_eq_ok h
  obtain ⟨decision, hdecision, h⟩ := bind_eq_ok h
  obtain ⟨other, hother, h⟩ := bind_eq_ok h
  obtain ⟨context, hcontext, h⟩ := bind_eq_ok h
  obtain ⟨refreshed, hrefreshed, h⟩ := bind_eq_ok h
  obtain ⟨refreshedDecision, hdecided, h⟩ := bind_eq_ok h
  obtain ⟨hsource, h⟩ := Prod.mk.inj (Except.ok.inj h)
  obtain ⟨hallowed, hrefreshedAllowed⟩ := Prod.mk.inj h
  obtain ⟨_, hotherId⟩ := checkedBy_ok hother
  obtain ⟨hp, hinformation⟩ := reading_ok hreading
  refine ⟨p, request, other, hp, hinformation, by rw [← hotherId], fun hof => ?_, ?_, ?_⟩
  · rw [← hsource, Bool.and_eq_true] at hof
    obtain ⟨hderived, hview⟩ := hof
    obtain ⟨binding, hbinding, hlineages⟩ := (Option.any_eq_true _ _).mp hderived
    obtain ⟨lineage, hlineage, hmatch⟩ := (Option.any_eq_true _ _).mp hlineages
    obtain ⟨hid, hmem⟩ := of_decide_eq_true hmatch
    exact .single ⟨Option.isNone_iff_eq_none.mp hview, binding, lineage,
      ⟨hbinding, hlineage, hid⟩, hmem⟩
  · rw [← hallowed]
    exact ⟨fun ⟨decision', hdecision', hallow⟩ =>
        Except.ok.inj (hdecision.symm.trans hdecision') ▸ hallow,
      fun hallow => ⟨decision, hdecision, hallow⟩⟩
  · rw [← hrefreshedAllowed]
    constructor
    · rintro ⟨context', refreshed', hcontext', hrefreshed', decision', hdecision', hallow⟩
      cases Except.ok.inj (hcontext.symm.trans hcontext')
      cases Except.ok.inj (hrefreshed.symm.trans hrefreshed')
      exact Except.ok.inj (hdecided.symm.trans hdecision') ▸ hallow
    · exact fun hallow =>
        ⟨context, refreshed, hcontext, hrefreshed, refreshedDecision, hdecided, hallow⟩

end InformationGovernance

end Noema
