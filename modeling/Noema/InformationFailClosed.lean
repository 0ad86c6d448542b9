import Noema.InformationHolds

/-!
# Access fails closed

Whatever the engine is given, an access that it allows on an object rests on a lineage
without gaps and cycles, all of whose policies are recorded and let the access pass one by
one.  Only the holds on a deletion are an exception: a hold that one policy has active is
lost if a policy with a greater id has it released.
-/
namespace Noema

open InformationOperation

namespace InformationGovernance

variable {b : InformationBuiltins} {p : InformationGovernance b.informationIds}

/-- A policy that is composed alone lets a request pass. -/
def PassesAlone (policy : InformationPolicy) (context : ContextContent) : Prop :=
  Passes (composePolicies [policy] [] []) context

/-- What an allowed access on an object should rest on. -/
structure FailClosed (p : InformationGovernance b.informationIds) (informationId : String)
    (context : ContextContent) : Prop where
  open_ : p.quarantine informationId = none
  bound : ∀ sourceId, p.Reaches informationId sourceId → p.Bound sourceId
  acyclic : ∀ sourceId, p.Reaches informationId sourceId →
    ¬ Relation.TransGen p.DerivedFrom sourceId sourceId
  recorded : ∀ policyId, p.Carries informationId policyId → (p.policy policyId).isSome = true
  alone : ∀ policyId policy, p.Carries informationId policyId → p.policy policyId = some policy →
    PassesAlone policy context

/-- A recorded policy that is bound in the lineage of an object. -/
def CarriesPolicy (p : InformationGovernance b.informationIds) (informationId : String)
    (policy : InformationPolicy) : Prop :=
  p.Carries informationId policy.policyId ∧ p.policy policy.policyId = some policy

/-- An active hold of one policy in a lineage is released in one with a greater id. -/
def LosesHold (p : InformationGovernance b.informationIds) (informationId : String) : Prop :=
  ∃ policy later hold released, p.CarriesPolicy informationId policy ∧
    p.CarriesPolicy informationId later ∧ policy.policyId < later.policyId ∧
    hold ∈ policy.retention.holds ∧ hold.active = true ∧
    released ∈ later.retention.holds ∧ released.active = false ∧ released.holdId = hold.holdId

/-! ## Resolution without conflicts -/

/-- What is derived from nothing but well-founded objects is well-founded. -/
theorem acc_of_sources {x : String} {binding : PolicyBinding} {lineage : InformationLineage}
    (h : p.BoundTo x binding lineage)
    (hsources : ∀ sourceId ∈ lineage.sourceInformationIds,
      Acc (fun y z => p.DerivedFrom z y) sourceId) : Acc (fun y z => p.DerivedFrom z y) x := by
  refine Acc.intro x fun y hy => ?_
  obtain ⟨binding', lineage', hbound, hmem⟩ := hy
  obtain ⟨-, rfl⟩ := h.unique hbound
  exact hsources y hmem

/-- **A resolution without conflicts has walked the whole lineage**, which ends everywhere. -/
theorem resolves_of_conflicts : ∀ (depth : Nat) (visiting : List String) (x : String),
    (p.resolve depth visiting x).conflicts = [] →
    p.Resolves x (p.resolve depth visiting x) ∧ Acc (fun y z => p.DerivedFrom z y) x := by
  intro depth
  induction depth with
  | zero => exact fun visiting x h => absurd h (List.cons_ne_nil _ _)
  | succ depth ih =>
    intro visiting x h
    unfold resolve at h ⊢
    split_ifs at h ⊢ with hvisited
    cases hbinding : p.binding x with
    | none =>
      rw [hbinding] at h
      exact absurd h (List.cons_ne_nil _ _)
    | some binding =>
      cases hlineage : p.lineage x with
      | none =>
        rw [hbinding, hlineage] at h
        exact absurd h (List.cons_ne_nil _ _)
      | some lineage =>
        rw [hbinding, hlineage] at h
        dsimp only at h ⊢
        split_ifs at h ⊢ with hmatch hroot
        · exact absurd h (List.cons_ne_nil _ _)
        · have hbound : p.BoundTo x binding lineage := ⟨hbinding, hlineage, not_not.mp hmatch⟩
          refine ⟨resolves_root hbound hroot, acc_of_sources hbound fun y hy => ?_⟩
          rw [hroot] at hy
          cases hy
        · have hbound : p.BoundTo x binding lineage := ⟨hbinding, hlineage, not_not.mp hmatch⟩
          rw [foldl_append] at h
          have hnone := List.flatMap_eq_nil_iff.mp (List.append_eq_nil_iff.mp h).2
          have hsources := fun y hy => ih (x :: visiting) y (hnone y hy)
          exact ⟨resolves_sources hbound fun y hy => (hsources y hy).1,
            acc_of_sources hbound fun y hy => (hsources y hy).2⟩

/-- No cycle can be reached from a well-founded object. -/
theorem not_cyclic_of_acc {x y : String} (h : Acc (fun y z => p.DerivedFrom z y) x)
    (hreach : p.Reaches x y) : ¬ Relation.TransGen p.DerivedFrom y y := by
  induction h with
  | intro x _ ih =>
    rcases Relation.ReflTransGen.cases_head_iff.mp hreach with rfl | ⟨z, hstep, hrest⟩
    · intro hcycle
      obtain ⟨z, hstep, hback⟩ := Relation.TransGen.head'_iff.mp hcycle
      exact ih z hstep hback hcycle
    · exact ih z hstep hrest

theorem mem_carriedPolicies_of_resolves {x : String}
    (h : p.Resolves x (p.resolve (p.lineages.rows.length + 1) [] x)) (policy : InformationPolicy) :
    policy ∈ p.carriedPolicies x ↔ p.CarriesPolicy x policy := by
  rw [carriedPolicies, List.mem_filterMap]
  constructor
  · rintro ⟨policyId, hcarried, hfind⟩
    have hid : policy.policyId = policyId := KeyedTable.find_key (t := p.policies) hfind
    subst hid
    exact ⟨(h.policyIds _).mp (mem_ordered.mp hcarried), hfind⟩
  · rintro ⟨hcarried, hfind⟩
    exact ⟨policy.policyId, mem_ordered.mpr ((h.policyIds _).mpr hcarried), hfind⟩

/-! ## Allowed accesses -/

/-- What the engine allows passes, in any state. -/
theorem opens_of_allows {request : InformationAccessRequest} (h : p.Allows request) :
    p.Opens request.informationRef.informationId request.context.toContextContent := by
  obtain ⟨decision, hdecide, hallowed⟩ := h
  obtain ⟨composition, hcomposition, h⟩ := bind_eq_ok hdecide
  obtain ⟨_, rfl⟩ := checkedBy_ok hcomposition
  unfold Opens
  cases hquarantine : p.quarantine request.informationRef.informationId with
  | some quarantine =>
    rw [hquarantine] at h
    obtain ⟨_, rfl⟩ := checkedBy_ok h
    exact allowed_evaluateQuarantine.mp hallowed
  | none =>
    rw [hquarantine] at h
    obtain ⟨verdict, hverdict, hcreate⟩ := bind_eq_ok h
    obtain ⟨_, rfl⟩ := checkedBy_ok hcreate
    have hallowed : verdict.allowed = true := hallowed
    obtain ⟨decided, hdecided, -, hadmitted⟩ := evaluateAccess_ok
      (p.compositionOf request.informationRef.informationId).normalized
      request.context.toContextContent
    obtain rfl := Except.ok.inj (hdecided.symm.trans hverdict)
    obtain ⟨hknown, -, hpasses⟩ := admitted_normalized.mp (hadmitted.mp hallowed)
    exact ⟨hknown, hpasses⟩

theorem resolve_conflicts : ∀ (depth : Nat) (visiting : List String) (x : String),
    ∀ conflict ∈ (p.resolve depth visiting x).conflicts,
      conflict = restrictedConflict .incompleteLineage := by
  intro depth
  induction depth with
  | zero => exact fun visiting x conflict hmem => List.mem_singleton.mp hmem
  | succ depth ih =>
    intro visiting x conflict hmem
    unfold resolve at hmem
    split at hmem
    · exact List.mem_singleton.mp hmem
    · split at hmem
      · split_ifs at hmem with hmatch hroot
        · exact List.mem_singleton.mp hmem
        · cases hmem
        · rw [foldl_append] at hmem
          obtain ⟨y, -, hmem⟩ := List.mem_flatMap.mp hmem
          exact ih _ y conflict hmem
      · exact List.mem_singleton.mp hmem

/-- What passes on an object that is no view meets no conflict on its lineage, and misses no
policy there. -/
theorem resolved_of_passes {x : String} {context : ContextContent}
    (hquarantine : p.quarantine x = none) (hview : p.declassifiedView x = none)
    (hrestricted : context.operation ∈ allRestrictedOperations)
    (hpass : Passes (p.compositionOf x) context) :
    (p.resolve (p.lineages.rows.length + 1) [] x).conflicts = [] ∧
      (∀ policyId ∈ (p.resolve (p.lineages.rows.length + 1) [] x).policyIds,
        (p.policy policyId).isSome = true) ∧
      ∃ refs conflicts, Passes (composePolicies (p.carriedPolicies x) refs conflicts) context := by
  unfold compositionOf at hpass
  rw [hquarantine, hview] at hpass
  dsimp only at hpass
  have hfree := unaffected_of_passes hpass
  refine ⟨List.eq_nil_iff_forall_not_mem.mpr fun conflict hmem => ?_, fun policyId hmem => ?_,
    _, _, hpass⟩
  · refine hfree conflict (List.mem_append_left _ hmem) ?_
    rw [resolve_conflicts _ _ _ conflict hmem]
    exact hrestricted
  · by_contra hmissing
    rw [Bool.not_eq_true, Option.isSome_eq_false_iff] at hmissing
    refine hfree (restrictedConflict .missingPolicyVersion) ?_ hrestricted
    refine List.mem_append_right _ (List.mem_map.mpr ⟨policyId, ?_, rfl⟩)
    exact List.mem_filter.mpr ⟨mem_ordered.mpr hmem, hmissing⟩

/-- A policy that is composed with others lets a request pass alone as well, but for its own
holds. -/
theorem passesAlone_iff {policies : List InformationPolicy} {policy : InformationPolicy}
    {refs : List String} {conflicts : List PolicyConflict} {context : ContextContent}
    (hpolicy : policy ∈ policies)
    (hpass : Passes (composePolicies policies refs conflicts) context) :
    PassesAlone policy context ↔ (context.operation = .delete →
      ∀ hold ∈ policy.retention.holds, hold.active = false) := by
  unfold PassesAlone
  rw [passes_fewer_iff (List.cons_ne_nil policy []) (fun other hother => ?_)
    (fun conflict hmem => absurd hmem List.not_mem_nil) hpass]
  · simp only [activeHolds_composePolicies, keepsHold_singleton]
  · rw [List.mem_singleton.mp hother]
    exact hpolicy

/-- **What an allowed access rests on.**  The engine fails closed on every object that is
no declassified view and for every operation but a classification, except for a deletion
where a hold gets lost. -/
theorem failClosed_iff {request : InformationAccessRequest}
    (hview : p.declassifiedView request.informationRef.informationId = none)
    (hoperation : request.context.operation ≠ .classify) (hallows : p.Allows request) :
    p.FailClosed request.informationRef.informationId request.context.toContextContent ↔
      ¬ (request.context.operation = .delete ∧
        p.LosesHold request.informationRef.informationId) := by
  have hopens := opens_of_allows hallows
  generalize request.informationRef.informationId = x at *
  generalize request.context.toContextContent = context at *
  unfold Opens at hopens
  cases hquarantine : p.quarantine x with
  | some quarantine =>
    rw [hquarantine] at hopens
    exact absurd hopens.1 hoperation
  | none =>
    rw [hquarantine] at hopens
    obtain ⟨hknown, hpass⟩ := hopens
    obtain ⟨hconflicts, hrecorded, refs, conflicts, hpass⟩ := resolved_of_passes hquarantine hview
      (mem_allRestrictedOperations.mpr ⟨hknown, hoperation⟩) hpass
    obtain ⟨hresolves, hacc⟩ := resolves_of_conflicts _ _ _ hconflicts
    have hmem := mem_carriedPolicies_of_resolves hresolves
    constructor
    · rintro hclosed ⟨hdelete, policy, later, hold, released, hpolicy, -, -, hhold, hactive, -⟩
      have halone := hclosed.alone _ policy hpolicy.1 hpolicy.2
      rw [passesAlone_iff ((hmem policy).mpr hpolicy) hpass] at halone
      exact Bool.false_ne_true ((halone hdelete hold hhold).symm.trans hactive)
    · intro hkeeps
      refine ⟨hquarantine, hresolves.conflicts.mp hconflicts, fun y => not_cyclic_of_acc hacc,
        fun policyId hcarried => hrecorded policyId ((hresolves.policyIds policyId).mpr hcarried),
        fun policyId policy hcarried hfind => ?_⟩
      obtain rfl : policy.policyId = policyId := KeyedTable.find_key (t := p.policies) hfind
      have hcomposed := (hmem policy).mpr ⟨hcarried, hfind⟩
      rw [passesAlone_iff hcomposed hpass]
      intro hdelete hold hhold
      by_contra hactive
      -- The hold that is kept in its place is released, so a greater policy has it.
      obtain ⟨kept, hkept, hid⟩ := exists_keepsHold (mem_inOrder.mpr hcomposed) ⟨hold, hhold, rfl⟩
      have hreleased := (activeHolds_composePolicies refs conflicts).mp
        (activeHolds_of_passes hpass hdelete) kept hkept
      obtain ⟨later, hlater, hin, hgreatest⟩ := hkept.foremost
      rcases lt_trichotomy policy.policyId later.policyId with hlt | heq | hgt
      · exact hkeeps ⟨hdelete, policy, later, hold, kept, ⟨hcarried, hfind⟩, (hmem later).mp hlater,
          hlt, hhold, Bool.eq_true_of_not_eq_false hactive, hin, hreleased, hid⟩
      · have hsame := ((hmem later).mp hlater).2
        rw [← heq, hfind] at hsame
        obtain rfl := Option.some.inj hsame
        exact hactive (policy.hold_unique hhold hin hid.symm ▸ hreleased)
      · exact hgreatest policy hcomposed hgt ⟨hold, hhold, hid.symm⟩

/-! ## A note whose hold is lost -/

/-- A policy for these purposes, with one hold or none. -/
def holdPolicyRecorded (sequence : Nat) (purposes : List String) (active : Option Bool) : Event :=
  let policyId := (digestOf (String.join purposes)).id "ipol"
  let holds := active.toList.map fun value : Bool => JSONValue.obj
    [("hold_id", .str ((digestOf "hold").id "hold")), ("authority_id", .str "court"),
     ("active", .bool value)]
  { reviewPolicyRecorded with
    id := "information-policy-recorded:" ++ policyId
    subject := some policyId, sequence := some sequence
    payload := ((reviewPolicyRecorded.payload.put ("policy_id", .str policyId)).put
      ("allowed_purposes", JSONValue.texts purposes)).put
      ("retention", .obj
        [("retain_until", .null), ("delete_after", .null), ("deletion_required", .bool false),
         ("holds", .list holds)]) }

/-- The policy of the hold. -/
def auditPolicyId : String := (digestOf "auditreview").id "ipol"

/-- A note under two policies: one for audits and reviews, one for reviews only. -/
def auditedNote (audit review : Option Bool) : List Event :=
  [holdPolicyRecorded 1 ["audit", "review"] audit, holdPolicyRecorded 2 ["review"] review,
   lineageRecorded 3 noteId "source" [],
   { policyBound 4 noteId with
     payload := (policyBound 4 noteId).payload.put
       ("policy_ids", .list [.str auditPolicyId, .str reviewPolicyId]) }]

/-- Ada's request to delete the note, after a log. -/
def deleting (events : List Event) : Except PyError
    (InformationGovernance plainInformation.informationIds × InformationAccessRequest) := do
  let ids := plainInformation.informationIds
  let (p, request) ← reading events noteId
  let context ← AccessContext.create ids { request.context.toContextContent with operation := .delete }
  let request ← InformationAccessRequest.create ids { request.toRequestContent with context }
  return (p, request)

/-- Whether she may delete it, whether the audit policy holds it, and whether any policy does. -/
def deletionDecided (events : List Event) : Except PyError (Bool × Bool × Bool) := do
  let (p, request) ← deleting events
  let decision ← p.decideAccess plainInformation.informationIds request
  let bound := (p.binding noteId).any fun binding => (p.lineage noteId).any fun lineage =>
    binding.lineageId = lineage.lineageId ∧ auditPolicyId ∈ binding.policyIds
  let held := (p.policy auditPolicyId).any fun policy =>
    policy.retention.holds.any HoldConstraint.active
  return (decision.allowed && (p.declassifiedView noteId).isNone, bound && held,
    p.policies.rows.any fun policy => policy.retention.holds ≠ [])

theorem deleting_ok {events : List Event}
    {p : InformationGovernance plainInformation.informationIds} {request : InformationAccessRequest}
    (h : deleting events = .ok (p, request)) :
    request.informationRef.informationId = noteId ∧ request.context.operation = .delete := by
  obtain ⟨⟨p', read⟩, hreading, h⟩ := bind_eq_ok h
  obtain ⟨context, hcontext, h⟩ := bind_eq_ok h
  obtain ⟨request', hrequest, h⟩ := bind_eq_ok h
  obtain ⟨rfl, rfl⟩ := Prod.mk.inj (Except.ok.inj h)
  obtain ⟨_, rfl⟩ := checkedBy_ok hcontext
  obtain ⟨_, rfl⟩ := checkedBy_ok hrequest
  exact ⟨(reading_ok hreading).2, rfl⟩

theorem deletionDecided_ok {events : List Event} {allowed held holds : Bool}
    (h : deletionDecided events = .ok (allowed, held, holds)) :
    ∃ (p : InformationGovernance plainInformation.informationIds)
      (request : InformationAccessRequest), request.informationRef.informationId = noteId ∧
      request.context.operation = .delete ∧
      (allowed = true → p.Allows request ∧ p.declassifiedView noteId = none) ∧
      (held = true → ∃ policy hold, p.CarriesPolicy noteId policy ∧
        hold ∈ policy.retention.holds ∧ hold.active = true) ∧
      (holds = false → ∀ policyId policy, p.policy policyId = some policy →
        policy.retention.holds = []) := by
  obtain ⟨⟨p, request⟩, hdeleting, h⟩ := bind_eq_ok h
  obtain ⟨decision, hdecision, h⟩ := bind_eq_ok h
  obtain ⟨hallowed, h⟩ := Prod.mk.inj (Except.ok.inj h)
  obtain ⟨hheld, hholds⟩ := Prod.mk.inj h
  obtain ⟨hnote, hdelete⟩ := deleting_ok hdeleting
  refine ⟨p, request, hnote, hdelete, fun hyes => ?_, fun hyes => ?_, fun hno => ?_⟩
  · rw [← hallowed, Bool.and_eq_true] at hyes
    exact ⟨⟨decision, hdecision, hyes.1⟩, Option.isNone_iff_eq_none.mp hyes.2⟩
  · rw [← hheld, Bool.and_eq_true] at hyes
    obtain ⟨hbound, hhold⟩ := hyes
    obtain ⟨binding, hbinding, hlineages⟩ := (Option.any_eq_true _ _).mp hbound
    obtain ⟨lineage, hlineage, hmatch⟩ := (Option.any_eq_true _ _).mp hlineages
    obtain ⟨hid, hmem⟩ := of_decide_eq_true hmatch
    obtain ⟨policy, hpolicy, hactive⟩ := (Option.any_eq_true _ _).mp hhold
    obtain ⟨hold, hin, hactive⟩ := List.any_eq_true.mp hactive
    have hkey : policy.policyId = auditPolicyId := KeyedTable.find_key (t := p.policies) hpolicy
    refine ⟨policy, hold, ⟨?_, ?_⟩, hin, hactive⟩
    · rw [hkey]
      exact ⟨noteId, binding, lineage, .refl, ⟨hbinding, hlineage, hid⟩, hmem⟩
    · rw [hkey]
      exact hpolicy
  · intro policyId policy hpolicy
    by_contra hne
    have hany : (p.policies.rows.any fun policy => policy.retention.holds ≠ []) = true :=
      List.any_eq_true.mpr ⟨policy, KeyedTable.mem_of_find hpolicy, decide_eq_true hne⟩
    rw [hholds, hno] at hany
    exact Bool.false_ne_true hany

/-- **The note is deleted although the audit policy holds it.** -/
theorem heldNote_deleted : ¬ ∀ (b : InformationBuiltins)
    (p : InformationGovernance b.informationIds) (request : InformationAccessRequest),
    p.declassifiedView request.informationRef.informationId = none →
    request.context.operation ≠ .classify → p.Allows request →
    p.FailClosed request.informationRef.informationId request.context.toContextContent := by
  intro hall
  have hrun : deletionDecided (auditedNote (some true) (some false)) = .ok (true, true, true) := by
    decide +kernel
  obtain ⟨p, request, hnote, hdelete, hallowed, hheld, -⟩ := deletionDecided_ok hrun
  obtain ⟨hallows, hview⟩ := hallowed rfl
  obtain ⟨policy, hold, hcarried, hin, hactive⟩ := hheld rfl
  have hclosed := hall plainInformation p request (hnote ▸ hview) (by rw [hdelete]; decide) hallows
  have halone := hclosed.alone policy.policyId policy (hnote ▸ hcarried.1) hcarried.2
  have hreleased := (activeHolds_composePolicies [] []).mp (activeHolds_of_passes halone hdelete)
    hold (keepsHold_singleton.mpr hin)
  exact Bool.false_ne_true (hreleased.symm.trans hactive)

/-- Without holds, the note is deleted as it should be. -/
theorem failClosed_iff_unheld : ∃ (p : InformationGovernance plainInformation.informationIds)
    (request : InformationAccessRequest), request.context.operation = .delete ∧
    p.Allows request ∧
    p.FailClosed request.informationRef.informationId request.context.toContextContent := by
  have hrun : deletionDecided (auditedNote none none) = .ok (true, false, false) := by
    decide +kernel
  obtain ⟨p, request, hnote, hdelete, hallowed, -, hholds⟩ := deletionDecided_ok hrun
  obtain ⟨hallows, hview⟩ := hallowed rfl
  refine ⟨p, request, hdelete, hallows, (failClosed_iff (hnote ▸ hview)
    (by rw [hdelete]; decide) hallows).mpr ?_⟩
  rintro ⟨-, policy, -, hold, -, hpolicy, -, -, hin, -⟩
  rw [hholds rfl _ policy hpolicy.2] at hin
  cases hin

end InformationGovernance

end Noema
