import Noema.InformationLineages

/-!
# Compositions only restrict

What the decision on a composition allows (`Admitted`), and how compositions compare: one
that is joined from fewer policies permits whatever the other one does, but for the holds
on a deletion.
-/
namespace Noema

open InformationOperation

/-! ## Greatest values and intersections -/

theorem greatest_mem {α : Type} (key : α → Int) (first : α) (rest : List α) :
    greatest key first rest ∈ first :: rest := by
  unfold greatest
  induction rest generalizing first with
  | nil => exact List.mem_singleton_self first
  | cons other rest ih =>
    rw [List.foldl_cons]
    have hmem := ih (if key first < key other then other else first)
    split_ifs at hmem ⊢ with hlt
    · exact List.mem_cons_of_mem _ hmem
    · rcases List.mem_cons.mp hmem with heq | hmem
      · rw [heq]
        exact List.mem_cons_self
      · exact List.mem_cons_of_mem _ (List.mem_cons_of_mem _ hmem)

theorem le_greatest {α : Type} (key : α → Int) (first : α) (rest : List α) :
    ∀ value ∈ first :: rest, key value ≤ key (greatest key first rest) := by
  unfold greatest
  induction rest generalizing first with
  | nil =>
    intro value hmem
    rw [List.mem_singleton.mp hmem]
    exact le_rfl
  | cons other rest ih =>
    intro value hmem
    rw [List.foldl_cons]
    have hbest := ih (if key first < key other then other else first)
    -- Both of the first two are at most the better one of them.
    have hhead := hbest _ List.mem_cons_self
    rcases List.mem_cons.mp hmem with rfl | hmem
    · split_ifs at hhead ⊢ with hlt <;> omega
    · rcases List.mem_cons.mp hmem with rfl | hmem
      · split_ifs at hhead ⊢ with hlt <;> omega
      · exact hbest value (List.mem_cons_of_mem _ hmem)

/-- A time among more times is not after the latest of them. -/
theorem latestOf_mono {times times' : List Datetime} {time : Datetime}
    (hsub : ∀ t ∈ times', t ∈ times) (h : latestOf times' = some time) :
    ∃ latest, latestOf times = some latest ∧ time.instant ≤ latest.instant := by
  cases times' with
  | nil => cases h
  | cons first' rest' =>
    cases h
    have hmem := hsub _ (greatest_mem Datetime.instant first' rest')
    cases times with
    | nil => cases hmem
    | cons first rest => exact ⟨_, rfl, le_greatest Datetime.instant first rest _ hmem⟩

theorem earliestOf_mono {times times' : List Datetime} {time : Datetime}
    (hsub : ∀ t ∈ times', t ∈ times) (h : earliestOf times' = some time) :
    ∃ earliest, earliestOf times = some earliest ∧ earliest.instant ≤ time.instant := by
  cases times' with
  | nil => cases h
  | cons first' rest' =>
    cases h
    have hmem := hsub _ (greatest_mem (fun time => -time.instant) first' rest')
    cases times with
    | nil => cases hmem
    | cons first rest =>
      have hle := le_greatest (fun time => -time.instant) first rest _ hmem
      exact ⟨_, rfl, by omega⟩

theorem mem_intersection {α : Type} [DecidableEq α] {lists : List (List α)} {value : α}
    (hne : lists ≠ []) : value ∈ intersection lists ↔ ∀ list ∈ lists, value ∈ list := by
  cases lists with
  | nil => exact absurd rfl hne
  | cons first rest =>
    rw [intersection, List.mem_filter, List.forall_mem_cons]
    simp

/-- More lists have fewer values in common. -/
theorem intersection_mono {α β : Type} [DecidableEq β] {values values' : List α} {f : α → List β}
    {value : β} (hsub : ∀ v ∈ values', v ∈ values) (hne : values' ≠ [])
    (h : value ∈ intersection (values.map f)) : value ∈ intersection (values'.map f) := by
  obtain ⟨v, hv⟩ := List.exists_mem_of_ne_nil _ hne
  have hne' : values.map f ≠ [] := List.ne_nil_of_mem (List.mem_map_of_mem (hsub v hv))
  rw [mem_intersection hne'] at h
  rw [mem_intersection (by simpa using hne)]
  intro list hlist
  obtain ⟨v, hv, rfl⟩ := List.mem_map.mp hlist
  exact h _ (List.mem_map_of_mem (hsub v hv))

/-! ## What a composition permits -/

theorem mem_reasonIf {condition : Prop} [Decidable condition] {reason r : DecisionReason} :
    r ∈ reasonIf condition reason ↔ condition ∧ r = reason := by
  unfold reasonIf
  split_ifs with h <;> simp [h]

theorem reasonIf_eq_nil {condition : Prop} [Decidable condition] {reason : DecisionReason} :
    reasonIf condition reason = [] ↔ ¬ condition := by
  unfold reasonIf
  split_ifs with h <;> simp [h]

theorem mem_conflictIf {condition : Prop} [Decidable condition] {conflict c : PolicyConflict} :
    c ∈ conflictIf condition conflict ↔ condition ∧ c = conflict := by
  unfold conflictIf
  split_ifs with h <;> simp [h]

/-- No conflict affects the operation. -/
def Unaffected (conflicts : List PolicyConflict) (operation : InformationOperation) : Prop :=
  ∀ conflict ∈ conflicts, operation ∉ conflict.affectedOperations

theorem conflictsFor_eq_nil {content : CompositionContent} {operation : InformationOperation} :
    content.conflictsFor operation = [] ↔ Unaffected content.conflicts operation := by
  rw [CompositionContent.conflictsFor, List.map_eq_nil_iff, List.filter_eq_nil_iff]
  simp [Unaffected]

/-- The context names the policies and the sources of the composition. -/
def CurrentContext (content : CompositionContent) (context : ContextContent) : Prop :=
  context.policyIds.insertionSort (· ≤ ·) = content.sourcePolicyIds ∧
    context.sourceLineageRefs.insertionSort (· ≤ ·) = content.sourceInformationIds

/-- The checks that every operation of a request has to pass. -/
structure PermitsUse (content : CompositionContent) (context : ContextContent)
    (operation : InformationOperation) : Prop where
  purpose : operation ∈ purposeOperations → context.purpose ∈ content.allowedPurposes
  secondaryUse : operation ∈ secondaryUseOperations → operation ∈ content.allowedSecondaryUses
  locality : operation ∈ trustDomainOperations → context.locality ∈ content.allowedLocalities
  sourceDomain : operation ∈ trustDomainOperations →
    context.sourceTrustDomain ∈ content.allowedTrustDomains
  provider : operation ∈ providerRequiredOperations ∨
      operation = .disclose ∧ context.providerId ≠ none →
    ∃ providerId ∈ context.providerId, providerId ∈ content.allowedProviders

/-- The checks that an access request has to pass besides. -/
structure PermitsAccess (content : CompositionContent) (context : ContextContent) : Prop where
  recipient : context.operation ∈ contentOperations →
    ∃ identity ∈ context.principal.recipientIdentities, identity ∈ content.allowedRecipients
  addressee : context.operation ∈ principalDestinationOperations →
    context.recipient = some context.principal.principalId
  principalDomain : context.operation ∈ principalDestinationOperations →
    ∃ domain ∈ context.destinationTrustDomain, domain ∈ context.principal.trustDomains
  destinationDomain : context.operation ∈ principalDestinationOperations →
    ∃ domain ∈ context.destinationTrustDomain, domain ∈ content.allowedTrustDomains
  sharing : context.operation ∈ sharingOperations → content.crossAgentSharing = true
  retention : context.operation = .delete → ∀ retainUntil ∈ content.retention.retainUntil,
    retainUntil.instant ≤ context.decisionTime.instant

theorem commonReasons_eq_nil {content : CompositionContent} {context : ContextContent}
    {operation : InformationOperation} (h : content.conflictsFor operation = []) :
    commonReasons content context operation = [] ↔
      CurrentContext content context ∧ PermitsUse content context operation := by
  simp only [commonReasons, List.append_eq_nil_iff, reasonIf_eq_nil, h, ne_eq, not_true_eq_false,
    not_false_eq_true, true_and, not_not, not_and, not_forall, exists_prop]
  constructor
  · rintro ⟨⟨⟨⟨⟨⟨hids, hrefs⟩, hpurpose⟩, huse⟩, hlocality⟩, hdomain⟩, hprovider⟩
    exact ⟨⟨hids, hrefs⟩, hpurpose, huse, hlocality, hdomain, hprovider⟩
  · rintro ⟨⟨hids, hrefs⟩, hpurpose, huse, hlocality, hdomain, hprovider⟩
    exact ⟨⟨⟨⟨⟨⟨hids, hrefs⟩, hpurpose⟩, huse⟩, hlocality⟩, hdomain⟩, hprovider⟩

theorem accessReasons_eq_nil {content : CompositionContent} {context : ContextContent} :
    accessReasons content context = [] ↔ PermitsAccess content context := by
  simp only [accessReasons, List.append_eq_nil_iff, reasonIf_eq_nil, not_and, not_forall,
    not_not, exists_prop, ne_eq, not_exists, not_lt, Bool.not_eq_false]
  constructor
  · rintro ⟨⟨⟨⟨⟨hrecipient, haddressee⟩, hprincipal⟩, hdestination⟩, hsharing⟩, hretention⟩
    exact ⟨hrecipient, haddressee, hprincipal, hdestination, hsharing, hretention⟩
  · rintro ⟨hrecipient, haddressee, hprincipal, hdestination, hsharing, hretention⟩
    exact ⟨⟨⟨⟨⟨hrecipient, haddressee⟩, hprincipal⟩, hdestination⟩, hsharing⟩, hretention⟩

/-- What the engine admits on a composition. -/
structure Admitted (content : CompositionContent) (context : ContextContent) : Prop where
  known : context.operation ≠ .unknown
  unaffected : Unaffected content.conflicts context.operation
  current : CurrentContext content context
  use : PermitsUse content context context.operation
  access : PermitsAccess content context

/-! ## Fewer policies restrict less -/

/-- Whatever one composition permits, the other one permits as well. -/
structure Looser (content content' : CompositionContent) : Prop where
  classification : content'.classification = .unknown → content.classification = .unknown
  purposes : ∀ value ∈ content.allowedPurposes, value ∈ content'.allowedPurposes
  recipients : ∀ value ∈ content.allowedRecipients, value ∈ content'.allowedRecipients
  trustDomains : ∀ value ∈ content.allowedTrustDomains, value ∈ content'.allowedTrustDomains
  localities : ∀ value ∈ content.allowedLocalities, value ∈ content'.allowedLocalities
  providers : ∀ value ∈ content.allowedProviders, value ∈ content'.allowedProviders
  forms : ∀ value ∈ content.disclosureForms, value ∈ content'.disclosureForms
  authorities : ∀ value ∈ content.declassificationAuthorities,
    value ∈ content'.declassificationAuthorities
  secondaryUses : ∀ value ∈ content.allowedSecondaryUses, value ∈ content'.allowedSecondaryUses
  sharing : content.crossAgentSharing = true → content'.crossAgentSharing = true
  retainUntil : ∀ time' ∈ content'.retention.retainUntil,
    ∃ time ∈ content.retention.retainUntil, time'.instant ≤ time.instant
  deleteAfter : ∀ time' ∈ content'.retention.deleteAfter,
    ∃ time ∈ content.retention.deleteAfter, time.instant ≤ time'.instant

theorem Looser.use {content content' : CompositionContent} {context : ContextContent}
    {operation : InformationOperation} (h : Looser content content')
    (huse : PermitsUse content context operation) : PermitsUse content' context operation where
  purpose hop := h.purposes _ (huse.purpose hop)
  secondaryUse hop := h.secondaryUses _ (huse.secondaryUse hop)
  locality hop := h.localities _ (huse.locality hop)
  sourceDomain hop := h.trustDomains _ (huse.sourceDomain hop)
  provider hop := by
    obtain ⟨provider, hprovider, hmem⟩ := huse.provider hop
    exact ⟨provider, hprovider, h.providers _ hmem⟩

theorem Looser.access {content content' : CompositionContent} {context : ContextContent}
    (h : Looser content content') (haccess : PermitsAccess content context) :
    PermitsAccess content' context where
  recipient hop := by
    obtain ⟨identity, hidentity, hmem⟩ := haccess.recipient hop
    exact ⟨identity, hidentity, h.recipients _ hmem⟩
  addressee := haccess.addressee
  principalDomain := haccess.principalDomain
  destinationDomain hop := by
    obtain ⟨domain, hdomain, hmem⟩ := haccess.destinationDomain hop
    exact ⟨domain, hdomain, h.trustDomains _ hmem⟩
  sharing hop := h.sharing (haccess.sharing hop)
  retention hop time' htime' := by
    obtain ⟨time, htime, hle⟩ := h.retainUntil time' htime'
    exact hle.trans (haccess.retention hop time htime)

/-- A list that is empty after looser restrictions was empty before. -/
theorem eq_nil_of_subset {α : Type} {values values' : List α} (h : ∀ v ∈ values, v ∈ values')
    (hnil : values' = []) : values = [] :=
  List.eq_nil_iff_forall_not_mem.mpr fun v hv => List.not_mem_nil (hnil ▸ h v hv)

/-- **Looser restrictions have no new conflict**, but for the one of a hold. -/
theorem Looser.unaffected {content content' : CompositionContent}
    {operation : InformationOperation} (h : Looser content content')
    (hold : operation = .delete → content'.retention.activeHolds = [])
    (hfree : Unaffected (fieldConflicts content) operation) :
    Unaffected (fieldConflicts content') operation := by
  intro conflict hmem
  by_cases hhold : conflict = ⟨.legalHoldDeletion, [.delete], by decide, by decide⟩
  · subst hhold
    simp only [List.mem_singleton]
    intro hdelete
    simp only [fieldConflicts, List.mem_append, mem_conflictIf] at hmem
    have hnone := hold hdelete
    simp [hnone, restrictedConflict] at hmem
  · refine hfree conflict ?_
    simp only [fieldConflicts, List.mem_append, mem_conflictIf] at hmem ⊢
    obtain (((((((((⟨hc, rfl⟩ | ⟨hc, rfl⟩) | ⟨hc, rfl⟩) | ⟨hc, rfl⟩) | ⟨hc, rfl⟩) | ⟨hc, rfl⟩) |
      ⟨hc, rfl⟩) | ⟨hc, rfl⟩) | ⟨hc, rfl⟩) | ⟨hc, rfl⟩) | ⟨⟨after', hafter', until', huntil', hc⟩, rfl⟩ :=
      hmem
    · simp [h.classification hc]
    · simp [eq_nil_of_subset h.purposes hc]
    · simp [eq_nil_of_subset h.recipients hc]
    · simp [eq_nil_of_subset h.trustDomains hc]
    · simp [eq_nil_of_subset h.localities hc]
    · simp [eq_nil_of_subset h.providers hc]
    · simp [eq_nil_of_subset h.forms hc]
    · simp [eq_nil_of_subset h.authorities hc]
    · simp [eq_nil_of_subset h.secondaryUses hc]
    · exact absurd rfl hhold
    · obtain ⟨after, hafter, hle⟩ := h.deleteAfter after' hafter'
      obtain ⟨until_, huntil, hle'⟩ := h.retainUntil until' huntil'
      exact .inr ⟨⟨after, hafter, until_, huntil, (hle.trans hc).trans hle'⟩, rfl⟩

/-- **The join of fewer policies is looser.** -/
theorem joined_looser {first first' : InformationPolicy} {rest rest' : List InformationPolicy}
    {sourceIds sourceIds' : List String} (h : ∀ v ∈ first' :: rest', v ∈ first :: rest) :
    Looser (joined first rest sourceIds) (joined first' rest' sourceIds') := by
  have hne : first' :: rest' ≠ [] := List.cons_ne_nil _ _
  have hmono : ∀ {β : Type} [DecidableEq β] (f : InformationPolicy → List β),
      ∀ value ∈ intersection ((first :: rest).map f), value ∈ intersection ((first' :: rest').map f) :=
    fun f value hvalue => intersection_mono h hne hvalue
  have htimes : ∀ f : InformationPolicy → Option Datetime, ∀ t ∈ (first' :: rest').filterMap f,
      t ∈ (first :: rest).filterMap f := by
    intro f t ht
    obtain ⟨v, hv, hfv⟩ := List.mem_filterMap.mp ht
    exact List.mem_filterMap.mpr ⟨v, h v hv, hfv⟩
  refine ⟨?_, hmono _, hmono _, hmono _, hmono _, hmono _, hmono _, hmono _, hmono _, ?_, ?_, ?_⟩
  · -- No classification ranks above `unknown`.
    intro hunknown
    have hmem : Classification.unknown ∈
        (first' :: rest').map fun v : InformationPolicy => v.classification := by
      rw [← hunknown]
      exact greatest_mem (fun c : Classification => (c.rank : Int)) first'.classification
        (rest'.map fun v : InformationPolicy => v.classification)
    obtain ⟨v, hv, hclass⟩ := List.mem_map.mp hmem
    have hin : v.classification ∈
        (first :: rest).map fun v : InformationPolicy => v.classification :=
      List.mem_map_of_mem (h v hv)
    have hle := le_greatest (fun c : Classification => (c.rank : Int)) first.classification
      (rest.map fun v : InformationPolicy => v.classification) v.classification hin
    rw [hclass] at hle
    show greatest _ _ _ = _
    cases hgreatest : greatest (fun c : Classification => (c.rank : Int)) first.classification
        (rest.map fun v : InformationPolicy => v.classification) with
    | unknown => rfl
    | publicInformation | internal | confidential | restricted =>
      rw [hgreatest] at hle
      exact absurd hle (by decide)
  · intro hall
    exact List.all_eq_true.mpr fun v hv => List.all_eq_true.mp hall v (h v hv)
  · intro time' htime'
    exact latestOf_mono (htimes _) htime'
  · intro time' htime'
    exact earliestOf_mono (htimes _) htime'

/-! ## The engine never raises -/

theorem sortedByText_nodup {α : Type} [DecidableEq α] (text : α → String) (values : List α) :
    (sortedByText text values).Nodup :=
  (List.perm_insertionSort _ _).nodup_iff.mpr values.nodup_dedup

theorem allowed_verdict {operation : InformationOperation} {reasons : List DecisionReason}
    {conflicts : List PolicyConflictKind} :
    (verdict operation reasons conflicts).allowed = true ↔ reasons = [] ∧ conflicts = [] := by
  unfold verdict
  split_ifs with h
  · exact iff_of_true rfl h
  · exact iff_of_false Bool.false_ne_true h

/-- Reasons that do not claim permission make a decision. -/
theorem verdict_check {operation : InformationOperation} {reasons : List DecisionReason}
    {conflicts : List PolicyConflictKind} (h : .permitted ∉ reasons) :
    (verdict operation reasons conflicts).check = .ok () := by
  unfold verdict
  split_ifs with hnone
  · rfl
  · have hreasons : reasons ++ reasonIf (conflicts ≠ []) .policyConflict ≠ [] := by
      intro hnil
      obtain ⟨hreasons, hconflicts⟩ := List.append_eq_nil_iff.mp hnil
      exact hnone ⟨hreasons, not_not.mp (reasonIf_eq_nil.mp hconflicts)⟩
    have hpermitted : .permitted ∉ reasons ++ reasonIf (conflicts ≠ []) .policyConflict := by
      rw [List.mem_append, mem_reasonIf]
      rintro (hmem | ⟨-, heq⟩)
      · exact h hmem
      · cases heq
    obtain ⟨reason, hreason⟩ := List.exists_mem_of_ne_nil _ hreasons
    refine (bind_of_ok (refuse_of (List.ne_nil_of_mem (mem_sortedByText.mpr hreason))) _).trans ?_
    refine (bind_of_ok (refuse_of (not_not.mpr (sortedByText_nodup _ _))) _).trans ?_
    refine (bind_of_ok (refuse_of (not_not.mpr (sortedByText_nodup _ _))) _).trans ?_
    exact refuse_of (mt mem_sortedByText.mp hpermitted)

theorem policyDecision_ok (operation : InformationOperation) {reasons : List DecisionReason}
    (conflicts : List PolicyConflictKind) (h : .permitted ∉ reasons) :
    ∃ decision, policyDecision operation reasons conflicts = .ok decision ∧
      decision.toVerdictContent = verdict operation reasons conflicts :=
  ⟨⟨_, verdict_check h⟩, checkedBy_of (verdict_check h), rfl⟩

theorem verdict_operation {operation : InformationOperation} {reasons : List DecisionReason}
    {conflicts : List PolicyConflictKind} :
    (verdict operation reasons conflicts).operation = operation := by
  unfold verdict
  split_ifs <;> rfl

theorem permitted_not_mem_commonReasons {content : CompositionContent} {context : ContextContent}
    {operation : InformationOperation} :
    .permitted ∉ commonReasons content context operation := by
  simp [commonReasons, mem_reasonIf]

theorem permitted_not_mem_accessReasons {content : CompositionContent} {context : ContextContent} :
    .permitted ∉ accessReasons content context := by
  simp [accessReasons, mem_reasonIf]

/-- **The decision on an access request.** -/
theorem evaluateAccess_ok (content : CompositionContent) (context : ContextContent) :
    ∃ decision, evaluateAccess content context = .ok decision ∧
      decision.operation = context.operation ∧
      (decision.allowed = true ↔ Admitted content context) := by
  unfold evaluateAccess
  split_ifs with hunknown
  · exact ⟨_, rfl, hunknown.symm, iff_of_false Bool.false_ne_true fun h => h.known hunknown⟩
  · have hpermitted : .permitted ∉ commonReasons content context context.operation ++
        accessReasons content context := by
      rw [List.mem_append, not_or]
      exact ⟨permitted_not_mem_commonReasons, permitted_not_mem_accessReasons⟩
    obtain ⟨decision, hdecision, hcontent⟩ := policyDecision_ok context.operation
      (content.conflictsFor context.operation) hpermitted
    refine ⟨decision, hdecision, ?_, ?_⟩
    · rw [hcontent, verdict_operation]
    · rw [hcontent, allowed_verdict, List.append_eq_nil_iff]
      constructor
      · rintro ⟨⟨hcommon, haccess⟩, hconflicts⟩
        obtain ⟨hcurrent, huse⟩ := (commonReasons_eq_nil hconflicts).mp hcommon
        exact ⟨hunknown, conflictsFor_eq_nil.mp hconflicts, hcurrent, huse,
          accessReasons_eq_nil.mp haccess⟩
      · intro h
        have hconflicts := conflictsFor_eq_nil.mpr h.unaffected
        exact ⟨⟨(commonReasons_eq_nil hconflicts).mpr ⟨h.current, h.use⟩,
          accessReasons_eq_nil.mpr h.access⟩, hconflicts⟩

/-! ## Every composition can be built -/

theorem requireOpaqueId_of {value name : String} (h : isOpaqueId value = true) :
    requireOpaqueId value name = .ok () :=
  refuse_of (by rw [h]; exact Bool.noConfusion)

theorem requireOpaqueId_ok {value name : String} {answer : Unit}
    (h : requireOpaqueId value name = .ok answer) : isOpaqueId value = true :=
  Bool.eq_true_of_not_eq_false (refuse_ok h)

/-- An opaque id begins with a letter. -/
theorem nonblank_of_isOpaqueId {value : String} (h : isOpaqueId value = true) :
    blank value = false := by
  have hlower : ∃ c ∈ value.toList, c.isLower = true := by
    unfold isOpaqueId at h
    dsimp only at h
    split at h
    · rename_i first rest separator digits htake hdrop
      simp only [Bool.and_eq_true] at h
      refine ⟨first, List.mem_of_mem_take (htake ▸ List.mem_cons_self), ?_⟩
      exact h.1.1.1.1.1.1
    · cases h
  obtain ⟨c, hc, hlower⟩ := hlower
  have hspace : isPySpace c = false := by
    have hrange : 97 ≤ c.toNat ∧ c.toNat ≤ 122 := by
      change (decide (c.val ≥ 'a'.val) && decide (c.val ≤ 'z'.val)) = true at hlower
      simp only [Bool.and_eq_true, decide_eq_true_eq, ge_iff_le,
        UInt32.le_iff_toNat_le] at hlower
      exact hlower
    simp only [isPySpace, Bool.or_eq_false_iff, Bool.and_eq_false_iff, decide_eq_false_iff_not]
    omega
  rw [blank, List.all_eq_false]
  exact ⟨c, hc, by rw [hspace]; exact Bool.false_ne_true⟩

theorem requireDistinct_ordered {values : List String} {name : String}
    (h : ∀ value ∈ values, blank value = false) :
    requireDistinct (ordered values) name false = .ok () := by
  refine (bind_of_ok (refuse_of ?_) _).trans ((bind_of_ok (refuse_of ?_) _).trans (refuse_of ?_))
  · exact fun hrequired => Bool.false_ne_true hrequired.1
  · rintro ⟨value, hvalue, hblank⟩
    rw [h value (mem_ordered.mp hvalue)] at hblank
    cases hblank
  · exact not_not.mpr (ordered_nodup values)

theorem requireDistinct_ok {values : List String} {name : String} {required : Bool} {answer : Unit}
    (h : requireDistinct values name required = .ok answer) :
    ∀ value ∈ values, blank value = false := by
  obtain ⟨_, -, h⟩ := bind_eq_ok h
  obtain ⟨_, hblank, -⟩ := bind_eq_ok h
  intro value hvalue
  by_contra hne
  exact refuse_ok hblank ⟨value, hvalue, Bool.eq_true_of_not_eq_false hne⟩

/-- The lists of texts that a composition joins from the policies. -/
def PolicyContent.texts (content : PolicyContent) : List (List String) :=
  [content.originDomains, content.allowedPurposes, content.allowedRecipients,
   content.allowedTrustDomains, content.allowedLocalities, content.allowedProviders,
   content.declassificationAuthorities]

/-- What a policy has been checked for. -/
structure InformationPolicy.Checked (policy : InformationPolicy) : Prop where
  id_opaque : isOpaqueId policy.policyId = true
  nonblank : ∀ values ∈ policy.texts, ∀ value ∈ values, blank value = false
  semantics : policy.secondaryUseSemanticsVersion = 1 ∨ policy.secondaryUseSemanticsVersion = 2
  legacy : policy.secondaryUseSemanticsVersion = 1 → policy.allowedSecondaryUses = []

theorem InformationPolicy.was_checked (policy : InformationPolicy) : policy.Checked := by
  obtain ⟨_, hid, h⟩ := bind_eq_ok policy.checked
  obtain ⟨_, -, h⟩ := bind_eq_ok h
  obtain ⟨_, horigins, h⟩ := bind_eq_ok h
  obtain ⟨_, hpurposes, h⟩ := bind_eq_ok h
  obtain ⟨_, hrecipients, h⟩ := bind_eq_ok h
  obtain ⟨_, hdomains, h⟩ := bind_eq_ok h
  obtain ⟨_, hlocalities, h⟩ := bind_eq_ok h
  obtain ⟨_, hproviders, h⟩ := bind_eq_ok h
  obtain ⟨_, hauthorities, h⟩ := bind_eq_ok h
  obtain ⟨_, -, h⟩ := bind_eq_ok h
  obtain ⟨_, hsemantics, h⟩ := bind_eq_ok h
  obtain ⟨_, -, h⟩ := bind_eq_ok h
  obtain ⟨_, -, h⟩ := bind_eq_ok h
  refine ⟨requireOpaqueId_ok hid, ?_, ?_, ?_⟩
  · simp only [PolicyContent.texts, List.forall_mem_cons, List.not_mem_nil, false_implies,
      implies_true, and_true]
    exact ⟨requireDistinct_ok horigins, requireDistinct_ok hpurposes,
      requireDistinct_ok hrecipients, requireDistinct_ok hdomains, requireDistinct_ok hlocalities,
      requireDistinct_ok hproviders, requireDistinct_ok hauthorities⟩
  · have hne := refuse_ok hsemantics
    tauto
  · have hne := refuse_ok h
    tauto

/-- What the constructor of a composition checks. -/
structure CompositionContent.Proper (content : CompositionContent) : Prop where
  policyIds : ∀ id ∈ content.sourcePolicyIds, isOpaqueId id = true
  informationIds : ∀ id ∈ content.sourceInformationIds, isOpaqueId id = true
  origins : ∀ value ∈ content.originDomains, blank value = false
  purposes : ∀ value ∈ content.allowedPurposes, blank value = false
  recipients : ∀ value ∈ content.allowedRecipients, blank value = false
  trustDomains : ∀ value ∈ content.allowedTrustDomains, blank value = false
  localities : ∀ value ∈ content.allowedLocalities, blank value = false
  providers : ∀ value ∈ content.allowedProviders, blank value = false
  authorities : ∀ value ∈ content.declassificationAuthorities, blank value = false
  semantics : content.secondaryUseSemanticsVersion = 1 ∨ content.secondaryUseSemanticsVersion = 2
  legacy : content.secondaryUseSemanticsVersion = 1 → content.allowedSecondaryUses = []

theorem CompositionContent.Proper.check {content : CompositionContent} (h : content.Proper)
    {compositionId : String} (hid : isOpaqueId compositionId = true) :
    content.normalized.check compositionId = .ok () := by
  unfold CompositionContent.check
  refine (bind_of_ok (requireOpaqueId_of hid) _).trans ?_
  refine (bind_of_ok (forM_of fun id hmem => requireOpaqueId_of ?_) _).trans ?_
  · rcases List.mem_append.mp hmem with hmem | hmem
    · exact h.policyIds id (mem_ordered.mp hmem)
    · exact h.informationIds id (mem_ordered.mp hmem)
  refine (bind_of_ok (requireDistinct_ordered fun id hmem =>
    nonblank_of_isOpaqueId (h.policyIds id hmem)) _).trans ?_
  refine (bind_of_ok (requireDistinct_ordered fun id hmem =>
    nonblank_of_isOpaqueId (h.informationIds id hmem)) _).trans ?_
  refine (bind_of_ok (requireDistinct_ordered h.origins) _).trans ?_
  refine (bind_of_ok (requireDistinct_ordered h.purposes) _).trans ?_
  refine (bind_of_ok (requireDistinct_ordered h.recipients) _).trans ?_
  refine (bind_of_ok (requireDistinct_ordered h.trustDomains) _).trans ?_
  refine (bind_of_ok (requireDistinct_ordered h.localities) _).trans ?_
  refine (bind_of_ok (requireDistinct_ordered h.providers) _).trans ?_
  refine (bind_of_ok (requireDistinct_ordered h.authorities) _).trans ?_
  refine (bind_of_ok (refuse_of (not_not.mpr (sortedByText_nodup _ _))) _).trans ?_
  refine (bind_of_ok (refuse_of (not_not.mpr (sortedByText_nodup _ _))) _).trans ?_
  refine (bind_of_ok (refuse_of ?_) _).trans ?_
  · rintro ⟨hne, hne'⟩
    rcases h.semantics with heq | heq
    · exact hne heq
    · exact hne' heq
  refine (bind_of_ok (refuse_of ?_) _).trans (refuse_of (not_not.mpr ?_))
  · rintro ⟨hlegacy, hne⟩
    have hnone := h.legacy hlegacy
    exact hne (by simp [CompositionContent.normalized, hnone, sortedByText])
  · exact (List.perm_insertionSort _ _).nodup_iff.mpr (List.nodup_dedup _)

/-- **A proper content makes a composition.** -/
theorem CompositionContent.Proper.create {content : CompositionContent} (h : content.Proper)
    (ids : InformationIds) : ∃ composition, PolicyComposition.create ids content = .ok composition ∧
      composition.toCompositionContent = content.normalized := by
  have hcheck := h.check
    (Digest.isOpaqueId_id (ids.composition content.normalized.identity)
      (show isIdPrefix "composition".toList = true by decide))
  exact ⟨⟨content.normalized, _, hcheck⟩, checkedBy_of hcheck, rfl⟩

theorem failedComposition_proper {sourceInformationIds : List String}
    {conflicts : List PolicyConflict} (h : ∀ id ∈ sourceInformationIds, isOpaqueId id = true) :
    (failedComposition sourceInformationIds conflicts).Proper := by
  refine ⟨?_, h, ?_, ?_, ?_, ?_, ?_, ?_, ?_, .inl rfl, fun _ => rfl⟩
  case refine_2 =>
    intro value hvalue
    rw [List.mem_singleton.mp hvalue]
    decide
  all_goals
    intro value hvalue
    cases hvalue

theorem mem_intersection_head {α β : Type} [DecidableEq β] (f : α → List β) {first : α}
    {rest : List α} {value : β} (h : value ∈ intersection ((first :: rest).map f)) :
    value ∈ f first :=
  List.mem_of_mem_filter h

theorem joined_proper {first : InformationPolicy} {rest : List InformationPolicy}
    {sourceInformationIds : List String} {conflicts : List PolicyConflict}
    (h : ∀ id ∈ sourceInformationIds, isOpaqueId id = true) :
    ({ joined first rest sourceInformationIds with conflicts } : CompositionContent).Proper := by
  have hfirst := first.was_checked.nonblank
  simp only [PolicyContent.texts, List.forall_mem_cons] at hfirst
  obtain ⟨-, hpurposes, hrecipients, hdomains, hlocalities, hproviders, hauthorities, -⟩ := hfirst
  have hhead : ∀ (f : InformationPolicy → List String) (value : String),
      value ∈ intersection ((first :: rest).map f) → value ∈ f first :=
    fun f value hvalue => mem_intersection_head f hvalue
  refine ⟨?_, h, ?_,
    fun value hvalue => hpurposes value (hhead (fun v => v.allowedPurposes) value hvalue),
    fun value hvalue => hrecipients value (hhead (fun v => v.allowedRecipients) value hvalue),
    fun value hvalue => hdomains value (hhead (fun v => v.allowedTrustDomains) value hvalue),
    fun value hvalue => hlocalities value (hhead (fun v => v.allowedLocalities) value hvalue),
    fun value hvalue => hproviders value (hhead (fun v => v.allowedProviders) value hvalue),
    fun value hvalue =>
      hauthorities value (hhead (fun v => v.declassificationAuthorities) value hvalue), ?_, ?_⟩
  · intro id hid
    obtain ⟨policy, -, rfl⟩ := List.mem_map.mp hid
    exact policy.was_checked.id_opaque
  · intro value hvalue
    obtain ⟨policy, -, hvalue⟩ := List.mem_flatMap.mp hvalue
    exact policy.was_checked.nonblank policy.originDomains List.mem_cons_self value hvalue
  · simp only [joined]
    split_ifs
    · exact .inl rfl
    · exact .inr rfl
  · -- If all policies are from before secondary uses, the first one grants none.
    intro hlegacy
    simp only [joined] at hlegacy ⊢
    split_ifs at hlegacy with hall
    · have hfirst := List.all_eq_true.mp hall first List.mem_cons_self
      have hnone := first.was_checked.legacy (of_decide_eq_true hfirst)
      rw [List.map_cons, intersection, hnone, List.filter_nil]
    · exact absurd hlegacy (by decide)

theorem composePolicies_proper {policies : List InformationPolicy}
    {sourceInformationIds : List String} {conflicts : List PolicyConflict}
    (h : ∀ id ∈ sourceInformationIds, isOpaqueId id = true) :
    (composePolicies policies sourceInformationIds conflicts).Proper := by
  unfold composePolicies
  split
  · exact failedComposition_proper h
  · exact joined_proper h

namespace InformationGovernance

variable {b : InformationBuiltins} {p : InformationGovernance b.informationIds}

theorem sources_opaque (lineage : InformationLineage) :
    ∀ id ∈ lineage.sourceInformationIds, isOpaqueId id = true := by
  obtain ⟨_, -, h⟩ := bind_eq_ok lineage.checked
  obtain ⟨_, -, h⟩ := bind_eq_ok h
  obtain ⟨_, hsources, -⟩ := bind_eq_ok h
  exact fun id hid => requireOpaqueId_ok (forM_ok hsources id hid)

/-- A lineage leads from an opaque id to opaque ids only. -/
theorem Reaches.opaque_id {x y : String} (h : p.Reaches x y) (hx : isOpaqueId x = true) :
    isOpaqueId y = true := by
  induction h with
  | refl => exact hx
  | tail _ hlast _ =>
    obtain ⟨binding, lineage, -, hmem⟩ := hlast
    exact sources_opaque lineage _ hmem

theorem viewRefs_valid (view : DeclassifiedDisclosureView b.informationIds) :
    ∀ id ∈ view.sourceLineageRefs, isOpaqueId id = true := by
  obtain ⟨_, -, h⟩ := bind_eq_ok view.checked
  obtain ⟨_, -, h⟩ := bind_eq_ok h
  obtain ⟨_, -, h⟩ := bind_eq_ok h
  obtain ⟨_, -, h⟩ := bind_eq_ok h
  obtain ⟨_, hrefs, -⟩ := bind_eq_ok h
  exact fun id hid => requireOpaqueId_ok (forM_ok hrefs id hid)

theorem compositionOf_proper (h : p.Governed) {x : String} (hx : isOpaqueId x = true) :
    (p.compositionOf x).Proper := by
  have hself : ∀ id ∈ [x], isOpaqueId id = true := fun id hid => List.mem_singleton.mp hid ▸ hx
  unfold compositionOf
  split
  · exact failedComposition_proper hself
  · split
    · rename_i view _
      split
      · exact failedComposition_proper (viewRefs_valid view)
      · exact composePolicies_proper (viewRefs_valid view)
    · refine composePolicies_proper ?_
      split_ifs
      · exact hself
      · intro id hid
        exact ((h.resolves x).sourceIds id (mem_ordered.mp hid)).opaque_id hx

/-- **The engine composes the policies of every information.** -/
theorem compositionFor_ok (h : p.Governed) (informationRef : GovernedInformationRef) :
    ∃ composition, p.compositionFor informationRef = .ok composition ∧
      composition.toCompositionContent =
        (p.compositionOf informationRef.informationId).normalized :=
  (compositionOf_proper h (requireOpaqueId_ok informationRef.checked)).create _

end InformationGovernance

end Noema
