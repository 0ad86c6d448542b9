import Noema.InformationFailClosed

/-!
# Adding policies to a composition

The restrictions of a composition depend on the set of its policies only, and more policies
restrict more, except for the holds: of two policies with the same id the later one in the
list decides on a hold they share, and a policy that is added may release a hold.
-/
namespace Noema

open InformationGovernance InformationOperation

/-! ## Order and repetition -/

/-- Two retentions restrict alike. -/
structure SameRetention (retention retention' : RetentionPolicy) : Prop where
  retainUntil : retention.retainUntil.map Datetime.instant =
    retention'.retainUntil.map Datetime.instant
  deleteAfter : retention.deleteAfter.map Datetime.instant =
    retention'.deleteAfter.map Datetime.instant
  deletionRequired : retention.deletionRequired = retention'.deletionRequired
  holds : retention.holds = retention'.holds

/-- Two compositions restrict alike: they are the same but for the time zones of their
retentions. -/
structure SameRestrictions (content content' : CompositionContent) : Prop where
  retention : SameRetention content.retention content'.retention
  others : { content.normalized with retention := content'.retention } = content'.normalized

/-- For every hold id it is settled which hold counts. -/
def Settled (policies : List InformationPolicy) : Prop :=
  ∀ hold other, Foremost policies hold → Foremost policies other → hold.holdId = other.holdId →
    hold = other

theorem Foremost.congr {policies policies' : List InformationPolicy} {hold : HoldConstraint}
    (hsame : ∀ policy, policy ∈ policies' ↔ policy ∈ policies) :
    Foremost policies' hold ↔ Foremost policies hold := by
  simp only [Foremost, hsame]

theorem Settled.keepsHold_iff {policies : List InformationPolicy} {hold : HoldConstraint}
    (h : Settled policies) : KeepsHold (inOrder policies) hold ↔ Foremost policies hold := by
  refine ⟨KeepsHold.foremost, fun hforemost => ?_⟩
  have ⟨policy, hpolicy, hhold, _⟩ := hforemost
  obtain ⟨kept, hkept, hid⟩ := exists_keepsHold (mem_inOrder.mpr hpolicy) ⟨hold, hhold, rfl⟩
  rw [h hold kept hforemost hkept.foremost hid.symm]
  exact hkept

section Congruence

variable {first first' : InformationPolicy} {rest rest' : List InformationPolicy}

theorem greatest_congr {α : Type} (key : α → Int) {first first' : α} {rest rest' : List α}
    (h : ∀ value, value ∈ first :: rest ↔ value ∈ first' :: rest') :
    key (greatest key first rest) = key (greatest key first' rest') :=
  le_antisymm (le_greatest key first' rest' _ ((h _).mp (greatest_mem key first rest)))
    (le_greatest key first rest _ ((h _).mpr (greatest_mem key first' rest')))

theorem latestOf_congr {times times' : List Datetime} (h : ∀ time, time ∈ times ↔ time ∈ times') :
    (latestOf times).map Datetime.instant = (latestOf times').map Datetime.instant := by
  cases times with
  | nil =>
    rw [List.eq_nil_iff_forall_not_mem.mpr fun time hmem => List.not_mem_nil ((h time).mpr hmem)]
  | cons first rest =>
    cases times' with
    | nil => exact absurd ((h first).mp List.mem_cons_self) List.not_mem_nil
    | cons first' rest' => exact congrArg some (greatest_congr Datetime.instant h)

theorem earliestOf_congr {times times' : List Datetime}
    (h : ∀ time, time ∈ times ↔ time ∈ times') :
    (earliestOf times).map Datetime.instant = (earliestOf times').map Datetime.instant := by
  cases times with
  | nil =>
    rw [List.eq_nil_iff_forall_not_mem.mpr fun time hmem => List.not_mem_nil ((h time).mpr hmem)]
  | cons first rest =>
    cases times' with
    | nil => exact absurd ((h first).mp List.mem_cons_self) List.not_mem_nil
    | cons first' rest' =>
      exact congrArg some (neg_injective (greatest_congr (fun time => -time.instant) h))

theorem mem_intersection_congr {β : Type} [DecidableEq β]
    (h : ∀ policy, policy ∈ first :: rest ↔ policy ∈ first' :: rest')
    (f : InformationPolicy → List β) (value : β) :
    value ∈ intersection ((first :: rest).map f) ↔
      value ∈ intersection ((first' :: rest').map f) :=
  ⟨intersection_mono (fun policy hpolicy => (h policy).mpr hpolicy) (List.cons_ne_nil _ _),
    intersection_mono (fun policy hpolicy => (h policy).mp hpolicy) (List.cons_ne_nil _ _)⟩

theorem mergedRetention_congr {values values' : List InformationPolicy}
    (h : ∀ policy, policy ∈ values ↔ policy ∈ values')
    (hholds : ∀ hold, KeepsHold values hold ↔ KeepsHold values' hold) :
    SameRetention (mergedRetention values) (mergedRetention values') where
  retainUntil := latestOf_congr fun time => by simp only [List.mem_filterMap, h]
  deleteAfter := earliestOf_congr fun time => by simp only [List.mem_filterMap, h]
  deletionRequired := by
    rw [Bool.eq_iff_iff]
    simp only [mergedRetention, List.any_eq_true, h]
  holds := by
    have hsorted : (mergedHolds values).sorted.filter (fun _ => true) =
        (mergedHolds values').sorted.filter fun _ => true :=
      KeyedTable.filter_sorted_congr fun hold _ => by
        rw [mem_mergedHolds, mem_mergedHolds, hholds]
    rwa [List.filter_true, List.filter_true] at hsorted

theorem sortedByText_congr {α : Type} [DecidableEq α] {text : α → String}
    (htext : Function.Injective text) {values values' : List α}
    (h : ∀ value, value ∈ values ↔ value ∈ values') :
    sortedByText text values = sortedByText text values' := by
  have hperm : (sortedByText text values).Perm (sortedByText text values') := by
    refine (List.perm_ext_iff_of_nodup (sortedByText_nodup _ _) (sortedByText_nodup _ _)).mpr ?_
    intro value
    rw [mem_sortedByText, mem_sortedByText, h]
  have htotal : Std.Total fun a b : α => text a ≤ text b := ⟨fun a b => le_total _ _⟩
  have htrans : IsTrans α fun a b => text a ≤ text b := ⟨fun _ _ _ => le_trans⟩
  exact hperm.eq_of_pairwise (fun a b _ _ hab hba => htext (le_antisymm hab hba))
    (List.pairwise_insertionSort _ _) (List.pairwise_insertionSort _ _)

theorem DisclosureForm.text_injective : Function.Injective DisclosureForm.text := by
  intro form form' h
  have hread := congrArg DisclosureForm.ofText h
  rw [DisclosureForm.ofText_text, DisclosureForm.ofText_text] at hread
  exact Except.ok.inj hread

theorem InformationOperation.text_injective : Function.Injective InformationOperation.text := by
  intro operation operation' h
  have hread := congrArg InformationOperation.ofText h
  rw [InformationOperation.ofText_text, InformationOperation.ofText_text] at hread
  exact Except.ok.inj hread

theorem Classification.rank_injective : Function.Injective Classification.rank := by
  intro classification classification' h
  cases classification <;> cases classification' <;> first | rfl | cases h

theorem eq_nil_congr {α : Type} {values values' : List α}
    (h : ∀ value, value ∈ values ↔ value ∈ values') : values = [] ↔ values' = [] :=
  ⟨eq_nil_of_subset fun value => (h value).mpr, eq_nil_of_subset fun value => (h value).mp⟩

/-- A duty to delete before the end of the time to retain. -/
theorem window_iff {deleteAfter retainUntil : Option Datetime} :
    (∃ time ∈ deleteAfter, ∃ until_ ∈ retainUntil, time.instant ≤ until_.instant) ↔
      ∃ i ∈ deleteAfter.map Datetime.instant, ∃ j ∈ retainUntil.map Datetime.instant, i ≤ j := by
  simp

/-- Contents with the same fields have the same conflicts. -/
theorem fieldConflicts_congr {content content' : CompositionContent}
    (hclass : content.classification = content'.classification)
    (hpurposes : content.allowedPurposes = [] ↔ content'.allowedPurposes = [])
    (hrecipients : content.allowedRecipients = [] ↔ content'.allowedRecipients = [])
    (hdomains : content.allowedTrustDomains = [] ↔ content'.allowedTrustDomains = [])
    (hlocalities : content.allowedLocalities = [] ↔ content'.allowedLocalities = [])
    (hproviders : content.allowedProviders = [] ↔ content'.allowedProviders = [])
    (hforms : content.disclosureForms = [] ↔ content'.disclosureForms = [])
    (hauthorities : content.declassificationAuthorities = [] ↔
      content'.declassificationAuthorities = [])
    (huses : content.allowedSecondaryUses = [] ↔ content'.allowedSecondaryUses = [])
    (hretention : SameRetention content.retention content'.retention) :
    fieldConflicts content = fieldConflicts content' := by
  have hholds : content.retention.activeHolds = content'.retention.activeHolds := by
    rw [RetentionPolicy.activeHolds, hretention.holds]
    rfl
  simp only [fieldConflicts, hclass, hpurposes, hrecipients, hdomains, hlocalities, hproviders,
    hforms, hauthorities, huses, hholds, window_iff, hretention.retainUntil,
    hretention.deleteAfter]

/-- **The join of the same policies restricts alike**, if it keeps the same holds. -/
theorem joined_congr (h : ∀ policy, policy ∈ first :: rest ↔ policy ∈ first' :: rest')
    (hholds : ∀ hold, KeepsHold (first :: rest) hold ↔ KeepsHold (first' :: rest') hold)
    (refs : List String) (conflicts : List PolicyConflict) :
    SameRestrictions
      { joined first rest refs with
        conflicts := conflicts ++ fieldConflicts (joined first rest refs) }
      { joined first' rest' refs with
        conflicts := conflicts ++ fieldConflicts (joined first' rest' refs) } where
  retention := mergedRetention_congr h hholds
  others := by
    have hclasses : ∀ c : Classification, c ∈ (first :: rest).map (fun v => v.classification) ↔
        c ∈ (first' :: rest').map fun v => v.classification := by
      intro c
      simp only [List.mem_map, h]
    have hclass : (joined first rest refs).classification =
        (joined first' rest' refs).classification := Classification.rank_injective <|
      Int.ofNat.inj (greatest_congr (fun c : Classification => (c.rank : Int)) hclasses)
    have hall : ∀ f : InformationPolicy → Bool, (first :: rest).all f = (first' :: rest').all f := by
      intro f
      rw [Bool.eq_iff_iff]
      simp only [List.all_eq_true, h]
    have hmem := fun {β : Type} [DecidableEq β] => mem_intersection_congr (β := β) h
    have hconflicts := fieldConflicts_congr hclass (eq_nil_congr (hmem fun v => v.allowedPurposes))
      (eq_nil_congr (hmem fun v => v.allowedRecipients))
      (eq_nil_congr (hmem fun v => v.allowedTrustDomains))
      (eq_nil_congr (hmem fun v => v.allowedLocalities))
      (eq_nil_congr (hmem fun v => v.allowedProviders))
      (eq_nil_congr (hmem fun v => v.disclosureForms))
      (eq_nil_congr (hmem fun v => v.declassificationAuthorities))
      (eq_nil_congr (hmem fun v => v.allowedSecondaryUses)) (mergedRetention_congr h hholds)
    simp only [CompositionContent.normalized, CompositionContent.mk.injEq]
    refine ⟨ordered_congr ?_, rfl, ordered_congr ?_, hclass,
      ordered_congr (hmem fun v => v.allowedPurposes),
      ordered_congr (hmem fun v => v.allowedRecipients),
      ordered_congr (hmem fun v => v.allowedTrustDomains),
      ordered_congr (hmem fun v => v.allowedLocalities),
      ordered_congr (hmem fun v => v.allowedProviders), hall fun v => v.crossAgentSharing,
      trivial,
      sortedByText_congr DisclosureForm.text_injective (hmem fun v => v.disclosureForms),
      ordered_congr (hmem fun v => v.declassificationAuthorities),
      sortedByText_congr InformationOperation.text_injective (hmem fun v => v.allowedSecondaryUses),
      ?_, ?_⟩
    · intro id
      simp only [joined, List.mem_map, h]
    · intro domain
      simp only [joined, List.mem_flatMap, h]
    · simp only [joined, hall]
    · rw [hconflicts]

end Congruence

/-- Policies in which every hold is settled restrict alike in every order. -/
theorem composePolicies_congr {policies policies' : List InformationPolicy} (hne : policies ≠ [])
    (hsame : ∀ policy, policy ∈ policies' ↔ policy ∈ policies) (hsettled : Settled policies)
    (refs : List String) (conflicts : List PolicyConflict) :
    SameRestrictions (composePolicies policies refs conflicts)
      (composePolicies policies' refs conflicts) := by
  obtain ⟨policy, hpolicy⟩ := List.exists_mem_of_ne_nil _ hne
  obtain ⟨first, rest, hsorted, heq⟩ := composePolicies_inOrder hne refs conflicts
  obtain ⟨first', rest', hsorted', heq'⟩ := composePolicies_inOrder
    (List.ne_nil_of_mem ((hsame policy).mpr hpolicy)) refs conflicts
  have hsettled' : Settled policies' := by
    simpa only [Settled, Foremost.congr hsame] using hsettled
  rw [heq, heq']
  refine joined_congr (fun policy => ?_) (fun hold => ?_) refs conflicts
  · rw [← hsorted, ← hsorted', mem_inOrder, mem_inOrder, hsame]
  · rw [← hsorted, ← hsorted', hsettled.keepsHold_iff, hsettled'.keepsHold_iff,
      Foremost.congr hsame]

/-- A policy that is repeated at the end of a list decides on its foremost holds. -/
theorem keepsHold_repeated {policies : List InformationPolicy} {policy : InformationPolicy}
    {hold : HoldConstraint} (hhold : hold ∈ policy.retention.holds)
    (hgreatest : ∀ other ∈ policies, policy.policyId < other.policyId →
      ¬ other.HasHold hold.holdId) :
    KeepsHold (inOrder (policies ++ [policy])) hold := by
  obtain ⟨xs, ys, hsorted, hwithout, hlater⟩ := StableOrder.insertionSort_split
    (r := fun a b : InformationPolicy => a.policyId ≤ b.policyId) policies [] policy
  refine ⟨xs, policy, ys, hsorted, hhold, fun later hmem => hgreatest later ?_ ?_⟩
  · rw [← mem_inOrder, ← List.append_nil policies, inOrder, hwithout]
    exact List.mem_append_right _ hmem
  · rcases hlater later hmem with hnone | hgreater
    · cases hnone
    · exact not_le.mp hgreater

/-- The holds that two lists keep are the same if these restrict alike. -/
theorem SameRestrictions.keepsHold_iff {policies policies' : List InformationPolicy}
    (hne : policies ≠ []) (hne' : policies' ≠ []) {refs : List String}
    {conflicts : List PolicyConflict}
    (h : SameRestrictions (composePolicies policies refs conflicts)
      (composePolicies policies' refs conflicts)) {hold : HoldConstraint} :
    KeepsHold (inOrder policies) hold ↔ KeepsHold (inOrder policies') hold := by
  obtain ⟨first, rest, hsorted, heq⟩ := composePolicies_inOrder hne refs conflicts
  obtain ⟨first', rest', hsorted', heq'⟩ := composePolicies_inOrder hne' refs conflicts
  rw [heq, heq'] at h
  have hholds : (mergedHolds (first :: rest)).sorted = (mergedHolds (first' :: rest')).sorted :=
    h.retention.holds
  rw [hsorted, hsorted', ← mem_mergedHolds, ← mem_mergedHolds, ← KeyedTable.mem_sorted, hholds,
    KeyedTable.mem_sorted]

/-- **Order and repetition play no part exactly if every hold is settled.** -/
theorem sameRestrictions_iff {policies : List InformationPolicy} (hne : policies ≠ [])
    (refs : List String) (conflicts : List PolicyConflict) :
    (∀ policies', (∀ policy, policy ∈ policies' ↔ policy ∈ policies) →
      SameRestrictions (composePolicies policies refs conflicts)
        (composePolicies policies' refs conflicts)) ↔ Settled policies := by
  constructor
  · intro hall
    -- Repeated at the end, the policy of a foremost hold decides on it.
    have hkeeps : ∀ hold, Foremost policies hold → KeepsHold (inOrder policies) hold := by
      rintro hold ⟨policy, hpolicy, hhold, hgreatest⟩
      have hsame : ∀ other, other ∈ policies ++ [policy] ↔ other ∈ policies := by
        intro other
        rw [List.mem_append, List.mem_singleton]
        exact or_iff_left_of_imp fun heq => heq ▸ hpolicy
      have hrepeated := hall _ hsame
      rw [hrepeated.keepsHold_iff hne (by simp)]
      exact keepsHold_repeated hhold hgreatest
    exact fun hold other hhold hother hid => (hkeeps hold hhold).unique (hkeeps other hother) hid
  · exact fun hsettled policies' hsame => composePolicies_congr hne hsame hsettled refs conflicts

/-! ## Added policies -/

/-- A context that is refreshed to a composition. -/
def refreshedTo (content : CompositionContent) (context : ContextContent) : ContextContent :=
  ({ context with
    policyIds := content.normalized.sourcePolicyIds
    sourceLineageRefs := content.normalized.sourceInformationIds } : ContextContent).normalized

/-- What `_evaluate_access` says on the composition of some policies, of a context that is
refreshed to it. -/
def accessOn (policies : List InformationPolicy) (refs : List String)
    (conflicts : List PolicyConflict) (context : ContextContent) :
    Except PyError PolicyDecision :=
  let content := composePolicies policies refs conflicts
  evaluateAccess content.normalized (refreshedTo content context)

/-- What `decide_disclosure` decides on the composition of some policies, of a context that is
refreshed to it. -/
def disclosureOn (policies : List InformationPolicy) (refs : List String)
    (conflicts : List PolicyConflict) (context : ContextContent) :
    Except PyError PolicyDecision :=
  let content := composePolicies policies refs conflicts
  policyDecision .disclose (disclosureReasons content.normalized (refreshedTo content context))
    (content.normalized.conflictsFor .disclose)

/-- A decision was made, and it is ALLOW. -/
def Allowed (result : Except PyError PolicyDecision) : Prop :=
  ∃ decision, result = .ok decision ∧ decision.allowed = true

theorem allowed_accessOn {policies : List InformationPolicy} {refs : List String}
    {conflicts : List PolicyConflict} {context : ContextContent} :
    Allowed (accessOn policies refs conflicts context) ↔
      context.operation ≠ .unknown ∧ Passes (composePolicies policies refs conflicts) context := by
  obtain ⟨decision, hdecision, -, hadmitted⟩ := evaluateAccess_ok
    (composePolicies policies refs conflicts).normalized
    (refreshedTo (composePolicies policies refs conflicts) context)
  have hcurrent := currentContext_refreshed (composePolicies policies refs conflicts) context
  rw [admitted_normalized] at hadmitted
  have hpasses : Passes (composePolicies policies refs conflicts)
      (refreshedTo (composePolicies policies refs conflicts) context) ↔
      Passes (composePolicies policies refs conflicts) context := passes_refreshed
  rw [Allowed, accessOn, hdecision]
  simp only [Except.ok.injEq, exists_eq_left', hadmitted, hpasses]
  exact and_congr_right fun _ => and_iff_right hcurrent

/-- The checks of a disclosure, besides those of its context. -/
structure PermitsDisclosure (content : CompositionContent) (context : ContextContent) : Prop where
  use : PermitsUse content context .disclose
  recipient : ∃ recipient ∈ context.recipient, recipient ∈ content.allowedRecipients
  domain : ∃ domain ∈ context.destinationTrustDomain, domain ∈ content.allowedTrustDomains
  form : ∃ form ∈ context.disclosureForm, form ∈ content.disclosureForms
  sharing : context.operation = .crossAgentShare → content.crossAgentSharing = true

theorem Looser.disclosure {content content' : CompositionContent} {context : ContextContent}
    (h : Looser content content') (hpermits : PermitsDisclosure content context) :
    PermitsDisclosure content' context where
  use := h.use hpermits.use
  recipient := by
    obtain ⟨recipient, hrecipient, hmem⟩ := hpermits.recipient
    exact ⟨recipient, hrecipient, h.recipients _ hmem⟩
  domain := by
    obtain ⟨domain, hdomain, hmem⟩ := hpermits.domain
    exact ⟨domain, hdomain, h.trustDomains _ hmem⟩
  form := by
    obtain ⟨form, hform, hmem⟩ := hpermits.form
    exact ⟨form, hform, h.forms _ hmem⟩
  sharing hop := h.sharing (hpermits.sharing hop)

theorem disclosureReasons_eq_nil {content : CompositionContent} {context : ContextContent}
    (h : content.conflictsFor .disclose = []) : disclosureReasons content context = [] ↔
      CurrentContext content context ∧ PermitsDisclosure content context := by
  simp only [disclosureReasons, List.append_eq_nil_iff, reasonIf_eq_nil, commonReasons_eq_nil h,
    not_and, not_forall, not_not, exists_prop, Bool.not_eq_false]
  constructor
  · rintro ⟨⟨⟨⟨⟨hcurrent, huse⟩, hrecipient⟩, hdomain⟩, hform⟩, hsharing⟩
    exact ⟨hcurrent, huse, hrecipient, hdomain, hform, hsharing⟩
  · rintro ⟨hcurrent, huse, hrecipient, hdomain, hform, hsharing⟩
    exact ⟨⟨⟨⟨⟨hcurrent, huse⟩, hrecipient⟩, hdomain⟩, hform⟩, hsharing⟩

theorem allowed_disclosureOn {policies : List InformationPolicy} {refs : List String}
    {conflicts : List PolicyConflict} {context : ContextContent} :
    Allowed (disclosureOn policies refs conflicts context) ↔
      Unaffected (composePolicies policies refs conflicts).conflicts .disclose ∧
        PermitsDisclosure (composePolicies policies refs conflicts) context := by
  unfold disclosureOn
  generalize composePolicies policies refs conflicts = content
  have hpermitted : .permitted ∉
      disclosureReasons content.normalized (refreshedTo content context) := by
    simp [disclosureReasons, mem_reasonIf, permitted_not_mem_commonReasons]
  obtain ⟨decision, hdecision, hverdict⟩ := policyDecision_ok .disclose
    (content.normalized.conflictsFor .disclose) hpermitted
  have hallowed : decision.allowed = true ↔ _ := hverdict ▸ allowed_verdict
  rw [Allowed, hdecision]
  simp only [Except.ok.injEq, exists_eq_left', hallowed, conflictsFor_eq_nil]
  rw [and_comm, unaffected_normalized]
  refine and_congr_right fun hfree => ?_
  have hcurrent : CurrentContext content.normalized (refreshedTo content context) :=
    currentContext_refreshed content context
  rw [disclosureReasons_eq_nil (conflictsFor_eq_nil.mpr (unaffected_normalized.mpr hfree)),
    and_iff_right hcurrent]
  constructor
  · exact fun h => (normalized_looser content).disclosure
      ⟨⟨h.use.purpose, h.use.secondaryUse, h.use.locality, h.use.sourceDomain, h.use.provider⟩,
        h.recipient, h.domain, h.form, h.sharing⟩
  · intro h
    have h := (looser_normalized content).disclosure h
    exact ⟨⟨h.use.purpose, h.use.secondaryUse, h.use.locality, h.use.sourceDomain, h.use.provider⟩,
      h.recipient, h.domain, h.form, h.sharing⟩

/-- What the policies keep after one is added between them is a hold of that one, or was kept
before. -/
theorem keepsHold_insert {before after : List InformationPolicy} {policy : InformationPolicy}
    {hold : HoldConstraint} (h : KeepsHold (before ++ policy :: after) hold) :
    hold ∈ policy.retention.holds ∨ KeepsHold (before ++ after) hold := by
  induction after using List.reverseRecOn with
  | nil =>
    rcases keepsHold_concat.mp h with hin | ⟨hkept, -⟩
    · exact .inl hin
    · exact .inr (by rwa [List.append_nil])
  | append_singleton after last ih =>
    rw [← List.cons_append, ← List.append_assoc] at h
    rw [← List.append_assoc, keepsHold_concat]
    rcases keepsHold_concat.mp h with hin | ⟨hkept, hfree⟩
    · exact .inr (.inl hin)
    · exact (ih hkept).imp_right fun hkept => .inr ⟨hkept, hfree⟩

theorem keepsHold_added {before after : List InformationPolicy} {added : InformationPolicy}
    {hold : HoldConstraint} (h : KeepsHold (inOrder (before ++ added :: after)) hold) :
    hold ∈ added.retention.holds ∨ KeepsHold (inOrder (before ++ after)) hold := by
  obtain ⟨xs, ys, hsorted, hwithout, -⟩ := StableOrder.insertionSort_split
    (r := fun a b : InformationPolicy => a.policyId ≤ b.policyId) before after added
  rw [inOrder, hsorted] at h
  rw [inOrder, hwithout]
  exact keepsHold_insert h

/-- An added policy releases a hold that was kept active. -/
def Releases (before : List InformationPolicy) (added : InformationPolicy)
    (after : List InformationPolicy) : Prop :=
  ∃ hold released, KeepsHold (inOrder (before ++ after)) hold ∧ hold.active = true ∧
    released ∈ added.retention.holds ∧ released.active = false ∧ released.holdId = hold.holdId ∧
    KeepsHold (inOrder (before ++ added :: after)) released

/-- A deletion that an added policy allows was allowed before, unless that policy releases
a hold. -/
theorem activeHolds_added {before after : List InformationPolicy} {added : InformationPolicy}
    {refs : List String} {conflicts : List PolicyConflict}
    (h : (composePolicies (before ++ added :: after) refs conflicts).retention.activeHolds = []) :
    (composePolicies (before ++ after) refs conflicts).retention.activeHolds = [] ↔
      ¬ Releases before added after := by
  rw [activeHolds_composePolicies] at h ⊢
  constructor
  · rintro hinactive ⟨hold, released, hkept, hactive, -⟩
    exact Bool.false_ne_true ((hinactive hold hkept).symm.trans hactive)
  · intro hnone hold hkept
    by_contra hactive
    obtain ⟨policy, hpolicy, hin, -⟩ := hkept.foremost
    have hpolicy : policy ∈ inOrder (before ++ added :: after) := by
      rw [mem_inOrder, List.mem_append, List.mem_cons]
      rcases List.mem_append.mp hpolicy with hpolicy | hpolicy
      · exact .inl hpolicy
      · exact .inr (.inr hpolicy)
    obtain ⟨released, hreleased, hid⟩ := exists_keepsHold hpolicy ⟨hold, hin, rfl⟩
    have hinactive := h released hreleased
    rcases keepsHold_added hreleased with hadded | hkept'
    · exact hnone ⟨hold, released, hkept, Bool.eq_true_of_not_eq_false hactive, hadded, hinactive,
        hid, hreleased⟩
    · exact hactive (hkept.unique hkept' hid.symm ▸ hinactive)

/-- **When composition only restricts.**  Every order and repetition of the policies restricts
alike exactly if every hold is settled; an access that is allowed after a policy is added was
allowed before, except for a deletion exactly if that policy releases a hold; and a
disclosure always was. -/
theorem composition_restricts_iff {policies : List InformationPolicy} (hne : policies ≠ [])
    (refs : List String) (conflicts : List PolicyConflict) :
    ((∀ policies', (∀ policy, policy ∈ policies' ↔ policy ∈ policies) →
      SameRestrictions (composePolicies policies refs conflicts)
        (composePolicies policies' refs conflicts)) ↔ Settled policies) ∧
    ∀ before added after, policies = before ++ after → ∀ context,
      (Allowed (accessOn (before ++ added :: after) refs conflicts context) →
        (Allowed (accessOn policies refs conflicts context) ↔
          ¬ (context.operation = .delete ∧ Releases before added after))) ∧
      (Allowed (disclosureOn (before ++ added :: after) refs conflicts context) →
        Allowed (disclosureOn policies refs conflicts context)) := by
  refine ⟨sameRestrictions_iff hne refs conflicts, ?_⟩
  rintro before added after rfl context
  have hsub : ∀ policy ∈ before ++ after, policy ∈ before ++ added :: after := by
    intro policy hpolicy
    rcases List.mem_append.mp hpolicy with hpolicy | hpolicy
    · exact List.mem_append_left _ hpolicy
    · exact List.mem_append_right _ (List.mem_cons_of_mem _ hpolicy)
  constructor
  · simp only [allowed_accessOn]
    rintro ⟨hknown, hpass⟩
    rw [passes_fewer_iff hne hsub (unaffected_of_passes hpass) hpass, and_iff_right hknown, not_and]
    exact forall_congr' fun hdelete => activeHolds_added (activeHolds_of_passes hpass hdelete)
  · simp only [allowed_disclosureOn]
    rintro ⟨hfree, hpermits⟩
    have hadded : Unaffected conflicts .disclose := by
      rw [composePolicies_conflicts (List.ne_nil_of_mem (List.mem_append_right before
        List.mem_cons_self))] at hfree
      exact fun conflict hmem => hfree conflict (List.mem_append_left _ hmem)
    exact ⟨unaffected_fewer hne hsub hadded (fun hdelete => nomatch hdelete) hfree,
      (composePolicies_looser hne hsub).disclosure hpermits⟩

/-! ## A hold that is released by an addition -/

/-- Whether Ada may delete the note under the audit policy alone, and whether she may after the
review policy is added. -/
def additionDecided (audit review : Option Bool) : Except PyError (Bool × Bool) := do
  let audit ← InformationPolicy.fromEvent plainInformation
    (holdPolicyRecorded 1 ["audit", "review"] audit)
  let review ← InformationPolicy.fromEvent plainInformation (holdPolicyRecorded 2 ["review"] review)
  let (_, request) ← deleting (auditedNote none none)
  let alone ← accessOn [audit] [noteId] [] request.context.toContextContent
  let both ← accessOn [audit, review] [noteId] [] request.context.toContextContent
  return (alone.allowed, both.allowed)

theorem additionDecided_ok {heldAudit heldReview : Option Bool} {alone both : Bool}
    (h : additionDecided heldAudit heldReview = .ok (alone, both)) :
    ∃ (audit review : InformationPolicy) (context : ContextContent), context.operation = .delete ∧
      (Allowed (accessOn [audit] [noteId] [] context) ↔ alone = true) ∧
      (Allowed (accessOn ([audit] ++ review :: []) [noteId] [] context) ↔ both = true) := by
  obtain ⟨audit, -, h⟩ := bind_eq_ok h
  obtain ⟨review, -, h⟩ := bind_eq_ok h
  obtain ⟨⟨p, request⟩, hdeleting, h⟩ := bind_eq_ok h
  obtain ⟨decision, hdecision, h⟩ := bind_eq_ok h
  obtain ⟨decision', hdecision', h⟩ := bind_eq_ok h
  obtain ⟨rfl, rfl⟩ := Prod.mk.inj (Except.ok.inj h)
  refine ⟨audit, review, _, (deleting_ok hdeleting).2, ?_, ?_⟩
  · rw [Allowed, hdecision]
    simp only [Except.ok.injEq, exists_eq_left']
  · rw [Allowed, List.singleton_append, hdecision']
    simp only [Except.ok.injEq, exists_eq_left']

/-- **An added policy allows the deletion that was denied.** -/
theorem addition_loosens : ¬ ∀ (policies : List InformationPolicy) (refs : List String)
    (conflicts : List PolicyConflict), policies ≠ [] →
    (∀ policies', (∀ policy, policy ∈ policies' ↔ policy ∈ policies) →
      SameRestrictions (composePolicies policies refs conflicts)
        (composePolicies policies' refs conflicts)) ∧
    ∀ before added after, policies = before ++ after → ∀ context : ContextContent,
      context.operation ≠ .classify →
      (Allowed (accessOn (before ++ added :: after) refs conflicts context) →
        Allowed (accessOn policies refs conflicts context)) ∧
      (Allowed (disclosureOn (before ++ added :: after) refs conflicts context) →
        Allowed (disclosureOn policies refs conflicts context)) := by
  intro hall
  have hrun : additionDecided (some true) (some false) = .ok (false, true) := by
    decide +kernel
  obtain ⟨audit, review, context, hdelete, halone, hboth⟩ := additionDecided_ok hrun
  obtain ⟨-, hadd⟩ := hall [audit] [noteId] [] (List.cons_ne_nil _ _)
  have hallowed := (hadd [audit] review [] rfl context (by rw [hdelete]; decide)).1 (hboth.mpr rfl)
  exact Bool.false_ne_true (halone.mp hallowed)

/-- Without holds, the added policy releases none. -/
theorem composition_restricts_iff_unheld : ∃ (audit review : InformationPolicy)
    (context : ContextContent), context.operation = .delete ∧
    Allowed (accessOn ([audit] ++ review :: []) [noteId] [] context) ∧
    ¬ Releases [audit] review [] := by
  have hrun : additionDecided none none = .ok (true, true) := by
    decide +kernel
  obtain ⟨audit, review, context, hdelete, halone, hboth⟩ := additionDecided_ok hrun
  have hrestricts := (composition_restricts_iff (List.cons_ne_nil audit []) [noteId] []).2 [audit]
    review [] rfl context
  refine ⟨audit, review, context, hdelete, hboth.mpr rfl, fun hreleases => ?_⟩
  exact (hrestricts.1 (hboth.mpr rfl)).mp (halone.mpr rfl) ⟨hdelete, hreleases⟩

end Noema
