import Noema.InformationPayloads

/-!
# The policy engine

`compose_policies` joins the policies of an information and of everything it was derived
from, field by field; `InformationGovernanceEngine` resolves those policies through the
recorded lineages and bindings and decides requests on their composition.
-/
namespace Noema

/-! ## Operation tables -/

namespace InformationOperation

/-- `_CONTENT_OPERATIONS`. -/
def contentOperations : List InformationOperation :=
  [read, retrieve, reason, modelContext, workAssign, delete, classify, sharedIndex, telemetry,
   externalConnector, crossAgentShare, learn, evaluate]

/-- `_PURPOSE_OPERATIONS`. -/
def purposeOperations : List InformationOperation := contentOperations ++ [disclose, declassify]

/-- `_RECIPIENT_OPERATIONS`. -/
def recipientOperations : List InformationOperation := contentOperations ++ [disclose]

/-- `_TRUST_DOMAIN_OPERATIONS` and `_LOCALITY_OPERATIONS`. -/
def trustDomainOperations : List InformationOperation := recipientOperations ++ [declassify]

/-- `_PROVIDER_REQUIRED_OPERATIONS`. -/
def providerRequiredOperations : List InformationOperation := [modelContext, externalConnector]

/-- `_SHARING_OPERATIONS`. -/
def sharingOperations : List InformationOperation := [workAssign, sharedIndex, crossAgentShare]

/-- `_PRINCIPAL_DESTINATION_OPERATIONS`. -/
def principalDestinationOperations : List InformationOperation := [workAssign, crossAgentShare]

/-- `_SECONDARY_USE_OPERATIONS`. -/
def secondaryUseOperations : List InformationOperation := [learn, evaluate]

/-- `_ALL_RESTRICTED_OPERATIONS`. -/
def allRestrictedOperations : List InformationOperation :=
  members.filter fun operation => operation ≠ unknown ∧ operation ≠ classify

end InformationOperation

open InformationOperation

/-! ## Composition -/

/-- A conflict that affects every restricted operation. -/
def restrictedConflict (kind : PolicyConflictKind) : PolicyConflict :=
  ⟨kind, allRestrictedOperations, by decide, by decide⟩

/-- A conflict that there is under a condition. -/
def conflictIf (condition : Prop) [Decidable condition] (conflict : PolicyConflict) :
    List PolicyConflict :=
  if condition then [conflict] else []

/-- `_intersection` and `_enum_intersection`, without the order. -/
def intersection {α : Type} [DecidableEq α] : List (List α) → List α
  | [] => []
  | first :: rest => first.filter fun value => rest.all fun other => value ∈ other

/-- `max(values, key=key)`, of a first value and the others: the first of the greatest. -/
def greatest {α : Type} (key : α → Int) (first : α) (rest : List α) : α :=
  rest.foldl (fun best other => if key best < key other then other else best) first

/-- `max(values, key=_CLASSIFICATION_RANK.__getitem__)`. -/
def strictest (first : Classification) (rest : List Classification) : Classification :=
  greatest (fun classification => classification.rank) first rest

/-- `max(values)`, if there is one. -/
def latestOf : List Datetime → Option Datetime
  | [] => none
  | first :: rest => some (greatest Datetime.instant first rest)

/-- `min(values)`, if there is one. -/
def earliestOf : List Datetime → Option Datetime
  | [] => none
  | first :: rest => some (greatest (fun time => -time.instant) first rest)

/-- `{hold.hold_id: hold for value in values for hold in value.retention.holds}`: of two
holds with one id, the later policy's is kept. -/
def mergedHolds (values : List InformationPolicy) : KeyedTable HoldConstraint.holdId :=
  .ofList (values.flatMap fun value => value.retention.holds)

theorem earliestOf_isSome {times : List Datetime} (h : times ≠ []) :
    (earliestOf times).isSome := by
  cases times with
  | nil => exact absurd rfl h
  | cons first rest => rfl

/-- The retention of a composition. -/
def mergedRetention (values : List InformationPolicy) : RetentionPolicy where
  retainUntil := latestOf (values.filterMap fun value => value.retention.retainUntil)
  deleteAfter := earliestOf (values.filterMap fun value => value.retention.deleteAfter)
  deletionRequired := values.any fun value => value.retention.deletionRequired
  holds := (mergedHolds values).sorted
  timed := by
    intro h
    obtain ⟨value, hvalue, hrequired⟩ := List.any_eq_true.mp h
    obtain ⟨time, htime⟩ := Option.isSome_iff_exists.mp (value.retention.timed hrequired)
    refine earliestOf_isSome (List.ne_nil_of_mem (a := time) ?_)
    exact List.mem_filterMap.mpr ⟨value, hvalue, htime⟩
  unique := by
    have hperm := (List.perm_insertionSort (fun a b : HoldConstraint => a.holdId ≤ b.holdId)
      (mergedHolds values).rows).map HoldConstraint.holdId
    exact hperm.nodup_iff.mpr (mergedHolds values).unique

/-- The conflicts of the fields that were left empty, and of the retention. -/
def fieldConflicts (content : CompositionContent) : List PolicyConflict :=
  conflictIf (content.classification = .unknown) (restrictedConflict .unknownClassification) ++
    conflictIf (content.allowedPurposes = [])
      ⟨.emptyPurposes, purposeOperations, by decide, by decide⟩ ++
    conflictIf (content.allowedRecipients = [])
      ⟨.emptyRecipients, recipientOperations, by decide, by decide⟩ ++
    conflictIf (content.allowedTrustDomains = [])
      ⟨.emptyTrustDomains, trustDomainOperations, by decide, by decide⟩ ++
    conflictIf (content.allowedLocalities = [])
      ⟨.emptyLocalities, trustDomainOperations, by decide, by decide⟩ ++
    conflictIf (content.allowedProviders = [])
      ⟨.emptyProviders, providerRequiredOperations, by decide, by decide⟩ ++
    conflictIf (content.disclosureForms = [])
      ⟨.emptyDisclosureForms, [.disclose], by decide, by decide⟩ ++
    conflictIf (content.declassificationAuthorities = [])
      ⟨.noDeclassificationAuthority, [.declassify], by decide, by decide⟩ ++
    conflictIf (content.allowedSecondaryUses = [])
      ⟨.emptySecondaryUses, secondaryUseOperations, by decide, by decide⟩ ++
    conflictIf (content.retention.activeHolds ≠ [])
      ⟨.legalHoldDeletion, [.delete], by decide, by decide⟩ ++
    conflictIf (∃ deleteAfter ∈ content.retention.deleteAfter,
        ∃ retainUntil ∈ content.retention.retainUntil,
          deleteAfter.instant ≤ retainUntil.instant)
      ⟨.retentionWindow, [.delete], by decide, by decide⟩

/-- The restrictions of some policies together, with no conflict yet. -/
def joined (first : InformationPolicy) (rest : List InformationPolicy)
    (sourceInformationIds : List String) : CompositionContent :=
  let values := first :: rest
  { sourcePolicyIds := values.map fun value => value.policyId
    sourceInformationIds
    originDomains := values.flatMap fun value => value.originDomains
    classification := strictest first.classification (rest.map fun value => value.classification)
    allowedPurposes := intersection (values.map fun value => value.allowedPurposes)
    allowedRecipients := intersection (values.map fun value => value.allowedRecipients)
    allowedTrustDomains := intersection (values.map fun value => value.allowedTrustDomains)
    allowedLocalities := intersection (values.map fun value => value.allowedLocalities)
    allowedProviders := intersection (values.map fun value => value.allowedProviders)
    crossAgentSharing := values.all fun value => value.crossAgentSharing
    retention := mergedRetention values
    disclosureForms := intersection (values.map fun value => value.disclosureForms)
    declassificationAuthorities :=
      intersection (values.map fun value => value.declassificationAuthorities)
    allowedSecondaryUses := intersection (values.map fun value => value.allowedSecondaryUses)
    secondaryUseSemanticsVersion :=
      if values.all fun value => value.secondaryUseSemanticsVersion = 1 then 1 else 2
    conflicts := [] }

/-- `_failed_composition`, before the id is computed. -/
def failedComposition (sourceInformationIds : List String) (conflicts : List PolicyConflict) :
    CompositionContent :=
  { sourcePolicyIds := [], sourceInformationIds, originDomains := ["unknown"],
    classification := .unknown, allowedPurposes := [], allowedRecipients := [],
    allowedTrustDomains := [], allowedLocalities := [], allowedProviders := [],
    crossAgentSharing := false,
    retention :=
      { retainUntil := none, deleteAfter := none, deletionRequired := false, holds := [],
        timed := by simp, unique := by simp },
    disclosureForms := [], declassificationAuthorities := [], allowedSecondaryUses := [],
    secondaryUseSemanticsVersion := 1, conflicts }

/-- `compose_policies`, before the id is computed. -/
def composePolicies (policies : List InformationPolicy) (sourceInformationIds : List String)
    (extraConflicts : List PolicyConflict) : CompositionContent :=
  match policies.insertionSort fun a b => a.policyId ≤ b.policyId with
  | [] =>
    failedComposition sourceInformationIds
      (extraConflicts ++ [restrictedConflict .missingPolicyVersion])
  | first :: rest =>
    let content := joined first rest sourceInformationIds
    { content with conflicts := extraConflicts ++ fieldConflicts content }

section Engine

variable (ids : InformationIds)

/-! ## Resolution -/

/-- Decisions of one kind, by their ids. -/
abbrev DecisionTable {ρ : Type} (form : DecisionForm ρ) :=
  KeyedTable fun decision : GovernanceDecision form => decision.decisionId

/-- `InformationGovernanceProjection`. -/
structure InformationGovernance where
  lastEventId : Option String
  lastSequence : Nat
  policies : KeyedTable InformationPolicy.policyId
  lineages : KeyedTable fun lineage : InformationLineage => lineage.informationId
  bindings : KeyedTable fun binding : PolicyBinding => binding.informationId
  quarantines : KeyedTable fun quarantine : QuarantinedInformationRef => quarantine.informationId
  quarantineRecords : KeyedTable QuarantinedInformationRef.quarantineId
  accessDecisions : DecisionTable accessForm
  disclosureDecisions : DecisionTable disclosureForm
  declassificationDecisions : DecisionTable declassificationForm
  declassifiedViews :
    KeyedTable fun view : DeclassifiedDisclosureView ids => view.informationRef.informationId

namespace InformationGovernance

variable {ids} (p : InformationGovernance ids)

def policy (policyId : String) : Option InformationPolicy := p.policies.find policyId

def lineage (informationId : String) : Option InformationLineage := p.lineages.find informationId

def binding (informationId : String) : Option PolicyBinding := p.bindings.find informationId

def quarantine (informationId : String) : Option QuarantinedInformationRef :=
  p.quarantines.find informationId

def declassifiedView (informationId : String) : Option (DeclassifiedDisclosureView ids) :=
  p.declassifiedViews.find informationId

/-- What `_resolve` adds to the sets and the list it is given. -/
structure Resolution where
  policyIds : List String
  sourceIds : List String
  conflicts : List PolicyConflict

/-- What two calls of `_resolve` add. -/
def Resolution.append (r s : Resolution) : Resolution :=
  ⟨r.policyIds ++ s.policyIds, r.sourceIds ++ s.sourceIds, r.conflicts ++ s.conflicts⟩

/-- What an object without a matching binding adds. -/
def Resolution.incomplete (informationId : String) : Resolution :=
  ⟨[], [informationId], [restrictedConflict .incompleteLineage]⟩

/-- `_resolve`.  The objects being visited are distinct and have a lineage, so `depth` is
not used up if there are fewer lineages than that (`resolve_deeper`). -/
def resolve : Nat → List String → String → Resolution
  | 0, _, informationId => .incomplete informationId
  | depth + 1, visiting, informationId =>
    if informationId ∈ visiting then ⟨[], [], [restrictedConflict .incompleteLineage]⟩
    else match p.binding informationId, p.lineage informationId with
      | some binding, some lineage =>
        if binding.lineageId ≠ lineage.lineageId then .incomplete informationId
        else if lineage.sourceInformationIds = [] then ⟨binding.policyIds, [informationId], []⟩
        else
          (lineage.sourceInformationIds.map (resolve depth (informationId :: visiting))).foldl
            Resolution.append ⟨binding.policyIds, [], []⟩
      | _, _ => .incomplete informationId

/-- What `composition_for` composes for an information. -/
def compositionOf (informationId : String) : CompositionContent :=
  match p.quarantine informationId with
  | some _ => failedComposition [informationId] [restrictedConflict .quarantined]
  | none =>
    match p.declassifiedView informationId with
    | some view =>
      match p.policy view.approvedPolicyId with
      | none => failedComposition view.sourceLineageRefs [restrictedConflict .missingPolicyVersion]
      | some approved => composePolicies [approved] view.sourceLineageRefs []
    | none =>
      let resolution := p.resolve (p.lineages.rows.length + 1) [] informationId
      let policyIds := ordered resolution.policyIds
      let missing := policyIds.filter fun policyId => (p.policy policyId).isNone
      composePolicies (policyIds.filterMap p.policy)
        (if resolution.sourceIds = [] then [informationId] else ordered resolution.sourceIds)
        (resolution.conflicts ++ missing.map fun _ => restrictedConflict .missingPolicyVersion)

/-- `composition_for`. -/
def compositionFor (informationRef : GovernedInformationRef) :
    Except PyError PolicyComposition :=
  PolicyComposition.create ids (p.compositionOf informationRef.informationId)

/-- `context_for`, with the rest of the context taken from another one. -/
def contextFor (informationRef : GovernedInformationRef) (context : ContextContent) :
    Except PyError AccessContext := do
  let composition ← p.compositionFor informationRef
  AccessContext.create ids
    { context with
      policyIds := composition.sourcePolicyIds
      sourceLineageRefs := composition.sourceInformationIds }

end InformationGovernance

end Engine

/-! ## Decisions -/

/-- A reason that there is under a condition. -/
def reasonIf (condition : Prop) [Decidable condition] (reason : DecisionReason) :
    List DecisionReason :=
  if condition then [reason] else []

/-- What `_decision` says. -/
def verdict (operation : InformationOperation) (reasons : List DecisionReason)
    (conflicts : List PolicyConflictKind) : VerdictContent :=
  if reasons = [] ∧ conflicts = [] then ⟨operation, .allow, [.permitted], []⟩
  else
    ⟨operation, .deny,
      sortedByText DecisionReason.text (reasons ++ reasonIf (conflicts ≠ []) .policyConflict),
      sortedByText PolicyConflictKind.text conflicts⟩

/-- `_decision`. -/
def policyDecision (operation : InformationOperation) (reasons : List DecisionReason)
    (conflicts : List PolicyConflictKind) : Except PyError PolicyDecision :=
  let content := verdict operation reasons conflicts
  checkedBy content.check fun checked => ⟨content, checked⟩

/-- The reasons of `_common_reasons`. -/
def commonReasons (composition : CompositionContent) (context : ContextContent)
    (operation : InformationOperation) : List DecisionReason :=
  reasonIf (composition.conflictsFor operation ≠ []) .policyConflict ++
    reasonIf (context.policyIds.insertionSort (· ≤ ·) ≠ composition.sourcePolicyIds)
      .contextPolicyMismatch ++
    reasonIf (context.sourceLineageRefs.insertionSort (· ≤ ·) ≠ composition.sourceInformationIds)
      .contextLineageMismatch ++
    reasonIf (operation ∈ purposeOperations ∧ context.purpose ∉ composition.allowedPurposes)
      .purposeNotPermitted ++
    reasonIf (operation ∈ secondaryUseOperations ∧ operation ∉ composition.allowedSecondaryUses)
      .secondaryUseNotPermitted ++
    reasonIf (operation ∈ trustDomainOperations ∧
        context.locality ∉ composition.allowedLocalities)
      .localityNotPermitted ++
    reasonIf (operation ∈ trustDomainOperations ∧
        context.sourceTrustDomain ∉ composition.allowedTrustDomains)
      .trustDomainNotPermitted ++
    reasonIf ((operation ∈ providerRequiredOperations ∨
          operation = .disclose ∧ context.providerId ≠ none) ∧
        ∀ providerId ∈ context.providerId, providerId ∉ composition.allowedProviders)
      .providerNotPermitted

/-- The reasons that `_evaluate_access` adds. -/
def accessReasons (composition : CompositionContent) (context : ContextContent) :
    List DecisionReason :=
  let operation := context.operation
  reasonIf (operation ∈ contentOperations ∧
      ∀ identity ∈ context.principal.recipientIdentities, identity ∉ composition.allowedRecipients)
      .recipientNotPermitted ++
    reasonIf (operation ∈ principalDestinationOperations ∧
        context.recipient ≠ some context.principal.principalId)
      .recipientNotPermitted ++
    reasonIf (operation ∈ principalDestinationOperations ∧
        ∀ domain ∈ context.destinationTrustDomain, domain ∉ context.principal.trustDomains)
      .principalTrustDomainMismatch ++
    reasonIf (operation ∈ principalDestinationOperations ∧
        ∀ domain ∈ context.destinationTrustDomain, domain ∉ composition.allowedTrustDomains)
      .trustDomainNotPermitted ++
    reasonIf (operation ∈ sharingOperations ∧ composition.crossAgentSharing = false)
      .sharingNotPermitted ++
    reasonIf (operation = .delete ∧ ∃ retainUntil ∈ composition.retention.retainUntil,
        context.decisionTime.instant < retainUntil.instant)
      .retentionRequiresPreservation

/-- `_evaluate_access`. -/
def evaluateAccess (composition : CompositionContent) (context : ContextContent) :
    Except PyError PolicyDecision :=
  if context.operation = .unknown then
    let content : VerdictContent := ⟨.unknown, .deny, [.unknownOperation], []⟩
    .ok ⟨content, by decide⟩
  else
    policyDecision context.operation
      (commonReasons composition context context.operation ++ accessReasons composition context)
      (composition.conflictsFor context.operation)

/-- What a quarantine lets through. -/
def QuarantinePolicy.admits (policy : QuarantinePolicy) (context : ContextContent) : Prop :=
  context.operation = .classify ∧ policy.humanResolutionRequired = false ∧
    context.locality ∈ policy.allowedLocalities ∧
    context.sourceTrustDomain ∈ policy.allowedTrustDomains

instance (policy : QuarantinePolicy) (context : ContextContent) :
    Decidable (policy.admits context) :=
  inferInstanceAs (Decidable (_ ∧ _ ∧ _ ∧ _))

/-- `_evaluate_quarantine`. -/
def evaluateQuarantine (policy : QuarantinePolicy) (context : ContextContent) : PolicyDecision :=
  if policy.admits context then
    ⟨⟨context.operation, .allow, [.permitted], []⟩, rfl⟩
  else ⟨⟨context.operation, .deny, [.quarantined], [.quarantined]⟩, rfl⟩

namespace InformationGovernance

variable (ids : InformationIds) (p : InformationGovernance ids)

/-- `decide_access`. -/
def decideAccess (request : InformationAccessRequest) :
    Except PyError InformationAccessDecision := do
  let composition ← p.compositionFor request.informationRef
  let policyDecision ← match p.quarantine request.informationRef.informationId with
    | some quarantine => .ok (evaluateQuarantine quarantine.policy request.context.toContextContent)
    | none => evaluateAccess composition.toCompositionContent request.context.toContextContent
  GovernanceDecision.create accessForm ids.accessDecision
    { request, compositionId := composition.compositionId, policyDecision,
      decidedAt := request.context.decisionTime, causalEventCursor := p.lastSequence }

/-- The reasons of `decide_disclosure`. -/
def disclosureReasons (composition : CompositionContent) (context : ContextContent) :
    List DecisionReason :=
  commonReasons composition context .disclose ++
    reasonIf (∀ recipient ∈ context.recipient, recipient ∉ composition.allowedRecipients)
      .recipientNotPermitted ++
    reasonIf (∀ domain ∈ context.destinationTrustDomain, domain ∉ composition.allowedTrustDomains)
      .trustDomainNotPermitted ++
    reasonIf (∀ form ∈ context.disclosureForm, form ∉ composition.disclosureForms)
      .disclosureFormNotPermitted ++
    reasonIf (context.operation = .crossAgentShare ∧ composition.crossAgentSharing = false)
      .sharingNotPermitted

/-- `decide_disclosure`. -/
def decideDisclosure (request : DisclosureRequest) : Except PyError DisclosureDecision := do
  let composition ← p.compositionFor request.informationRef
  let policyDecision ← policyDecision .disclose
    (disclosureReasons composition.toCompositionContent request.context.toContextContent)
    (composition.conflictsFor .disclose)
  GovernanceDecision.create disclosureForm ids.disclosureDecision
    { request, compositionId := composition.compositionId, policyDecision,
      decidedAt := request.context.decisionTime, causalEventCursor := p.lastSequence }

/-- The reasons of `decide_declassification`. -/
def declassificationReasons (proposed : Option InformationPolicy)
    (composition : CompositionContent) (context : ContextContent) : List DecisionReason :=
  commonReasons composition context .declassify ++
    reasonIf (proposed.isNone = true) .policyConflict ++
    reasonIf (∀ identity ∈ context.principal.recipientIdentities,
        identity ∉ composition.declassificationAuthorities)
      .declassificationAuthorityRequired ++
    reasonIf (∃ policy ∈ proposed, composition.classification.rank ≤ policy.classification.rank)
      .declassificationAuthorityRequired

/-- `decide_declassification`. -/
def decideDeclassification (request : DeclassificationRequest) :
    Except PyError DeclassificationDecision := do
  let composition ← p.compositionFor request.informationRef
  let proposed := p.policy request.proposedPolicyId
  let policyDecision ← policyDecision .declassify
    (declassificationReasons proposed composition.toCompositionContent
      request.context.toContextContent)
    (composition.conflictsFor .declassify ++
      if proposed.isNone then [.missingPolicyVersion] else [])
  GovernanceDecision.create declassificationForm ids.declassificationDecision
    { request, compositionId := composition.compositionId, policyDecision,
      decidedAt := request.context.decisionTime, causalEventCursor := p.lastSequence }

end InformationGovernance

end Noema
