import Mathlib.Data.List.Dedup
import Noema.IntentModels

/-!
# The records of information governance

Policies, principals, access contexts, lineages, bindings and quarantines.  What a
constructor checks is a field of the record, so no record is built that it would refuse.
An id is a prefix and the digest of the content (`InformationIds`); of the digests only
their shape is known.  All times carry a time zone, and two times are equal (`==`) if they
are the same instant.
-/
namespace Noema

instance : BEq Datetime := ⟨fun a b => a.instant == b.instant⟩

instance : ReflBEq Datetime := ⟨fun {a} => beq_self_eq_true a.instant⟩

theorem beq_self_and {α β : Type} [BEq α] [ReflBEq α] [BEq β] [ReflBEq β] (a : α) (b : β) :
    (a == a && b == b) = true := by
  rw [beq_self_eq_true, beq_self_eq_true, Bool.and_self]

/-! ## Opaque ids -/

/-- `_require_opaque`. -/
def requireOpaqueId (value name : String) : Except PyError Unit :=
  refuse (isOpaqueId value = false) s!"{name} must be an opaque governance identifier"

/-- `[0-9a-f]{32}`. -/
def isHexText (digits : List Char) : Bool :=
  digits.length = 32 && digits.all fun c => c.isDigit || ('a' ≤ c && c ≤ 'f')

/-- `hexdigest()[:32]`. -/
structure Digest where
  text : String
  hex : isHexText text.toList = true
deriving DecidableEq

/-- The id of a content: `_canonical_id(kind, content)`, by the content's digest. -/
def Digest.id (digest : Digest) (kind : String) : String := kind ++ "_" ++ digest.text

/-- `[a-z][a-z0-9_]{1,23}`. -/
def isIdPrefix : List Char → Bool
  | first :: rest =>
    first.isLower && 1 ≤ rest.length && rest.length ≤ 23 &&
      rest.all fun c => c.isLower || c.isDigit || c = '_'
  | [] => false

theorem isOpaqueId_of {value : String} {chars digits : List Char}
    (hvalue : value.toList = chars ++ '_' :: digits) (hchars : isIdPrefix chars = true)
    (hdigits : isHexText digits = true) : isOpaqueId value = true := by
  simp only [isHexText, Bool.and_eq_true, decide_eq_true_eq] at hdigits
  obtain ⟨hlen, hhex⟩ := hdigits
  have hcut : (chars ++ '_' :: digits).length - 33 = chars.length := by
    rw [List.length_append, List.length_cons, hlen]
    omega
  unfold isOpaqueId
  dsimp only
  rw [hvalue, hcut, List.take_left, List.drop_left]
  cases chars with
  | nil => cases hchars
  | cons first rest =>
    simp only [isIdPrefix, Bool.and_eq_true] at hchars
    obtain ⟨⟨⟨hfirst, hlow⟩, hhigh⟩, hrest⟩ := hchars
    show (_ && _ && _ && _ && _ && _ && _) = true
    rw [hfirst, hlow, hhigh, hrest, hhex, decide_eq_true hlen]
    rfl

theorem Digest.isOpaqueId_id (digest : Digest) {kind : String}
    (h : isIdPrefix kind.toList = true) : isOpaqueId (digest.id kind) = true := by
  refine isOpaqueId_of ?_ h digest.hex
  rw [Digest.id, String.toList_append, String.toList_append, List.append_assoc]
  rfl

/-- `_unique`. -/
def requireDistinct (values : List String) (name : String) (required : Bool) :
    Except PyError Unit := do
  refuse (required = true ∧ values = []) s!"{name} must be non-empty"
  refuse (∃ value ∈ values, blank value) s!"{name} must contain non-empty values"
  refuse (¬values.Nodup) s!"{name} must be unique"

/-- `tuple(sorted(set(values)))`. -/
def ordered (values : List String) : List String := values.dedup.insertionSort (· ≤ ·)

@[simp] theorem mem_ordered {value : String} {values : List String} :
    value ∈ ordered values ↔ value ∈ values := by
  rw [ordered, List.mem_insertionSort, List.mem_dedup]

theorem ordered_nodup (values : List String) : (ordered values).Nodup :=
  (List.perm_insertionSort _ _).nodup_iff.mpr values.nodup_dedup

/-- Two lists with the same values are ordered to the same list. -/
theorem ordered_congr {values others : List String} (h : ∀ v, v ∈ values ↔ v ∈ others) :
    ordered values = ordered others := by
  have hperm : (ordered values).Perm (ordered others) := by
    refine (List.perm_ext_iff_of_nodup (ordered_nodup _) (ordered_nodup _)).mpr fun v => ?_
    rw [mem_ordered, mem_ordered, h]
  exact hperm.eq_of_pairwise (fun a b _ _ hab hba => le_antisymm hab hba)
    (List.pairwise_insertionSort _ _) (List.pairwise_insertionSort _ _)

@[simp] theorem ordered_ordered (values : List String) : ordered (ordered values) = ordered values :=
  ordered_congr fun _ => mem_ordered

/-! ## Enumerations -/

/-- `Enum(value)`, of the enumeration with these members. -/
def enumOf {α : Type} (name : String) (members : List α) (text : α → String) (value : String) :
    Except PyError α :=
  match members.find? fun member => text member = value with
  | some member => .ok member
  | none => .error (.valueError s!"'{value}' is not a valid {name}")

/-- The members of an enumeration in the order of their texts. -/
def sortedByText {α : Type} [DecidableEq α] (text : α → String) (values : List α) : List α :=
  values.dedup.insertionSort fun a b => text a ≤ text b

@[simp] theorem mem_sortedByText {α : Type} [DecidableEq α] {text : α → String} {value : α}
    {values : List α} : value ∈ sortedByText text values ↔ value ∈ values := by
  rw [sortedByText, List.mem_insertionSort, List.mem_dedup]

inductive Classification
  | publicInformation
  | internal
  | confidential
  | restricted
  | unknown
deriving DecidableEq, Repr

inductive InformationOperation
  | read
  | retrieve
  | reason
  | modelContext
  | workAssign
  | disclose
  | delete
  | declassify
  | classify
  | sharedIndex
  | telemetry
  | externalConnector
  | crossAgentShare
  | learn
  | evaluate
  | unknown
deriving DecidableEq, Repr

inductive DecisionDisposition
  | allow
  | deny
deriving DecidableEq, Repr

inductive DisclosureForm
  | full
  | redacted
  | abstracted
deriving DecidableEq, Repr

inductive LineageTransformation
  | source
  | derivation
  | redaction
  | abstraction
deriving DecidableEq, Repr

inductive PolicyConflictKind
  | unknownClassification
  | emptyPurposes
  | emptyRecipients
  | emptyTrustDomains
  | emptyLocalities
  | emptyProviders
  | emptyDisclosureForms
  | emptySecondaryUses
  | retentionWindow
  | legalHoldDeletion
  | noDeclassificationAuthority
  | incompleteLineage
  | missingPolicyVersion
  | quarantined
deriving DecidableEq, Repr

inductive DecisionReason
  | permitted
  | policyConflict
  | purposeNotPermitted
  | recipientNotPermitted
  | trustDomainNotPermitted
  | principalTrustDomainMismatch
  | localityNotPermitted
  | providerNotPermitted
  | sharingNotPermitted
  | disclosureFormNotPermitted
  | secondaryUseNotPermitted
  | retentionRequiresPreservation
  | declassificationAuthorityRequired
  | contextPolicyMismatch
  | contextLineageMismatch
  | quarantined
  | unknownOperation
deriving DecidableEq, Repr

namespace Classification

/-- `classification.value`. -/
def text : Classification → String
  | publicInformation => "public"
  | internal => "internal"
  | confidential => "confidential"
  | restricted => "restricted"
  | unknown => "unknown"

/-- `Classification(value)`. -/
def ofText : String → Except PyError Classification :=
  enumOf "Classification" [publicInformation, internal, confidential, restricted, unknown] text

/-- `_CLASSIFICATION_RANK`. -/
def rank : Classification → Nat
  | publicInformation => 0
  | internal => 1
  | confidential => 2
  | restricted => 3
  | unknown => 4

end Classification

namespace InformationOperation

/-- `operation.value`. -/
def text : InformationOperation → String
  | read => "read"
  | retrieve => "retrieve"
  | reason => "reason"
  | modelContext => "model_context"
  | workAssign => "work_assign"
  | disclose => "disclose"
  | delete => "delete"
  | declassify => "declassify"
  | classify => "classify"
  | sharedIndex => "shared_index"
  | telemetry => "telemetry"
  | externalConnector => "external_connector"
  | crossAgentShare => "cross_agent_share"
  | learn => "learn"
  | evaluate => "evaluate"
  | unknown => "unknown"

/-- `tuple(InformationOperation)`. -/
def members : List InformationOperation :=
  [read, retrieve, reason, modelContext, workAssign, disclose, delete, declassify, classify,
   sharedIndex, telemetry, externalConnector, crossAgentShare, learn, evaluate, unknown]

/-- `InformationOperation(value)`. -/
def ofText : String → Except PyError InformationOperation :=
  enumOf "InformationOperation" members text

theorem ofText_text (operation : InformationOperation) : ofText operation.text = .ok operation := by
  cases operation <;> rfl

end InformationOperation

namespace DecisionDisposition

/-- `disposition.value`. -/
def text : DecisionDisposition → String
  | allow => "allow"
  | deny => "deny"

/-- `DecisionDisposition(value)`. -/
def ofText : String → Except PyError DecisionDisposition :=
  enumOf "DecisionDisposition" [allow, deny] text

end DecisionDisposition

namespace DisclosureForm

/-- `form.value`. -/
def text : DisclosureForm → String
  | full => "full"
  | redacted => "redacted"
  | abstracted => "abstracted"

/-- `DisclosureForm(value)`. -/
def ofText : String → Except PyError DisclosureForm :=
  enumOf "DisclosureForm" [full, redacted, abstracted] text

theorem ofText_text (form : DisclosureForm) : ofText form.text = .ok form := by
  cases form <;> rfl

end DisclosureForm

/-- `LineageTransformation(value)`. -/
def LineageTransformation.ofText : String → Except PyError LineageTransformation
  | "source" => .ok .source
  | "derivation" => .ok .derivation
  | "redaction" => .ok .redaction
  | "abstraction" => .ok .abstraction
  | text => .error (.valueError s!"'{text}' is not a valid LineageTransformation")

namespace PolicyConflictKind

/-- `kind.value`. -/
def text : PolicyConflictKind → String
  | unknownClassification => "unknown_classification"
  | emptyPurposes => "empty_purposes"
  | emptyRecipients => "empty_recipients"
  | emptyTrustDomains => "empty_trust_domains"
  | emptyLocalities => "empty_localities"
  | emptyProviders => "empty_providers"
  | emptyDisclosureForms => "empty_disclosure_forms"
  | emptySecondaryUses => "empty_secondary_uses"
  | retentionWindow => "retention_window"
  | legalHoldDeletion => "legal_hold_deletion"
  | noDeclassificationAuthority => "no_declassification_authority"
  | incompleteLineage => "incomplete_lineage"
  | missingPolicyVersion => "missing_policy_version"
  | quarantined => "quarantined"

/-- `PolicyConflictKind(value)`. -/
def ofText : String → Except PyError PolicyConflictKind :=
  enumOf "PolicyConflictKind"
    [unknownClassification, emptyPurposes, emptyRecipients, emptyTrustDomains, emptyLocalities,
     emptyProviders, emptyDisclosureForms, emptySecondaryUses, retentionWindow,
     legalHoldDeletion, noDeclassificationAuthority, incompleteLineage, missingPolicyVersion,
     quarantined] text

end PolicyConflictKind

namespace DecisionReason

/-- `reason.value`. -/
def text : DecisionReason → String
  | permitted => "permitted"
  | policyConflict => "policy_conflict"
  | purposeNotPermitted => "purpose_not_permitted"
  | recipientNotPermitted => "recipient_not_permitted"
  | trustDomainNotPermitted => "trust_domain_not_permitted"
  | principalTrustDomainMismatch => "principal_trust_domain_mismatch"
  | localityNotPermitted => "locality_not_permitted"
  | providerNotPermitted => "provider_not_permitted"
  | sharingNotPermitted => "sharing_not_permitted"
  | disclosureFormNotPermitted => "disclosure_form_not_permitted"
  | secondaryUseNotPermitted => "secondary_use_not_permitted"
  | retentionRequiresPreservation => "retention_requires_preservation"
  | declassificationAuthorityRequired => "declassification_authority_required"
  | contextPolicyMismatch => "context_policy_mismatch"
  | contextLineageMismatch => "context_lineage_mismatch"
  | quarantined => "quarantined"
  | unknownOperation => "unknown_operation"

/-- `DecisionReason(value)`. -/
def ofText : String → Except PyError DecisionReason :=
  enumOf "DecisionReason"
    [permitted, policyConflict, purposeNotPermitted, recipientNotPermitted,
     trustDomainNotPermitted, principalTrustDomainMismatch, localityNotPermitted,
     providerNotPermitted, sharingNotPermitted, disclosureFormNotPermitted,
     secondaryUseNotPermitted, retentionRequiresPreservation,
     declassificationAuthorityRequired, contextPolicyMismatch, contextLineageMismatch,
     quarantined, unknownOperation] text

end DecisionReason

/-! ## Policies -/

/-- `HoldConstraint`. -/
structure HoldConstraint where
  holdId : String
  authorityId : String
  active : Bool
  checked : (do
    requireOpaqueId holdId "hold id"
    requireText authorityId "hold authority") = .ok ()
deriving DecidableEq

/-- `RetentionPolicy`. -/
structure RetentionPolicy where
  retainUntil : Option Datetime
  deleteAfter : Option Datetime
  deletionRequired : Bool
  holds : List HoldConstraint
  timed : deletionRequired = true → deleteAfter.isSome
  unique : (holds.map HoldConstraint.holdId).Nodup

instance : BEq RetentionPolicy :=
  ⟨fun a b => a.retainUntil == b.retainUntil && a.deleteAfter == b.deleteAfter &&
    a.deletionRequired == b.deletionRequired && a.holds == b.holds⟩

instance : ReflBEq RetentionPolicy :=
  ⟨fun {a} => by
    show (_ && _ && _ && _) = true
    simp only [beq_self_eq_true, Bool.and_self]⟩

/-- `active_holds`. -/
def RetentionPolicy.activeHolds (retention : RetentionPolicy) : List HoldConstraint :=
  retention.holds.filter HoldConstraint.active

/-- What an information policy says, and what its id is made of. -/
structure PolicyContent where
  version : Int
  originDomains : List String
  classification : Classification
  allowedPurposes : List String
  allowedRecipients : List String
  allowedTrustDomains : List String
  allowedLocalities : List String
  allowedProviders : List String
  crossAgentSharing : Bool
  retention : RetentionPolicy
  disclosureForms : List DisclosureForm
  declassificationAuthorities : List String
  recordedAt : Datetime
  allowedSecondaryUses : List InformationOperation
  secondaryUseSemanticsVersion : Int
deriving BEq, ReflBEq

/-- `InformationPolicy.__post_init__`. -/
def PolicyContent.check (content : PolicyContent) (policyId : String) : Except PyError Unit := do
  requireOpaqueId policyId "information policy id"
  refuse (content.version ≤ 0) "information policy version must be positive"
  requireDistinct content.originDomains "policy origin domains" true
  requireDistinct content.allowedPurposes "policy purposes" false
  requireDistinct content.allowedRecipients "policy recipients" false
  requireDistinct content.allowedTrustDomains "policy trust domains" false
  requireDistinct content.allowedLocalities "policy localities" false
  requireDistinct content.allowedProviders "policy providers" false
  requireDistinct content.declassificationAuthorities "policy declassification authorities" false
  refuse (¬content.disclosureForms.Nodup) "policy disclosure forms must be unique"
  refuse (content.secondaryUseSemanticsVersion ≠ 1 ∧ content.secondaryUseSemanticsVersion ≠ 2)
    "unsupported secondary-use policy semantics"
  refuse (∃ use ∈ content.allowedSecondaryUses, use ≠ .learn ∧ use ≠ .evaluate)
    "policy secondary uses may contain only learn/evaluate"
  refuse (¬content.allowedSecondaryUses.Nodup) "policy secondary uses must be unique"
  refuse (content.secondaryUseSemanticsVersion = 1 ∧ content.allowedSecondaryUses ≠ [])
    "legacy policies cannot grant secondary use"

/-- `InformationPolicy`. -/
structure InformationPolicy extends PolicyContent where
  policyId : String
  checked : toPolicyContent.check policyId = .ok ()

instance : BEq InformationPolicy :=
  ⟨fun a b => a.policyId == b.policyId && a.toPolicyContent == b.toPolicyContent⟩

instance : ReflBEq InformationPolicy := ⟨fun {a} => beq_self_and a.policyId a.toPolicyContent⟩

/-- The content that `InformationPolicy.create` makes of it. -/
def PolicyContent.normalized (content : PolicyContent) : PolicyContent :=
  { content with
    originDomains := ordered content.originDomains
    allowedPurposes := ordered content.allowedPurposes
    allowedRecipients := ordered content.allowedRecipients
    allowedTrustDomains := ordered content.allowedTrustDomains
    allowedLocalities := ordered content.allowedLocalities
    allowedProviders := ordered content.allowedProviders
    disclosureForms := sortedByText DisclosureForm.text content.disclosureForms
    declassificationAuthorities := ordered content.declassificationAuthorities
    allowedSecondaryUses := sortedByText InformationOperation.text content.allowedSecondaryUses
    secondaryUseSemanticsVersion := 2 }

/-! ## Principals and contexts -/

/-- What a principal snapshot says. -/
structure PrincipalContent where
  principalId : String
  roles : List String
  groups : List String
  trustDomains : List String
  capturedAt : Datetime
deriving BEq, ReflBEq

/-- `PrincipalSnapshot.__post_init__`. -/
def PrincipalContent.check (content : PrincipalContent) (snapshotId : String) :
    Except PyError Unit := do
  requireOpaqueId snapshotId "principal snapshot id"
  requireText content.principalId "principal id"
  requireDistinct content.roles "principal roles" false
  requireDistinct content.groups "principal groups" false
  requireDistinct content.trustDomains "principal trust domains" true

/-- `PrincipalSnapshot`. -/
structure PrincipalSnapshot extends PrincipalContent where
  snapshotId : String
  checked : toPrincipalContent.check snapshotId = .ok ()

instance : BEq PrincipalSnapshot :=
  ⟨fun a b => a.snapshotId == b.snapshotId && a.toPrincipalContent == b.toPrincipalContent⟩

instance : ReflBEq PrincipalSnapshot := ⟨fun {a} => beq_self_and a.snapshotId a.toPrincipalContent⟩

/-- The content that `PrincipalSnapshot.create` makes of it. -/
def PrincipalContent.normalized (content : PrincipalContent) : PrincipalContent :=
  { content with
    roles := ordered content.roles
    groups := ordered content.groups
    trustDomains := ordered content.trustDomains }

/-- `recipient_identities`. -/
def PrincipalContent.recipientIdentities (content : PrincipalContent) : List String :=
  content.principalId :: content.roles ++ content.groups

/-- What an access context says. -/
structure ContextContent where
  actorId : String
  principal : PrincipalSnapshot
  purpose : String
  operation : InformationOperation
  sourceTrustDomain : String
  destinationTrustDomain : Option String
  recipient : Option String
  decisionTime : Datetime
  policyIds : List String
  sourceLineageRefs : List String
  locality : String
  providerId : Option String
  providerSecurityPosture : List String
  disclosureForm : Option DisclosureForm
deriving BEq, ReflBEq

/-- `AccessContext.__post_init__`. -/
def ContextContent.check (content : ContextContent) (contextId : String) :
    Except PyError Unit := do
  requireOpaqueId contextId "access context id"
  requireText content.actorId "access actor"
  requireText content.purpose "access purpose"
  requireText content.sourceTrustDomain "source trust domain"
  requireText content.locality "processing locality"
  requireDistinct content.policyIds "access policy ids" false
  requireDistinct content.sourceLineageRefs "access lineage refs" false
  requireDistinct content.providerSecurityPosture "provider posture" false
  content.policyIds.forM (requireOpaqueId · "access policy id")
  content.sourceLineageRefs.forM (requireOpaqueId · "access lineage ref")

/-- `AccessContext`. -/
structure AccessContext extends ContextContent where
  contextId : String
  checked : toContextContent.check contextId = .ok ()

instance : BEq AccessContext :=
  ⟨fun a b => a.contextId == b.contextId && a.toContextContent == b.toContextContent⟩

instance : ReflBEq AccessContext := ⟨fun {a} => beq_self_and a.contextId a.toContextContent⟩

/-- The content that `AccessContext.create` makes of it. -/
def ContextContent.normalized (content : ContextContent) : ContextContent :=
  { content with
    policyIds := ordered content.policyIds
    sourceLineageRefs := ordered content.sourceLineageRefs
    providerSecurityPosture := ordered content.providerSecurityPosture }

/-- `GovernedInformationRef`. -/
structure GovernedInformationRef where
  informationId : String
  checked : requireOpaqueId informationId "governed information id" = .ok ()
deriving DecidableEq

/-! ## Lineages, bindings and quarantines -/

/-- What a lineage says. -/
structure LineageContent where
  informationId : String
  sourceInformationIds : List String
  transformation : LineageTransformation
  recordedAt : Datetime
deriving BEq, ReflBEq

/-- `InformationLineage.__post_init__`. -/
def LineageContent.check (content : LineageContent) (lineageId : String) :
    Except PyError Unit := do
  requireOpaqueId lineageId "information lineage id"
  requireOpaqueId content.informationId "lineage information id"
  content.sourceInformationIds.forM (requireOpaqueId · "lineage source information id")
  refuse (¬content.sourceInformationIds.Nodup) "lineage source information ids must be unique"
  if content.transformation = .source then
    refuse (content.sourceInformationIds ≠ []) "source lineage cannot name parent information"
  else
    refuse (content.sourceInformationIds = []) "derived lineage requires source information"
  refuse (content.informationId ∈ content.sourceInformationIds)
    "information lineage cannot reference itself"

/-- `InformationLineage`. -/
structure InformationLineage extends LineageContent where
  lineageId : String
  checked : toLineageContent.check lineageId = .ok ()

instance : BEq InformationLineage :=
  ⟨fun a b => a.lineageId == b.lineageId && a.toLineageContent == b.toLineageContent⟩

/-- What a binding says. -/
structure BindingContent where
  informationId : String
  lineageId : String
  policyIds : List String
  boundAt : Datetime
deriving BEq, ReflBEq

/-- `PolicyBinding.__post_init__`. -/
def BindingContent.check (content : BindingContent) (bindingId : String) :
    Except PyError Unit := do
  requireOpaqueId bindingId "policy binding id"
  requireOpaqueId content.informationId "bound information id"
  requireOpaqueId content.lineageId "binding lineage id"
  content.policyIds.forM (requireOpaqueId · "bound policy id")

/-- `PolicyBinding`. -/
structure PolicyBinding extends BindingContent where
  bindingId : String
  checked : toBindingContent.check bindingId = .ok ()

instance : BEq PolicyBinding :=
  ⟨fun a b => a.bindingId == b.bindingId && a.toBindingContent == b.toBindingContent⟩

/-- `QuarantinePolicy`. -/
structure QuarantinePolicy where
  allowedLocalities : List String
  allowedTrustDomains : List String
  humanResolutionRequired : Bool
  checked : (do
    requireDistinct allowedLocalities "quarantine localities" true
    requireDistinct allowedTrustDomains "quarantine trust domains" true) = .ok ()
deriving DecidableEq

/-- What a quarantine says. -/
structure QuarantineContent where
  informationId : String
  policy : QuarantinePolicy
  quarantinedAt : Datetime
deriving BEq, ReflBEq

/-- `QuarantinedInformationRef.__post_init__`. -/
def QuarantineContent.check (content : QuarantineContent) (quarantineId : String) :
    Except PyError Unit := do
  requireOpaqueId quarantineId "quarantine id"
  requireOpaqueId content.informationId "quarantined information id"

/-- `QuarantinedInformationRef`. -/
structure QuarantinedInformationRef extends QuarantineContent where
  quarantineId : String
  checked : toQuarantineContent.check quarantineId = .ok ()

instance : BEq QuarantinedInformationRef :=
  ⟨fun a b => a.quarantineId == b.quarantineId && a.toQuarantineContent == b.toQuarantineContent⟩

end Noema
