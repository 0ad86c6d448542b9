import Noema.InformationModels

/-!
# Compositions, requests, decisions and declassified views

What the policy engine works on and returns.  The three kinds of decision differ in their
request, in the operation a decision must name and in their texts (`DecisionForm`).
-/
namespace Noema

/-! ## Compositions -/

/-- `PolicyConflict`. -/
structure PolicyConflict where
  kind : PolicyConflictKind
  affectedOperations : List InformationOperation
  affects : affectedOperations ≠ []
  unique : affectedOperations.Nodup
deriving DecidableEq

/-- What conflicts are sorted by. -/
def PolicyConflict.sortKey (conflict : PolicyConflict) : List String :=
  conflict.kind.text :: conflict.affectedOperations.map InformationOperation.text

/-- What a composition says. -/
structure CompositionContent where
  sourcePolicyIds : List String
  sourceInformationIds : List String
  originDomains : List String
  classification : Classification
  allowedPurposes : List String
  allowedRecipients : List String
  allowedTrustDomains : List String
  allowedLocalities : List String
  allowedProviders : List String
  crossAgentSharing : Bool
  retention : RetentionPolicy
  disclosureForms : List DisclosureForm
  declassificationAuthorities : List String
  allowedSecondaryUses : List InformationOperation
  secondaryUseSemanticsVersion : Int
  conflicts : List PolicyConflict

namespace CompositionContent

/-- The content that `PolicyComposition.create` makes of it. -/
def normalized (content : CompositionContent) : CompositionContent :=
  { content with
    sourcePolicyIds := ordered content.sourcePolicyIds
    sourceInformationIds := ordered content.sourceInformationIds
    originDomains := ordered content.originDomains
    allowedPurposes := ordered content.allowedPurposes
    allowedRecipients := ordered content.allowedRecipients
    allowedTrustDomains := ordered content.allowedTrustDomains
    allowedLocalities := ordered content.allowedLocalities
    allowedProviders := ordered content.allowedProviders
    disclosureForms := sortedByText DisclosureForm.text content.disclosureForms
    declassificationAuthorities := ordered content.declassificationAuthorities
    allowedSecondaryUses := sortedByText InformationOperation.text content.allowedSecondaryUses
    conflicts := content.conflicts.dedup.insertionSort fun a b => a.sortKey ≤ b.sortKey }

/-- What the id is made of: before secondary uses had a meaning, they had no part in it. -/
def identity (content : CompositionContent) : CompositionContent :=
  if content.secondaryUseSemanticsVersion = 1 then
    { content with
      allowedSecondaryUses := []
      conflicts := content.conflicts.filter fun conflict => conflict.kind ≠ .emptySecondaryUses }
  else content

/-- `PolicyComposition.__post_init__`. -/
def check (content : CompositionContent) (compositionId : String) : Except PyError Unit := do
  requireOpaqueId compositionId "policy composition id"
  (content.sourcePolicyIds ++ content.sourceInformationIds).forM
    (requireOpaqueId · "policy composition reference")
  requireDistinct content.sourcePolicyIds "composition policy ids" false
  requireDistinct content.sourceInformationIds "composition information ids" false
  requireDistinct content.originDomains "composition origin domains" false
  requireDistinct content.allowedPurposes "composition purposes" false
  requireDistinct content.allowedRecipients "composition recipients" false
  requireDistinct content.allowedTrustDomains "composition trust domains" false
  requireDistinct content.allowedLocalities "composition localities" false
  requireDistinct content.allowedProviders "composition providers" false
  requireDistinct content.declassificationAuthorities "composition declassification authorities"
    false
  refuse (¬content.disclosureForms.Nodup) "composition disclosure forms must be unique"
  refuse (¬content.allowedSecondaryUses.Nodup) "composition secondary uses must be unique"
  refuse (content.secondaryUseSemanticsVersion ≠ 1 ∧ content.secondaryUseSemanticsVersion ≠ 2)
    "unsupported composition secondary-use semantics"
  refuse (content.secondaryUseSemanticsVersion = 1 ∧ content.allowedSecondaryUses ≠ [])
    "legacy compositions cannot grant secondary use"
  refuse (¬content.conflicts.Nodup) "composition conflicts must be unique"

/-- The kinds among `conflicts_for(operation)`. -/
def conflictsFor (content : CompositionContent) (operation : InformationOperation) :
    List PolicyConflictKind :=
  (content.conflicts.filter fun conflict =>
    operation ∈ conflict.affectedOperations).map PolicyConflict.kind

end CompositionContent

/-- `PolicyComposition`. -/
structure PolicyComposition extends CompositionContent where
  compositionId : String
  checked : toCompositionContent.check compositionId = .ok ()

/-! ## Requests -/

/-- What a request asks about. -/
structure RequestContent where
  informationRef : GovernedInformationRef
  context : AccessContext

/-- `InformationAccessRequest.__post_init__`. -/
def RequestContent.checkAccess (content : RequestContent) (requestId : String) :
    Except PyError Unit := do
  requireOpaqueId requestId "information access request id"
  refuse (content.context.operation = .disclose ∨ content.context.operation = .declassify)
    "internal access request uses a disclosure-only operation"

/-- `InformationAccessRequest`. -/
structure InformationAccessRequest extends RequestContent where
  requestId : String
  checked : toRequestContent.checkAccess requestId = .ok ()

/-- `DisclosureRequest.__post_init__`. -/
def RequestContent.checkDisclosure (content : RequestContent) (requestId : String) :
    Except PyError Unit := do
  requireOpaqueId requestId "disclosure request id"
  refuse (content.context.destinationTrustDomain = none ∨ content.context.recipient = none)
    "disclosure request requires destination and recipient"
  refuse (content.context.disclosureForm = none) "disclosure request requires a disclosure form"

/-- `DisclosureRequest`. -/
structure DisclosureRequest extends RequestContent where
  requestId : String
  checked : toRequestContent.checkDisclosure requestId = .ok ()

/-- What a declassification request asks for. -/
structure DeclassificationContent extends RequestContent where
  proposedPolicyId : String

/-- `DeclassificationRequest.__post_init__`. -/
def DeclassificationContent.check (content : DeclassificationContent) (requestId : String) :
    Except PyError Unit := do
  requireOpaqueId requestId "declassification request id"
  requireOpaqueId content.proposedPolicyId "proposed policy id"
  refuse (content.context.operation ≠ .declassify)
    "declassification request requires declassify operation"

/-- `DeclassificationRequest`. -/
structure DeclassificationRequest extends DeclassificationContent where
  requestId : String
  checked : toDeclassificationContent.check requestId = .ok ()

/-- Two references to the same information and two equal contexts. -/
instance : BEq RequestContent :=
  ⟨fun a b => a.informationRef == b.informationRef && a.context == b.context⟩

instance : ReflBEq RequestContent :=
  ⟨fun {a} => beq_self_and a.informationRef a.context⟩

instance : BEq InformationAccessRequest :=
  ⟨fun a b => a.requestId == b.requestId && a.toRequestContent == b.toRequestContent⟩

instance : ReflBEq InformationAccessRequest :=
  ⟨fun {a} => beq_self_and a.requestId a.toRequestContent⟩

instance : BEq DisclosureRequest :=
  ⟨fun a b => a.requestId == b.requestId && a.toRequestContent == b.toRequestContent⟩

instance : ReflBEq DisclosureRequest :=
  ⟨fun {a} => beq_self_and a.requestId a.toRequestContent⟩

instance : BEq DeclassificationRequest :=
  ⟨fun a b => (a.requestId, a.proposedPolicyId) == (b.requestId, b.proposedPolicyId) &&
    a.toRequestContent == b.toRequestContent⟩

instance : ReflBEq DeclassificationRequest :=
  ⟨fun {a} => beq_self_and (a.requestId, a.proposedPolicyId) a.toRequestContent⟩

/-! ## Decisions -/

/-- What a policy decision says. -/
structure VerdictContent where
  operation : InformationOperation
  disposition : DecisionDisposition
  reasons : List DecisionReason
  conflicts : List PolicyConflictKind
deriving DecidableEq

/-- `PolicyDecision.__post_init__`. -/
def VerdictContent.check (content : VerdictContent) : Except PyError Unit := do
  refuse (content.reasons = []) "policy decision must explain its disposition"
  refuse (¬content.reasons.Nodup) "policy decision reasons must be unique"
  refuse (¬content.conflicts.Nodup) "policy decision conflicts must be unique"
  if content.disposition = .allow then
    refuse (content.reasons ≠ [.permitted] ∨ content.conflicts ≠ [])
      "allowed policy decision must be unambiguously permitted"
  else
    refuse (.permitted ∈ content.reasons) "denied policy decision cannot claim permission"

/-- `PolicyDecision`. -/
structure PolicyDecision extends VerdictContent where
  checked : toVerdictContent.check = .ok ()
deriving DecidableEq

/-- `allowed`. -/
def VerdictContent.allowed (content : VerdictContent) : Bool := content.disposition = .allow

/-- What sets one kind of decision apart from the others. -/
structure DecisionForm (ρ : Type) where
  context : ρ → AccessContext
  operation : ρ → InformationOperation
  name : String
  idName : String
  compositionName : String
  operationMessage : String
  typeMessage : String
  idKind : String
  eventType : String
  eventPrefix : String

/-- `InformationAccessDecision`'s own. -/
def accessForm : DecisionForm InformationAccessRequest where
  context request := request.context
  operation request := request.context.operation
  name := "access decision"
  idName := "information access decision id"
  compositionName := "decision composition id"
  operationMessage := "access decision operation differs from its context"
  typeMessage := "event is not an information access decision"
  idKind := "iadecision"
  eventType := "information.access_decided"
  eventPrefix := "information-access-decided:"

/-- `DisclosureDecision`'s own. -/
def disclosureForm : DecisionForm DisclosureRequest where
  context request := request.context
  operation _ := .disclose
  name := "disclosure decision"
  idName := "disclosure decision id"
  compositionName := "disclosure composition id"
  operationMessage := "disclosure decision requires a disclosure operation"
  typeMessage := "event is not a disclosure decision"
  idKind := "disdecision"
  eventType := "information.disclosure_decided"
  eventPrefix := "information-disclosure-decided:"

/-- `DeclassificationDecision`'s own. -/
def declassificationForm : DecisionForm DeclassificationRequest where
  context request := request.context
  operation _ := .declassify
  name := "declassification decision"
  idName := "declassification decision id"
  compositionName := "declassification composition id"
  operationMessage := "declassification decision requires a declassify operation"
  typeMessage := "event is not a declassification decision"
  idKind := "declassdecision"
  eventType := "information.declassification_decided"
  eventPrefix := "information-declassification-decided:"

section Decisions

variable {ρ : Type}

/-- What a decision says. -/
structure DecisionContent (ρ : Type) where
  request : ρ
  compositionId : String
  policyDecision : PolicyDecision
  decidedAt : Datetime
  causalEventCursor : Int
deriving BEq, ReflBEq

/-- The `__post_init__` of a decision. -/
def DecisionContent.check (form : DecisionForm ρ) (content : DecisionContent ρ)
    (decisionId : String) : Except PyError Unit := do
  requireOpaqueId decisionId form.idName
  requireOpaqueId content.compositionId form.compositionName
  refuse (content.causalEventCursor < 0) s!"{form.name} causal cursor cannot be negative"
  refuse ((content.decidedAt == (form.context content.request).decisionTime) = false)
    s!"{form.name} must use its immutable context time"
  refuse (content.policyDecision.operation ≠ form.operation content.request)
    form.operationMessage

/-- A decision of one kind. -/
structure GovernanceDecision (form : DecisionForm ρ) extends DecisionContent ρ where
  decisionId : String
  checked : toDecisionContent.check form decisionId = .ok ()

instance [BEq ρ] {form : DecisionForm ρ} : BEq (GovernanceDecision form) :=
  ⟨fun a b => a.decisionId == b.decisionId && a.toDecisionContent == b.toDecisionContent⟩

instance [BEq ρ] [ReflBEq ρ] {form : DecisionForm ρ} : ReflBEq (GovernanceDecision form) :=
  ⟨fun {a} => beq_self_and a.decisionId a.toDecisionContent⟩

/-- `allowed`. -/
def DecisionContent.allowed (content : DecisionContent ρ) : Bool := content.policyDecision.allowed

end Decisions

/-- `InformationAccessDecision`. -/
abbrev InformationAccessDecision := GovernanceDecision accessForm

/-- `DisclosureDecision`. -/
abbrev DisclosureDecision := GovernanceDecision disclosureForm

/-- `DeclassificationDecision`. -/
abbrev DeclassificationDecision := GovernanceDecision declassificationForm

/-! ## Declassified views -/

/-- What the id of a declassified view is made of. -/
structure ViewContent where
  sourceInformationRef : GovernedInformationRef
  approvedPolicyId : String
  declassificationDecisionId : String
  sourcePolicyIds : List String
  sourceLineageRefs : List String
  createdAt : Datetime
  causalEventCursor : Int
deriving BEq, ReflBEq

/-! ## Ids -/

/-- `_canonical_id` on each kind of content: the digests. -/
structure InformationIds where
  policy : PolicyContent → Digest
  legacyPolicy : PolicyContent → Digest
  principal : PrincipalContent → Digest
  context : ContextContent → Digest
  lineage : LineageContent → Digest
  binding : BindingContent → Digest
  quarantine : QuarantineContent → Digest
  composition : CompositionContent → Digest
  accessRequest : RequestContent → Digest
  disclosureRequest : RequestContent → Digest
  declassificationRequest : DeclassificationContent → Digest
  accessDecision : DecisionContent InformationAccessRequest → Digest
  disclosureDecision : DecisionContent DisclosureRequest → Digest
  declassificationDecision : DecisionContent DeclassificationRequest → Digest
  view : ViewContent → Digest
  viewInformation : String → Digest

/-- The information id that a view of this id gets. -/
def InformationIds.viewInformationId (ids : InformationIds) (viewId : String) : String :=
  (ids.viewInformation viewId).id "info"

/-- `DeclassifiedDisclosureView.__post_init__`. -/
def ViewContent.check (ids : InformationIds) (content : ViewContent) (viewId : String)
    (informationRef : GovernedInformationRef) : Except PyError Unit := do
  requireOpaqueId viewId "declassified view id"
  requireOpaqueId content.approvedPolicyId "declassified view policy id"
  requireOpaqueId content.declassificationDecisionId "declassified view decision id"
  content.sourcePolicyIds.forM (requireOpaqueId · "declassified view source policy id")
  content.sourceLineageRefs.forM (requireOpaqueId · "declassified view source lineage ref")
  requireDistinct content.sourcePolicyIds "declassified view source policy ids" true
  requireDistinct content.sourceLineageRefs "declassified view source lineage refs" true
  refuse (content.causalEventCursor < 0) "declassified view causal cursor cannot be negative"
  refuse (informationRef.informationId ≠ ids.viewInformationId viewId)
    "declassified view information id is inconsistent"

/-- `DeclassifiedDisclosureView`. -/
structure DeclassifiedDisclosureView (ids : InformationIds) extends ViewContent where
  viewId : String
  informationRef : GovernedInformationRef
  checked : toViewContent.check ids viewId informationRef = .ok ()

instance {ids : InformationIds} : BEq (DeclassifiedDisclosureView ids) :=
  ⟨fun a b => (a.viewId, a.informationRef) == (b.viewId, b.informationRef) &&
    a.toViewContent == b.toViewContent⟩

instance {ids : InformationIds} : ReflBEq (DeclassifiedDisclosureView ids) :=
  ⟨fun {a} => beq_self_and (a.viewId, a.informationRef) a.toViewContent⟩

/-! ## Constructors that compute the id -/

section Creation

variable (ids : InformationIds)

/-- `PrincipalSnapshot.create`. -/
def PrincipalSnapshot.create (content : PrincipalContent) : Except PyError PrincipalSnapshot :=
  let snapshotId := (ids.principal content.normalized).id "principal"
  checkedBy (content.normalized.check snapshotId) fun checked =>
    ⟨content.normalized, snapshotId, checked⟩

/-- `AccessContext.create`. -/
def AccessContext.create (content : ContextContent) : Except PyError AccessContext :=
  let contextId := (ids.context content.normalized).id "access"
  checkedBy (content.normalized.check contextId) fun checked =>
    ⟨content.normalized, contextId, checked⟩

/-- `PolicyComposition.create`. -/
def PolicyComposition.create (content : CompositionContent) : Except PyError PolicyComposition :=
  let compositionId := (ids.composition content.normalized.identity).id "composition"
  checkedBy (content.normalized.check compositionId) fun checked =>
    ⟨content.normalized, compositionId, checked⟩

/-- `InformationAccessRequest.create`. -/
def InformationAccessRequest.create (content : RequestContent) :
    Except PyError InformationAccessRequest :=
  let requestId := (ids.accessRequest content).id "iarequest"
  checkedBy (content.checkAccess requestId) fun checked => ⟨content, requestId, checked⟩

/-- `DisclosureRequest.create`. -/
def DisclosureRequest.create (content : RequestContent) : Except PyError DisclosureRequest :=
  let requestId := (ids.disclosureRequest content).id "disrequest"
  checkedBy (content.checkDisclosure requestId) fun checked => ⟨content, requestId, checked⟩

/-- `DeclassificationRequest.create`. -/
def DeclassificationRequest.create (content : DeclassificationContent) :
    Except PyError DeclassificationRequest :=
  let requestId := (ids.declassificationRequest content).id "declassrequest"
  checkedBy (content.check requestId) fun checked => ⟨content, requestId, checked⟩

/-- The `create` of a decision. -/
def GovernanceDecision.create {ρ : Type} (form : DecisionForm ρ)
    (digest : DecisionContent ρ → Digest) (content : DecisionContent ρ) :
    Except PyError (GovernanceDecision form) :=
  let decisionId := (digest content).id form.idKind
  checkedBy (content.check form decisionId) fun checked => ⟨content, decisionId, checked⟩

/-- `GovernedInformationRef(information_id)`. -/
def GovernedInformationRef.create (informationId : String) :
    Except PyError GovernedInformationRef :=
  checkedBy (requireOpaqueId informationId "governed information id") fun checked =>
    ⟨informationId, checked⟩

/-- `DeclassifiedDisclosureView.create`. -/
def DeclassifiedDisclosureView.create (decision : DeclassificationDecision) (createdAt : Datetime)
    (causalEventCursor : Int) : Except PyError (DeclassifiedDisclosureView ids) := do
  refuse (decision.allowed = false)
    "declassified view requires an allowed declassification decision"
  refuse (createdAt.instant < decision.decidedAt.instant)
    "declassified view cannot precede its authorizing decision"
  let content : ViewContent :=
    { sourceInformationRef := decision.request.informationRef
      approvedPolicyId := decision.request.proposedPolicyId
      declassificationDecisionId := decision.decisionId
      sourcePolicyIds := decision.request.context.policyIds
      sourceLineageRefs := decision.request.context.sourceLineageRefs
      createdAt, causalEventCursor }
  let viewId := (ids.view content).id "declassview"
  let informationRef ← GovernedInformationRef.create (ids.viewInformationId viewId)
  checkedBy (content.check ids viewId informationRef) fun checked =>
    ⟨content, viewId, informationRef, checked⟩

end Creation

end Noema
