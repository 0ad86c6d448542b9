import Noema.InformationPolicies
import Noema.Lib.Folding

/-!
# The projection of information governance

`InformationGovernanceProjection` folds the canonical events into the policies, lineages,
bindings, active quarantines, decisions and declassified views.  A decision is recorded
only if it cites the event before it and is what the engine decides there.

What an `apply` that raises leaves behind is not modelled: a rebuild ends there.
-/
namespace Noema

/-- `_put_immutable`. -/
def putImmutable {α : Type} [BEq α] {key : α → String} (mapping : KeyedTable key) (value : α)
    (name : String) : Except PyError (KeyedTable key) := do
  refuse ((mapping.find (key value)).any fun existing => (existing == value) = false)
    s!"conflicting {name} identity: {key value}"
  return mapping.put value

namespace InformationGovernance

/-- `_reset`. -/
def empty (ids : InformationIds) : InformationGovernance ids where
  lastEventId := none
  lastSequence := 0
  policies := .empty
  lineages := .empty
  bindings := .empty
  quarantines := .empty
  quarantineRecords := .empty
  accessDecisions := .empty
  disclosureDecisions := .empty
  declassificationDecisions := .empty
  declassifiedViews := .empty

variable (b : InformationBuiltins) (p : InformationGovernance b.informationIds)

/-- `_require_exact_decision_cursor`. -/
def requireExactDecisionCursor (cursor : Int) (name : String) : Except PyError Unit :=
  refuse (cursor ≠ p.lastSequence) s!"{name} does not cite the exact preceding canonical head"

section Events

variable (event : Event)

/-- `POLICY_RECORDED_EVENT`. -/
def applyPolicy : Except PyError (InformationGovernance b.informationIds) := do
  let policy ← InformationPolicy.fromEvent b event
  return { p with policies := ← putImmutable p.policies policy "policy" }

/-- `LINEAGE_RECORDED_EVENT`. -/
def applyLineage : Except PyError (InformationGovernance b.informationIds) := do
  let lineage ← InformationLineage.fromEvent b event
  refuse ((p.lineage lineage.informationId).any fun existing => (existing == lineage) = false)
    "information lineage is immutable"
  refuse (∃ sourceId ∈ lineage.sourceInformationIds, (p.lineage sourceId).isNone = true)
    "derived lineage references an unknown source"
  return { p with lineages := p.lineages.put lineage }

/-- `POLICY_BOUND_EVENT`. -/
def applyBinding : Except PyError (InformationGovernance b.informationIds) := do
  let binding ← PolicyBinding.fromEvent b event
  refuse ((p.lineage binding.informationId).all fun lineage =>
      lineage.lineageId ≠ binding.lineageId)
    "policy binding requires its exact canonical lineage"
  refuse (binding.policyIds = []) "policy binding requires at least one policy version"
  refuse (∃ policyId ∈ binding.policyIds, (p.policy policyId).isNone = true)
    "policy binding references an unknown policy version"
  refuse ((p.binding binding.informationId).any fun existing => (existing == binding) = false)
    "policy binding is immutable"
  return { p with
    bindings := p.bindings.put binding
    quarantines := p.quarantines.erase binding.informationId }

/-- `INFORMATION_QUARANTINED_EVENT`. -/
def applyQuarantine : Except PyError (InformationGovernance b.informationIds) := do
  let quarantine ← QuarantinedInformationRef.fromEvent b event
  refuse ((p.quarantineRecords.find quarantine.quarantineId).any fun existing =>
      (existing == quarantine) = false)
    "conflicting quarantine identity"
  refuse ((p.quarantine quarantine.informationId).any fun existing =>
      (existing == quarantine) = false)
    "information already has a different quarantine"
  return { p with
    quarantineRecords := p.quarantineRecords.put quarantine
    quarantines := p.quarantines.put quarantine }

/-- The three kinds of decision: the table with the decision of an event, which `decide`
must return for the decision's request. -/
def recordDecision {ρ : Type} [BEq ρ] {form : DecisionForm ρ} (codec : DecisionCodec form)
    (decide : ρ → Except PyError (GovernanceDecision form))
    (decisions : DecisionTable form) : Except PyError (DecisionTable form) := do
  let decision ← GovernanceDecision.fromEvent b event codec
  p.requireExactDecisionCursor b decision.causalEventCursor form.name
  let expected ← decide decision.request
  refuse ((decision == expected) = false)
    s!"{form.name} differs from deterministic policy evaluation"
  putImmutable decisions decision form.name

/-- `INFORMATION_ACCESS_DECIDED_EVENT`. -/
def applyAccess : Except PyError (InformationGovernance b.informationIds) := do
  return { p with
    accessDecisions := ← p.recordDecision b event (accessCodec b) (p.decideAccess b.informationIds)
      p.accessDecisions }

/-- `DISCLOSURE_DECIDED_EVENT`. -/
def applyDisclosure : Except PyError (InformationGovernance b.informationIds) := do
  return { p with
    disclosureDecisions := ← p.recordDecision b event (disclosureCodec b)
      (p.decideDisclosure b.informationIds) p.disclosureDecisions }

/-- `DECLASSIFICATION_DECIDED_EVENT`. -/
def applyDeclassification : Except PyError (InformationGovernance b.informationIds) := do
  return { p with
    declassificationDecisions := ← p.recordDecision b event (declassificationCodec b)
      (p.decideDeclassification b.informationIds) p.declassificationDecisions }

/-- `self._declassification_decisions.get(decision_id)`, if it allows. -/
def allowedDeclassification (decisionId : String) : Except PyError DeclassificationDecision :=
  match (p.declassificationDecisions.find decisionId).filter fun decision => decision.allowed with
  | some decision => .ok decision
  | none => .error (.valueError "declassified view requires its canonical allowed decision")

/-- `DECLASSIFIED_VIEW_RECORDED_EVENT`. -/
def applyView : Except PyError (InformationGovernance b.informationIds) := do
  let view ← DeclassifiedDisclosureView.fromEvent b event
  p.requireExactDecisionCursor b view.causalEventCursor "declassified view"
  let decision ← p.allowedDeclassification b view.declassificationDecisionId
  let expected ← DeclassifiedDisclosureView.create b.informationIds decision view.createdAt
    p.lastSequence
  refuse ((view == expected) = false) "declassified view differs from its canonical decision"
  refuse ((p.policy view.approvedPolicyId).isNone = true)
    "declassified view references an unknown approved policy"
  return { p with
    declassifiedViews := ← putImmutable p.declassifiedViews view "declassified view" }

/-- The branch of `apply` for the type of an event, and whether there is one that handles
it. -/
def applyEvent : Except PyError (InformationGovernance b.informationIds × Bool) :=
  let handled (applied : Except PyError (InformationGovernance b.informationIds)) := do
    return (← applied, true)
  match event.type with
  | "information.policy_recorded" => handled (p.applyPolicy b event)
  | "information.lineage_recorded" => handled (p.applyLineage b event)
  | "information.policy_bound" => handled (p.applyBinding b event)
  | "information.quarantined" => handled (p.applyQuarantine b event)
  | "information.access_decided" => handled (p.applyAccess b event)
  | "information.disclosure_decided" => handled (p.applyDisclosure b event)
  | "information.declassification_decided" => handled (p.applyDeclassification b event)
  | "information.declassified_view_recorded" => handled (p.applyView b event)
  | "information.security_audit_receipt" => do
    checkSecurityAuditReceipt b event
    return (p, false)
  | _ => .ok (p, false)

/-- `apply`. -/
def apply : Except PyError (InformationGovernance b.informationIds × Bool) :=
  match event.sequence with
  | none =>
    .error (.valueError "information governance requires canonical sequenced events")
  | some sequence =>
    if sequence ≤ p.lastSequence then
      if sequence = p.lastSequence ∧ p.lastEventId = some event.id then .ok (p, false)
      else .error (.valueError "governance events must be applied in canonical order")
    else do
      let (p, handled) ← p.applyEvent b event
      return ({ p with lastEventId := some event.id, lastSequence := sequence }, handled)

end Events

/-- The state that `apply` leaves. -/
def step (p : InformationGovernance b.informationIds) (event : Event) :
    Except PyError (InformationGovernance b.informationIds) := do
  let (p, _) ← p.apply b event
  return p

/-- `rebuild`. -/
def rebuild (events : List Event) : Except PyError (InformationGovernance b.informationIds) :=
  Folding.run (step b) (empty b.informationIds) events

end InformationGovernance

end Noema
