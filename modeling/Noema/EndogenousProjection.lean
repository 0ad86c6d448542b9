import Noema.EndogenousPayloads
import Noema.EndogenousPolicy
import Noema.StrategicProjection

/-!
# The endogenous projection

`EndogenousProjection` folds the canonical events, in the order of their sequences, into the
policies, scan requests, dream epochs with their status, inquiries, activities, estimates
and agendas.  It keeps every event under its id, and a strategic projection of the same
events, by which governing intent is current.

What an `apply` that raises leaves behind is not modelled: a rebuild ends there.
-/
namespace Noema

/-- `EndogenousProjection`. -/
structure EndogenousProjection where
  events : KeyedTable Event.id
  lastSequence : Nat
  strategy : StrategicProjection
  policies : KeyedTable EndogenousPolicySnapshot.policyId
  requests : KeyedTable CognitionScanRequest.requestId
  epochs : KeyedTable DreamEpoch.epochId
  epochByTrigger : Dict String
  epochStatus : Dict DreamEpochStatus
  epochAbandonmentReason : Dict DreamAbandonmentReason
  inquiries : KeyedTable Inquiry.inquiryId
  activities : KeyedTable IntrinsicActivity.activityId
  epochActivities : Dict (List String)
  estimates : KeyedTable fun estimate : ValueOfCognitionEstimate =>
    (estimate.epochId, estimate.activityId)
  selections : KeyedTable fun selection : IntrinsicAgendaSelection => selection.epochId
  calibrations : KeyedTable CalibrationExchange.exchangeId

namespace EndogenousProjection

/-- `_reset`. -/
def empty : EndogenousProjection where
  events := .empty
  lastSequence := 0
  strategy := .empty
  policies := .empty
  requests := .empty
  epochs := .empty
  epochByTrigger := .empty
  epochStatus := .empty
  epochAbandonmentReason := .empty
  inquiries := .empty
  activities := .empty
  epochActivities := .empty
  estimates := .empty
  selections := .empty
  calibrations := .empty

variable (p : EndogenousProjection)

def event (eventId : String) : Option Event := p.events.find eventId

def policy (policyId : String) : Option EndogenousPolicySnapshot := p.policies.find policyId

def epoch (epochId : String) : Option DreamEpoch := p.epochs.find epochId

def selection (epochId : String) : Option IntrinsicAgendaSelection := p.selections.find epochId

/-- The status of an epoch. -/
def status (epochId : String) : Option DreamEpochStatus := p.epochStatus.get? epochId

/-- `active_epochs`, in another order. -/
def activeEpochs : List DreamEpoch :=
  p.epochs.rows.filter fun epoch => p.status epoch.epochId = some .active

/-- `active_epoch_for_consumer`. -/
def activeEpochForConsumer (consumerId : String) : Except PyError (Option DreamEpoch) :=
  match p.activeEpochs.filter fun epoch => epoch.consumerId = consumerId with
  | [] => .ok none
  | [epoch] => .ok (some epoch)
  | _ => .error (.valueError s!"consumer has multiple active dream epochs: {consumerId}")

/-- `activities_for_epoch`. -/
def activitiesForEpoch (epochId : String) : List IntrinsicActivity :=
  (ordered (p.epochActivities.listOf epochId)).filterMap p.activities.find

/-- `estimates_for_epoch`. -/
def estimatesForEpoch (epochId : String) : List ValueOfCognitionEstimate :=
  (p.estimates.rows.filter fun estimate => estimate.epochId = epochId).insertionSort
    fun a c => a.activityId ≤ c.activityId

/-- A governing intent is the current revision of its goal, which is live. -/
def IntentRefCurrent (ref : GoverningIntentRef) : Prop :=
  ∃ revision ∈ p.strategy.goalRevisions.find ref.goalRevisionId, revision.goalId = ref.goalId ∧
    p.strategy.currentGoalRevision ref.goalId = some revision ∧ revision.status.live = true

instance (ref : GoverningIntentRef) : Decidable (p.IntentRefCurrent ref) :=
  inferInstanceAs (Decidable (∃ revision ∈ p.strategy.goalRevisions.find ref.goalRevisionId, _))

/-- `intent_refs_are_current`. -/
def IntentRefsAreCurrent (refs : List GoverningIntentRef) : Prop :=
  refs ≠ [] ∧ ∀ ref ∈ refs, p.IntentRefCurrent ref

instance (refs : List GoverningIntentRef) : Decidable (p.IntentRefsAreCurrent refs) :=
  inferInstanceAs (Decidable (_ ∧ _))

/-- `inquiries`. -/
def sortedInquiries : List Inquiry :=
  p.inquiries.rows.insertionSort fun a c => a.inquiryId ≤ c.inquiryId

/-- What `eligible_inquiries` asks of an inquiry. -/
def Eligible (at' : Datetime) (inquiry : Inquiry) : Prop :=
  at'.instant < inquiry.expiresAt.instant ∧ p.IntentRefsAreCurrent inquiry.governingIntentRefs

instance (at' : Datetime) (inquiry : Inquiry) : Decidable (p.Eligible at' inquiry) :=
  inferInstanceAs (Decidable (_ ∧ _))

/-- `eligible_inquiries`. -/
def eligibleInquiries (at' : Datetime) : List Inquiry :=
  p.sortedInquiries.filter fun inquiry => p.Eligible at' inquiry

/-- `_require_active_epoch`; `allowExpiredTime` is without the deadline. -/
def requireActiveEpoch (epochId : String) (at' : Datetime) (allowExpiredTime : Bool) :
    Except PyError DreamEpoch :=
  match p.epoch epochId with
  | none => .error (.valueError s!"unknown dream epoch: {epochId}")
  | some epoch => do
    refuse (p.status epochId ≠ some .active) "terminal dream epoch cannot consume cognition"
    refuse (allowExpiredTime = false ∧ epoch.expiresAt.instant ≤ at'.instant)
      "expired dream epoch cannot consume cognition"
    return epoch

/-- `_require_current_intent`. -/
def requireCurrentIntent (refs : List GoverningIntentRef) : Except PyError Unit :=
  refuse (¬p.IntentRefsAreCurrent refs)
    "endogenous cognition requires current ACTIVE or BLOCKED intent"

/-- `_require_evidence`. -/
def requireEvidence (refs : List String) : Except PyError Unit := do
  refuse (refs = []) "endogenous cognition requires canonical evidence"
  refs.forM fun ref => do
    refuse (¬"event:".toList <+: ref.toList) s!"unsupported endogenous evidence reference: {ref}"
    let eventId := String.ofList (ref.toList.drop 6)
    refuse (p.event eventId = none) s!"unknown endogenous evidence event: {eventId}"

/-- `_validate_exact_head_receipt`. -/
def validateExactHeadReceipt (event : Event) : Except PyError Unit :=
  refuse ((event.metadata.get "validated_at_event_cursor").equalsInt p.lastSequence = false)
    "endogenous transition lacks exact-head admission evidence"

/-- `_validate_envelope`. -/
def validateEnvelope (event : Event) (expectedId subject : String) (timestamp : Option Datetime) :
    Except PyError Unit := do
  refuse (event.id ≠ expectedId ∨ event.subject ≠ some subject)
    "endogenous event envelope is inconsistent"
  refuse (∃ time ∈ timestamp, (event.timestamp == time) = false)
    "endogenous event timestamp is inconsistent"

/-- `_record_immutable`. -/
def recordImmutable {α κ : Type} [BEq α] [DecidableEq κ] {key : α → κ} (values : KeyedTable key)
    (value : α) (label keyText : String) : Except PyError (KeyedTable key) := do
  refuse ((values.find (key value)).any fun existing => (existing == value) = false)
    s!"{label} changed in place: {keyText}"
  return values.put value

section Events

variable (b : EndogenousBuiltins) (event : Event)

/-- `POLICY_SNAPSHOT_RECORDED_EVENT`. -/
def applyPolicy : Except PyError EndogenousProjection := do
  let policy ← EndogenousPolicySnapshot.fromDict b event.payload
  validateEnvelope event ("endogenous-policy-recorded:" ++ policy.policyId) policy.policyId none
  return { p with policies := ← recordImmutable p.policies policy "policy" policy.policyId }

/-- `COGNITION_SCAN_REQUESTED_EVENT`. -/
def applyRequest : Except PyError EndogenousProjection := do
  let request ← CognitionScanRequest.fromDict b event.payload
  validateEnvelope event ("cognition-scan-requested:" ++ request.requestId) request.requestId
    request.requestedAt
  refuse (p.policy request.policyId = none) "cognition scan references an unknown policy snapshot"
  return { p with requests := ← recordImmutable p.requests request "scan request" request.requestId }

/-- `CALIBRATION_EXCHANGE_RECORDED_EVENT`. -/
def applyCalibration : Except PyError EndogenousProjection := do
  p.validateExactHeadReceipt event
  let exchange ← CalibrationExchange.fromDict b event.payload
  validateEnvelope event ("calibration-exchange-recorded:" ++ exchange.exchangeId)
    exchange.exchangeId exchange.recordedAt
  p.requireCurrentIntent exchange.governingIntentRefs
  p.requireEvidence exchange.localEvidenceRefs
  p.requireEvidence exchange.peerEvidenceRefs
  p.requireEvidence [exchange.requestProvenanceRef, exchange.responseProvenanceRef]
  return { p with calibrations :=
    ← recordImmutable p.calibrations exchange "calibration exchange" exchange.exchangeId }

/-- The scan request that an epoch names as its trigger. -/
def triggerOf (epoch : DreamEpoch) : Except PyError Event :=
  match p.event epoch.triggerEventId with
  | some request =>
    if request.type = "endogenous.scan_requested" then .ok request
    else .error (.valueError "dream epoch trigger is not a canonical cognition scan")
  | none => .error (.valueError "dream epoch trigger is not a canonical cognition scan")

/-- The policy that an epoch pins. -/
def pinnedPolicy (epoch : DreamEpoch) : Except PyError EndogenousPolicySnapshot :=
  match p.policy epoch.policyId with
  | some policy =>
    if policy.version = epoch.policyVersion then .ok policy
    else .error (.valueError "dream epoch references an unknown policy version")
  | none => .error (.valueError "dream epoch references an unknown policy version")

/-- `DREAM_EPOCH_STARTED_EVENT`. -/
def applyEpochStarted : Except PyError EndogenousProjection := do
  p.validateExactHeadReceipt event
  let epoch ← DreamEpoch.fromDict b event.payload
  validateEnvelope event ("dream-epoch-started:" ++ epoch.epochId) epoch.epochId epoch.startedAt
  let requestEvent ← p.triggerOf epoch
  let request ← CognitionScanRequest.fromDict b requestEvent.payload
  refuse (requestEvent.sequence.map Int.ofNat ≠ some epoch.eventLogCursor)
    "dream epoch cursor must pin its scan request"
  refuse (request.policyId ≠ epoch.policyId ∨ request.budget ≠ epoch.budget ∨
      (request.requestedAt == epoch.startedAt) = false ∨
      (request.expiresAt == epoch.expiresAt) = false)
    "dream epoch differs from its canonical scan request"
  let policy ← p.pinnedPolicy epoch
  refuse (epoch.selectorId ≠ policy.selectorId ∨ epoch.selectorVersion ≠ policy.selectorVersion)
    "dream epoch selector differs from its pinned policy"
  ensureSelectorSupported policy
  refuse ((p.lastSequence : Int) ≠ epoch.eventLogCursor)
    "dream epoch must start at the exact pinned event head"
  refuse ((p.epochByTrigger.get? epoch.triggerEventId).any fun existing => existing ≠ epoch.epochId)
    "one cognition scan cannot start two dream epochs"
  let activeForConsumer ← p.activeEpochForConsumer epoch.consumerId
  refuse (activeForConsumer.any fun active => active.epochId ≠ epoch.epochId)
    "one endogenous consumer cannot own two active dream epochs"
  let epochs ← recordImmutable p.epochs epoch "dream epoch" epoch.epochId
  return { p with
    epochs
    epochByTrigger := p.epochByTrigger.put (epoch.triggerEventId, epoch.epochId)
    epochStatus := p.epochStatus.put (epoch.epochId, .active)
    epochActivities := p.epochActivities.put (epoch.epochId, p.epochActivities.listOf epoch.epochId) }

/-- `INQUIRY_RECORDED_EVENT`. -/
def applyInquiry : Except PyError EndogenousProjection := do
  p.validateExactHeadReceipt event
  let epochId ← itemText b.toBuiltins event.payload "epoch_id"
  let epoch ← p.requireActiveEpoch epochId event.timestamp false
  let inquiry ← Inquiry.fromDict b (← itemMapping event.payload "inquiry")
  validateEnvelope event ("inquiry-recorded:" ++ inquiry.inquiryId) inquiry.inquiryId
    inquiry.createdAt
  refuse (inquiry.causalCursor ≠ epoch.eventLogCursor)
    "inquiry does not cite the dream epoch causal cut"
  p.requireCurrentIntent inquiry.governingIntentRefs
  p.requireEvidence inquiry.evidenceRefs
  return { p with inquiries := ← recordImmutable p.inquiries inquiry "inquiry" inquiry.inquiryId }

/-- The inquiry that an activity names. -/
def inquiryOf (activity : IntrinsicActivity) : Except PyError Inquiry :=
  match p.inquiries.find activity.inquiryId with
  | some inquiry => .ok inquiry
  | none => .error (.valueError "intrinsic activity references an unknown inquiry")

/-- `INTRINSIC_ACTIVITY_RECORDED_EVENT`. -/
def applyActivity : Except PyError EndogenousProjection := do
  p.validateExactHeadReceipt event
  let epochId ← itemText b.toBuiltins event.payload "epoch_id"
  let epoch ← p.requireActiveEpoch epochId event.timestamp false
  let activity ← IntrinsicActivity.fromDict b (← itemMapping event.payload "activity")
  validateEnvelope event ("intrinsic-activity-recorded:" ++ epochId ++ ":" ++ activity.activityId)
    activity.activityId none
  let inquiry ← p.inquiryOf activity
  refuse (activity.causalCursor ≠ epoch.eventLogCursor)
    "intrinsic activity does not cite the dream epoch causal cut"
  refuse (inquiry.causalCursor ≠ activity.causalCursor)
    "intrinsic activity cannot renew an inquiry from an older cut"
  refuse (inquiry.expiresAt.instant ≤ event.timestamp.instant)
    "expired inquiry cannot admit fresh intrinsic activity"
  refuse (inquiry.governingIntentRefs ≠ activity.governingIntentRefs ∨
      inquiry.evidenceRefs ≠ activity.evidenceRefs)
    "intrinsic activity diverges from its inquiry provenance"
  p.requireCurrentIntent activity.governingIntentRefs
  p.requireEvidence activity.evidenceRefs
  let activities ← recordImmutable p.activities activity "intrinsic activity" activity.activityId
  return { p with
    activities
    epochActivities := p.epochActivities.put
      (epochId, (p.epochActivities.listOf epochId).insert activity.activityId) }

/-- The activity of an epoch that an estimate is about. -/
def estimatedActivity (epoch : DreamEpoch) (activityId : String) :
    Except PyError IntrinsicActivity :=
  match p.activities.find activityId with
  | some activity =>
    if activityId ∈ p.epochActivities.listOf epoch.epochId then .ok activity
    else .error (.valueError "VOC estimate references an unknown epoch activity")
  | none => .error (.valueError "VOC estimate references an unknown epoch activity")

/-- The policy of an estimate or of an agenda. -/
def policyOf (policyId message : String) : Except PyError EndogenousPolicySnapshot :=
  match p.policy policyId with
  | some policy => .ok policy
  | none => .error (.valueError message)

/-- `VOC_EVALUATED_EVENT`. -/
def applyEstimate : Except PyError EndogenousProjection := do
  p.validateExactHeadReceipt event
  let estimate ← ValueOfCognitionEstimate.fromDict b event.payload
  let epoch ← p.requireActiveEpoch estimate.epochId estimate.evaluatedAt false
  let activity ← p.estimatedActivity epoch estimate.activityId
  let policy ← p.policyOf estimate.policyId "VOC estimate references an unknown policy"
  let expected ← evaluateValueOfCognition b.endogenousIds epoch policy activity estimate.evaluatedAt
  refuse ((estimate == expected) = false)
    "VOC estimate differs from deterministic policy evaluation"
  validateEnvelope event ("voc-evaluated:" ++ epoch.epochId ++ ":" ++ activity.activityId)
    activity.activityId estimate.evaluatedAt
  let estimates ← recordImmutable p.estimates estimate "VOC estimate"
    (s!"('" ++ epoch.epochId ++ "', '" ++ activity.activityId ++ "')")
  return { p with estimates }

/-- `AGENDA_SELECTED_EVENT`. -/
def applySelection : Except PyError EndogenousProjection := do
  p.validateExactHeadReceipt event
  let selection ← IntrinsicAgendaSelection.fromDict b event.payload
  let epoch ← p.requireActiveEpoch selection.epochId selection.selectedAt false
  refuse ((p.selection selection.epochId).isSome = true)
    "a dream epoch cannot spend its budget twice"
  let policy ← p.policyOf selection.policyId "intrinsic agenda references an unknown policy"
  let activities := p.activitiesForEpoch epoch.epochId
  activities.forM fun activity => p.requireCurrentIntent activity.governingIntentRefs
  let expected ← selectIntrinsicAgenda b.endogenousIds epoch policy activities
    (p.estimatesForEpoch epoch.epochId) selection.selectedAt
  refuse ((selection == expected) = false) "intrinsic agenda differs from deterministic selection"
  validateEnvelope event ("intrinsic-agenda-selected:" ++ selection.selectionId) selection.epochId
    selection.selectedAt
  return { p with selections := p.selections.put selection }

/-- The time that a terminal event states, which is the event's. -/
def statedTime (key message : String) : Except PyError Datetime := do
  match ← b.parseDatetime (← event.payload.item key) with
  | some stated =>
    if stated == event.timestamp then return stated else .error (.valueError message)
  | none => .error (.valueError message)

/-- `DREAM_EPOCH_PREEMPTED_EVENT`. -/
def applyPreempted : Except PyError EndogenousProjection := do
  p.validateExactHeadReceipt event
  let epochId ← itemText b.toBuiltins event.payload "epoch_id"
  let epoch ← p.requireActiveEpoch epochId event.timestamp true
  let foregroundEventId ← itemText b.toBuiltins event.payload "foreground_event_id"
  match p.event foregroundEventId with
  | none => .error (.valueError "dream preemption references an unknown foreground event")
  | some foreground =>
    refuse (∀ sequence ∈ foreground.sequence, (sequence : Int) ≤ epoch.eventLogCursor)
      "foreground demand must follow the dream epoch causal cut"
  let preemptedAt ← statedTime b event "preempted_at" "dream preemption timestamp is inconsistent"
  validateEnvelope event ("dream-epoch-preempted:" ++ epochId ++ ":" ++ foregroundEventId) epochId
    preemptedAt
  refuse (event.causationId ≠ some foregroundEventId)
    "dream preemption must be caused by foreground demand"
  return { p with epochStatus := p.epochStatus.put (epochId, .preempted) }

/-- `DREAM_EPOCH_EXPIRED_EVENT`. -/
def applyExpired : Except PyError EndogenousProjection := do
  p.validateExactHeadReceipt event
  let epochId ← itemText b.toBuiltins event.payload "epoch_id"
  let epoch ← p.requireActiveEpoch epochId event.timestamp true
  let expiredAt ← statedTime b event "expired_at" "dream expiry timestamp is inconsistent"
  refuse (expiredAt.instant < epoch.expiresAt.instant)
    "dream epoch cannot expire before its pinned deadline"
  validateEnvelope event ("dream-epoch-expired:" ++ epochId) epochId expiredAt
  return { p with epochStatus := p.epochStatus.put (epochId, .expired) }

/-- `DREAM_EPOCH_ABANDONED_EVENT`. -/
def applyAbandoned : Except PyError EndogenousProjection := do
  p.validateExactHeadReceipt event
  let epochId ← itemText b.toBuiltins event.payload "epoch_id"
  let epoch ← p.requireActiveEpoch epochId event.timestamp true
  let abandonedAt ← statedTime b event "abandoned_at" "dream abandonment timestamp is inconsistent"
  let reason ← DreamAbandonmentReason.ofText (← itemText b.toBuiltins event.payload "reason")
  validateEnvelope event ("dream-epoch-abandoned:" ++ epochId) epochId abandonedAt
  refuse (event.causationId ≠ some epoch.triggerEventId)
    "dream abandonment must cite its scan trigger"
  return { p with
    epochStatus := p.epochStatus.put (epochId, .abandoned)
    epochAbandonmentReason := p.epochAbandonmentReason.put (epochId, reason) }

/-- `_apply_event`, and whether there is a branch for the event. -/
def applyEvent : Except PyError (EndogenousProjection × Bool) :=
  let handled (applied : Except PyError EndogenousProjection) := do return (← applied, true)
  match event.type with
  | "endogenous.policy_snapshot_recorded" => handled (p.applyPolicy b event)
  | "endogenous.scan_requested" => handled (p.applyRequest b event)
  | "endogenous.calibration_exchange_recorded" => handled (p.applyCalibration b event)
  | "endogenous.dream_epoch_started" => handled (p.applyEpochStarted b event)
  | "endogenous.inquiry_recorded" => handled (p.applyInquiry b event)
  | "endogenous.activity_recorded" => handled (p.applyActivity b event)
  | "endogenous.voc_evaluated" => handled (p.applyEstimate b event)
  | "endogenous.agenda_selected" => handled (p.applySelection b event)
  | "endogenous.dream_epoch_preempted" => handled (p.applyPreempted b event)
  | "endogenous.dream_epoch_expired" => handled (p.applyExpired b event)
  | "endogenous.dream_epoch_abandoned" => handled (p.applyAbandoned b event)
  | _ => .ok (p, false)

/-- `apply`. -/
def apply : Except PyError (EndogenousProjection × Bool) :=
  match p.event event.id with
  | some existing =>
    if b.sameEvent existing event then .ok (p, false)
    else .error (.valueError s!"conflicting canonical endogenous event identity: {event.id}")
  | none =>
    match event.sequence with
    | none => .error (.valueError "endogenous projection requires canonical sequenced events")
    | some sequence => do
      refuse (sequence ≤ p.lastSequence)
        "endogenous projection events must be in canonical sequence order"
      let (applied, handled) ← p.applyEvent b event
      let strategy ← applied.strategy.step b.toIntentBuiltins event
      return ({ applied with strategy, events := applied.events.put event, lastSequence := sequence },
        handled)

/-- The state that `apply` leaves. -/
def step (p : EndogenousProjection) (event : Event) : Except PyError EndogenousProjection := do
  let (p, _) ← p.apply b event
  return p

/-- `rebuild`. -/
def rebuild (events : List Event) : Except PyError EndogenousProjection :=
  Folding.run (step b) empty events

end Events

end EndogenousProjection

end Noema
