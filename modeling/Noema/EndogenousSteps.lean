import Noema.EndogenousProjection
import Noema.Lib.Folding

/-!
# What an accepted event did

Each branch of the projection accepts an event exactly if its checks pass (`applyInquiry_iff`
and its siblings), and `Transition` says of any accepted event what it checked and what it
did.
-/
namespace Noema

theorem return_iff {α : Type} {a c : α} : (pure a : Except PyError α) = .ok c ↔ a = c := by
  constructor
  · intro h
    cases h
    rfl
  · rintro rfl
    rfl

theorem beq_refused_iff {α : Type} [BEq α] {a c : α} : ¬((a == c) = false) ↔ (a == c) = true := by
  rw [Bool.not_eq_false]

namespace EndogenousProjection

variable {b : EndogenousBuiltins} {p q : EndogenousProjection} {event : Event}

/-! ## The checks that the branches share -/

/-- What `_validate_envelope` asks. -/
structure Envelope (event : Event) (expectedId subject : String) (timestamp : Option Datetime) :
    Prop where
  id : event.id = expectedId
  subject : event.subject = some subject
  timestamp : ∀ time, timestamp = some time → (event.timestamp == time) = true

theorem validateEnvelope_iff {expectedId subject : String} {timestamp : Option Datetime}
    {answer : Unit} : validateEnvelope event expectedId subject timestamp = .ok answer ↔
      Envelope event expectedId subject timestamp := by
  unfold validateEnvelope
  simp only [bind_ok_iff, refuse_iff, not_or, not_not, exists_const]
  constructor
  · rintro ⟨⟨hid, hsubject⟩, htime⟩
    refine ⟨hid, hsubject, ?_⟩
    rintro time rfl
    by_contra hne
    exact htime ⟨time, rfl, Bool.eq_false_of_not_eq_true hne⟩
  · rintro ⟨hid, hsubject, htime⟩
    refine ⟨⟨hid, hsubject⟩, ?_⟩
    rintro ⟨time, hmem, hne⟩
    rw [htime time hmem] at hne
    cases hne

/-- A record is new under its key, or equal to the one that is there. -/
def Unchanged {α κ : Type} [BEq α] [DecidableEq κ] {key : α → κ} (values : KeyedTable key)
    (value : α) : Prop :=
  ∀ existing, values.find (key value) = some existing → (existing == value) = true

theorem recordImmutable_iff {α κ : Type} [BEq α] [DecidableEq κ] {key : α → κ}
    {values values' : KeyedTable key} {value : α} {label keyText : String} :
    recordImmutable values value label keyText = .ok values' ↔
      Unchanged values value ∧ values.put value = values' := by
  unfold recordImmutable
  simp only [bind_ok_iff, refuse_iff, exists_const, return_iff]
  refine and_congr_left fun _ => ?_
  unfold Unchanged
  constructor
  · intro h existing hfind
    rw [hfind] at h
    simpa using h
  · intro h hany
    obtain ⟨existing, hfind, hne⟩ := (Option.any_eq_true _ _).mp hany
    rw [h existing hfind] at hne
    cases hne

/-- The event names the head that it was admitted at. -/
def Receipt (p : EndogenousProjection) (event : Event) : Prop :=
  (event.metadata.get "validated_at_event_cursor").equalsInt p.lastSequence = true

theorem validateExactHeadReceipt_iff {answer : Unit} :
    p.validateExactHeadReceipt event = .ok answer ↔ Receipt p event := by
  unfold validateExactHeadReceipt Receipt
  rw [refuse_iff, Bool.not_eq_false]

theorem requireCurrentIntent_iff {refs : List GoverningIntentRef} {answer : Unit} :
    p.requireCurrentIntent refs = .ok answer ↔ p.IntentRefsAreCurrent refs := by
  unfold requireCurrentIntent
  rw [refuse_iff, not_not]

/-- Each reference names a stored event. -/
def EvidenceKnown (p : EndogenousProjection) (refs : List String) : Prop :=
  refs ≠ [] ∧ ∀ ref ∈ refs, "event:".toList <+: ref.toList ∧
    p.event (String.ofList (ref.toList.drop 6)) ≠ none

theorem requireEvidence_iff {refs : List String} {answer : Unit} :
    p.requireEvidence refs = .ok answer ↔ p.EvidenceKnown refs := by
  unfold requireEvidence EvidenceKnown
  simp only [bind_ok_iff, refuse_iff, forM_iff, exists_const, not_not, ne_eq]

/-- The epoch is active, and its deadline is after the time. -/
def OpenUntil (p : EndogenousProjection) (epoch : DreamEpoch) (time : Datetime) : Prop :=
  p.epoch epoch.epochId = some epoch ∧ p.status epoch.epochId = some .active ∧
    time.instant < epoch.expiresAt.instant

theorem requireActiveEpoch_iff {epochId : String} {time : Datetime} {allowed : Bool}
    {epoch : DreamEpoch} : p.requireActiveEpoch epochId time allowed = .ok epoch ↔
      p.epoch epochId = some epoch ∧ p.status epochId = some .active ∧
        (allowed = false → time.instant < epoch.expiresAt.instant) := by
  unfold requireActiveEpoch
  cases hepoch : p.epoch epochId with
  | none => simp
  | some found =>
    simp only [bind_ok_iff, refuse_iff, exists_const, return_iff, not_not, not_and, not_le,
      ne_eq, Option.some.injEq]
    constructor
    · rintro ⟨hactive, hdeadline, rfl⟩
      exact ⟨rfl, hactive, hdeadline⟩
    · rintro ⟨rfl, hactive, hdeadline⟩
      exact ⟨hactive, hdeadline, rfl⟩

theorem openUntil_iff {epochId : String} {time : Datetime} {epoch : DreamEpoch} :
    p.requireActiveEpoch epochId time false = .ok epoch ↔
      epoch.epochId = epochId ∧ p.OpenUntil epoch time := by
  rw [requireActiveEpoch_iff]
  constructor
  · rintro ⟨hepoch, hactive, hdeadline⟩
    obtain rfl : epoch.epochId = epochId := KeyedTable.find_key hepoch
    exact ⟨rfl, hepoch, hactive, hdeadline rfl⟩
  · rintro ⟨rfl, hepoch, hactive, hdeadline⟩
    exact ⟨hepoch, hactive, fun _ => hdeadline⟩

/-! ## What each branch checks -/

/-- The policy of a policy event. -/
structure PolicyStep (b : EndogenousBuiltins) (p : EndogenousProjection) (event : Event)
    (policy : EndogenousPolicySnapshot) : Prop where
  read : EndogenousPolicySnapshot.fromDict b event.payload = .ok policy
  envelope : Envelope event ("endogenous-policy-recorded:" ++ policy.policyId) policy.policyId none
  same : Unchanged p.policies policy

theorem applyPolicy_iff : p.applyPolicy b event = .ok q ↔
    ∃ policy, PolicyStep b p event policy ∧ { p with policies := p.policies.put policy } = q := by
  unfold applyPolicy
  simp only [bind_ok_iff, validateEnvelope_iff, recordImmutable_iff, exists_const, return_iff]
  constructor
  · rintro ⟨policy, hread, henvelope, policies, ⟨hsame, rfl⟩, rfl⟩
    exact ⟨policy, ⟨hread, henvelope, hsame⟩, rfl⟩
  · rintro ⟨policy, ⟨hread, henvelope, hsame⟩, rfl⟩
    exact ⟨policy, hread, henvelope, _, ⟨hsame, rfl⟩, rfl⟩

structure RequestStep (b : EndogenousBuiltins) (p : EndogenousProjection) (event : Event)
    (request : CognitionScanRequest) : Prop where
  read : CognitionScanRequest.fromDict b event.payload = .ok request
  envelope : Envelope event ("cognition-scan-requested:" ++ request.requestId) request.requestId
    (some request.requestedAt)
  policy : p.policy request.policyId ≠ none
  same : Unchanged p.requests request

theorem applyRequest_iff : p.applyRequest b event = .ok q ↔
    ∃ request, RequestStep b p event request ∧
      { p with requests := p.requests.put request } = q := by
  unfold applyRequest
  simp only [bind_ok_iff, validateEnvelope_iff, recordImmutable_iff, refuse_iff, exists_const,
    return_iff]
  constructor
  · rintro ⟨request, hread, henvelope, hpolicy, requests, ⟨hsame, rfl⟩, rfl⟩
    exact ⟨request, ⟨hread, henvelope, hpolicy, hsame⟩, rfl⟩
  · rintro ⟨request, ⟨hread, henvelope, hpolicy, hsame⟩, rfl⟩
    exact ⟨request, hread, henvelope, hpolicy, _, ⟨hsame, rfl⟩, rfl⟩

theorem applyCalibration_ok (h : p.applyCalibration b event = .ok q) :
    ∃ calibrations, { p with calibrations } = q := by
  unfold applyCalibration at h
  simp only [bind_ok_iff, return_iff] at h
  obtain ⟨_, _, _, _, _, _, _, _, _, _, _, _, _, _, calibrations, _, h⟩ := h
  exact ⟨calibrations, h⟩

/-- The start of an epoch. -/
structure StartStep (b : EndogenousBuiltins) (p : EndogenousProjection) (event : Event)
    (epoch : DreamEpoch) (trigger : Event) (request : CognitionScanRequest)
    (policy : EndogenousPolicySnapshot) : Prop where
  receipt : Receipt p event
  read : DreamEpoch.fromDict b event.payload = .ok epoch
  envelope : Envelope event ("dream-epoch-started:" ++ epoch.epochId) epoch.epochId
    (some epoch.startedAt)
  triggered : p.triggerOf epoch = .ok trigger
  requested : CognitionScanRequest.fromDict b trigger.payload = .ok request
  cursor : trigger.sequence.map Int.ofNat = some epoch.eventLogCursor
  policyId : request.policyId = epoch.policyId
  budget : request.budget = epoch.budget
  started : (request.requestedAt == epoch.startedAt) = true
  expires : (request.expiresAt == epoch.expiresAt) = true
  pinned : p.pinnedPolicy epoch = .ok policy
  selector : epoch.selectorId = policy.selectorId ∧ epoch.selectorVersion = policy.selectorVersion
  supported : ensureSelectorSupported policy = .ok ()
  head : (p.lastSequence : Int) = epoch.eventLogCursor
  first : ∀ existing, p.epochByTrigger.get? epoch.triggerEventId = some existing →
    existing = epoch.epochId
  consumer : ∃ active, p.activeEpochForConsumer epoch.consumerId = .ok active ∧
    ∀ other, active = some other → other.epochId = epoch.epochId
  same : Unchanged p.epochs epoch

/-- The projection after the start of an epoch. -/
def withEpoch (p : EndogenousProjection) (epoch : DreamEpoch) : EndogenousProjection :=
  { p with
    epochs := p.epochs.put epoch
    epochByTrigger := p.epochByTrigger.put (epoch.triggerEventId, epoch.epochId)
    epochStatus := p.epochStatus.put (epoch.epochId, .active)
    epochActivities := p.epochActivities.put
      (epoch.epochId, p.epochActivities.listOf epoch.epochId) }

theorem not_any_iff {α : Type} {value : Option α} {test : α → Prop} [DecidablePred test] :
    ¬(value.any fun a => decide (¬test a)) = true ↔ ∀ a, value = some a → test a := by
  cases value with
  | none => simp
  | some a => simp

theorem applyEpochStarted_iff : p.applyEpochStarted b event = .ok q ↔
    ∃ epoch trigger request policy, StartStep b p event epoch trigger request policy ∧
      p.withEpoch epoch = q := by
  unfold applyEpochStarted
  simp only [bind_ok_iff, validateExactHeadReceipt_iff, validateEnvelope_iff, recordImmutable_iff,
    refuse_iff, exists_const, return_iff, ne_eq, not_or, not_not, not_any_iff, Bool.not_eq_false]
  constructor
  · rintro ⟨hreceipt, epoch, hread, henvelope, trigger, htrigger, request, hrequest, hcursor,
      ⟨hpolicyId, hbudget, hstarted, hexpires⟩, policy, hpolicy, hselector, ⟨⟩, hsupported, hhead,
      hfirst, active, hactive, hconsumer, epochs, ⟨hsame, rfl⟩, rfl⟩
    exact ⟨epoch, trigger, request, policy, ⟨hreceipt, hread, henvelope, htrigger, hrequest,
      hcursor, hpolicyId, hbudget, hstarted, hexpires, hpolicy, hselector, hsupported, hhead,
      hfirst, ⟨active, hactive, hconsumer⟩, hsame⟩, rfl⟩
  · rintro ⟨epoch, trigger, request, policy, ⟨hreceipt, hread, henvelope, htrigger, hrequest,
      hcursor, hpolicyId, hbudget, hstarted, hexpires, hpolicy, hselector, hsupported, hhead,
      hfirst, ⟨active, hactive, hconsumer⟩, hsame⟩, rfl⟩
    exact ⟨hreceipt, epoch, hread, henvelope, trigger, htrigger, request, hrequest, hcursor,
      ⟨hpolicyId, hbudget, hstarted, hexpires⟩, policy, hpolicy, hselector, (), hsupported, hhead,
      hfirst, active, hactive, hconsumer, _, ⟨hsame, rfl⟩, rfl⟩

/-- What an event that records an output of an epoch names. -/
structure OutputStep (b : EndogenousBuiltins) (p : EndogenousProjection) (event : Event)
    (epoch : DreamEpoch) : Prop where
  receipt : Receipt p event
  epochId : itemText b.toBuiltins event.payload "epoch_id" = .ok epoch.epochId
  isOpen : p.OpenUntil epoch event.timestamp

/-- The inquiry of an epoch. -/
structure InquiryStep (b : EndogenousBuiltins) (p : EndogenousProjection) (event : Event)
    (epoch : DreamEpoch) (inquiry : Inquiry) : Prop extends OutputStep b p event epoch where
  read : (itemMapping event.payload "inquiry" >>= Inquiry.fromDict b) = .ok inquiry
  envelope : Envelope event ("inquiry-recorded:" ++ inquiry.inquiryId) inquiry.inquiryId
    (some inquiry.createdAt)
  cut : inquiry.causalCursor = epoch.eventLogCursor
  current : p.IntentRefsAreCurrent inquiry.governingIntentRefs
  evidence : p.EvidenceKnown inquiry.evidenceRefs
  same : Unchanged p.inquiries inquiry

theorem applyInquiry_iff : p.applyInquiry b event = .ok q ↔
    ∃ epoch inquiry, InquiryStep b p event epoch inquiry ∧
      { p with inquiries := p.inquiries.put inquiry } = q := by
  unfold applyInquiry
  simp only [bind_ok_iff, validateExactHeadReceipt_iff, validateEnvelope_iff, recordImmutable_iff,
    requireCurrentIntent_iff, requireEvidence_iff, openUntil_iff, refuse_iff, exists_const,
    return_iff, ne_eq, not_not]
  constructor
  · rintro ⟨hreceipt, _, hid, epoch, ⟨rfl, hopen⟩, data, hdata, inquiry, hread, henvelope, hcut,
      hcurrent, hevidence, inquiries, ⟨hsame, rfl⟩, rfl⟩
    exact ⟨epoch, inquiry, ⟨⟨hreceipt, hid, hopen⟩, bind_ok_iff.mpr ⟨data, hdata, hread⟩, henvelope,
      hcut, hcurrent, hevidence, hsame⟩, rfl⟩
  · rintro ⟨epoch, inquiry, ⟨⟨hreceipt, hid, hopen⟩, hread, henvelope, hcut, hcurrent, hevidence,
      hsame⟩, rfl⟩
    obtain ⟨data, hdata, hread⟩ := bind_ok_iff.mp hread
    exact ⟨hreceipt, _, hid, epoch, ⟨rfl, hopen⟩, data, hdata, inquiry, hread, henvelope, hcut,
      hcurrent, hevidence, _, ⟨hsame, rfl⟩, rfl⟩

/-- An activity of an epoch, on an inquiry at the same cut. -/
structure ActivityStep (b : EndogenousBuiltins) (p : EndogenousProjection) (event : Event)
    (epoch : DreamEpoch) (activity : IntrinsicActivity) (inquiry : Inquiry) : Prop extends
    OutputStep b p event epoch where
  read : (itemMapping event.payload "activity" >>= IntrinsicActivity.fromDict b) = .ok activity
  envelope : Envelope event
    ("intrinsic-activity-recorded:" ++ epoch.epochId ++ ":" ++ activity.activityId)
    activity.activityId none
  inquired : p.inquiries.find activity.inquiryId = some inquiry
  cut : activity.causalCursor = epoch.eventLogCursor
  sameCut : inquiry.causalCursor = activity.causalCursor
  unexpired : event.timestamp.instant < inquiry.expiresAt.instant
  sameIntents : inquiry.governingIntentRefs = activity.governingIntentRefs
  sameEvidence : inquiry.evidenceRefs = activity.evidenceRefs
  current : p.IntentRefsAreCurrent activity.governingIntentRefs
  evidence : p.EvidenceKnown activity.evidenceRefs
  same : Unchanged p.activities activity

/-- The projection after an activity of an epoch. -/
def withActivity (p : EndogenousProjection) (epochId : String) (activity : IntrinsicActivity) :
    EndogenousProjection :=
  { p with
    activities := p.activities.put activity
    epochActivities := p.epochActivities.put
      (epochId, (p.epochActivities.listOf epochId).insert activity.activityId) }

theorem inquiryOf_iff {activity : IntrinsicActivity} {inquiry : Inquiry} :
    p.inquiryOf activity = .ok inquiry ↔ p.inquiries.find activity.inquiryId = some inquiry := by
  unfold inquiryOf
  cases p.inquiries.find activity.inquiryId <;> simp

theorem applyActivity_iff : p.applyActivity b event = .ok q ↔
    ∃ epoch activity inquiry, ActivityStep b p event epoch activity inquiry ∧
      p.withActivity epoch.epochId activity = q := by
  unfold applyActivity
  simp only [bind_ok_iff, validateExactHeadReceipt_iff, validateEnvelope_iff, recordImmutable_iff,
    requireCurrentIntent_iff, requireEvidence_iff, openUntil_iff, inquiryOf_iff, refuse_iff,
    exists_const, return_iff, ne_eq, not_or, not_not, not_le]
  constructor
  · rintro ⟨hreceipt, _, hid, epoch, ⟨rfl, hopen⟩, data, hdata, activity, hread, henvelope, inquiry,
      hinquiry, hcut, hsameCut, hunexpired, ⟨hintents, hrefs⟩, hcurrent, hevidence, activities,
      ⟨hsame, rfl⟩, rfl⟩
    exact ⟨epoch, activity, inquiry, ⟨⟨hreceipt, hid, hopen⟩,
      bind_ok_iff.mpr ⟨data, hdata, hread⟩, henvelope, hinquiry, hcut, hsameCut, hunexpired,
      hintents, hrefs, hcurrent, hevidence, hsame⟩, rfl⟩
  · rintro ⟨epoch, activity, inquiry, ⟨⟨hreceipt, hid, hopen⟩, hread, henvelope, hinquiry, hcut,
      hsameCut, hunexpired, hintents, hrefs, hcurrent, hevidence, hsame⟩, rfl⟩
    obtain ⟨data, hdata, hread⟩ := bind_ok_iff.mp hread
    exact ⟨hreceipt, _, hid, epoch, ⟨rfl, hopen⟩, data, hdata, activity, hread, henvelope, inquiry,
      hinquiry, hcut, hsameCut, hunexpired, ⟨hintents, hrefs⟩, hcurrent, hevidence, _,
      ⟨hsame, rfl⟩, rfl⟩

/-- The estimate of an activity of an epoch. -/
structure EstimateStep (b : EndogenousBuiltins) (p : EndogenousProjection) (event : Event)
    (epoch : DreamEpoch) (estimate : ValueOfCognitionEstimate) (activity : IntrinsicActivity)
    (policy : EndogenousPolicySnapshot) : Prop where
  receipt : Receipt p event
  read : ValueOfCognitionEstimate.fromDict b event.payload = .ok estimate
  epochId : epoch.epochId = estimate.epochId
  isOpen : p.OpenUntil epoch estimate.evaluatedAt
  known : p.activities.find estimate.activityId = some activity
  recorded : estimate.activityId ∈ p.epochActivities.listOf epoch.epochId
  pinned : p.policy estimate.policyId = some policy
  expected : ∃ expected, evaluateValueOfCognition b.endogenousIds epoch policy activity
    estimate.evaluatedAt = .ok expected ∧ (estimate == expected) = true
  envelope : Envelope event ("voc-evaluated:" ++ epoch.epochId ++ ":" ++ activity.activityId)
    activity.activityId (some estimate.evaluatedAt)
  same : Unchanged p.estimates estimate

theorem estimatedActivity_iff {epoch : DreamEpoch} {activityId : String}
    {activity : IntrinsicActivity} : p.estimatedActivity epoch activityId = .ok activity ↔
      p.activities.find activityId = some activity ∧
        activityId ∈ p.epochActivities.listOf epoch.epochId := by
  unfold estimatedActivity
  cases p.activities.find activityId with
  | none => simp
  | some found =>
    dsimp only
    split_ifs with hrecorded <;> simp [hrecorded]

theorem policyOf_iff {policyId message : String} {policy : EndogenousPolicySnapshot} :
    p.policyOf policyId message = .ok policy ↔ p.policy policyId = some policy := by
  unfold policyOf
  cases p.policy policyId <;> simp

theorem applyEstimate_iff : p.applyEstimate b event = .ok q ↔
    ∃ epoch estimate activity policy, EstimateStep b p event epoch estimate activity policy ∧
      { p with estimates := p.estimates.put estimate } = q := by
  unfold applyEstimate
  simp only [bind_ok_iff, validateExactHeadReceipt_iff, validateEnvelope_iff, recordImmutable_iff,
    openUntil_iff, estimatedActivity_iff, policyOf_iff, refuse_iff, beq_refused_iff, exists_const,
    return_iff]
  constructor
  · rintro ⟨hreceipt, estimate, hread, epoch, ⟨hid, hopen⟩, activity, ⟨hactivity, hrecorded⟩, policy,
      hpolicy, expected, hexpected, hequal, henvelope, estimates, ⟨hsame, rfl⟩, rfl⟩
    exact ⟨epoch, estimate, activity, policy, ⟨hreceipt, hread, hid, hopen, hactivity, hrecorded,
      hpolicy, ⟨expected, hexpected, hequal⟩, henvelope, hsame⟩, rfl⟩
  · rintro ⟨epoch, estimate, activity, policy, ⟨hreceipt, hread, hid, hopen, hactivity, hrecorded,
      hpolicy, ⟨expected, hexpected, hequal⟩, henvelope, hsame⟩, rfl⟩
    exact ⟨hreceipt, estimate, hread, epoch, ⟨hid, hopen⟩, activity, ⟨hactivity, hrecorded⟩, policy,
      hpolicy, expected, hexpected, hequal, henvelope, _, ⟨hsame, rfl⟩, rfl⟩

/-- The agenda of an epoch. -/
structure SelectionStep (b : EndogenousBuiltins) (p : EndogenousProjection) (event : Event)
    (epoch : DreamEpoch) (selection : IntrinsicAgendaSelection)
    (policy : EndogenousPolicySnapshot) : Prop where
  receipt : Receipt p event
  read : IntrinsicAgendaSelection.fromDict b event.payload = .ok selection
  epochId : epoch.epochId = selection.epochId
  isOpen : p.OpenUntil epoch selection.selectedAt
  first : p.selection selection.epochId = none
  pinned : p.policy selection.policyId = some policy
  current : ∀ activity ∈ p.activitiesForEpoch epoch.epochId,
    p.IntentRefsAreCurrent activity.governingIntentRefs
  expected : ∃ expected, selectIntrinsicAgenda b.endogenousIds epoch policy
    (p.activitiesForEpoch epoch.epochId) (p.estimatesForEpoch epoch.epochId) selection.selectedAt =
      .ok expected ∧ (selection == expected) = true
  envelope : Envelope event ("intrinsic-agenda-selected:" ++ selection.selectionId)
    selection.epochId (some selection.selectedAt)

theorem applySelection_iff : p.applySelection b event = .ok q ↔
    ∃ epoch selection policy, SelectionStep b p event epoch selection policy ∧
      { p with selections := p.selections.put selection } = q := by
  unfold applySelection
  simp only [bind_ok_iff, validateExactHeadReceipt_iff, validateEnvelope_iff, forM_iff,
    requireCurrentIntent_iff, openUntil_iff, policyOf_iff, refuse_iff, beq_refused_iff,
    Option.not_isSome_iff_eq_none, exists_const, return_iff]
  constructor
  · rintro ⟨hreceipt, selection, hread, epoch, ⟨hid, hopen⟩, hfirst, policy, hpolicy, hcurrent,
      expected, hexpected, hequal, henvelope, rfl⟩
    exact ⟨epoch, selection, policy, ⟨hreceipt, hread, hid, hopen, hfirst, hpolicy, hcurrent,
      ⟨expected, hexpected, hequal⟩, henvelope⟩, rfl⟩
  · rintro ⟨epoch, selection, policy, ⟨hreceipt, hread, hid, hopen, hfirst, hpolicy, hcurrent,
      ⟨expected, hexpected, hequal⟩, henvelope⟩, rfl⟩
    exact ⟨hreceipt, selection, hread, epoch, ⟨hid, hopen⟩, hfirst, policy, hpolicy, hcurrent,
      expected, hexpected, hequal, henvelope, rfl⟩

/-- The end of an epoch. -/
structure ClosingStep (b : EndogenousBuiltins) (p : EndogenousProjection) (event : Event)
    (epoch : DreamEpoch) : Prop where
  receipt : Receipt p event
  epochId : itemText b.toBuiltins event.payload "epoch_id" = .ok epoch.epochId
  known : p.epoch epoch.epochId = some epoch
  active : p.status epoch.epochId = some .active

/-- The time that the event states under a key is its own. -/
def States (b : EndogenousBuiltins) (event : Event) (key : String) (stated : Datetime) : Prop :=
  (event.payload.item key >>= b.parseDatetime) = .ok (some stated) ∧
    (stated == event.timestamp) = true

theorem statedTime_iff {key message : String} {stated : Datetime} :
    statedTime b event key message = .ok stated ↔ States b event key stated := by
  unfold statedTime States
  simp only [bind_ok_iff]
  constructor
  · rintro ⟨value, hvalue, found, hfound, h⟩
    cases found with
    | none => cases h
    | some found =>
      dsimp only at h
      split_ifs at h with hsame
      cases h
      exact ⟨⟨value, hvalue, hfound⟩, hsame⟩
  · rintro ⟨⟨value, hvalue, hfound⟩, hsame⟩
    refine ⟨value, hvalue, some stated, hfound, ?_⟩
    dsimp only
    rw [if_pos hsame]
    rfl

theorem closing_iff {epochId : String} {time : Datetime} {epoch : DreamEpoch} :
    p.requireActiveEpoch epochId time true = .ok epoch ↔ epoch.epochId = epochId ∧
      p.epoch epoch.epochId = some epoch ∧ p.status epoch.epochId = some .active := by
  rw [requireActiveEpoch_iff]
  constructor
  · rintro ⟨hepoch, hactive, -⟩
    obtain rfl : epoch.epochId = epochId := KeyedTable.find_key hepoch
    exact ⟨rfl, hepoch, hactive⟩
  · rintro ⟨rfl, hepoch, hactive⟩
    exact ⟨hepoch, hactive, fun h => nomatch h⟩

/-- The projection after the end of an epoch. -/
def withStatus (p : EndogenousProjection) (epochId : String) (status : DreamEpochStatus) :
    EndogenousProjection :=
  { p with epochStatus := p.epochStatus.put (epochId, status) }

/-- A preemption, by a foreground event after the epoch's cut. -/
structure PreemptedStep (b : EndogenousBuiltins) (p : EndogenousProjection) (event : Event)
    (epoch : DreamEpoch) (foreground : Event) (preemptedAt : Datetime) : Prop extends
    ClosingStep b p event epoch where
  foregroundId : itemText b.toBuiltins event.payload "foreground_event_id" = .ok foreground.id
  found : p.event foreground.id = some foreground
  follows : ∃ sequence, foreground.sequence = some sequence ∧ epoch.eventLogCursor < (sequence : Int)
  stated : States b event "preempted_at" preemptedAt
  envelope : Envelope event ("dream-epoch-preempted:" ++ epoch.epochId ++ ":" ++ foreground.id)
    epoch.epochId (some preemptedAt)
  caused : event.causationId = some foreground.id

theorem applyPreempted_iff : p.applyPreempted b event = .ok q ↔
    ∃ epoch foreground preemptedAt, PreemptedStep b p event epoch foreground preemptedAt ∧
      p.withStatus epoch.epochId .preempted = q := by
  unfold applyPreempted
  simp only [bind_ok_iff, validateExactHeadReceipt_iff, closing_iff, exists_const]
  constructor
  · rintro ⟨hreceipt, _, hid, epoch, ⟨rfl, hepoch, hactive⟩, foregroundId, hforegroundId, h⟩
    cases hforeground : p.event foregroundId with
    | none =>
      rw [hforeground] at h
      cases h
    | some foreground =>
      rw [hforeground] at h
      simp only [bind_ok_iff, validateEnvelope_iff, statedTime_iff, refuse_iff, exists_const,
        return_iff, ne_eq, not_not] at h
      obtain ⟨hfollows, preemptedAt, hstated, henvelope, hcaused, rfl⟩ := h
      obtain rfl : foreground.id = foregroundId := KeyedTable.find_key hforeground
      refine ⟨epoch, foreground, preemptedAt, ⟨⟨hreceipt, hid, hepoch, hactive⟩, hforegroundId,
        hforeground, ?_, hstated, henvelope, hcaused⟩, rfl⟩
      cases hsequence : foreground.sequence with
      | none => exact absurd (fun sequence hmem => nomatch (hsequence ▸ hmem)) hfollows
      | some sequence =>
        refine ⟨sequence, rfl, ?_⟩
        by_contra hle
        refine hfollows fun other hother => ?_
        rw [hsequence] at hother
        cases hother
        exact not_lt.mp hle
  · rintro ⟨epoch, foreground, preemptedAt, ⟨⟨hreceipt, hid, hepoch, hactive⟩, hforegroundId,
      hforeground, ⟨sequence, hsequence, hfollows⟩, hstated, henvelope, hcaused⟩, rfl⟩
    refine ⟨hreceipt, _, hid, epoch, ⟨rfl, hepoch, hactive⟩, _, hforegroundId, ?_⟩
    rw [hforeground]
    simp only [bind_ok_iff, validateEnvelope_iff, statedTime_iff, refuse_iff, exists_const,
      return_iff, ne_eq, not_not]
    exact ⟨fun h => absurd (h sequence hsequence) (not_le.mpr hfollows), preemptedAt, hstated,
      henvelope, hcaused, rfl⟩

/-- An expiry, at the epoch's deadline or later. -/
structure ExpiredStep (b : EndogenousBuiltins) (p : EndogenousProjection) (event : Event)
    (epoch : DreamEpoch) (expiredAt : Datetime) : Prop extends ClosingStep b p event epoch where
  stated : States b event "expired_at" expiredAt
  due : epoch.expiresAt.instant ≤ expiredAt.instant
  envelope : Envelope event ("dream-epoch-expired:" ++ epoch.epochId) epoch.epochId (some expiredAt)

theorem applyExpired_iff : p.applyExpired b event = .ok q ↔
    ∃ epoch expiredAt, ExpiredStep b p event epoch expiredAt ∧
      p.withStatus epoch.epochId .expired = q := by
  unfold applyExpired
  simp only [bind_ok_iff, validateExactHeadReceipt_iff, validateEnvelope_iff, statedTime_iff,
    closing_iff, refuse_iff, exists_const, return_iff, not_lt]
  constructor
  · rintro ⟨hreceipt, _, hid, epoch, ⟨rfl, hepoch, hactive⟩, expiredAt, hstated, hdue, henvelope, rfl⟩
    exact ⟨epoch, expiredAt, ⟨⟨hreceipt, hid, hepoch, hactive⟩, hstated, hdue, henvelope⟩, rfl⟩
  · rintro ⟨epoch, expiredAt, ⟨⟨hreceipt, hid, hepoch, hactive⟩, hstated, hdue, henvelope⟩, rfl⟩
    exact ⟨hreceipt, _, hid, epoch, ⟨rfl, hepoch, hactive⟩, expiredAt, hstated, hdue, henvelope, rfl⟩

/-- An abandonment. -/
structure AbandonedStep (b : EndogenousBuiltins) (p : EndogenousProjection) (event : Event)
    (epoch : DreamEpoch) (abandonedAt : Datetime) (reason : DreamAbandonmentReason) : Prop extends
    ClosingStep b p event epoch where
  stated : States b event "abandoned_at" abandonedAt
  reasoned : (itemText b.toBuiltins event.payload "reason" >>= DreamAbandonmentReason.ofText) =
    .ok reason
  envelope : Envelope event ("dream-epoch-abandoned:" ++ epoch.epochId) epoch.epochId
    (some abandonedAt)
  caused : event.causationId = some epoch.triggerEventId

theorem applyAbandoned_iff : p.applyAbandoned b event = .ok q ↔
    ∃ epoch abandonedAt reason, AbandonedStep b p event epoch abandonedAt reason ∧
      { p.withStatus epoch.epochId .abandoned with
        epochAbandonmentReason := p.epochAbandonmentReason.put (epoch.epochId, reason) } = q := by
  unfold applyAbandoned
  simp only [bind_ok_iff, validateExactHeadReceipt_iff, validateEnvelope_iff, statedTime_iff,
    closing_iff, refuse_iff, exists_const, return_iff, ne_eq, not_not]
  constructor
  · rintro ⟨hreceipt, _, hid, epoch, ⟨rfl, hepoch, hactive⟩, abandonedAt, hstated, text, htext,
      reason, hreason, henvelope, hcaused, rfl⟩
    exact ⟨epoch, abandonedAt, reason, ⟨⟨hreceipt, hid, hepoch, hactive⟩, hstated,
      bind_ok_iff.mpr ⟨text, htext, hreason⟩, henvelope, hcaused⟩, rfl⟩
  · rintro ⟨epoch, abandonedAt, reason, ⟨⟨hreceipt, hid, hepoch, hactive⟩, hstated, hreason,
      henvelope, hcaused⟩, rfl⟩
    obtain ⟨text, htext, hreason⟩ := bind_ok_iff.mp hreason
    exact ⟨hreceipt, _, hid, epoch, ⟨rfl, hepoch, hactive⟩, abandonedAt, hstated, text, htext,
      reason, hreason, henvelope, hcaused, rfl⟩

/-! ## Any event -/

/-- `ENDOGENOUS_EVENT_TYPES`. -/
def endogenousEventTypes : List String :=
  ["endogenous.policy_snapshot_recorded", "endogenous.scan_requested",
   "endogenous.dream_epoch_started", "endogenous.inquiry_recorded", "endogenous.activity_recorded",
   "endogenous.voc_evaluated", "endogenous.agenda_selected",
   "endogenous.calibration_exchange_recorded", "endogenous.dream_epoch_preempted",
   "endogenous.dream_epoch_expired", "endogenous.dream_epoch_abandoned"]

/-- What an event that was not there before did. -/
inductive Transition (b : EndogenousBuiltins) (p : EndogenousProjection) (event : Event) :
    EndogenousProjection → Prop
  | policy {policy} (htype : event.type = "endogenous.policy_snapshot_recorded")
      (h : PolicyStep b p event policy) :
      Transition b p event { p with policies := p.policies.put policy }
  | request {request} (htype : event.type = "endogenous.scan_requested")
      (h : RequestStep b p event request) :
      Transition b p event { p with requests := p.requests.put request }
  | calibration {calibrations} (htype : event.type = "endogenous.calibration_exchange_recorded") :
      Transition b p event { p with calibrations }
  | started {epoch trigger request policy} (htype : event.type = "endogenous.dream_epoch_started")
      (h : StartStep b p event epoch trigger request policy) :
      Transition b p event (p.withEpoch epoch)
  | inquiry {epoch inquiry} (htype : event.type = "endogenous.inquiry_recorded")
      (h : InquiryStep b p event epoch inquiry) :
      Transition b p event { p with inquiries := p.inquiries.put inquiry }
  | activity {epoch activity inquiry} (htype : event.type = "endogenous.activity_recorded")
      (h : ActivityStep b p event epoch activity inquiry) :
      Transition b p event (p.withActivity epoch.epochId activity)
  | estimate {epoch estimate activity policy} (htype : event.type = "endogenous.voc_evaluated")
      (h : EstimateStep b p event epoch estimate activity policy) :
      Transition b p event { p with estimates := p.estimates.put estimate }
  | selection {epoch selection policy} (htype : event.type = "endogenous.agenda_selected")
      (h : SelectionStep b p event epoch selection policy) :
      Transition b p event { p with selections := p.selections.put selection }
  | preempted {epoch foreground preemptedAt}
      (htype : event.type = "endogenous.dream_epoch_preempted")
      (h : PreemptedStep b p event epoch foreground preemptedAt) :
      Transition b p event (p.withStatus epoch.epochId .preempted)
  | expired {epoch expiredAt} (htype : event.type = "endogenous.dream_epoch_expired")
      (h : ExpiredStep b p event epoch expiredAt) :
      Transition b p event (p.withStatus epoch.epochId .expired)
  | abandoned {epoch abandonedAt reason} (htype : event.type = "endogenous.dream_epoch_abandoned")
      (h : AbandonedStep b p event epoch abandonedAt reason) :
      Transition b p event { p.withStatus epoch.epochId .abandoned with
        epochAbandonmentReason := p.epochAbandonmentReason.put (epoch.epochId, reason) }
  | elsewhere (htype : event.type ∉ endogenousEventTypes) : Transition b p event p

/-- **An accepted event did what its type says.** -/
theorem applyEvent_ok {handled : Bool} (h : p.applyEvent b event = .ok (q, handled)) :
    Transition b p event q := by
  unfold applyEvent at h
  dsimp only at h
  split at h
  case h_12 =>
    rename_i hpolicy hrequest hcalibration hstarted hinquiry hactivity hestimate hselection
      hpreempted hexpired habandoned
    cases h
    refine .elsewhere fun hmem => ?_
    simp only [endogenousEventTypes, List.mem_cons, List.not_mem_nil, or_false] at hmem
    grind
  all_goals
    rename_i htype
    obtain ⟨applied, happlied, h⟩ := bind_eq_ok h
    cases h
  · obtain ⟨policy, hstep, rfl⟩ := applyPolicy_iff.mp happlied
    exact .policy htype hstep
  · obtain ⟨request, hstep, rfl⟩ := applyRequest_iff.mp happlied
    exact .request htype hstep
  · obtain ⟨calibrations, rfl⟩ := applyCalibration_ok happlied
    exact .calibration htype
  · obtain ⟨epoch, trigger, request, policy, hstep, rfl⟩ := applyEpochStarted_iff.mp happlied
    exact .started htype hstep
  · obtain ⟨epoch, inquiry, hstep, rfl⟩ := applyInquiry_iff.mp happlied
    exact .inquiry htype hstep
  · obtain ⟨epoch, activity, inquiry, hstep, rfl⟩ := applyActivity_iff.mp happlied
    exact .activity htype hstep
  · obtain ⟨epoch, estimate, activity, policy, hstep, rfl⟩ := applyEstimate_iff.mp happlied
    exact .estimate htype hstep
  · obtain ⟨epoch, selection, policy, hstep, rfl⟩ := applySelection_iff.mp happlied
    exact .selection htype hstep
  · obtain ⟨epoch, foreground, preemptedAt, hstep, rfl⟩ := applyPreempted_iff.mp happlied
    exact .preempted htype hstep
  · obtain ⟨epoch, expiredAt, hstep, rfl⟩ := applyExpired_iff.mp happlied
    exact .expired htype hstep
  · obtain ⟨epoch, abandonedAt, reason, hstep, rfl⟩ := applyAbandoned_iff.mp happlied
    exact .abandoned htype hstep

/-- An accepted event was there before, or did what its type says. -/
theorem step_cases (h : step b p event = .ok q) :
    ((p.event event.id).isSome = true ∧ q = p) ∨ (p.event event.id = none ∧
      ∃ applied strategy sequence, event.sequence = some sequence ∧ p.lastSequence < sequence ∧
        Transition b p event applied ∧ p.strategy.step b.toIntentBuiltins event = .ok strategy ∧
        q = { applied with
          strategy, events := applied.events.put event, lastSequence := sequence }) := by
  obtain ⟨⟨q', handled⟩, happly, h⟩ := bind_eq_ok h
  cases h
  unfold apply at happly
  cases hknown : p.event event.id with
  | some existing =>
    rw [hknown] at happly
    dsimp only at happly
    split at happly
    · cases happly
      exact .inl ⟨rfl, rfl⟩
    · cases happly
  | none =>
    rw [hknown] at happly
    cases hsequence : event.sequence with
    | none =>
      rw [hsequence] at happly
      cases happly
    | some sequence =>
      rw [hsequence] at happly
      obtain ⟨_, hlast, happly⟩ := bind_eq_ok happly
      obtain ⟨⟨applied, handled'⟩, hevent, happly⟩ := bind_eq_ok happly
      obtain ⟨strategy, hstrategy, happly⟩ := bind_eq_ok happly
      cases happly
      have htransition := applyEvent_ok hevent
      have hsame : applied.strategy = p.strategy := by
        cases htransition <;> rfl
      rw [hsame] at hstrategy
      exact .inr ⟨rfl, applied, strategy, sequence, rfl, not_le.mp (refuse_ok hlast), htransition,
        hstrategy, rfl⟩

end EndogenousProjection

end Noema
