import Noema.EndogenousSteps
import Noema.GoalAuthority

/-!
# The safety of endogenous cognition

An epoch starts under an event id of its own, and the projection takes an event once, so no
epoch starts twice: from this and the steps every accepted log is `Safe` at each of its
prefixes, keeps what is closed closed and what is selected selected, and takes outputs only
for open epochs.
-/
namespace Noema

namespace EndogenousProjection

variable {b : EndogenousBuiltins} {p q r : EndogenousProjection} {event : Event}

/-! ## What the claim is about -/

/-- The events that record an output of an epoch. -/
def outputTypes : List String :=
  ["endogenous.inquiry_recorded", "endogenous.activity_recorded", "endogenous.voc_evaluated",
   "endogenous.agenda_selected"]

/-- The epoch is active, and its deadline is after the time. -/
def OpenAt (p : EndogenousProjection) (epochId : String) (time : Datetime) : Prop :=
  ∃ epoch, p.epoch epochId = some epoch ∧ p.status epochId = some .active ∧
    time.instant < epoch.expiresAt.instant

/-- What an agenda consumed fits the ceiling of its epoch. -/
def WithinCeiling (p : EndogenousProjection) (selection : IntrinsicAgendaSelection) : Prop :=
  ∃ epoch, p.epoch selection.epochId = some epoch ∧
    selection.consumed.fitsWithin epoch.budget.ceiling = true

/-- What the projection asks of an agenda. -/
structure Selectable (p : EndogenousProjection) (selection : IntrinsicAgendaSelection) : Prop where
  first : p.selection selection.epochId = none
  current : ∀ activityId ∈ p.epochActivities.listOf selection.epochId,
    ∃ activity, p.activities.find activityId = some activity ∧
      p.IntentRefsAreCurrent activity.governingIntentRefs
  fits : p.WithinCeiling selection

/-- What holds when a new event is taken. -/
structure Admits (b : EndogenousBuiltins) (p : EndogenousProjection) (event : Event) : Prop where
  output : event.type ∈ outputTypes → ∃ epochId,
    itemText b.toBuiltins event.payload "epoch_id" = .ok epochId ∧ p.OpenAt epochId event.timestamp
  agenda : event.type = "endogenous.agenda_selected" → ∃ selection,
    IntrinsicAgendaSelection.fromDict b event.payload = .ok selection ∧ p.Selectable selection

/-- What holds of every state: a consumer has one active epoch, a trigger opened one epoch,
and what an agenda consumed fits. -/
structure Safe (p : EndogenousProjection) : Prop where
  oneActive : ∀ epoch ∈ p.activeEpochs, ∀ other ∈ p.activeEpochs,
    epoch.consumerId = other.consumerId → epoch = other
  oneEpoch : ∀ epoch ∈ p.epochs.rows, ∀ other ∈ p.epochs.rows,
    epoch.triggerEventId = other.triggerEventId → epoch = other
  fits : ∀ selection ∈ p.selections.rows, p.WithinCeiling selection

/-- A later state: epochs stay, and what is closed or selected stays so. -/
structure Later (p q : EndogenousProjection) : Prop where
  epochs : ∀ epochId epoch, p.epoch epochId = some epoch → q.epoch epochId = some epoch
  closed : ∀ epochId status, p.status epochId = some status → status ≠ .active →
    q.status epochId = some status
  selected : ∀ epochId selection, p.selection epochId = some selection →
    q.selection epochId = some selection

namespace Later

theorem refl : Later p p where
  epochs _ _ h := h
  closed _ _ h _ := h
  selected _ _ h := h

theorem trans (h : Later p q) (h' : Later q r) : Later p r where
  epochs _ _ hepoch := h'.epochs _ _ (h.epochs _ _ hepoch)
  closed _ _ hstatus hne := h'.closed _ _ (h.closed _ _ hstatus hne) hne
  selected _ _ hselection := h'.selected _ _ (h.selected _ _ hselection)

end Later

/-! ## What an accepted event did -/

/-- The epochs and what belongs to them are as before. -/
structure Untouched (p q : EndogenousProjection) : Prop where
  events : q.events = p.events
  epochs : q.epochs = p.epochs
  epochByTrigger : q.epochByTrigger = p.epochByTrigger
  epochStatus : q.epochStatus = p.epochStatus
  activities : q.activities = p.activities
  epochActivities : q.epochActivities = p.epochActivities
  selections : q.selections = p.selections

theorem OpenUntil.openAt {epoch : DreamEpoch} {time : Datetime} (h : p.OpenUntil epoch time) :
    p.OpenAt epoch.epochId time :=
  ⟨epoch, h⟩

/-- Times that are equal are before the same deadlines. -/
theorem OpenAt.of_beq {epochId : String} {time time' : Datetime} (h : p.OpenAt epochId time)
    (heq : (time' == time) = true) : p.OpenAt epochId time' := by
  obtain ⟨epoch, hepoch, hactive, hdeadline⟩ := h
  have hinstant : time'.instant = time.instant := eq_of_beq heq
  exact ⟨epoch, hepoch, hactive, hinstant ▸ hdeadline⟩

theorem activeEpochForConsumer_ok {consumerId : String} {active : Option DreamEpoch}
    (h : p.activeEpochForConsumer consumerId = .ok active) :
    ∀ epoch ∈ p.activeEpochs, epoch.consumerId = consumerId → active = some epoch := by
  intro epoch hepoch hconsumer
  have hmem : epoch ∈ p.activeEpochs.filter fun epoch => epoch.consumerId = consumerId :=
    List.mem_filter.mpr ⟨hepoch, decide_eq_true hconsumer⟩
  unfold activeEpochForConsumer at h
  cases hmatches : p.activeEpochs.filter fun epoch => epoch.consumerId = consumerId with
  | nil =>
    rw [hmatches] at hmem
    cases hmem
  | cons first rest =>
    rw [hmatches] at h hmem
    cases rest with
    | nil =>
      cases h
      rw [List.mem_singleton.mp hmem]
    | cons second rest => cases h

theorem StartStep.alone {epoch : DreamEpoch} {trigger : Event} {request : CognitionScanRequest}
    {policy : EndogenousPolicySnapshot} (h : StartStep b p event epoch trigger request policy) :
    ∀ active ∈ p.activeEpochs, active.consumerId = epoch.consumerId →
      active.epochId = epoch.epochId := by
  intro other hother hsame
  obtain ⟨active, hactive, honly⟩ := h.consumer
  exact honly other (activeEpochForConsumer_ok hactive other hother hsame)

theorem ValueOfCognitionEstimate.fromDict_epochId {data : Payload}
    {estimate : ValueOfCognitionEstimate}
    (h : ValueOfCognitionEstimate.fromDict b data = .ok estimate) :
    itemText b.toBuiltins data "epoch_id" = .ok estimate.epochId := by
  obtain ⟨_, -, h⟩ := bind_eq_ok h
  obtain ⟨epochId, hepoch, h⟩ := bind_eq_ok h
  iterate 10 obtain ⟨_, -, h⟩ := bind_eq_ok h
  obtain ⟨_, -, h⟩ := bind_eq_ok h
  cases h
  exact hepoch

theorem IntrinsicAgendaSelection.fromDict_epochId {data : Payload}
    {selection : IntrinsicAgendaSelection}
    (h : IntrinsicAgendaSelection.fromDict b data = .ok selection) :
    itemText b.toBuiltins data "epoch_id" = .ok selection.epochId := by
  obtain ⟨_, -, h⟩ := bind_eq_ok h
  obtain ⟨_, -, h⟩ := bind_eq_ok h
  obtain ⟨epochId, hepoch, h⟩ := bind_eq_ok h
  iterate 8 obtain ⟨_, -, h⟩ := bind_eq_ok h
  cases h
  exact hepoch

theorem EstimateStep.openAt {epoch : DreamEpoch} {estimate : ValueOfCognitionEstimate}
    {activity : IntrinsicActivity} {policy : EndogenousPolicySnapshot}
    (h : EstimateStep b p event epoch estimate activity policy) :
    p.OpenAt epoch.epochId event.timestamp :=
  h.isOpen.openAt.of_beq (h.envelope.timestamp _ rfl)

theorem SelectionStep.openAt {epoch : DreamEpoch} {selection : IntrinsicAgendaSelection}
    {policy : EndogenousPolicySnapshot} (h : SelectionStep b p event epoch selection policy) :
    p.OpenAt epoch.epochId event.timestamp :=
  h.isOpen.openAt.of_beq (h.envelope.timestamp _ rfl)

theorem IntrinsicAgendaSelection.consumed_of_beq {selection expected : IntrinsicAgendaSelection}
    (h : (selection == expected) = true) : selection.consumed = expected.consumed := by
  obtain ⟨hcontent, -⟩ := Bool.and_eq_true_iff.mp h
  have hfields : (_ && (_ && (_ && (_ && (_ && _))))) = true := hcontent
  simp only [Bool.and_eq_true] at hfields
  exact eq_of_beq hfields.2.2.2.1

theorem SelectionStep.fits {epoch : DreamEpoch} {selection : IntrinsicAgendaSelection}
    {policy : EndogenousPolicySnapshot} (h : SelectionStep b p event epoch selection policy) :
    p.WithinCeiling selection := by
  obtain ⟨expected, hexpected, hequal⟩ := h.expected
  refine ⟨epoch, h.epochId ▸ h.isOpen.1, ?_⟩
  rw [IntrinsicAgendaSelection.consumed_of_beq hequal]
  exact selectIntrinsicAgenda_fits hexpected

/-! ## What every state keeps -/

/-- What the steps keep of the epochs, besides the safety. -/
structure Consistent (p : EndogenousProjection) : Prop extends Safe p where
  /-- An epoch started by an event of its own. -/
  begun : ∀ epochId epoch, p.epoch epochId = some epoch →
    (p.event ("dream-epoch-started:" ++ epochId)).isSome = true
  trigger : ∀ epochId epoch, p.epoch epochId = some epoch →
    p.epochByTrigger.get? epoch.triggerEventId = some epochId
  started : ∀ epochId status, p.status epochId = some status → (p.epoch epochId).isSome = true
  known : ∀ epochId, ∀ activityId ∈ p.epochActivities.listOf epochId,
    (p.activities.find activityId).isSome = true

theorem mem_activeEpochs {epoch : DreamEpoch} :
    epoch ∈ p.activeEpochs ↔
      p.epoch epoch.epochId = some epoch ∧ p.status epoch.epochId = some .active := by
  unfold activeEpochs
  rw [List.mem_filter, decide_eq_true_eq]
  exact and_congr_left fun _ => ⟨KeyedTable.find_of_mem, KeyedTable.mem_of_find⟩

theorem empty_consistent : Consistent empty where
  oneActive _ hepoch := by cases hepoch
  oneEpoch _ hepoch := by cases hepoch
  fits _ hselection := by cases hselection
  begun _ _ hepoch := by cases hepoch
  trigger _ _ hepoch := by cases hepoch
  started _ _ hstatus := by cases hstatus
  known _ _ hactivity := by cases hactivity

namespace Consistent

theorem of_untouched (hp : Consistent p) (h : Untouched p q) : Consistent q := by
  have hactive : q.activeEpochs = p.activeEpochs := by
    unfold activeEpochs status
    rw [h.epochs, h.epochStatus]
  have hepoch : q.epoch = p.epoch := by
    unfold epoch
    rw [h.epochs]
  constructor
  · constructor
    · rw [hactive]
      exact hp.oneActive
    · rw [h.epochs]
      exact hp.oneEpoch
    · rw [h.selections]
      unfold WithinCeiling
      rw [hepoch]
      exact hp.fits
  · unfold event
    rw [hepoch, h.events]
    exact hp.begun
  · rw [hepoch, h.epochByTrigger]
    exact hp.trigger
  · unfold status
    rw [hepoch, h.epochStatus]
    exact hp.started
  · rw [h.epochActivities, h.activities]
    exact hp.known

/-- The event itself is put under its id after what it did. -/
theorem extend (hp : Consistent p) (event : Event) (strategy : StrategicProjection)
    (lastSequence : Nat) :
    Consistent { p with strategy, events := p.events.put event, lastSequence } where
  oneActive := hp.oneActive
  oneEpoch := hp.oneEpoch
  fits := hp.fits
  begun epochId epoch hepoch := by
    show ((p.events.put event).find _).isSome = true
    rw [KeyedTable.find_put]
    split
    · rfl
    · exact hp.begun epochId epoch hepoch
  trigger := hp.trigger
  started := hp.started
  known := hp.known

/-- An epoch that is new, that no other has the trigger of, and whose consumer has no active
one. -/
theorem start {epoch : DreamEpoch} (hp : Consistent p)
    (hbegun : (p.event ("dream-epoch-started:" ++ epoch.epochId)).isSome = true)
    (hfresh : p.epoch epoch.epochId = none)
    (htrigger : ∀ existing, p.epochByTrigger.get? epoch.triggerEventId = some existing →
      existing = epoch.epochId)
    (hconsumer : ∀ active ∈ p.activeEpochs, active.consumerId = epoch.consumerId →
      active.epochId = epoch.epochId) :
    Consistent { p with
      epochs := p.epochs.put epoch
      epochByTrigger := p.epochByTrigger.put (epoch.triggerEventId, epoch.epochId)
      epochStatus := p.epochStatus.put (epoch.epochId, .active)
      epochActivities :=
        p.epochActivities.put (epoch.epochId, p.epochActivities.listOf epoch.epochId) } := by
  have hepoch : ∀ epochId found, (p.epochs.put epoch).find epochId = some found →
      (epoch.epochId = epochId ∧ found = epoch) ∨
        (epoch.epochId ≠ epochId ∧ p.epoch epochId = some found) := by
    intro epochId found hfound
    rw [KeyedTable.find_put] at hfound
    split at hfound
    · rename_i hid
      exact .inl ⟨hid, (Option.some.inj hfound).symm⟩
    · rename_i hid
      exact .inr ⟨hid, hfound⟩
  have hold : ∀ epochId found, p.epoch epochId = some found →
      epoch.epochId ≠ epochId := by
    rintro epochId found hfound rfl
    rw [hfresh] at hfound
    cases hfound
  -- No epoch that was there has the trigger of the new one.
  have hother : ∀ epochId found, p.epoch epochId = some found →
      found.triggerEventId ≠ epoch.triggerEventId := by
    intro epochId found hfound heq
    have hid := htrigger epochId (heq ▸ hp.trigger epochId found hfound)
    exact hold epochId found hfound hid.symm
  have hstatus : ∀ epochId, epoch.epochId ≠ epochId →
      Dict.get? (p.epochStatus.put (epoch.epochId, .active)) epochId = p.status epochId := by
    intro epochId hne
    rw [Dict.get?_put, if_neg hne]
    rfl
  constructor
  · constructor
    · intro first hfirst second hsecond hsame
      obtain ⟨hfirst, hactiveFirst⟩ := mem_activeEpochs.mp hfirst
      obtain ⟨hsecond, hactiveSecond⟩ := mem_activeEpochs.mp hsecond
      have hmem : ∀ found : DreamEpoch, epoch.epochId ≠ found.epochId →
          p.epoch found.epochId = some found →
          Dict.get? (p.epochStatus.put (epoch.epochId, .active)) found.epochId = some .active →
          found ∈ p.activeEpochs := fun found hne hfound hactive =>
        mem_activeEpochs.mpr ⟨hfound, hstatus _ hne ▸ hactive⟩
      rcases hepoch _ _ hfirst with ⟨-, hnewFirst⟩ | ⟨hneFirst, holdFirst⟩
      · rcases hepoch _ _ hsecond with ⟨-, hnewSecond⟩ | ⟨hneSecond, holdSecond⟩
        · rw [hnewFirst, hnewSecond]
        · exact absurd (hconsumer _ (hmem _ hneSecond holdSecond hactiveSecond)
            (hnewFirst ▸ hsame.symm)).symm hneSecond
      · rcases hepoch _ _ hsecond with ⟨-, hnewSecond⟩ | ⟨hneSecond, holdSecond⟩
        · exact absurd (hconsumer _ (hmem _ hneFirst holdFirst hactiveFirst)
            (hnewSecond ▸ hsame)).symm hneFirst
        · exact hp.oneActive _ (hmem _ hneFirst holdFirst hactiveFirst) _
            (hmem _ hneSecond holdSecond hactiveSecond) hsame
    · intro first hfirst second hsecond hsame
      rcases hepoch _ _ (KeyedTable.find_of_mem hfirst) with ⟨-, hnewFirst⟩ | ⟨-, holdFirst⟩
      · rcases hepoch _ _ (KeyedTable.find_of_mem hsecond) with ⟨-, hnewSecond⟩ | ⟨-, holdSecond⟩
        · rw [hnewFirst, hnewSecond]
        · exact absurd (hnewFirst ▸ hsame.symm) (hother _ _ holdSecond)
      · rcases hepoch _ _ (KeyedTable.find_of_mem hsecond) with ⟨-, hnewSecond⟩ | ⟨-, holdSecond⟩
        · exact absurd (hnewSecond ▸ hsame) (hother _ _ holdFirst)
        · exact hp.oneEpoch _ (KeyedTable.mem_of_find holdFirst) _
            (KeyedTable.mem_of_find holdSecond) hsame
    · intro selection hselection
      obtain ⟨found, hfound, hfits⟩ := hp.fits selection hselection
      refine ⟨found, ?_, hfits⟩
      show (p.epochs.put epoch).find _ = _
      rw [KeyedTable.find_put, if_neg (hold _ _ hfound)]
      exact hfound
  · intro epochId found hfound
    rcases hepoch _ _ hfound with ⟨rfl, -⟩ | ⟨-, hfound⟩
    · exact hbegun
    · exact hp.begun epochId found hfound
  · intro epochId found hfound
    rw [Dict.get?_put]
    rcases hepoch _ _ hfound with ⟨rfl, rfl⟩ | ⟨-, hfound⟩
    · exact if_pos rfl
    · rw [if_neg (hother _ _ hfound).symm]
      exact hp.trigger epochId found hfound
  · intro epochId status hknown
    show ((p.epochs.put epoch).find epochId).isSome = true
    rw [KeyedTable.find_put]
    split
    · rfl
    · rename_i hne
      exact hp.started epochId status (hstatus epochId hne ▸ hknown)
  · intro epochId activityId hactivity
    refine hp.known epochId activityId ?_
    rw [Dict.listOf, Dict.get?_put] at hactivity
    split at hactivity
    · rename_i hid
      exact hid ▸ hactivity
    · exact hactivity

theorem recordActivity {epochId : String} {activity : IntrinsicActivity} (hp : Consistent p) :
    Consistent { p with
      activities := p.activities.put activity
      epochActivities := p.epochActivities.put
        (epochId, (p.epochActivities.listOf epochId).insert activity.activityId) } where
  oneActive := hp.oneActive
  oneEpoch := hp.oneEpoch
  fits := hp.fits
  begun := hp.begun
  trigger := hp.trigger
  started := hp.started
  known epochId' activityId hactivity := by
    rw [KeyedTable.find_put]
    split
    · rfl
    · rename_i hne
      rw [Dict.listOf, Dict.get?_put] at hactivity
      split at hactivity
      · rename_i hid
        subst hid
        rcases List.mem_insert_iff.mp hactivity with heq | hmem
        · exact absurd heq.symm hne
        · exact hp.known epochId activityId hmem
      · exact hp.known epochId' activityId hactivity

theorem select {selection : IntrinsicAgendaSelection} (hp : Consistent p)
    (hfits : p.WithinCeiling selection) :
    Consistent { p with selections := p.selections.put selection } where
  oneActive := hp.oneActive
  oneEpoch := hp.oneEpoch
  fits other hother := by
    rcases KeyedTable.mem_put.mp hother with rfl | ⟨hmem, -⟩
    · exact hfits
    · exact hp.fits other hmem
  begun := hp.begun
  trigger := hp.trigger
  started := hp.started
  known := hp.known

theorem close {epochId : String} {status : DreamEpochStatus} (hp : Consistent p)
    (hstatus : status ≠ .active) (hactive : p.status epochId = some .active) :
    Consistent { p with epochStatus := p.epochStatus.put (epochId, status) } where
  oneActive epoch hepoch other hother := by
    have hsub : ∀ found ∈ ({ p with
        epochStatus := p.epochStatus.put (epochId, status) } : EndogenousProjection).activeEpochs,
        found ∈ p.activeEpochs := by
      intro found hfound
      obtain ⟨hfound, hstill⟩ := mem_activeEpochs.mp hfound
      refine mem_activeEpochs.mpr ⟨hfound, ?_⟩
      unfold EndogenousProjection.status at hstill
      rw [Dict.get?_put] at hstill
      split at hstill
      · exact absurd (Option.some.inj hstill) hstatus
      · exact hstill
    exact hp.oneActive epoch (hsub epoch hepoch) other (hsub other hother)
  oneEpoch := hp.oneEpoch
  fits := hp.fits
  begun := hp.begun
  trigger := hp.trigger
  started epochId' status' hknown := by
    unfold EndogenousProjection.status at hknown
    rw [Dict.get?_put] at hknown
    split at hknown
    · rename_i hid
      exact hid ▸ hp.started epochId .active hactive
    · exact hp.started epochId' status' hknown
  known := hp.known

end Consistent

/-! ## Steps and runs -/

/-- An epoch that starts was not there: its event would have been. -/
theorem fresh_of_new {epochId : String} (hp : Consistent p) (hnew : p.event event.id = none)
    (hid : event.id = "dream-epoch-started:" ++ epochId) : p.epoch epochId = none := by
  cases hepoch : p.epoch epochId with
  | none => rfl
  | some epoch =>
    have hbegun := hp.begun epochId epoch hepoch
    rw [← hid, hnew] at hbegun
    cases hbegun

theorem Transition.consistent (h : Transition b p event q) (hp : Consistent p)
    (hnew : p.event event.id = none) (strategy : StrategicProjection) (lastSequence : Nat) :
    Consistent { q with strategy, events := q.events.put event, lastSequence } := by
  have hextended := hp.extend event strategy lastSequence
  cases h with
  | policy | request | calibration | inquiry | estimate | elsewhere =>
    exact (hp.of_untouched (by constructor <;> rfl)).extend event strategy lastSequence
  | started htype h =>
    have hfresh := fresh_of_new hp hnew h.envelope.id
    refine hextended.start ?_ hfresh h.first h.alone
    show ((p.events.put event).find _).isSome = true
    rw [KeyedTable.find_put, if_pos h.envelope.id]
    rfl
  | activity htype h => exact hextended.recordActivity
  | selection htype h => exact hextended.select h.fits
  | preempted htype h => exact hextended.close (by decide : DreamEpochStatus.preempted ≠ .active) h.active
  | expired htype h => exact hextended.close (by decide : DreamEpochStatus.expired ≠ .active) h.active
  | @abandoned epoch abandonedAt reason htype h =>
    have hclosed := hextended.close (by decide : DreamEpochStatus.abandoned ≠ .active) h.active
    exact hclosed.of_untouched (by constructor <;> rfl)

/-- A closed epoch is not the one that is active. -/
theorem later_of_status {epochId : String} {status : DreamEpochStatus}
    (hactive : ∀ known, p.status epochId = some known → known = .active) :
    Later p { p with epochStatus := p.epochStatus.put (epochId, status) } where
  epochs _ _ hepoch := hepoch
  closed epochId' closed hclosed hne := by
    unfold EndogenousProjection.status
    rw [Dict.get?_put, if_neg]
    · exact hclosed
    · rintro rfl
      exact hne (hactive closed hclosed)
  selected _ _ hselection := hselection

theorem ClosingStep.later {epoch : DreamEpoch} (h : ClosingStep b p event epoch)
    (status : DreamEpochStatus) : Later p (p.withStatus epoch.epochId status) :=
  later_of_status fun _ hknown => Option.some.inj (hknown.symm.trans h.active)

theorem Transition.later (h : Transition b p event q) (hp : Consistent p)
    (hnew : p.event event.id = none) : Later p q := by
  cases h with
  | policy | request | calibration | inquiry | activity | estimate | elsewhere =>
    exact ⟨fun _ _ h => h, fun _ _ h _ => h, fun _ _ h => h⟩
  | @started epoch trigger request policy htype h =>
    have hfresh := fresh_of_new hp hnew h.envelope.id
    have hunknown : ∀ known, p.status epoch.epochId = some known → known = .active := by
      intro known hknown
      have hepoch := hp.started _ _ hknown
      rw [hfresh] at hepoch
      cases hepoch
    refine ⟨fun epochId found hfound => ?_, (later_of_status hunknown).closed, fun _ _ h => h⟩
    show (p.epochs.put epoch).find epochId = some found
    rw [KeyedTable.find_put, if_neg]
    · exact hfound
    · rintro rfl
      rw [hfresh] at hfound
      cases hfound
  | @selection epoch selection policy htype h =>
    refine ⟨fun _ _ h => h, fun _ _ h _ => h, fun epochId known hknown => ?_⟩
    show (p.selections.put selection).find epochId = some known
    rw [KeyedTable.find_put, if_neg]
    · exact hknown
    · rintro rfl
      rw [h.first] at hknown
      cases hknown
  | preempted htype h => exact h.later .preempted
  | expired htype h => exact h.later .expired
  | abandoned htype h =>
    obtain ⟨hepochs, hclosed, hselected⟩ := h.later .abandoned
    exact ⟨hepochs, hclosed, hselected⟩

/-- An event of another type than the four records no output. -/
theorem admits_elsewhere (htype : event.type ∉ outputTypes) : Admits b p event :=
  ⟨fun hmem => absurd hmem htype, fun heq => absurd (heq ▸ by decide) htype⟩

theorem OutputStep.admits {epoch : DreamEpoch} (h : OutputStep b p event epoch)
    (htype : event.type ≠ "endogenous.agenda_selected") : Admits b p event :=
  ⟨fun _ => ⟨_, h.epochId, h.isOpen.openAt⟩, fun heq => absurd heq htype⟩

theorem Transition.admits (h : Transition b p event q) (hp : Consistent p) : Admits b p event := by
  cases h with
  | policy htype | request htype | calibration htype | started htype | preempted htype
  | expired htype | abandoned htype => exact admits_elsewhere (htype ▸ by decide)
  | elsewhere htype =>
    refine admits_elsewhere fun hmem => htype ?_
    simp only [outputTypes, endogenousEventTypes, List.mem_cons, List.not_mem_nil, or_false] at hmem ⊢
    tauto
  | inquiry htype h => exact h.toOutputStep.admits (htype ▸ by decide)
  | activity htype h => exact h.toOutputStep.admits (htype ▸ by decide)
  | estimate htype h =>
    refine ⟨fun _ => ⟨_, ?_, h.openAt⟩, fun heq => absurd (heq ▸ htype) (by decide)⟩
    rw [h.epochId]
    exact ValueOfCognitionEstimate.fromDict_epochId h.read
  | @selection epoch selection policy htype h =>
    refine ⟨fun _ => ⟨_, ?_, h.openAt⟩, fun _ => ⟨selection, h.read, h.first, ?_, h.fits⟩⟩
    · rw [h.epochId]
      exact IntrinsicAgendaSelection.fromDict_epochId h.read
    · intro activityId hactivity
      rw [← h.epochId] at hactivity
      obtain ⟨activity, hfind⟩ := Option.isSome_iff_exists.mp (hp.known _ activityId hactivity)
      refine ⟨activity, hfind, h.current activity (List.mem_filterMap.mpr ⟨activityId, ?_, hfind⟩)⟩
      exact mem_ordered.mpr hactivity

theorem step_consistent (hp : Consistent p) (h : step b p event = .ok q) : Consistent q := by
  rcases step_cases h with ⟨-, rfl⟩ | ⟨hnew, applied, strategy, sequence, -, -, ht, -, rfl⟩
  · exact hp
  · exact ht.consistent hp hnew strategy sequence

theorem step_later (hp : Consistent p) (h : step b p event = .ok q) : Later p q := by
  rcases step_cases h with ⟨-, rfl⟩ | ⟨hnew, applied, strategy, sequence, -, -, ht, -, rfl⟩
  · exact .refl
  · obtain ⟨hepochs, hclosed, hselected⟩ := ht.later hp hnew
    exact ⟨hepochs, hclosed, hselected⟩

theorem step_admits (hp : Consistent p) (h : step b p event = .ok q)
    (hnew : p.event event.id = none) : Admits b p event := by
  rcases step_cases h with ⟨hknown, -⟩ | ⟨-, applied, strategy, sequence, -, -, ht, -, -⟩
  · rw [hnew] at hknown
    cases hknown
  · exact ht.admits hp

theorem run_consistent {events : List Event} (hp : Consistent p)
    (h : Folding.run (step b) p events = .ok q) : Consistent q :=
  Folding.run_induction (I := fun _ r => Consistent r) hp
    (fun _ _ _ _ _ hr hstep => step_consistent hr hstep) h

theorem run_later {events : List Event} (hp : Consistent p)
    (h : Folding.run (step b) p events = .ok q) : Later p q :=
  (Folding.run_induction (I := fun _ r => Consistent r ∧ Later p r) ⟨hp, .refl⟩
    (fun _ _ _ _ _ hr hstep =>
      ⟨step_consistent hr.1 hstep, hr.2.trans (step_later hr.1 hstep)⟩) h).2

/-- **The safety of endogenous cognition.**  Every prefix of an accepted log leaves a safe
state; what is closed or selected there stays so to the end; and a new event that comes next
records an output only of an epoch that is open at its time, and an agenda only if it is the
epoch's first, with all governing intent current, and within the epoch's ceiling. -/
theorem safe_at_every_prefix {before after : List Event}
    (h : rebuild b (before ++ after) = .ok p) :
    ∃ q, rebuild b before = .ok q ∧ Safe q ∧ Later q p ∧
      ∀ event ∈ after.head?, q.event event.id = none → Admits b q event := by
  obtain ⟨q, hbefore, hafter⟩ := Folding.run_append.mp h
  have hq := run_consistent empty_consistent hbefore
  refine ⟨q, hbefore, hq.toSafe, run_later hq hafter, fun event hevent hnew => ?_⟩
  obtain ⟨rest, rfl⟩ : ∃ rest, after = event :: rest := by
    cases after with
    | nil => cases hevent
    | cons first rest =>
      cases hevent
      exact ⟨rest, rfl⟩
  obtain ⟨r, hstep, -⟩ := Folding.run_cons.mp hafter
  exact step_admits hq hstep hnew

/-! ## An hour of cognition -/

/-- Conversions on which the examples run: they read two times, an hour apart. -/
def plainEndogenous : EndogenousBuiltins where
  toIntentBuiltins :=
    { StrategicProjection.plainIntent with
      fromisoformat := fun text =>
        if text = "1970-01-01T00:00:00+00:00" then .ok (0, some 0)
        else if text = "1970-01-01T01:00:00+00:00" then .ok (3600000000, some 0)
        else .error (.valueError "Invalid isoformat string") }
  endogenousIds :=
    { budget := fun _ => "one"
      policy := fun content => content.version
      scan := fun content => content.policyId
      epoch := fun content => content.consumerId
      inquiry := fun content => content.question
      activity := fun content => content.producerId
      estimate := fun content => content.activityId
      agenda := fun content => content.epochId
      calibration := fun content => content.peerId }

/-- An event of endogenous cognition. -/
def cognitionEvent (sequence : Nat) (kind id subject : String) (payload : Payload) : Event :=
  { StrategicProjection.paperRecorded with
    type := "endogenous." ++ kind, id, subject := some subject, sequence := some sequence, payload
    metadata := .ofList [("validated_at_event_cursor", .int (sequence - 1))] }

/-- A vector with one activity that costs nothing else. -/
def oneActivity : JSONValue := .obj [("activities", .int 1)]

def oneBudget : JSONValue :=
  .obj [("budget_id", .str "cognitive-budget:one"), ("ceiling", oneActivity)]

def paperIntent : JSONValue :=
  .list [.obj
    [("goal_id", .str "paper"), ("goal_revision_id", .str "goal-revision:paper:write the paper")]]

def paperEvidence : JSONValue :=
  .list [.str "event:goal-revision-recorded:goal-revision:paper:write the paper"]

/-- A policy under which nothing costs anything. -/
def freePolicyRecorded : Event :=
  cognitionEvent 2 "policy_snapshot_recorded" "endogenous-policy-recorded:endogenous-policy:free"
    "endogenous-policy:free" (.ofList
      [("policy_id", .str "endogenous-policy:free"), ("version", .str "free"),
       ("selector_id", .str stableGreedySelectorId), ("selector_version", .int 1),
       ("compute_cost_weight", .float (.finite 0)), ("delay_cost_weight", .float (.finite 0)),
       ("attention_cost_weight", .float (.finite 0)), ("opportunity_cost_weight", .float (.finite 0)),
       ("privacy_risk_cost_weight", .float (.finite 0))])

def scanId : String := "cognition-scan-requested:cognition-scan:endogenous-policy:free"

def scanRequested : Event :=
  cognitionEvent 3 "scan_requested" scanId "cognition-scan:endogenous-policy:free" (.ofList
    [("request_id", .str "cognition-scan:endogenous-policy:free"),
     ("policy_id", .str "endogenous-policy:free"), ("budget", oneBudget),
     ("requested_at", .str "1970-01-01T00:00:00+00:00"),
     ("expires_at", .str "1970-01-01T01:00:00+00:00")])

def epochStarted : Event :=
  cognitionEvent 4 "dream_epoch_started" "dream-epoch-started:dream-epoch:night" "dream-epoch:night"
    (.ofList
      [("epoch_id", .str "dream-epoch:night"), ("consumer_id", .str "night"),
       ("trigger_event_id", .str scanId), ("event_log_cursor", .int 3),
       ("policy_id", .str "endogenous-policy:free"), ("policy_version", .str "free"),
       ("selector_id", .str stableGreedySelectorId), ("selector_version", .int 1),
       ("budget", oneBudget), ("started_at", .str "1970-01-01T00:00:00+00:00"),
       ("expires_at", .str "1970-01-01T01:00:00+00:00"),
       ("authority_ceiling", .str "dream_proposal_only")])

def inquiryRecorded : Event :=
  cognitionEvent 5 "inquiry_recorded" "inquiry-recorded:inquiry:is it done?" "inquiry:is it done?"
    (.ofList
      [("epoch_id", .str "dream-epoch:night"),
       ("inquiry", .obj
         [("inquiry_id", .str "inquiry:is it done?"), ("question", .str "is it done?"),
          ("origin", .str "curiosity"), ("governing_intent_refs", paperIntent),
          ("evidence_refs", paperEvidence), ("target_refs", .list [.str "paper"]),
          ("decision_relevance", .float (.finite 1)),
          ("expected_information_value", .float (.finite 1)), ("uncertainty", .float (.finite 1)),
          ("possible_methods", .list [.str "reread it"]),
          ("estimated_cognitive_cost", .float (.finite 0)), ("privacy_risk_cost", .float (.finite 0)),
          ("deadline", .null), ("expires_at", .str "1970-01-01T01:00:00+00:00"),
          ("status", .str "open"), ("causal_cursor", .int 3),
          ("created_at", .str "1970-01-01T00:00:00+00:00"), ("producer_id", .str "detector")])])

def activityRecorded : Event :=
  cognitionEvent 6 "activity_recorded"
    "intrinsic-activity-recorded:dream-epoch:night:intrinsic-activity:detector"
    "intrinsic-activity:detector" (.ofList
      [("epoch_id", .str "dream-epoch:night"),
       ("activity", .obj
         [("activity_id", .str "intrinsic-activity:detector"), ("kind", .str "inquiry"),
          ("inquiry_id", .str "inquiry:is it done?"), ("governing_intent_refs", paperIntent),
          ("evidence_refs", paperEvidence), ("target_refs", .list [.str "paper"]),
          ("voc_inputs", .obj
            [("expected_decision_improvement", .float (.finite 2)),
             ("compute_cost_basis", .float (.finite 0)), ("delay_cost_basis", .float (.finite 0)),
             ("attention_cost_basis", .float (.finite 0)),
             ("opportunity_cost_basis", .float (.finite 0)),
             ("privacy_risk_cost_basis", .float (.finite 0))]),
          ("urgency", .float (.finite 1)), ("confidence", .float (.finite 1)),
          ("interruptible", .bool true), ("expires_at", .str "1970-01-01T01:00:00+00:00"),
          ("resources", oneActivity), ("causal_cursor", .int 3),
          ("producer_id", .str "detector")])])

def estimateEvaluated : Event :=
  cognitionEvent 7 "voc_evaluated" "voc-evaluated:dream-epoch:night:intrinsic-activity:detector"
    "intrinsic-activity:detector" (.ofList
      [("estimate_id", .str "voc-estimate:intrinsic-activity:detector"),
       ("epoch_id", .str "dream-epoch:night"), ("activity_id", .str "intrinsic-activity:detector"),
       ("policy_id", .str "endogenous-policy:free"),
       ("expected_decision_improvement", .float (.finite 2)), ("compute_cost", .float (.finite 0)),
       ("delay_cost", .float (.finite 0)), ("attention_cost", .float (.finite 0)),
       ("opportunity_cost", .float (.finite 0)), ("privacy_risk_cost", .float (.finite 0)),
       ("net_value", .float (.finite 2)), ("evaluated_at", .str "1970-01-01T00:00:00+00:00")])

def agendaSelected : Event :=
  cognitionEvent 8 "agenda_selected" "intrinsic-agenda-selected:intrinsic-agenda:dream-epoch:night"
    "dream-epoch:night" (.ofList
      [("selection_id", .str "intrinsic-agenda:dream-epoch:night"),
       ("epoch_id", .str "dream-epoch:night"), ("policy_id", .str "endogenous-policy:free"),
       ("decisions", .list [.obj
         [("activity_id", .str "intrinsic-activity:detector"), ("disposition", .str "selected"),
          ("reason", .str "positive NetVOC fits every pinned budget ceiling")]]),
       ("consumed", oneActivity), ("remaining", .obj []),
       ("selected_at", .str "1970-01-01T00:00:00+00:00")])

/-- The hour up to its agenda. -/
def beforeAgenda : List Event :=
  [StrategicProjection.paperRecorded, freePolicyRecorded, scanRequested, epochStarted,
   inquiryRecorded, activityRecorded, estimateEvaluated]

/-- The agenda is taken while its epoch is open, and as its first. -/
theorem hourOfCognition_safe : ∃ p q,
    rebuild plainEndogenous (beforeAgenda ++ [agendaSelected]) = .ok p ∧
      rebuild plainEndogenous beforeAgenda = .ok q ∧ Safe q ∧ Later q p ∧
      Admits plainEndogenous q agendaSelected := by
  have haccepted : (rebuild plainEndogenous (beforeAgenda ++ [agendaSelected])).isOk = true := by
    decide +kernel
  have hnew : (rebuild plainEndogenous beforeAgenda).map
      (fun q => (q.event agendaSelected.id).isNone) = .ok true := by
    decide +kernel
  cases hp : rebuild plainEndogenous (beforeAgenda ++ [agendaSelected]) with
  | error error =>
    rw [hp] at haccepted
    cases haccepted
  | ok p =>
    obtain ⟨q, hq, hsafe, hlater, hadmits⟩ := safe_at_every_prefix hp
    rw [hq] at hnew
    exact ⟨p, q, rfl, hq, hsafe, hlater,
      hadmits agendaSelected rfl (Option.isNone_iff_eq_none.mp (Except.ok.inj hnew))⟩

end EndogenousProjection

end Noema
