import Noema.EndogenousSafety
import Noema.GoalViews
import Noema.ReconsiderationModels
import Noema.RevisionHistory

/-!
# The dormant inquiries

`DormantInquiryIndex.derive` lists the inquiries that are not eligible at a time, each with
its reasons.  The reasons are worked out apart from the eligibility, and a descriptor refuses
to be built without one: that every ineligible inquiry has a reason rests on the goal
revisions.  An inquiry is admitted under live revisions, and a revision never changes, so an
intent that is no longer current has another current revision, or none.

The discovery projection hands each of its events to the endogenous projection, so a history
that it accepts is one that the endogenous projection accepts.
-/
namespace Noema

/-- `DormancyReason`. -/
inductive DormancyReason
  | intentRevisionStale
  | intentTerminal
  | inquiryExpired
deriving DecidableEq, Repr

def DormancyReason.value : DormancyReason → String
  | intentRevisionStale => "INTENT_REVISION_STALE"
  | intentTerminal => "INTENT_TERMINAL"
  | inquiryExpired => "INQUIRY_EXPIRED"

/-- The reasons that are about the governing intent. -/
def DormancyReason.ofIntent : DormancyReason → Prop
  | intentRevisionStale | intentTerminal => True
  | inquiryExpired => False

/-- `DormantInquiryDescriptor`. -/
structure DormantInquiryDescriptor where
  inquiryId : String
  epochId : String
  historicalCausalCursor : Int
  reasons : List DormancyReason
  targetRefs : List String
  dreamStatus : Option DreamEpochStatus
  lastConsideredCut : Int

def DormantInquiryDescriptor.check (descriptor : DormantInquiryDescriptor) :
    Except PyError Unit := do
  requireText descriptor.inquiryId "dormant inquiry id"
  requireText descriptor.epochId "dormant inquiry epoch id"
  refuse (descriptor.historicalCausalCursor ≤ 0)
    "dormant inquiry requires a historical causal cursor"
  refuse (descriptor.reasons = [] ∨ ¬descriptor.reasons.Nodup)
    "dormant inquiry reasons must be non-empty and unique"
  requireUnique descriptor.targetRefs "dormant inquiry target refs" true
  refuse (descriptor.lastConsideredCut < 0) "last-considered cut cannot be negative"

/-- `DormantInquiryIndex`. -/
structure DormantInquiryIndex where
  dormant : List DormantInquiryDescriptor

/-- `get`. -/
def DormantInquiryIndex.get (index : DormantInquiryIndex) (inquiryId : String) :
    Option DormantInquiryDescriptor :=
  index.dormant.find? fun descriptor => descriptor.inquiryId = inquiryId

namespace EndogenousProjection

variable (p : EndogenousProjection)

/-- `epoch_status`, or none where it raises. -/
def dreamStatus (epochId : String) : Option DreamEpochStatus := do
  let _ ← p.epoch epochId
  p.status epochId

/-- The reasons that a governing intent gives. -/
def intentReasons (ref : GoverningIntentRef) : List DormancyReason :=
  let current := p.strategy.currentGoalRevision ref.goalId
  (if ∀ revision ∈ current, revision.revisionId ≠ ref.goalRevisionId then [.intentRevisionStale]
    else []) ++
  if ∃ revision ∈ current, revision.status.terminal = true then [.intentTerminal] else []

/-- The set of an inquiry's reasons, by their values. -/
def dormancyReasons (at' : Datetime) (inquiry : Inquiry) : List DormancyReason :=
  ((if inquiry.expiresAt.instant ≤ at'.instant then [DormancyReason.inquiryExpired] else []) ++
    inquiry.governingIntentRefs.flatMap p.intentReasons).dedup.insertionSort
      fun a c => a.value ≤ c.value

/-- The last cut at which an inquiry was reconsidered. -/
def lastConsidered (candidates : List ReconsiderationCandidate) (inquiryId : String) : Int :=
  (((candidates.filter fun candidate => candidate.historical.inquiryId = inquiryId).map
    ReconsiderationCandidate.currentCausalCursor).max?).getD 0

variable (b : EndogenousBuiltins) (candidates : List ReconsiderationCandidate) (at' : Datetime)

/-- The descriptor of an inquiry that is not eligible. -/
def describe (inquiry : Inquiry) : Except PyError DormantInquiryDescriptor :=
  match p.event ("inquiry-recorded:" ++ inquiry.inquiryId) with
  | none => .error (.valueError "canonical Inquiry lost its event envelope")
  | some event => do
    let epochId ← itemText b.toBuiltins event.payload "epoch_id"
    constructed DormantInquiryDescriptor.check
      { inquiryId := inquiry.inquiryId
        epochId
        historicalCausalCursor := inquiry.causalCursor
        reasons := p.dormancyReasons at' inquiry
        targetRefs := inquiry.targetRefs
        dreamStatus := p.dreamStatus epochId
        lastConsideredCut := lastConsidered candidates inquiry.inquiryId }

/-- `DormantInquiryIndex.derive`; of the reconsideration projection it reads the candidates. -/
def dormantInquiryIndex : Except PyError DormantInquiryIndex := do
  let eligible := (p.eligibleInquiries at').map Inquiry.inquiryId
  let dormant := p.sortedInquiries.filter fun inquiry => inquiry.inquiryId ∉ eligible
  let descriptors ← dormant.mapM (p.describe b candidates at')
  return ⟨descriptors.insertionSort fun a c => a.inquiryId ≤ c.inquiryId⟩

end EndogenousProjection

/-! ## Revisions stay -/

namespace StrategicProjection

variable {b : IntentBuiltins} {p p' : StrategicProjection} {event : Event}

/-- The revisions of `p` are in `p'`. -/
def KeepsRevisions (p p' : StrategicProjection) : Prop :=
  ∀ id revision, p.goalRevisions.find id = some revision →
    p'.goalRevisions.find id = some revision

theorem SameGoals.keepsRevisions (h : SameGoals p p') : KeepsRevisions p p' := by
  intro id revision hfind
  rw [h.revisions]
  exact hfind

theorem recordGoalRevision_keeps {revision : GoalRevision}
    (h : p.recordGoalRevision revision event = .ok p') : KeepsRevisions p p' := by
  obtain ⟨goalRevisions, hinsert, rfl⟩ := recordGoalRevision_ok h
  intro id found hfind
  show goalRevisions.find id = some found
  rw [KeyedTable.find_insertOnce hinsert]
  by_cases hkey : revision.revisionId = id
  · rw [if_pos hkey]
    rcases KeyedTable.insertOnce_cases hinsert with ⟨-, hthere⟩ | ⟨hnew, -⟩
    · rw [hkey] at hthere
      exact hthere.symm.trans hfind
    · rw [hkey, hfind] at hnew
      cases hnew
  · rw [if_neg hkey]
    exact hfind

theorem Recorded.keepsRevisions (h : Recorded b p event p') : KeepsRevisions p p' := by
  cases h with
  | goal _ _ _ _ hrecord => exact recordGoalRevision_keeps hrecord
  | legacyGoal _ _ _ _ _ _ _ hrecord => exact recordGoalRevision_keeps hrecord
  | commitment | legacyCreate | legacyNothing => exact (SameGoals.refl p).keepsRevisions
  | transition _ _ _ _ _ hsame => exact hsame.toSameGoals.keepsRevisions
  | legacyPatch _ _ _ _ _ hsame => exact hsame.toSameGoals.keepsRevisions
  | elsewhere _ _ hsame => exact hsame.toSameGoals.keepsRevisions

theorem step_keepsRevisions (h : step b p event = .ok p') : KeepsRevisions p p' := by
  rcases step_recorded h with ⟨-, rfl⟩ | ⟨-, q, sequence, hrecorded, -, -, rfl⟩
  · exact fun _ _ hfind => hfind
  · exact hrecorded.keepsRevisions

/-- The current revision of a goal is the one under its id. -/
theorem find_currentGoalRevision {goalId : String} {revision : GoalRevision}
    (h : p.currentGoalRevision goalId = some revision) :
    p.goalRevisions.find revision.revisionId = some revision := by
  rw [currentGoalRevision_eq] at h
  obtain ⟨id, -, hfind⟩ := Option.bind_eq_some_iff.mp h
  have hkey : revision.revisionId = id := KeyedTable.find_key hfind
  rw [hkey]
  exact hfind

end StrategicProjection

namespace EndogenousProjection

variable {b : EndogenousBuiltins} {p q : EndogenousProjection} {event : Event}

/-! ## What is kept of an admitted inquiry -/

theorem Inquiry.fromDict_check {data : Payload} {inquiry : Inquiry}
    (h : Inquiry.fromDict b data = .ok inquiry) :
    inquiry.check b.endogenousIds = .ok () := by
  unfold Inquiry.fromDict at h
  iterate 20 obtain ⟨_, -, h⟩ := bind_eq_ok h
  obtain ⟨_, hcheck, h⟩ := bind_eq_ok h
  cases h
  exact hcheck

theorem DreamEpoch.fromDict_check {data : Payload} {epoch : DreamEpoch}
    (h : DreamEpoch.fromDict b data = .ok epoch) : epoch.check b.endogenousIds = .ok () := by
  unfold DreamEpoch.fromDict at h
  iterate 14 obtain ⟨_, -, h⟩ := bind_eq_ok h
  obtain ⟨_, hcheck, h⟩ := bind_eq_ok h
  cases h
  exact hcheck

/-- What a descriptor takes over from an inquiry. -/
structure Describable (inquiry : Inquiry) : Prop where
  inquiryId : blank inquiry.inquiryId = false
  governed : inquiry.governingIntentRefs ≠ []
  targets : requireUnique inquiry.targetRefs "dormant inquiry target refs" true = .ok ()
  cursor : 0 < inquiry.causalCursor

/-- The name is for the message only. -/
theorem requireUnique_renamed {values : List String} {name name' : String} {required : Bool}
    (h : requireUnique values name required = .ok ()) :
    requireUnique values name' required = .ok () := by
  unfold requireUnique at h ⊢
  split_ifs at h ⊢
  rfl

theorem Inquiry.describable {ids : EndogenousIds} {inquiry : Inquiry}
    (h : inquiry.check ids = .ok ()) : Describable inquiry := by
  obtain ⟨_, hid, h⟩ := bind_eq_ok h
  obtain ⟨_, -, h⟩ := bind_eq_ok h
  obtain ⟨_, -, h⟩ := bind_eq_ok h
  obtain ⟨_, hgoverned, h⟩ := bind_eq_ok h
  obtain ⟨_, -, h⟩ := bind_eq_ok h
  obtain ⟨_, -, h⟩ := bind_eq_ok h
  obtain ⟨_, htargets, h⟩ := bind_eq_ok h
  iterate 6 obtain ⟨_, -, h⟩ := bind_eq_ok h
  obtain ⟨_, hcursor, -⟩ := bind_eq_ok h
  exact ⟨requireText_ok hid, refuse_ok hgoverned, requireUnique_renamed htargets,
    not_le.mp (refuse_ok hcursor)⟩

/-- The revision of a governing intent, live when the inquiry was admitted. -/
def Governed (p : EndogenousProjection) (ref : GoverningIntentRef) : Prop :=
  ∃ revision, p.strategy.goalRevisions.find ref.goalRevisionId = some revision ∧
    revision.goalId = ref.goalId ∧ revision.status.live = true

/-- What is kept of an inquiry since its event. -/
structure Admitted (b : EndogenousBuiltins) (p : EndogenousProjection) (inquiry : Inquiry) :
    Prop where
  describable : Describable inquiry
  recorded : ∃ event epochId, p.event ("inquiry-recorded:" ++ inquiry.inquiryId) = some event ∧
    itemText b.toBuiltins event.payload "epoch_id" = .ok epochId ∧ blank epochId = false
  governed : ∀ ref ∈ inquiry.governingIntentRefs, p.Governed ref

/-- What the steps keep of the inquiries and the epochs. -/
structure Documented (b : EndogenousBuiltins) (p : EndogenousProjection) : Prop where
  epochs : ∀ epoch ∈ p.epochs.rows, blank epoch.epochId = false
  inquiries : ∀ inquiry ∈ p.inquiries.rows, Admitted b p inquiry

/-- The events and the goal revisions of `p` are in `q`. -/
structure Grown (p q : EndogenousProjection) : Prop where
  events : ∀ id event, p.event id = some event → q.event id = some event
  revisions : StrategicProjection.KeepsRevisions p.strategy q.strategy

theorem Admitted.later {inquiry : Inquiry} (h : Admitted b p inquiry) (hgrown : Grown p q) :
    Admitted b q inquiry := by
  refine ⟨h.describable, ?_, fun ref href => ?_⟩
  · obtain ⟨event, epochId, hevent, hread⟩ := h.recorded
    exact ⟨event, epochId, hgrown.events _ _ hevent, hread⟩
  · obtain ⟨revision, hfind, hlive⟩ := h.governed ref href
    exact ⟨revision, hgrown.revisions _ _ hfind, hlive⟩

theorem IntentRefCurrent.governed {ref : GoverningIntentRef} (h : p.IntentRefCurrent ref) :
    p.Governed ref := by
  obtain ⟨revision, hfind, hgoal, -, hlive⟩ := h
  exact ⟨revision, hfind, hgoal, hlive⟩

/-- What the epochs and the inquiries are after an event. -/
theorem Transition.documented (h : Transition b p event q) (hp : Documented b p) :
    (∀ epoch ∈ q.epochs.rows, blank epoch.epochId = false) ∧
      ∀ inquiry ∈ q.inquiries.rows, Admitted b p inquiry ∨
        ∃ epoch, InquiryStep b p event epoch inquiry := by
  cases h with
  | @started epoch _ _ _ _ h =>
    refine ⟨fun other hother => ?_, fun inquiry hmem => .inl (hp.inquiries inquiry hmem)⟩
    rcases KeyedTable.mem_put.mp hother with rfl | ⟨hold, -⟩
    · obtain ⟨_, htext, -⟩ := bind_eq_ok (DreamEpoch.fromDict_check h.read)
      exact requireText_ok htext
    · exact hp.epochs other hold
  | @inquiry epoch inquiry _ h =>
    refine ⟨hp.epochs, fun other hother => ?_⟩
    rcases KeyedTable.mem_put.mp hother with rfl | ⟨hold, -⟩
    · exact .inr ⟨epoch, h⟩
    · exact .inl (hp.inquiries other hold)
  | policy | request | calibration | activity | estimate | selection | preempted | expired
  | abandoned | elsewhere =>
    exact ⟨hp.epochs, fun inquiry hmem => .inl (hp.inquiries inquiry hmem)⟩

theorem Transition.events_eq (h : Transition b p event q) : q.events = p.events := by
  cases h <;> rfl

theorem step_documented (hp : Documented b p) (h : step b p event = .ok q) :
    Documented b q := by
  rcases step_cases h with ⟨-, rfl⟩ | ⟨hnew, applied, strategy, sequence, -, -, ht, hs, rfl⟩
  · exact hp
  have hput : ∀ id, (applied.events.put event).find id =
      if event.id = id then some event else p.event id := by
    intro id
    rw [KeyedTable.find_put, ht.events_eq]
    rfl
  have hgrown : Grown p { applied with
      strategy, events := applied.events.put event, lastSequence := sequence } := by
    refine ⟨fun id found hfound => ?_, StrategicProjection.step_keepsRevisions hs⟩
    show (applied.events.put event).find id = some found
    rw [hput, if_neg]
    · exact hfound
    · rintro rfl
      rw [hnew] at hfound
      cases hfound
  obtain ⟨hepochs, hinquiries⟩ := ht.documented hp
  refine ⟨hepochs, fun inquiry hmem => ?_⟩
  rcases hinquiries inquiry hmem with hold | ⟨epoch, hstep⟩
  · exact hold.later hgrown
  -- The event is the inquiry's own, and its intent is current.
  · refine ⟨?_, ⟨event, epoch.epochId, ?_, hstep.epochId, ?_⟩, fun ref href => ?_⟩
    · obtain ⟨data, -, hread⟩ := bind_eq_ok hstep.read
      exact Inquiry.describable (Inquiry.fromDict_check hread)
    · show (applied.events.put event).find _ = some event
      rw [hput, if_pos hstep.envelope.id]
    · exact hp.epochs epoch (KeyedTable.mem_of_find hstep.isOpen.1)
    · obtain ⟨revision, hfind, hlive⟩ := (hstep.current.2 ref href).governed
      exact ⟨revision, hgrown.revisions _ _ hfind, hlive⟩

theorem rebuild_documented {events : List Event} (h : rebuild b events = .ok p) :
    Documented b p := by
  have hempty : Documented b empty := by
    constructor
    · intro epoch hepoch
      cases hepoch
    · intro inquiry hinquiry
      cases hinquiry
  exact Folding.run_induction (I := fun _ q => Documented b q) hempty
    (fun _ _ _ _ _ hq hstep => step_documented hq hstep) h

/-! ## Eligibility and the reasons -/

/-- An intent is current exactly if it gives no reason. -/
theorem intentReasons_eq_nil {ref : GoverningIntentRef} (h : p.Governed ref) :
    p.intentReasons ref = [] ↔ p.IntentRefCurrent ref := by
  obtain ⟨revision, hfind, hgoal, hlive⟩ := h
  unfold intentReasons
  rw [List.append_eq_nil_iff]
  constructor
  · rintro ⟨hstale, -⟩
    have hcurrent : ¬∀ current ∈ p.strategy.currentGoalRevision ref.goalId,
        current.revisionId ≠ ref.goalRevisionId := by
      intro hall
      rw [if_pos hall] at hstale
      cases hstale
    push Not at hcurrent
    obtain ⟨current, hmem, hid⟩ := hcurrent
    -- The current revision has the id of the one that was live, so it is that one.
    have hsame := StrategicProjection.find_currentGoalRevision hmem
    rw [hid, hfind] at hsame
    obtain rfl := Option.some.inj hsame
    exact ⟨revision, hfind, hgoal, hmem, hlive⟩
  · rintro ⟨current, hthere, -, hcurrent, hstatus⟩
    rw [hcurrent]
    constructor
    · rw [if_neg]
      intro hall
      exact hall current rfl (KeyedTable.find_key hthere)
    · rw [if_neg]
      rintro ⟨other, hother, hterminal⟩
      obtain rfl := Option.some.inj hother
      revert hstatus hterminal
      cases current.status <;> simp [GoalStatus.live, GoalStatus.terminal]

theorem ofIntent_of_mem {ref : GoverningIntentRef} {reason : DormancyReason}
    (h : reason ∈ p.intentReasons ref) : reason.ofIntent := by
  unfold intentReasons at h
  rcases List.mem_append.mp h with h | h
  · split at h
    · obtain rfl := List.mem_singleton.mp h
      trivial
    · cases h
  · split at h
    · obtain rfl := List.mem_singleton.mp h
      trivial
    · cases h

theorem mem_dormancyReasons {at' : Datetime} {inquiry : Inquiry} {reason : DormancyReason} :
    reason ∈ p.dormancyReasons at' inquiry ↔
      (inquiry.expiresAt.instant ≤ at'.instant ∧ reason = .inquiryExpired) ∨
        ∃ ref ∈ inquiry.governingIntentRefs, reason ∈ p.intentReasons ref := by
  unfold dormancyReasons
  rw [List.mem_insertionSort, List.mem_dedup, List.mem_append, List.mem_flatMap]
  refine or_congr_left ?_
  by_cases hexpired : inquiry.expiresAt.instant ≤ at'.instant
  · rw [if_pos hexpired, List.mem_singleton]
    simp [hexpired]
  · rw [if_neg hexpired]
    simp [hexpired]

theorem dormancyReasons_nodup {at' : Datetime} {inquiry : Inquiry} :
    (p.dormancyReasons at' inquiry).Nodup :=
  (List.perm_insertionSort _ _).nodup_iff.mpr (List.nodup_dedup _)

/-- The intent reasons are about the intents that are not current. -/
theorem intent_reason_iff {at' : Datetime} {inquiry : Inquiry} (h : Admitted b p inquiry) :
    (∃ reason ∈ p.dormancyReasons at' inquiry, reason.ofIntent) ↔
      ∃ ref ∈ inquiry.governingIntentRefs, ¬p.IntentRefCurrent ref := by
  constructor
  · rintro ⟨reason, hmem, hintent⟩
    rcases mem_dormancyReasons.mp hmem with ⟨-, rfl⟩ | ⟨ref, href, hreason⟩
    · exact hintent.elim
    · refine ⟨ref, href, fun hcurrent => ?_⟩
      rw [(intentReasons_eq_nil (h.governed ref href)).mpr hcurrent] at hreason
      cases hreason
  · rintro ⟨ref, href, hstale⟩
    have hreasons := mt (intentReasons_eq_nil (h.governed ref href)).mp hstale
    obtain ⟨reason, hreason⟩ := List.exists_mem_of_ne_nil _ hreasons
    exact ⟨reason, mem_dormancyReasons.mpr (.inr ⟨ref, href, hreason⟩), ofIntent_of_mem hreason⟩

/-- **Who is not eligible has a reason, and nobody else.** -/
theorem dormancyReasons_ne_nil {at' : Datetime} {inquiry : Inquiry} (h : Admitted b p inquiry) :
    p.dormancyReasons at' inquiry ≠ [] ↔ ¬p.Eligible at' inquiry := by
  constructor
  · rintro hreasons ⟨hunexpired, -, hcurrent⟩
    obtain ⟨reason, hmem⟩ := List.exists_mem_of_ne_nil _ hreasons
    rcases mem_dormancyReasons.mp hmem with ⟨hexpired, -⟩ | ⟨ref, href, hreason⟩
    · omega
    · obtain ⟨other, hother, hstale⟩ := (intent_reason_iff h).mp
        ⟨reason, hmem, ofIntent_of_mem hreason⟩
      exact hstale (hcurrent other hother)
  · intro hineligible
    by_cases hexpired : inquiry.expiresAt.instant ≤ at'.instant
    · exact List.ne_nil_of_mem (mem_dormancyReasons.mpr (.inl ⟨hexpired, rfl⟩))
    · have hstale : ∃ ref ∈ inquiry.governingIntentRefs, ¬p.IntentRefCurrent ref := by
        by_contra hall
        push Not at hall
        exact hineligible ⟨not_le.mp hexpired, h.describable.governed, hall⟩
      obtain ⟨reason, hmem, -⟩ := (intent_reason_iff h).mpr hstale
      exact List.ne_nil_of_mem hmem

/-! ## The index -/

/-- What the constructors ask of a candidate. -/
def Considered (ids : ReconsiderationIds) (candidate : ReconsiderationCandidate) : Prop :=
  candidate.historical.check = .ok () ∧ candidate.check ids = .ok ()

theorem Considered.cursor {ids : ReconsiderationIds} {candidate : ReconsiderationCandidate}
    (h : Considered ids candidate) : 0 < candidate.currentCausalCursor := by
  obtain ⟨hhistorical, hcandidate⟩ := h
  iterate 2 obtain ⟨_, -, hhistorical⟩ := bind_eq_ok hhistorical
  obtain ⟨_, hcut, -⟩ := bind_eq_ok hhistorical
  iterate 4 obtain ⟨_, -, hcandidate⟩ := bind_eq_ok hcandidate
  obtain ⟨_, hfresh, -⟩ := bind_eq_ok hcandidate
  have hcut := not_le.mp (refuse_ok hcut)
  have hfresh := not_le.mp (refuse_ok hfresh)
  omega

theorem lastConsidered_nonneg {candidates : List ReconsiderationCandidate} {inquiryId : String}
    (h : ∀ candidate ∈ candidates, 0 < candidate.currentCausalCursor) :
    0 ≤ lastConsidered candidates inquiryId := by
  unfold lastConsidered
  cases hmax : (((candidates.filter fun candidate =>
      candidate.historical.inquiryId = inquiryId).map
        ReconsiderationCandidate.currentCausalCursor).max?) with
  | none => exact le_refl 0
  | some cut =>
    obtain ⟨candidate, hmem, rfl⟩ := List.mem_map.mp (List.max?_mem hmax)
    exact (h candidate (List.mem_filter.mp hmem).1).le

theorem mem_sortedInquiries {inquiry : Inquiry} :
    inquiry ∈ p.sortedInquiries ↔ p.inquiries.find inquiry.inquiryId = some inquiry := by
  unfold sortedInquiries
  rw [List.mem_insertionSort]
  exact ⟨KeyedTable.find_of_mem, KeyedTable.mem_of_find⟩

theorem mem_eligibleInquiries {at' : Datetime} {inquiry : Inquiry} :
    inquiry ∈ p.eligibleInquiries at' ↔
      p.inquiries.find inquiry.inquiryId = some inquiry ∧ p.Eligible at' inquiry := by
  unfold eligibleInquiries
  rw [List.mem_filter, mem_sortedInquiries, decide_eq_true_eq]

/-- An id tells the known inquiries apart. -/
theorem eligible_iff_id {at' : Datetime} {inquiry : Inquiry}
    (hfind : p.inquiries.find inquiry.inquiryId = some inquiry) :
    inquiry.inquiryId ∈ (p.eligibleInquiries at').map Inquiry.inquiryId ↔
      p.Eligible at' inquiry := by
  rw [List.mem_map]
  constructor
  · rintro ⟨other, hother, hid⟩
    obtain ⟨hfound, heligible⟩ := mem_eligibleInquiries.mp hother
    rw [hid, hfind] at hfound
    obtain rfl := Option.some.inj hfound
    exact heligible
  · intro heligible
    exact ⟨inquiry, mem_eligibleInquiries.mpr ⟨hfind, heligible⟩, rfl⟩

/-- A descriptor of an admitted inquiry that is not eligible can be built. -/
theorem describe_of {candidates : List ReconsiderationCandidate} {at' : Datetime}
    {inquiry : Inquiry} (h : Admitted b p inquiry) (hineligible : ¬p.Eligible at' inquiry)
    (hcandidates : ∀ candidate ∈ candidates, 0 < candidate.currentCausalCursor) :
    ∃ descriptor, p.describe b candidates at' inquiry = .ok descriptor := by
  obtain ⟨event, epochId, hevent, hread, hblank⟩ := h.recorded
  obtain ⟨hid, hgoverned, htargets, hcursor⟩ := h.describable
  unfold describe
  rw [hevent]
  dsimp only
  rw [hread]
  refine ⟨_, bind_of_ok (a := ()) ?_ _⟩
  unfold DormantInquiryDescriptor.check
  rw [requireText_of hid, ok_bind, requireText_of hblank, ok_bind, refuse_of (not_le.mpr hcursor),
    ok_bind, refuse_of, ok_bind, htargets, ok_bind,
    refuse_of (not_lt.mpr (lastConsidered_nonneg hcandidates))]
  rw [not_or, not_not]
  exact ⟨(dormancyReasons_ne_nil h).mpr hineligible, dormancyReasons_nodup⟩

theorem describe_ok {candidates : List ReconsiderationCandidate} {at' : Datetime}
    {inquiry : Inquiry} {descriptor : DormantInquiryDescriptor}
    (h : p.describe b candidates at' inquiry = .ok descriptor) :
    descriptor.inquiryId = inquiry.inquiryId ∧
      descriptor.reasons = p.dormancyReasons at' inquiry := by
  unfold describe at h
  split at h
  · cases h
  · obtain ⟨_, -, h⟩ := bind_eq_ok h
    obtain ⟨_, -, h⟩ := bind_eq_ok h
    cases h
    exact ⟨rfl, rfl⟩

/-- **The dormant index is total.**  After every accepted history, at every time and with
every candidates that their constructors let through, the index is derived; the inquiries in
it are the known ones that are not eligible; and a descriptor has an intent reason exactly if
some governing intent of its inquiry is not the current revision of its goal, live. -/
theorem dormantInquiryIndex_total (b : EndogenousBuiltins) (ids : ReconsiderationIds)
    (events : List Event) (p : EndogenousProjection) (candidates : List ReconsiderationCandidate)
    (at' : Datetime) (h : rebuild b events = .ok p)
    (hcandidates : ∀ candidate ∈ candidates, Considered ids candidate) :
    ∃ index, p.dormantInquiryIndex b candidates at' = .ok index ∧
      (∀ inquiryId, (index.get inquiryId).isSome = true ↔
        ∃ inquiry, p.inquiries.find inquiryId = some inquiry ∧
          inquiry ∉ p.eligibleInquiries at') ∧
      ∀ descriptor ∈ index.dormant, ∃ inquiry,
        p.inquiries.find descriptor.inquiryId = some inquiry ∧
        ((∃ reason ∈ descriptor.reasons, reason.ofIntent) ↔
          ∃ ref ∈ inquiry.governingIntentRefs, ¬p.IntentRefCurrent ref) := by
  have hp := rebuild_documented h
  have hcursors := fun candidate hmem => (hcandidates candidate hmem).cursor
  obtain ⟨dormant, hdormant⟩ : ∃ dormant, dormant = p.sortedInquiries.filter fun inquiry =>
    inquiry.inquiryId ∉ (p.eligibleInquiries at').map Inquiry.inquiryId := ⟨_, rfl⟩
  have hmem : ∀ inquiry, inquiry ∈ dormant ↔
      p.inquiries.find inquiry.inquiryId = some inquiry ∧ ¬p.Eligible at' inquiry := by
    intro inquiry
    rw [hdormant, List.mem_filter, mem_sortedInquiries, decide_eq_true_eq]
    exact and_congr_right fun hfind => not_congr (eligible_iff_id hfind)
  have hadmitted : ∀ inquiry ∈ dormant, Admitted b p inquiry := fun inquiry hdorm =>
    hp.inquiries inquiry (KeyedTable.mem_of_find ((hmem inquiry).mp hdorm).1)
  obtain ⟨descriptors, hdescriptors⟩ := exists_mapM fun inquiry hdorm =>
    describe_of (hadmitted inquiry hdorm) ((hmem inquiry).mp hdorm).2 hcursors
  refine ⟨⟨descriptors.insertionSort fun a c => a.inquiryId ≤ c.inquiryId⟩, ?_, ?_, ?_⟩
  · unfold dormantInquiryIndex
    dsimp only
    rw [← hdormant, hdescriptors]
    rfl
  · intro inquiryId
    unfold DormantInquiryIndex.get
    rw [List.find?_isSome]
    constructor
    · rintro ⟨descriptor, hdescriptor, hid⟩
      obtain ⟨inquiry, hdorm, hdescribe⟩ := item_of_mapM hdescriptors
        ((List.mem_insertionSort _).mp hdescriptor)
      obtain ⟨hfind, hineligible⟩ := (hmem inquiry).mp hdorm
      obtain rfl : inquiry.inquiryId = inquiryId :=
        (describe_ok hdescribe).1.symm.trans (of_decide_eq_true hid)
      exact ⟨inquiry, hfind, fun heligible => hineligible (mem_eligibleInquiries.mp heligible).2⟩
    · rintro ⟨inquiry, hfind, hineligible⟩
      obtain rfl : inquiry.inquiryId = inquiryId := KeyedTable.find_key hfind
      have hdorm := (hmem inquiry).mpr
        ⟨hfind, fun heligible => hineligible (mem_eligibleInquiries.mpr ⟨hfind, heligible⟩)⟩
      obtain ⟨descriptor, hdescriptor, hdescribe⟩ := mapM_mem hdescriptors hdorm
      exact ⟨descriptor, (List.mem_insertionSort _).mpr hdescriptor,
        decide_eq_true (describe_ok hdescribe).1⟩
  · intro descriptor hdescriptor
    obtain ⟨inquiry, hdorm, hdescribe⟩ := item_of_mapM hdescriptors
      ((List.mem_insertionSort _).mp hdescriptor)
    obtain ⟨hid, hreasons⟩ := describe_ok hdescribe
    refine ⟨inquiry, ?_, ?_⟩
    · rw [hid]
      exact ((hmem inquiry).mp hdorm).1
    · rw [hreasons]
      exact intent_reason_iff (hadmitted inquiry hdorm)

/-! ## A goal that is described anew -/

/-- An inquiry, and after it a migrated revision of the goal that governs it. -/
def paperRevised : List Event :=
  [StrategicProjection.paperRecorded, freePolicyRecorded, scanRequested, epochStarted,
   inquiryRecorded, { StrategicProjection.paperUpdated with sequence := some 6 }]

/-- Digests of no content. -/
def noReconsideration : ReconsiderationIds :=
  ⟨fun _ => "", fun _ => "", fun _ => "", fun _ => "", fun _ => "", fun _ => "", fun _ => "",
    fun _ => "", fun _ => "", fun _ => "", fun _ => ""⟩

/-- The inquiry has not expired, but it is dormant. -/
theorem paperRevised_dormant : ∃ events p index,
    paperRevised.mapM StrategicProjection.intentSchemas.normalize = .ok events ∧
      rebuild plainEndogenous events = .ok p ∧
      p.dormantInquiryIndex plainEndogenous [] (.utc 0) = .ok index ∧
      ∃ descriptor ∈ index.dormant, ∃ reason ∈ descriptor.reasons, reason.ofIntent := by
  have hrun : (do
      let events ← paperRevised.mapM StrategicProjection.intentSchemas.normalize
      let p ← rebuild plainEndogenous events
      return (p.sortedInquiries.filter fun inquiry => ¬p.Eligible (.utc 0) inquiry).map
        fun inquiry => (inquiry.inquiryId,
          inquiry.governingIntentRefs.filter fun ref => ¬p.IntentRefCurrent ref)) =
      Except.ok [("inquiry:is it done?",
        [⟨"paper", "goal-revision:paper:write the paper"⟩])] := by
    decide +kernel
  obtain ⟨events, hevents, hrun⟩ := bind_eq_ok hrun
  obtain ⟨p, hp, hrun⟩ := bind_eq_ok hrun
  have hrows := Except.ok.inj hrun
  obtain ⟨inquiry, hinquiry, hrow⟩ := List.mem_map.mp (hrows ▸ List.mem_singleton_self _)
  obtain ⟨hknown, hineligible⟩ := List.mem_filter.mp hinquiry
  have hstale : (⟨"paper", "goal-revision:paper:write the paper"⟩ : GoverningIntentRef) ∈
      inquiry.governingIntentRefs.filter fun ref => ¬p.IntentRefCurrent ref := by
    rw [(Prod.mk.inj hrow).2]
    exact List.mem_singleton_self _
  obtain ⟨href, hnot⟩ := List.mem_filter.mp hstale
  obtain ⟨index, hindex, hget, hreasons⟩ := dormantInquiryIndex_total plainEndogenous
    noReconsideration events p [] (.utc 0) hp fun _ hmem => nomatch hmem
  have hfind := mem_sortedInquiries.mp hknown
  have hthere := (hget inquiry.inquiryId).mpr ⟨inquiry, hfind, fun heligible =>
    of_decide_eq_true hineligible (mem_eligibleInquiries.mp heligible).2⟩
  obtain ⟨descriptor, hdescriptor, hid⟩ := List.find?_isSome.mp hthere
  obtain ⟨other, hother, hintent⟩ := hreasons descriptor hdescriptor
  rw [of_decide_eq_true hid, hfind] at hother
  obtain rfl := Option.some.inj hother
  exact ⟨events, p, index, hevents, hp, hindex, descriptor, hdescriptor,
    hintent.mpr ⟨_, href, of_decide_eq_true hnot⟩⟩

end EndogenousProjection
end Noema
