import Mathlib.Data.List.Chain
import Noema.GoalAuthority

/-!
# The lifecycle of a commitment

A commitment is proposed, accepted or active at first, goes from one status to another as
`allowedTransitions` says, and has a closure reason exactly while it is closed.  Native
events are checked for this; a legacy event writes whatever status and closure reason it
reads.  So the commitments of an accepted log live by the lifecycle exactly if every
legacy event of a commitment kept it (`KeepsLifecycle`).
-/
namespace Noema

namespace StrategicProjection

/-- The statuses that a commitment may start in. -/
def startStatuses : List CommitmentStatus := [.proposed, .accepted, .active]

/-- A status that may follow. -/
def StatusFollows (before next : CommitmentStatus) : Prop :=
  before ≠ next → next ∈ allowedTransitions before

/-- Closed, with a reason, or not closed and without. -/
def ClosureFits (status : CommitmentStatus) (closureReason : Option CommitmentClosureReason) :
    Prop :=
  closureReason.isSome = true ↔ status = .closed

/-- The lifecycle of one commitment, of its versions in order. -/
structure SoundLifecycle (history : List Commitment) : Prop where
  start : ∀ first, history.head? = some first → first.status ∈ startStatuses
  chain : history.IsChain fun before next => StatusFollows before.status next.status
  closure : ∀ version ∈ history, ClosureFits version.status version.closureReason

/-- Every commitment lives by the lifecycle. -/
def LifecyclesSound (p : StrategicProjection) : Prop :=
  ∀ commitmentId, SoundLifecycle (p.commitmentHistory commitmentId)

/-- A legacy event that creates a commitment reads a status to start in and no closure
reason, and one of a commitment that is there a status that may follow and the closure
reason that fits. -/
def KeepsLifecycle (b : IntentBuiltins) (p : StrategicProjection) (event : Event) : Prop :=
  p.events.find event.id = none → isLegacyIntentEvent event = true →
    "commitment.".toList <+: event.type.toList →
    ∀ commitmentId,
      textOrElse b.toBuiltins event.payload "id" event.subjectOrId = .ok commitmentId →
      match p.commitments.find commitmentId with
      | none => ∀ context, legacyContext event = .ok context →
          itemText b.toBuiltins context "operation" = .ok "create" →
          (∃ status ∈ startStatuses,
            commitmentStatusOr b.toBuiltins event.payload .accepted = .ok status) ∧
          closureReasonOf b event.payload "closure_reason" = .ok none
      | some current => ∃ status closureReason,
          commitmentStatusOr b.toBuiltins event.payload current.status = .ok status ∧
          closureReasonOr b event.payload current.closureReason = .ok closureReason ∧
          StatusFollows current.status status ∧ ClosureFits status closureReason

/-- A version that may follow the last one, or start the history. -/
def VersionFollows (before : Option Commitment) (version : Commitment) : Prop :=
  (match before with
    | none => version.status ∈ startStatuses
    | some before => StatusFollows before.status version.status) ∧
  ClosureFits version.status version.closureReason

/-- A history that is longer by one version. -/
theorem soundLifecycle_snoc {history : List Commitment} {version : Commitment} :
    SoundLifecycle (history ++ [version]) ↔
      SoundLifecycle history ∧ VersionFollows history.getLast? version := by
  rcases List.eq_nil_or_concat' history with rfl | ⟨init, last, rfl⟩
  · constructor
    · rintro ⟨hstart, -, hclosure⟩
      refine ⟨⟨fun first h => (nomatch h), .nil, fun v hv => (nomatch hv)⟩, ?_, ?_⟩
      · exact hstart version rfl
      · exact hclosure version (List.mem_singleton_self version)
    · rintro ⟨-, hstart, hclosure⟩
      refine ⟨fun first h => ?_, .singleton version, fun v hv => ?_⟩
      · cases h
        exact hstart
      · cases List.mem_singleton.mp hv
        exact hclosure
  · have hhead : (init ++ [last] ++ [version]).head? = (init ++ [last]).head? := by
      rw [List.head?_append_of_ne_nil _ (by simp)]
    rw [List.getLast?_concat]
    constructor
    · rintro ⟨hstart, hchain, hclosure⟩
      obtain ⟨hinit, -, hlast⟩ := List.isChain_append.mp hchain
      refine ⟨⟨hhead ▸ hstart, hinit, fun v hv => hclosure v (List.mem_append_left _ hv)⟩, ?_, ?_⟩
      · exact hlast last (by rw [List.getLast?_concat]; rfl) version rfl
      · exact hclosure version (List.mem_append_right _ (List.mem_singleton_self version))
    · rintro ⟨⟨hstart, hchain, hclosure⟩, hfollows, hfits⟩
      refine ⟨hhead ▸ hstart, List.isChain_append.mpr ⟨hchain, .singleton version, ?_⟩, ?_⟩
      · intro before hbefore next hnext
        rw [List.getLast?_concat] at hbefore
        cases hbefore
        cases hnext
        exact hfollows
      · intro v hv
        rcases List.mem_append.mp hv with hv | hv
        · exact hclosure v hv
        · cases List.mem_singleton.mp hv
          exact hfits

/-- A closed commitment stays closed. -/
theorem SoundLifecycle.closed_stays {history : List Commitment} (h : SoundLifecycle history)
    {before after : List Commitment} {version later : Commitment}
    (hsplit : history = before ++ version :: after) (hclosed : version.status = .closed)
    (hlater : later ∈ after) : later.status = .closed := by
  have hchain := (hsplit ▸ h.chain).right_of_append
  clear hsplit h
  induction after generalizing version with
  | nil => cases hlater
  | cons next rest ih =>
    obtain ⟨hfollows, hrest⟩ := List.isChain_cons_cons.mp hchain
    have hnext : next.status = .closed := by
      by_contra hne
      have hallowed := hfollows (by rw [hclosed]; exact fun heq => hne heq.symm)
      rw [hclosed] at hallowed
      cases hallowed
    rcases List.mem_cons.mp hlater with rfl | hlater
    · exact hnext
    · exact ih hnext hlater hrest

/-! ## The versions of a commitment -/

/-- A commitment is the last of its versions. -/
def CurrentVersions (p : StrategicProjection) : Prop :=
  ∀ commitmentId, p.commitments.find commitmentId = (p.commitmentHistory commitmentId).getLast?

variable {b : IntentBuiltins} {p p' : StrategicProjection} {event : Event}

theorem commitmentHistory_put (value : Commitment) (commitmentId : String) :
    (p.putCommitment value).commitmentHistory commitmentId =
      if value.id = commitmentId then p.commitmentHistory commitmentId ++ [value]
      else p.commitmentHistory commitmentId :=
  Dict.listOf_push p.commitmentVersions value.id commitmentId value

theorem CurrentVersions.put (hp : CurrentVersions p) (value : Commitment) :
    CurrentVersions (p.putCommitment value) := by
  intro commitmentId
  rw [commitmentHistory_put]
  show (p.commitments.put value).find commitmentId = _
  rw [KeyedTable.find_put]
  by_cases hid : value.id = commitmentId
  · rw [if_pos hid, if_pos hid, List.getLast?_concat]
  · rw [if_neg hid, if_neg hid]
    exact hp commitmentId

theorem lifecyclesSound_put (hp : CurrentVersions p) (value : Commitment) :
    LifecyclesSound (p.putCommitment value) ↔
      LifecyclesSound p ∧ VersionFollows (p.commitments.find value.id) value := by
  rw [hp value.id]
  constructor
  · intro hsound
    have hvalue := hsound value.id
    rw [commitmentHistory_put, if_pos rfl, soundLifecycle_snoc] at hvalue
    refine ⟨fun commitmentId => ?_, hvalue.2⟩
    by_cases hid : value.id = commitmentId
    · exact hid ▸ hvalue.1
    · have hother := hsound commitmentId
      rw [commitmentHistory_put, if_neg hid] at hother
      exact hother
  · rintro ⟨hsound, hfollows⟩ commitmentId
    rw [commitmentHistory_put]
    by_cases hid : value.id = commitmentId
    · rw [if_pos hid, soundLifecycle_snoc]
      exact ⟨hsound commitmentId, hid ▸ hfollows⟩
    · rw [if_neg hid]
      exact hsound commitmentId

theorem SameCommitments.versions_iff (h : SameCommitments p p') :
    CurrentVersions p' ↔ CurrentVersions p := by
  unfold CurrentVersions commitmentHistory
  rw [h.commitments, h.versions]

theorem SameCommitments.sound_iff (h : SameCommitments p p') :
    LifecyclesSound p' ↔ LifecyclesSound p := by
  unfold LifecyclesSound commitmentHistory
  rw [h.versions]

/-! ## One event -/

theorem keepsLifecycle_of_native (h : isLegacyIntentEvent event = false) :
    KeepsLifecycle b p event := by
  intro _ hlegacy
  rw [h] at hlegacy
  cases hlegacy

theorem keepsLifecycle_of_goal (htype : "goal.".toList <+: event.type.toList) :
    KeepsLifecycle b p event :=
  fun _ _ hcommitment => (goal_ne_commitment htype hcommitment).elim

theorem closureFits_start {status : CommitmentStatus}
    {closureReason : Option CommitmentClosureReason} (h : status ∈ startStatuses) :
    ClosureFits status closureReason ↔ closureReason = none := by
  have hopen : status ≠ .closed := by
    rintro rfl
    revert h
    decide
  unfold ClosureFits
  rw [iff_false_right hopen, Bool.not_eq_true, Option.isSome_eq_false_iff, Option.isNone_iff_eq_none]

/-- A commitment that is admitted may start. -/
theorem admitted_follows {value : Commitment} {authority : IntentAuthority} {answer : Unit}
    (h : p.validateCommitmentStructure value authority = .ok answer) :
    VersionFollows (p.commitments.find value.id) value := by
  iterate 10 obtain ⟨_, -, h⟩ := bind_eq_ok h
  obtain ⟨_, hnew, h⟩ := bind_eq_ok h
  obtain ⟨_, hstatus, h⟩ := bind_eq_ok h
  obtain ⟨_, hclosure, -⟩ := bind_eq_ok h
  have hnew := not_not.mp (refuse_ok hnew)
  have hstatus := refuse_ok hstatus
  have hclosure := not_not.mp (refuse_ok hclosure)
  rw [hnew]
  have hstart : value.status ∈ startStatuses := by
    cases hvalue : value.status <;> simp [hvalue, startStatuses] at hstatus ⊢
  exact ⟨hstart, (closureFits_start hstart).mpr hclosure⟩

/-- A transition that is admitted follows the table. -/
theorem transition_follows {transition : CommitmentTransition} {current : Commitment}
    {authority : IntentAuthority} {answer : Unit}
    (h : p.validateTransitionOf transition authority current = .ok answer) :
    VersionFollows (some current) (transitioned current transition) := by
  iterate 4 obtain ⟨_, -, h⟩ := bind_eq_ok h
  obtain ⟨_, hallowed, h⟩ := bind_eq_ok h
  obtain ⟨_, hclosed, h⟩ := bind_eq_ok h
  obtain ⟨_, hopen, -⟩ := bind_eq_ok h
  have hallowed := not_not.mp (refuse_ok hallowed)
  have hclosed := not_and.mp (refuse_ok hclosed)
  have hopen := not_and.mp (refuse_ok hopen)
  refine ⟨fun _ => hallowed, ?_⟩
  show transition.closureReason.isSome = true ↔ transition.toState = .closed
  rw [Option.isSome_iff_ne_none]
  constructor
  · intro hreason
    by_contra hne
    exact hopen hne hreason
  · exact hclosed

/-- What a legacy event that creates a commitment reads. -/
theorem created_fields {payload : Payload} {commitmentId : String} {createdAt updatedAt : Datetime}
    {value : Commitment}
    (h : commitmentFromDict b payload commitmentId createdAt updatedAt = .ok value) :
    value.id = commitmentId ∧
      closureReasonOf b payload "closure_reason" = .ok value.closureReason ∧
      commitmentStatusOr b.toBuiltins payload .accepted = .ok value.status := by
  obtain ⟨closureReason, hclosure, h⟩ := bind_eq_ok h
  iterate 3 obtain ⟨_, -, h⟩ := bind_eq_ok h
  obtain ⟨status, hstatus, h⟩ := bind_eq_ok h
  iterate 10 obtain ⟨_, -, h⟩ := bind_eq_ok h
  cases h
  exact ⟨rfl, hclosure, hstatus⟩

/-- What a legacy event of a commitment that is there reads. -/
theorem patched_fields {current updated : Commitment}
    (h : patchedCommitment b event current = .ok updated) :
    updated.id = current.id ∧
      closureReasonOr b event.payload current.closureReason = .ok updated.closureReason ∧
      commitmentStatusOr b.toBuiltins event.payload current.status = .ok updated.status := by
  obtain ⟨status, hstatus, h⟩ := bind_eq_ok h
  obtain ⟨closureReason, hclosure, h⟩ := bind_eq_ok h
  iterate 6 obtain ⟨_, -, h⟩ := bind_eq_ok h
  cases h
  exact ⟨rfl, hclosure, hstatus⟩

/-- A created commitment may start exactly if its event keeps the lifecycle. -/
theorem created_follows_iff {commitmentId : String} {context : Payload} {value : Commitment}
    (hnew : p.events.find event.id = none) (hlegacy : isLegacyIntentEvent event = true)
    (htype : "commitment.".toList <+: event.type.toList)
    (hcontext : legacyContext event = .ok context)
    (hoperation : itemText b.toBuiltins context "operation" = .ok "create")
    (hid : textOrElse b.toBuiltins event.payload "id" event.subjectOrId = .ok commitmentId)
    (hfind : p.commitments.find commitmentId = none)
    (hread : commitmentFromDict b event.payload commitmentId event.timestamp event.timestamp =
      .ok value) :
    VersionFollows (p.commitments.find value.id) value ↔ KeepsLifecycle b p event := by
  obtain ⟨hvalue, hclosure, hstatus⟩ := created_fields hread
  rw [hvalue, hfind]
  constructor
  · rintro ⟨hstart, hfits⟩ _ _ _ other hother
    rw [hid] at hother
    cases hother
    rw [hfind]
    intro _ _ _
    refine ⟨⟨value.status, hstart, hstatus⟩, ?_⟩
    rw [hclosure, (closureFits_start hstart).mp hfits]
  · intro hkeeps
    have hkept := hkeeps hnew hlegacy htype commitmentId hid
    rw [hfind] at hkept
    obtain ⟨⟨status, hstart, hsame⟩, hnone⟩ := hkept context hcontext hoperation
    rw [hstatus] at hsame
    rw [hclosure] at hnone
    cases hsame
    exact ⟨hstart, (closureFits_start hstart).mpr (Except.ok.inj hnone)⟩

/-- A patched commitment may follow exactly if its event keeps the lifecycle. -/
theorem patched_follows_iff {commitmentId : String} {current updated : Commitment}
    (hnew : p.events.find event.id = none) (hlegacy : isLegacyIntentEvent event = true)
    (htype : "commitment.".toList <+: event.type.toList)
    (hid : textOrElse b.toBuiltins event.payload "id" event.subjectOrId = .ok commitmentId)
    (hfind : p.commitments.find commitmentId = some current)
    (hread : patchedCommitment b event current = .ok updated) :
    VersionFollows (p.commitments.find updated.id) updated ↔ KeepsLifecycle b p event := by
  obtain ⟨hupdated, hclosure, hstatus⟩ := patched_fields hread
  rw [hupdated, KeyedTable.find_key hfind, hfind]
  constructor
  · rintro ⟨hfollows, hfits⟩ _ _ _ other hother
    rw [hid] at hother
    cases hother
    rw [hfind]
    exact ⟨updated.status, updated.closureReason, hstatus, hclosure, hfollows, hfits⟩
  · intro hkeeps
    have hkept := hkeeps hnew hlegacy htype commitmentId hid
    rw [hfind] at hkept
    obtain ⟨status, closureReason, hsame, hsame', hfollows, hfits⟩ := hkept
    rw [hstatus] at hsame
    rw [hclosure] at hsame'
    cases hsame
    cases hsame'
    exact ⟨hfollows, hfits⟩

/-- An event adds at most one version, and the version may follow exactly if the event
keeps the lifecycle. -/
theorem Recorded.commitments (hnew : p.events.find event.id = none) (h : Recorded b p event p') :
    (SameCommitments p p' ∧ KeepsLifecycle b p event) ∨
    ∃ value, SameCommitments (p.putCommitment value) p' ∧
      (VersionFollows (p.commitments.find value.id) value ↔ KeepsLifecycle b p event) := by
  cases h with
  | goal hlegacy _ _ _ hrecord =>
    obtain ⟨_, -, rfl⟩ := recordGoalRevision_ok hrecord
    exact Or.inl ⟨⟨rfl, rfl⟩, keepsLifecycle_of_native hlegacy⟩
  | legacyGoal _ htype _ _ _ _ _ hrecord =>
    obtain ⟨_, -, rfl⟩ := recordGoalRevision_ok hrecord
    exact Or.inl ⟨⟨rfl, rfl⟩, keepsLifecycle_of_goal htype⟩
  | commitment hlegacy _ _ _ hvalid =>
    exact Or.inr ⟨_, .refl _,
      iff_of_true (admitted_follows hvalid) (keepsLifecycle_of_native hlegacy)⟩
  | @transition transition current _ _ hlegacy _ _ hfind hvalid hp' =>
    refine Or.inr ⟨_, hp'.toSameCommitments, iff_of_true ?_ (keepsLifecycle_of_native hlegacy)⟩
    show VersionFollows (p.commitments.find current.id) (transitioned current transition)
    rw [KeyedTable.find_key hfind, hfind]
    exact transition_follows hvalid
  | legacyCreate hlegacy htype hcontext hoperation hid hfind hread =>
    exact Or.inr ⟨_, .refl _,
      created_follows_iff hnew hlegacy htype hcontext hoperation hid hfind hread⟩
  | legacyPatch hlegacy htype hid hfind hread hp' =>
    exact Or.inr ⟨_, hp'.toSameCommitments, patched_follows_iff hnew hlegacy htype hid hfind hread⟩
  | legacyNothing hlegacy hgoal hcommitment =>
    refine Or.inl ⟨.refl p, fun _ _ htype commitmentId hid => ?_⟩
    obtain ⟨hnone, context, operation, hcontext, hoperation, hne⟩ :=
      hcommitment (fun hgoal => goal_ne_commitment hgoal htype) htype commitmentId hid
    rw [hnone]
    intro context' hcontext' hcreate
    rw [hcontext] at hcontext'
    cases hcontext'
    rw [hoperation] at hcreate
    exact absurd (Except.ok.inj hcreate) hne
  | elsewhere hlegacy _ hp' => exact Or.inl ⟨hp'.toSameCommitments, keepsLifecycle_of_native hlegacy⟩

theorem sameCommitments_applied (q : StrategicProjection) (sequence : Nat) :
    SameCommitments q { q with events := q.events.put event, lastSequence := sequence } :=
  ⟨rfl, rfl⟩

theorem step_versions (hp : CurrentVersions p) (h : step b p event = .ok p') :
    CurrentVersions p' := by
  rcases step_recorded h with ⟨-, rfl⟩ | ⟨hnew, q, sequence, hrecorded, -, -, rfl⟩
  · exact hp
  · rw [(sameCommitments_applied q sequence).versions_iff]
    rcases hrecorded.commitments hnew with ⟨hsame, -⟩ | ⟨value, hsame, -⟩
    · exact hsame.versions_iff.mpr hp
    · exact hsame.versions_iff.mpr (hp.put value)

/-- **An accepted event keeps the commitments in their lifecycle exactly if it keeps the
lifecycle of its own.** -/
theorem step_lifecycles_iff (hp : CurrentVersions p) (h : step b p event = .ok p') :
    LifecyclesSound p' ↔ LifecyclesSound p ∧ KeepsLifecycle b p event := by
  rcases step_recorded h with ⟨hknown, rfl⟩ | ⟨hnew, q, sequence, hrecorded, -, -, rfl⟩
  · refine (and_iff_left ?_).symm
    intro hnone
    rw [hnone] at hknown
    cases hknown
  · rw [(sameCommitments_applied q sequence).sound_iff]
    rcases hrecorded.commitments hnew with ⟨hsame, hkeeps⟩ | ⟨value, hsame, hfollows⟩
    · rw [hsame.sound_iff]
      exact (and_iff_left hkeeps).symm
    · rw [hsame.sound_iff, lifecyclesSound_put hp, hfollows]

theorem rebuild_versions {events : List Event} (h : rebuild b events = .ok p) :
    CurrentVersions p :=
  Folding.run_induction (I := fun _ q => CurrentVersions q) (fun _ => rfl)
    (fun _ _ _ _ _ hq hstep => step_versions hq hstep) h

/-- **The commitments of an accepted log live by the lifecycle exactly if every event of
it kept the lifecycle.** -/
theorem rebuild_lifecycles_iff (b : IntentBuiltins) (events : List Event)
    (p : StrategicProjection) (h : rebuild b events = .ok p) :
    LifecyclesSound p ↔ Folding.Every (step b) empty (KeepsLifecycle b) events := by
  refine Folding.run_iff ?_ (fun es event q q' hq hstep => ?_) h
  · intro commitmentId
    exact ⟨fun first hfirst => (nomatch hfirst), .nil, fun v hv => (nomatch hv)⟩
  · exact step_lifecycles_iff (rebuild_versions hq) hstep

/-! ## A closed commitment that is taken up again -/

/-- An old event that creates a commitment. -/
def callCreated : Event where
  type := "commitment.created"
  source := "ada"
  payload := .ofList [("description", .str "call the plumber")]
  subject := some "call"
  id := "call-created"
  timestamp := .utc 0
  correlationId := none
  causationId := none
  priority := 0
  sequence := some 1
  metadata := .empty
  schemaVersion := 1
  schemaVersion_pos := Nat.one_pos

/-- The commitment is fulfilled. -/
def callCompleted : Event :=
  { callCreated with
    type := "commitment.completed", payload := .empty, id := "call-completed", sequence := some 2 }

/-- Somebody reports work on it. -/
def callUpdated : Event :=
  { callCreated with
    type := "commitment.updated", payload := .ofList [("status", .str "in_progress")]
    id := "call-updated", sequence := some 3 }

/-- The statuses that the commitment went through in a log. -/
def statuses (events : List Event) : Except PyError (List CommitmentStatus) := do
  let normalized ← events.mapM intentSchemas.normalize
  let p ← rebuild plainIntent normalized
  return (p.commitmentHistory "call").map (·.status)

/-- **A closed commitment becomes active.** -/
theorem call_reopened : ¬ ∀ (b : IntentBuiltins) (schemas : EventSchemaRegistry)
    (stored normalized : List Event) (p : StrategicProjection),
    stored.mapM (registerIntentEventSchemas b.toBuiltins schemas).normalize = .ok normalized →
    rebuild b normalized = .ok p → LifecyclesSound p := by
  intro hall
  have hrun : statuses [callCreated, callCompleted, callUpdated] =
      .ok [.accepted, .closed, .active] := by
    decide +kernel
  obtain ⟨normalized, hnormalized, hrun⟩ := bind_eq_ok hrun
  obtain ⟨p, hp, hrun⟩ := bind_eq_ok hrun
  have hchain := (hall plainIntent _ _ normalized p hnormalized hp "call").chain
  have hstatuses : ([.accepted, .closed, .active] : List CommitmentStatus).IsChain StatusFollows := by
    rw [← Except.ok.inj hrun, List.isChain_map]
    exact hchain
  have hreopened : StatusFollows .closed .active :=
    (List.isChain_cons_cons.mp (List.isChain_cons_cons.mp hstatuses).2).1
  exact absurd (hreopened (by decide)) (by decide)

/-- The commitment as it is created lives by the lifecycle. -/
theorem call_accepted : ∃ created p, intentSchemas.normalize callCreated = .ok created ∧
    rebuild plainIntent [created] = .ok p ∧ LifecyclesSound p := by
  have hreads : (do
      let created ← intentSchemas.normalize callCreated
      let status ← commitmentStatusOr plainIntent.toBuiltins created.payload .accepted
      let closureReason ← closureReasonOf plainIntent created.payload "closure_reason"
      let p ← rebuild plainIntent [created]
      return (status, closureReason, p.lastSequence)) = .ok (.accepted, none, 1) := by
    decide +kernel
  obtain ⟨created, hcreated, hreads⟩ := bind_eq_ok hreads
  obtain ⟨status, hstatus, hreads⟩ := bind_eq_ok hreads
  obtain ⟨closureReason, hclosure, hreads⟩ := bind_eq_ok hreads
  obtain ⟨p, hp, hreads⟩ := bind_eq_ok hreads
  have hvalues := Prod.mk.inj (Except.ok.inj hreads)
  rw [hvalues.1] at hstatus
  rw [(Prod.mk.inj hvalues.2).1] at hclosure
  refine ⟨created, p, hcreated, hp, (rebuild_lifecycles_iff plainIntent [created] p hp).mpr ?_⟩
  refine Folding.every_single.mpr fun _ _ _ commitmentId _ => ?_
  exact fun _ _ _ => ⟨⟨.accepted, List.mem_of_elem_eq_true rfl, hstatus⟩, hclosure⟩

end StrategicProjection
end Noema
