import Noema.GoalAuthority
import Noema.IntentMigration

/-!
# Two views of intent

The situation and the strategic projection both read the events of intent, each by its
own rules: the situation takes what it can read, the strategic projection only what its
records allow, and the two fill in what a payload leaves out from different places.
`ViewsAgree` says that they show the same goals and commitments.  A native event that the
strategic projection accepts keeps them in agreement; a legacy one does under the
conditions of `KeepsGoalView` and `KeepsCommitmentView`.
-/
namespace Noema

/-- What a view shows of a goal. -/
structure GoalView where
  id : String
  description : String
  owner : Option String
  priority : PyFloat
  status : GoalStatus
  successCriteria : List String
  deadline : Option Datetime

def Goal.view (goal : Goal) : GoalView :=
  ⟨goal.id, goal.description, goal.owner, goal.priority, goal.status, goal.successCriteria,
    goal.deadline⟩

def GoalRevision.view (revision : GoalRevision) : GoalView :=
  ⟨revision.goalId, revision.description, some revision.owner, revision.priority,
    revision.status, revision.successCriteria, revision.deadline⟩

/-- What a view shows of a commitment. -/
structure CommitmentView where
  id : String
  description : String
  owner : String
  priority : PyFloat
  status : CommitmentStatus
  deadline : Option Datetime
  closureReason : Option CommitmentClosureReason

def Commitment.view (commitment : Commitment) : CommitmentView :=
  ⟨commitment.id, commitment.description, commitment.owner, commitment.priority,
    commitment.status, commitment.deadline, commitment.closureReason⟩

/-- The situation's goals and commitments are the heads of the strategic projection. -/
structure ViewsAgree (t : Tables) (p : StrategicProjection) : Prop where
  goals : ∀ goalId,
    (t.goals.find goalId).map Goal.view = (p.currentGoalRevision goalId).map GoalRevision.view
  commitments : ∀ commitmentId, (t.commitments.find commitmentId).map Commitment.view =
    (p.commitments.find commitmentId).map Commitment.view

/-- Both views read the same id off the event. -/
def SameIdRead (event : Event) : Prop :=
  (event.payload.get "id").truthy = true ∨ (event.subject ≠ none ∧ event.subject ≠ some "")

namespace StrategicProjection

/-- A legacy event says what a revision may say. -/
structure RevisionTaken (b : IntentBuiltins) (p : StrategicProjection) (event : Event)
    (goalId : String) (reading : GoalReading) : Prop where
  source : blank event.source = false
  named : blank goalId = false
  description : blank reading.description = false
  owner : blank reading.owner = false
  priority : requireBounded reading.priority "goal priority" = .ok ()
  utility : reading.utility.isFinite = true
  criteria : requireUnique reading.successCriteria "goal success criteria"
    (((p.currentGoalRevision goalId).map (·.kind)).getD .legacyUnclassified ≠
      .legacyUnclassified) = .ok ()
  subject : event.subject = some goalId ∨ event.subject = none
  /-- The digest of the revision is not that of another one. -/
  fresh : ∀ origin authority, p.goalRevisions.find (b.ids.goalRevisionId
    (p.legacyContent event goalId (p.currentGoalRevision goalId) origin authority reading)) = none

/-- A legacy event of a goal says what a revision may say, and what it leaves out is the
same in both views: the owner is given or left out but not empty, a goal that is created
anew has no deadline to keep, and the criteria stay as they are on an update. -/
def KeepsGoalView (b : IntentBuiltins) (p : StrategicProjection) (event : Event) : Prop :=
  ∀ goalId, textOrElse b.toBuiltins event.payload "id" event.subjectOrId = .ok goalId →
    (event.type = "goal.updated" → SameIdRead event) ∧
    ((event.type = "goal.updated" ∧ p.currentGoalRevision goalId = none) ∨
      ∃ reading, readGoal b event (p.currentGoalRevision goalId) = .ok reading ∧
        RevisionTaken b p event goalId reading ∧
        (Dict.get? event.payload "owner" ≠ none → (event.payload.get "owner").truthy = true) ∧
        (event.type = "goal.created" → Dict.get? event.payload "deadline" = none →
          reading.deadline = none) ∧
        (event.type = "goal.updated" → ∀ current, p.currentGoalRevision goalId = some current →
          reading.successCriteria = current.successCriteria))

/-- What a legacy event of a commitment leaves out is the same in both views: an empty
owner reads as the source, a commitment that is created anew has no deadline and no
closure reason to keep, one that ends carries nothing else, and a new status is recorded
under an author and an id that are not blank. -/
structure KeepsCommitmentView (b : IntentBuiltins) (p : StrategicProjection) (event : Event)
    (commitmentId : String) : Prop where
  id : event.type ≠ "commitment.created" → SameIdRead event
  owner : event.type = "commitment.created" →
    itemText b.toBuiltins event.payload "owner" =
      textOrElse b.toBuiltins event.payload "owner" event.source
  status : ∀ current, p.commitments.find commitmentId = some current → ∀ status,
    commitmentStatusOr b.toBuiltins event.payload current.status = .ok status →
    status ≠ current.status → blank commitmentId = false ∧ blank event.source = false
  anew : event.type = "commitment.created" → ∀ current,
    p.commitments.find commitmentId = some current →
    (Dict.get? event.payload "deadline" = none → current.deadline = none) ∧
    (Dict.get? event.payload "closure_reason" = none → current.closureReason = none)
  ended : event.type ≠ "commitment.created" → event.type ≠ "commitment.updated" → ∀ current,
    p.commitments.find commitmentId = some current →
    textOr b.toBuiltins event.payload "description" current.description =
      .ok current.description ∧
    textOr b.toBuiltins event.payload "owner" current.owner = .ok current.owner ∧
    floatOr b.toBuiltins event.payload "priority" current.priority = .ok current.priority ∧
    datetimeOr b.toBuiltins event.payload "deadline" current.deadline = .ok current.deadline ∧
    (∃ cost, floatOr b.toBuiltins event.payload "attention_cost" current.attentionCost =
      .ok cost) ∧
    ∃ cost, floatOr b.toBuiltins event.payload "social_cost_of_failure"
      current.socialCostOfFailure = .ok cost

/-- A legacy event reads alike in both views; a native event is one that the steward who
appended it applied to its own projection. -/
def KeepsViews (b : IntentBuiltins) (p : StrategicProjection) (event : Event) : Prop :=
  if isLegacyIntentEvent event then
    ("goal.".toList <+: event.type.toList → KeepsGoalView b p event) ∧
    ("commitment.".toList <+: event.type.toList → ∀ commitmentId,
      textOrElse b.toBuiltins event.payload "id" event.subjectOrId = .ok commitmentId →
      KeepsCommitmentView b p event commitmentId)
  else ∃ p', step b p event = .ok p'

/-! ## Accepting an event -/

/-- The event is new to the projection, and after all that it knows. -/
structure Next (p : StrategicProjection) (event : Event) : Prop where
  new : p.events.find event.id = none
  later : ∃ sequence, event.sequence = some sequence ∧ p.lastSequence < sequence

variable {b : IntentBuiltins} {p q : StrategicProjection} {event : Event}

/-- An event that comes next and is taken is accepted. -/
theorem step_of_applyEvent {handled : Bool} (hnext : Next p event)
    (h : p.applyEvent b event = .ok (q, handled)) :
    ∃ p', step b p event = .ok p' ∧ SameGoals q p' ∧ SameCommitments q p' := by
  obtain ⟨hnew, sequence, hsequence, hlater⟩ := hnext
  refine ⟨{ q with events := q.events.put event, lastSequence := sequence }, ?_,
    ⟨rfl, rfl, rfl⟩, ⟨rfl, rfl⟩⟩
  unfold step apply
  rw [hnew, hsequence]
  dsimp only
  rw [bind_of_ok (refuse_of (not_le.mpr hlater)), bind_of_ok h]
  rfl

/-- A recorded revision is the current one of its goal. -/
theorem currentGoalRevision_record {revision : GoalRevision} (hp : GoalChains p)
    (h : p.recordGoalRevision revision event = .ok q) (goalId : String) :
    q.currentGoalRevision goalId =
      if revision.goalId = goalId then some revision else p.currentGoalRevision goalId := by
  rw [(hp.record h).current_eq, goalHistory_record hp h, hp.current_eq]
  by_cases hid : revision.goalId = goalId
  · rw [if_pos hid, if_pos hid, List.getLast?_concat]
  · rw [if_neg hid, if_neg hid]

end StrategicProjection

open StrategicProjection

variable {b : IntentBuiltins} {t : Tables} {p q : StrategicProjection} {event : Event}

theorem ViewsAgree.congr (h : ViewsAgree t p) (hgoals : SameGoals p q)
    (hcommitments : SameCommitments p q) : ViewsAgree t q := by
  refine ⟨fun goalId => ?_, fun commitmentId => ?_⟩
  · rw [hgoals.current_eq]
    exact h.goals goalId
  · rw [hcommitments.commitments]
    exact h.commitments commitmentId

theorem ViewsAgree.putGoal {goal : Goal} {revision : GoalRevision} (h : ViewsAgree t p)
    (hp : GoalChains p) (hrecord : p.recordGoalRevision revision event = .ok q)
    (hview : goal.view = revision.view) :
    ViewsAgree { t with goals := t.goals.put goal } q := by
  obtain ⟨_, -, hq⟩ := recordGoalRevision_ok hrecord
  have hid : goal.id = revision.goalId := congrArg GoalView.id hview
  refine ⟨fun goalId => ?_, fun commitmentId => ?_⟩
  · rw [currentGoalRevision_record hp hrecord]
    show ((t.goals.put goal).find goalId).map Goal.view = _
    rw [KeyedTable.find_put, hid]
    by_cases hgoal : revision.goalId = goalId
    · rw [if_pos hgoal, if_pos hgoal]
      exact congrArg some hview
    · rw [if_neg hgoal, if_neg hgoal]
      exact h.goals goalId
  · rw [hq]
    exact h.commitments commitmentId

theorem ViewsAgree.putCommitment {value value' : Commitment} (h : ViewsAgree t p)
    (hview : value.view = value'.view) :
    ViewsAgree { t with commitments := t.commitments.put value } (p.putCommitment value') := by
  have hid : value.id = value'.id := congrArg CommitmentView.id hview
  refine ⟨h.goals, fun commitmentId => ?_⟩
  show ((t.commitments.put value).find commitmentId).map Commitment.view =
    ((p.commitments.put value').find commitmentId).map Commitment.view
  rw [KeyedTable.find_put, KeyedTable.find_put, hid]
  by_cases hsame : value'.id = commitmentId
  · rw [if_pos hsame, if_pos hsame]
    exact congrArg some hview
  · rw [if_neg hsame, if_neg hsame]
    exact h.commitments commitmentId

end Noema
