import Noema.StrategicProjection

/-!
# What an accepted event did

`Recorded` says what an event that the strategic projection accepts did to the goals and
the commitments, with the checks that it passed; all else an event may do leaves both as
they were.
-/
namespace Noema

theorem Dict.listOf_push {α : Type} (d : Dict (List α)) (key key' : String) (value : α) :
    (d.push key value).listOf key' =
      if key = key' then d.listOf key' ++ [value] else d.listOf key' := by
  rw [Dict.push, Dict.listOf, Dict.get?_put]
  by_cases h : key = key'
  · rw [if_pos h, if_pos h, h]
    rfl
  · rw [if_neg h, if_neg h]
    rfl

namespace StrategicProjection

/-- The goals are the same. -/
structure SameGoals (p p' : StrategicProjection) : Prop where
  revisions : p'.goalRevisions = p.goalRevisions
  history : p'.goalHistoryIds = p.goalHistoryIds
  current : p'.currentGoalRevisionIds = p.currentGoalRevisionIds

/-- The commitments are the same. -/
structure SameCommitments (p p' : StrategicProjection) : Prop where
  commitments : p'.commitments = p.commitments
  versions : p'.commitmentVersions = p.commitmentVersions

/-- The goals, the commitments and the known events are the same. -/
structure SameHeads (p p' : StrategicProjection) : Prop extends
    SameGoals p p', SameCommitments p p' where
  events : p'.events = p.events

/-- The native types that write goals and commitments. -/
def nativeHeadTypes : List String :=
  ["intent.goal_revision_recorded", "intent.commitment_recorded", "intent.commitment_transitioned"]

/-- What an event that was not applied before did. -/
inductive Recorded (b : IntentBuiltins) (p : StrategicProjection) (event : Event) :
    StrategicProjection → Prop
  | goal {revision p'} (hlegacy : isLegacyIntentEvent event = false)
      (htype : event.type = "intent.goal_revision_recorded")
      (hread : GoalRevision.fromDict b event.payload = .ok revision)
      (hvalid : p.validateGoalRevisionStructure revision = .ok ())
      (hrecord : p.recordGoalRevision revision event = .ok p') : Recorded b p event p'
  | legacyGoal {goalId context operation revision p'} (hlegacy : isLegacyIntentEvent event = true)
      (htype : "goal.".toList <+: event.type.toList)
      (hcontext : legacyContext event = .ok context)
      (hoperation : itemText b.toBuiltins context "operation" = .ok operation)
      (hid : textOrElse b.toBuiltins event.payload "id" event.subjectOrId = .ok goalId)
      (hpatch : operation = "patch" → p.currentGoalRevision goalId ≠ none)
      (hread : p.legacyGoalRevision b event goalId (p.currentGoalRevision goalId) context =
        .ok revision)
      (hrecord : p.recordGoalRevision revision event = .ok p') : Recorded b p event p'
  | commitment {id createdAt updatedAt value authority}
      (hlegacy : isLegacyIntentEvent event = false)
      (htype : event.type = "intent.commitment_recorded")
      (hid : itemText b.toBuiltins event.payload "id" = .ok id)
      (hread : commitmentFromDict b event.payload id createdAt updatedAt = .ok value)
      (hvalid : p.validateCommitmentStructure value authority = .ok ()) :
      Recorded b p event (p.putCommitment value)
  | transition {transition current authority p'} (hlegacy : isLegacyIntentEvent event = false)
      (htype : event.type = "intent.commitment_transitioned")
      (hread : CommitmentTransition.fromDict b event.payload = .ok transition)
      (hfind : p.commitments.find transition.commitmentId = some current)
      (hvalid : p.validateTransitionOf transition authority current = .ok ())
      (hp' : SameHeads (p.putCommitment (transitioned current transition)) p') :
      Recorded b p event p'
  | legacyCreate {commitmentId context value} (hlegacy : isLegacyIntentEvent event = true)
      (htype : "commitment.".toList <+: event.type.toList)
      (hcontext : legacyContext event = .ok context)
      (hoperation : itemText b.toBuiltins context "operation" = .ok "create")
      (hid : textOrElse b.toBuiltins event.payload "id" event.subjectOrId = .ok commitmentId)
      (hnew : p.commitments.find commitmentId = none)
      (hread : commitmentFromDict b event.payload commitmentId event.timestamp event.timestamp =
        .ok value) : Recorded b p event (p.putCommitment value)
  | legacyPatch {commitmentId current updated p'} (hlegacy : isLegacyIntentEvent event = true)
      (htype : "commitment.".toList <+: event.type.toList)
      (hid : textOrElse b.toBuiltins event.payload "id" event.subjectOrId = .ok commitmentId)
      (hfind : p.commitments.find commitmentId = some current)
      (hread : patchedCommitment b event current = .ok updated)
      (hp' : SameHeads (p.putCommitment updated) p') :
      Recorded b p event p'
  | legacyNothing (hlegacy : isLegacyIntentEvent event = true)
      (hgoal : "goal.".toList <+: event.type.toList → ∀ goalId,
        textOrElse b.toBuiltins event.payload "id" event.subjectOrId = .ok goalId →
          p.currentGoalRevision goalId = none)
      (hcommitment : ¬ "goal.".toList <+: event.type.toList →
        "commitment.".toList <+: event.type.toList → ∀ commitmentId,
        textOrElse b.toBuiltins event.payload "id" event.subjectOrId = .ok commitmentId →
          p.commitments.find commitmentId = none ∧ ∃ context operation,
            legacyContext event = .ok context ∧
            itemText b.toBuiltins context "operation" = .ok operation ∧ operation ≠ "create") :
      Recorded b p event p
  | elsewhere {p'} (hlegacy : isLegacyIntentEvent event = false)
      (htype : event.type ∉ nativeHeadTypes)
      (hp' : SameHeads p p') : Recorded b p event p'

variable {b : IntentBuiltins} {p p' : StrategicProjection} {event : Event} {handled : Bool}

theorem SameGoals.refl (p : StrategicProjection) : SameGoals p p := ⟨rfl, rfl, rfl⟩

theorem SameCommitments.refl (p : StrategicProjection) : SameCommitments p p := ⟨rfl, rfl⟩

theorem SameHeads.refl (p : StrategicProjection) : SameHeads p p := ⟨.refl p, .refl p, rfl⟩

/-- No type begins with both. -/
theorem goal_ne_commitment (hgoal : "goal.".toList <+: event.type.toList)
    (hcommitment : "commitment.".toList <+: event.type.toList) : False := by
  obtain ⟨rest, hrest⟩ := hgoal
  obtain ⟨rest', hrest'⟩ := hcommitment
  have hheads := congrArg List.head? (hrest.trans hrest'.symm)
  simp at hheads

theorem recordGoalRevision_ok {revision : GoalRevision}
    (h : p.recordGoalRevision revision event = .ok p') :
    ∃ goalRevisions, p.goalRevisions.insertOnce revision = some goalRevisions ∧
      p' = { p with
        goalRevisions
        goalHistoryIds := p.goalHistoryIds.push revision.goalId revision.revisionId
        currentGoalRevisionIds :=
          p.currentGoalRevisionIds.put (revision.goalId, revision.revisionId) } := by
  obtain ⟨-, -, h⟩ := bind_eq_ok h
  obtain ⟨-, -, h⟩ := bind_eq_ok h
  obtain ⟨-, -, h⟩ := bind_eq_ok h
  obtain ⟨goalRevisions, hstored, h⟩ := bind_eq_ok h
  cases h
  refine ⟨goalRevisions, ?_, rfl⟩
  unfold recordImmutable at hstored
  split at hstored
  · rename_i hinsert
    cases hstored
    exact hinsert
  · cases hstored

theorem recordTransition_ok {transition : CommitmentTransition} {current : Commitment}
    (hfind : p.commitments.find transition.commitmentId = some current)
    (h : p.recordTransition transition event = .ok p') :
    SameHeads (p.putCommitment (transitioned current transition)) p' := by
  rw [recordTransition, hfind] at h
  obtain ⟨-, -, h⟩ := bind_eq_ok h
  obtain ⟨-, -, h⟩ := bind_eq_ok h
  cases h
  exact ⟨⟨rfl, rfl, rfl⟩, ⟨rfl, rfl⟩, rfl⟩

theorem recordLegacyTransition_ok {commitmentId : String} {current updated : Commitment}
    (h : p.recordLegacyTransition b event commitmentId current updated = .ok p') :
    SameHeads p p' := by
  unfold recordLegacyTransition at h
  split at h
  · cases h
    exact .refl p
  · obtain ⟨transition, -, h⟩ := bind_eq_ok h
    cases h
    exact ⟨⟨rfl, rfl, rfl⟩, ⟨rfl, rfl⟩, rfl⟩

/-- A legacy event of a goal. -/
theorem applyLegacyGoal_recorded {operation : String} {context : Payload}
    (hlegacy : isLegacyIntentEvent event = true) (htype : "goal.".toList <+: event.type.toList)
    (hcontext : legacyContext event = .ok context)
    (hoperation : itemText b.toBuiltins context "operation" = .ok operation)
    (h : p.applyLegacyGoal b event operation context = .ok (p', handled)) :
    Recorded b p event p' := by
  obtain ⟨goalId, hid, h⟩ := bind_eq_ok h
  dsimp only at h
  split at h
  · rename_i hpatch
    cases h
    refine .legacyNothing hlegacy (fun _ other hother => ?_) fun hnot => absurd htype hnot
    rw [hid] at hother
    cases hother
    exact hpatch.2
  · rename_i hpatch
    obtain ⟨revision, hread, h⟩ := bind_eq_ok h
    obtain ⟨q, hrecord, h⟩ := bind_eq_ok h
    cases h
    exact .legacyGoal hlegacy htype hcontext hoperation hid (fun hop hnone => hpatch ⟨hop, hnone⟩)
      hread hrecord

/-- A legacy event of a commitment. -/
theorem applyLegacyCommitment_recorded {operation : String} {context : Payload}
    (hlegacy : isLegacyIntentEvent event = true)
    (htype : "commitment.".toList <+: event.type.toList)
    (hnot : ¬ "goal.".toList <+: event.type.toList)
    (hcontext : legacyContext event = .ok context)
    (hoperation : itemText b.toBuiltins context "operation" = .ok operation)
    (h : p.applyLegacyCommitment b event operation = .ok (p', handled)) :
    Recorded b p event p' := by
  obtain ⟨commitmentId, hid, h⟩ := bind_eq_ok h
  split at h
  · rename_i hnew
    split at h
    · rename_i hcreate
      cases h
      refine .legacyNothing hlegacy (fun hgoal => absurd hgoal hnot) fun _ _ other hother => ?_
      rw [hid] at hother
      cases hother
      exact ⟨hnew, context, operation, hcontext, hoperation, hcreate⟩
    · rename_i hcreate
      obtain ⟨value, hread, h⟩ := bind_eq_ok h
      cases h
      rw [not_not.mp hcreate] at hoperation
      exact .legacyCreate hlegacy htype hcontext hoperation hid hnew hread
  · rename_i current hfind
    obtain ⟨updated, hread, h⟩ := bind_eq_ok h
    obtain ⟨q, hrecord, h⟩ := bind_eq_ok h
    cases h
    exact .legacyPatch hlegacy htype hid hfind hread (recordLegacyTransition_ok hrecord)

theorem applyLegacy_recorded (hlegacy : isLegacyIntentEvent event = true)
    (h : p.applyLegacy b event = .ok (p', handled)) : Recorded b p event p' := by
  obtain ⟨context, hcontext, h⟩ := bind_eq_ok h
  obtain ⟨operation, hoperation, h⟩ := bind_eq_ok h
  split at h
  · rename_i htype
    exact applyLegacyGoal_recorded hlegacy htype hcontext hoperation h
  · rename_i hnot
    split at h
    · rename_i htype
      exact applyLegacyCommitment_recorded hlegacy htype hnot hcontext hoperation h
    · rename_i hnotCommitment
      cases h
      exact .legacyNothing hlegacy (fun hgoal => absurd hgoal hnot)
        fun _ hcommitment => absurd hcommitment hnotCommitment

/-- A native event of one of the other kinds. -/
theorem applyGoalRevision_recorded (hlegacy : isLegacyIntentEvent event = false)
    (htype : event.type = "intent.goal_revision_recorded")
    (h : p.applyGoalRevision b event = .ok p') : Recorded b p event p' := by
  obtain ⟨revision, hread, h⟩ := bind_eq_ok h
  obtain ⟨-, -, h⟩ := bind_eq_ok h
  obtain ⟨valid, hvalid, h⟩ := bind_eq_ok h
  exact .goal hlegacy htype hread hvalid h

theorem applyRoadmapRevision_same (h : p.applyRoadmapRevision b event = .ok p') :
    SameHeads p p' := by
  obtain ⟨revision, -, h⟩ := bind_eq_ok h
  obtain ⟨-, -, h⟩ := bind_eq_ok h
  obtain ⟨-, -, h⟩ := bind_eq_ok h
  obtain ⟨-, -, h⟩ := bind_eq_ok h
  obtain ⟨-, -, h⟩ := bind_eq_ok h
  obtain ⟨-, -, h⟩ := bind_eq_ok h
  obtain ⟨roadmapRevisions, -, h⟩ := bind_eq_ok h
  cases h
  exact ⟨⟨rfl, rfl, rfl⟩, ⟨rfl, rfl⟩, rfl⟩

theorem applyCommitment_recorded (hlegacy : isLegacyIntentEvent event = false)
    (htype : event.type = "intent.commitment_recorded")
    (h : p.applyCommitment b event = .ok p') : Recorded b p event p' := by
  obtain ⟨id, hid, h⟩ := bind_eq_ok h
  obtain ⟨createdAt, -, h⟩ := bind_eq_ok h
  obtain ⟨updatedAt, -, h⟩ := bind_eq_ok h
  obtain ⟨value, hread, h⟩ := bind_eq_ok h
  obtain ⟨-, -, h⟩ := bind_eq_ok h
  obtain ⟨authority, -, h⟩ := bind_eq_ok h
  obtain ⟨valid, hvalid, h⟩ := bind_eq_ok h
  obtain ⟨-, -, h⟩ := bind_eq_ok h
  obtain ⟨-, -, h⟩ := bind_eq_ok h
  cases h
  exact .commitment hlegacy htype hid hread hvalid

theorem applyTransition_recorded (hlegacy : isLegacyIntentEvent event = false)
    (htype : event.type = "intent.commitment_transitioned")
    (h : p.applyTransition b event = .ok p') : Recorded b p event p' := by
  obtain ⟨transition, hread, h⟩ := bind_eq_ok h
  obtain ⟨-, -, h⟩ := bind_eq_ok h
  obtain ⟨authority, -, h⟩ := bind_eq_ok h
  obtain ⟨valid, hvalid, h⟩ := bind_eq_ok h
  obtain ⟨-, -, hvalid⟩ := bind_eq_ok hvalid
  obtain ⟨-, -, hvalid⟩ := bind_eq_ok hvalid
  split at hvalid
  · cases hvalid
  · rename_i current hfind
    exact .transition hlegacy htype hread hfind hvalid (recordTransition_ok hfind h)

theorem applyRoles_same (h : p.applyRoles b event = .ok p') :
    SameHeads p p' := by
  obtain ⟨assignment, -, h⟩ := bind_eq_ok h
  obtain ⟨-, -, h⟩ := bind_eq_ok h
  obtain ⟨-, -, h⟩ := bind_eq_ok h
  obtain ⟨roles, -, h⟩ := bind_eq_ok h
  cases h
  exact ⟨⟨rfl, rfl, rfl⟩, ⟨rfl, rfl⟩, rfl⟩

theorem applyAssistance_same (h : p.applyAssistance b event = .ok p') :
    SameHeads p p' := by
  obtain ⟨envelope, -, h⟩ := bind_eq_ok h
  obtain ⟨-, -, h⟩ := bind_eq_ok h
  obtain ⟨-, -, h⟩ := bind_eq_ok h
  obtain ⟨assistance, -, h⟩ := bind_eq_ok h
  cases h
  exact ⟨⟨rfl, rfl, rfl⟩, ⟨rfl, rfl⟩, rfl⟩

theorem applyExternal_same (h : p.applyExternal b event = .ok p') :
    SameHeads p p' := by
  obtain ⟨observation, -, h⟩ := bind_eq_ok h
  obtain ⟨-, -, h⟩ := bind_eq_ok h
  obtain ⟨-, -, h⟩ := bind_eq_ok h
  obtain ⟨-, -, h⟩ := bind_eq_ok h
  obtain ⟨-, -, h⟩ := bind_eq_ok h
  cases h
  exact ⟨⟨rfl, rfl, rfl⟩, ⟨rfl, rfl⟩, rfl⟩

theorem applyWorkProposal_same (h : p.applyWorkProposal b event = .ok p') :
    SameHeads p p' := by
  obtain ⟨proposal, -, h⟩ := bind_eq_ok h
  obtain ⟨-, -, h⟩ := bind_eq_ok h
  obtain ⟨-, -, h⟩ := bind_eq_ok h
  obtain ⟨workProposals, -, h⟩ := bind_eq_ok h
  cases h
  exact ⟨⟨rfl, rfl, rfl⟩, ⟨rfl, rfl⟩, rfl⟩

theorem applyWorkOrder_same (h : p.applyWorkOrder b event = .ok p') :
    SameHeads p p' := by
  obtain ⟨order, -, h⟩ := bind_eq_ok h
  obtain ⟨-, -, h⟩ := bind_eq_ok h
  obtain ⟨admittedWorkOrders, -, h⟩ := bind_eq_ok h
  cases h
  exact ⟨⟨rfl, rfl, rfl⟩, ⟨rfl, rfl⟩, rfl⟩

theorem applyWorkGraph_same (h : p.applyWorkGraph b event = .ok p') :
    SameHeads p p' := by
  obtain ⟨graph, -, h⟩ := bind_eq_ok h
  cases h
  exact ⟨⟨rfl, rfl, rfl⟩, ⟨rfl, rfl⟩, rfl⟩

theorem applyNative_recorded (hlegacy : isLegacyIntentEvent event = false)
    (h : p.applyNative b event = .ok (p', handled)) : Recorded b p event p' := by
  unfold applyNative at h
  dsimp only at h
  split at h
  case h_11 hgoal _ hcommitment htransition _ _ _ _ _ _ =>
    cases h
    refine .elsewhere hlegacy ?_ (.refl p)
    simp only [nativeHeadTypes, List.mem_cons, List.not_mem_nil, or_false, not_or]
    exact ⟨hgoal, hcommitment, htransition⟩
  all_goals
    rename_i htype
    obtain ⟨q, happly, h⟩ := bind_eq_ok h
    cases h
  case h_1 => exact applyGoalRevision_recorded hlegacy htype happly
  case h_3 => exact applyCommitment_recorded hlegacy htype happly
  case h_4 => exact applyTransition_recorded hlegacy htype happly
  all_goals
    refine .elsewhere hlegacy (by rw [htype]; decide) ?_
  case h_2 => exact applyRoadmapRevision_same happly
  case h_5 => exact applyRoles_same happly
  case h_6 => exact applyAssistance_same happly
  case h_7 => exact applyExternal_same happly
  case h_8 => exact applyWorkProposal_same happly
  case h_9 => exact applyWorkOrder_same happly
  case h_10 => exact applyWorkGraph_same happly

/-- No event changes what was known before it. -/
theorem Recorded.events (h : Recorded b p event p') : p'.events = p.events := by
  cases h with
  | goal _ _ _ _ hrecord =>
    obtain ⟨_, -, rfl⟩ := recordGoalRevision_ok hrecord
    rfl
  | legacyGoal _ _ _ _ _ _ _ hrecord =>
    obtain ⟨_, -, rfl⟩ := recordGoalRevision_ok hrecord
    rfl
  | commitment => rfl
  | transition _ _ _ _ _ hp' => exact hp'.events
  | legacyCreate => rfl
  | legacyPatch _ _ _ _ _ hp' => exact hp'.events
  | legacyNothing => rfl
  | elsewhere _ _ hp' => exact hp'.events

/-- **An accepted event was applied before, or did what `Recorded` says.** -/
theorem step_recorded (h : step b p event = .ok p') :
    ((p.events.find event.id).isSome = true ∧ p' = p) ∨
    (p.events.find event.id = none ∧ ∃ q sequence, Recorded b p event q ∧
      event.sequence = some sequence ∧ p.lastSequence < sequence ∧
      p' = { q with events := q.events.put event, lastSequence := sequence }) := by
  obtain ⟨⟨r, handled⟩, happly, h⟩ := bind_eq_ok h
  cases h
  unfold apply at happly
  split at happly
  · rename_i existing hfind
    split at happly
    · cases happly
      exact Or.inl ⟨by rw [hfind]; rfl, rfl⟩
    · cases happly
  · rename_i hfind
    split at happly
    · cases happly
    · rename_i sequence hsequence
      obtain ⟨later, hlater, happly⟩ := bind_eq_ok happly
      obtain ⟨⟨q, answer⟩, hevent, happly⟩ := bind_eq_ok happly
      cases happly
      refine Or.inr ⟨hfind, q, sequence, ?_, hsequence, not_le.mp (refuse_ok hlater), rfl⟩
      unfold applyEvent at hevent
      split at hevent
      · rename_i hlegacy
        exact applyLegacy_recorded hlegacy hevent
      · rename_i hlegacy
        exact applyNative_recorded (Bool.eq_false_iff.mpr hlegacy) hevent

end StrategicProjection
end Noema
