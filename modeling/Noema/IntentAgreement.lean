import Mathlib.Tactic.Tauto
import Noema.CommitmentLifecycle
import Noema.CommitmentViews

/-!
# The views keep agreeing

In a history that the situation takes, and whose events all keep the views, the strategic
projection takes every event too, and shows the same goals and commitments at the end.
-/
namespace Noema

open Replay

namespace StrategicProjection

variable {b : IntentBuiltins} {t t' : Tables} {p p' : StrategicProjection} {stored event : Event}
  {handled : Bool}

/-! ## Native events -/

/-- What a native revision reads. -/
theorem goalRevision_fields {payload : Payload} {revision : GoalRevision}
    (h : GoalRevision.fromDict b payload = .ok revision) :
    itemText b.toBuiltins payload "goal_id" = .ok revision.goalId ∧
      itemText b.toBuiltins payload "description" = .ok revision.description ∧
      itemFloat b.toBuiltins payload "priority" = .ok revision.priority ∧
      textsOr b.toBuiltins payload "success_criteria" [] = .ok revision.successCriteria ∧
      itemText b.toBuiltins payload "owner" = .ok revision.owner ∧
      (∃ text, itemText b.toBuiltins payload "status" = .ok text ∧
        GoalStatus.ofText text = .ok revision.status) ∧
      datetime b.toBuiltins payload "deadline" = .ok revision.deadline := by
  obtain ⟨_, -, h⟩ := bind_eq_ok h
  obtain ⟨goalId, hgoalId, h⟩ := bind_eq_ok h
  obtain ⟨_, -, h⟩ := bind_eq_ok h
  obtain ⟨description, hdescription, h⟩ := bind_eq_ok h
  obtain ⟨priority, hpriority, h⟩ := bind_eq_ok h
  obtain ⟨_, -, h⟩ := bind_eq_ok h
  obtain ⟨successCriteria, hcriteria, h⟩ := bind_eq_ok h
  obtain ⟨owner, howner, h⟩ := bind_eq_ok h
  obtain ⟨text, htext, h⟩ := bind_eq_ok h
  obtain ⟨status, hstatus, h⟩ := bind_eq_ok h
  obtain ⟨deadline, hdeadline, h⟩ := bind_eq_ok h
  iterate 12 obtain ⟨_, -, h⟩ := bind_eq_ok h
  obtain ⟨made, hmade, h⟩ := bind_eq_ok h
  obtain ⟨_, rfl⟩ := checkedBy_ok hmade
  split_ifs at h
  cases h
  exact ⟨hgoalId, hdescription, hpriority, hcriteria, howner, ⟨text, htext, hstatus⟩, hdeadline⟩

/-- What a native transition reads. -/
theorem transition_fields {payload : Payload} {transition : CommitmentTransition}
    (h : CommitmentTransition.fromDict b payload = .ok transition) :
    itemText b.toBuiltins payload "commitment_id" = .ok transition.commitmentId ∧
      (∃ text, itemText b.toBuiltins payload "to_state" = .ok text ∧
        CommitmentStatus.ofText text = .ok transition.toState) ∧
      closureReasonOf b payload "closure_reason" = .ok transition.closureReason := by
  obtain ⟨closureReason, hclosure, h⟩ := bind_eq_ok h
  obtain ⟨_, -, h⟩ := bind_eq_ok h
  obtain ⟨commitmentId, hid, h⟩ := bind_eq_ok h
  obtain ⟨_, -, h⟩ := bind_eq_ok h
  obtain ⟨_, -, h⟩ := bind_eq_ok h
  obtain ⟨text, htext, h⟩ := bind_eq_ok h
  obtain ⟨toState, htoState, h⟩ := bind_eq_ok h
  iterate 8 obtain ⟨_, -, h⟩ := bind_eq_ok h
  obtain ⟨made, hmade, h⟩ := bind_eq_ok h
  obtain ⟨_, rfl⟩ := checkedBy_ok hmade
  split_ifs at h
  cases h
  exact ⟨hid, ⟨text, htext, htoState⟩, hclosure⟩

/-- `intent.goal_revision_recorded`. -/
theorem goalRevision_views {revision : GoalRevision} (hview : ViewsAgree t p) (hp : GoalChains p)
    (hread : GoalRevision.fromDict b event.payload = .ok revision)
    (hrecord : p.recordGoalRevision revision event = .ok p')
    (h : goalRevisionRecorded b.toBuiltins t event = .ok (t', handled)) : ViewsAgree t' p' := by
  obtain ⟨rgoalId, rdescription, rpriority, rcriteria, rowner, ⟨rtext, rtextRead, rstatus⟩,
    rdeadline⟩ := goalRevision_fields hread
  obtain ⟨goalId, hgoalId, h⟩ := bind_eq_ok h
  obtain ⟨description, hdescription, h⟩ := bind_eq_ok h
  obtain ⟨priority, hpriority, h⟩ := bind_eq_ok h
  obtain ⟨utility, -, h⟩ := bind_eq_ok h
  obtain ⟨text, htext, h⟩ := bind_eq_ok h
  obtain ⟨status, hstatus, h⟩ := bind_eq_ok h
  obtain ⟨deadline, hdeadline, h⟩ := bind_eq_ok h
  obtain ⟨successCriteria, hcriteria, h⟩ := bind_eq_ok h
  obtain ⟨owner, howner, h⟩ := bind_eq_ok h
  cases h
  refine hview.putGoal hp hrecord ?_
  obtain rfl : text = rtext := Except.ok.inj (htext.symm.trans rtextRead)
  unfold Goal.view GoalRevision.view
  dsimp only
  rw [Except.ok.inj (hgoalId.symm.trans rgoalId),
    Except.ok.inj (hdescription.symm.trans rdescription),
    Except.ok.inj (hpriority.symm.trans rpriority), Except.ok.inj (hcriteria.symm.trans rcriteria),
    Except.ok.inj (howner.symm.trans rowner), Except.ok.inj (hstatus.symm.trans rstatus),
    Except.ok.inj (hdeadline.symm.trans rdeadline)]

/-- `intent.commitment_recorded`. -/
theorem commitment_views {id : String} {createdAt updatedAt : Datetime} {value : Commitment}
    (hview : ViewsAgree t p) (hid : itemText b.toBuiltins event.payload "id" = .ok id)
    (hread : commitmentFromDict b event.payload id createdAt updatedAt = .ok value)
    (h : commitmentRecorded b.toBuiltins t event = .ok (t', handled)) :
    ViewsAgree t' (p.putCommitment value) := by
  obtain ⟨commitmentId, hcommitmentId, h⟩ := bind_eq_ok h
  obtain ⟨owner, howner, h⟩ := bind_eq_ok h
  obtain ⟨text, htext, h⟩ := bind_eq_ok h
  obtain ⟨status, hstatus, h⟩ := bind_eq_ok h
  obtain ⟨_, -, h⟩ := bind_eq_ok h
  obtain ⟨_, -, h⟩ := bind_eq_ok h
  obtain ⟨commitment, hnew, h⟩ := bind_eq_ok h
  cases h
  obtain rfl : commitmentId = id := Except.ok.inj (hcommitmentId.symm.trans hid)
  have hstatusOr : commitmentStatusOr b.toBuiltins event.payload .accepted = .ok status := by
    obtain ⟨given, hgiven, htext⟩ := bind_eq_ok htext
    unfold commitmentStatusOr
    rw [get?_of_item hgiven]
    exact (bind_of_ok htext _).trans hstatus
  obtain ⟨value', hvalue', hsame⟩ := fromDict_of_new hnew howner hstatusOr createdAt updatedAt
  obtain rfl : value = value' := Except.ok.inj (hread.symm.trans hvalue')
  exact hview.putCommitment hsame

/-- `intent.commitment_transitioned`. -/
theorem transition_views {transition : CommitmentTransition} {current : Commitment}
    (hview : ViewsAgree t p) (hread : CommitmentTransition.fromDict b event.payload = .ok transition)
    (hfind : p.commitments.find transition.commitmentId = some current)
    (h : commitmentTransitioned b.toBuiltins t event = .ok (t', handled)) :
    ViewsAgree t' (p.putCommitment (transitioned current transition)) := by
  obtain ⟨rid, ⟨rtext, rtextRead, rstate⟩, rclosure⟩ := transition_fields hread
  obtain ⟨commitmentId, hid, h⟩ := bind_eq_ok h
  obtain rfl : commitmentId = transition.commitmentId := Except.ok.inj (hid.symm.trans rid)
  have hagree := hview.commitments transition.commitmentId
  rw [hfind] at hagree
  obtain ⟨found, hfound, hsame⟩ := Option.map_eq_some_iff.mp hagree
  rw [hfound] at h
  obtain ⟨text, htext, h⟩ := bind_eq_ok h
  obtain rfl : text = rtext := Except.ok.inj (htext.symm.trans rtextRead)
  obtain ⟨status, hstatus, h⟩ := bind_eq_ok h
  obtain ⟨closureReason, hclosure, h⟩ := bind_eq_ok h
  obtain ⟨roadmap, -, h⟩ := bind_eq_ok h
  obtain ⟨role, -, h⟩ := bind_eq_ok h
  obtain rfl : status = transition.toState := Except.ok.inj (hstatus.symm.trans rstate)
  obtain rfl : closureReason = transition.closureReason :=
    Except.ok.inj ((closureReasonOf_of hclosure).symm.trans rclosure)
  -- the assistance is read off the transition or kept; no view shows it
  split at h
  all_goals
    obtain ⟨assistance, -, h⟩ := bind_eq_ok h
    cases h
    refine hview.putCommitment ?_
    have hid' : found.id = current.id := congrArg CommitmentView.id hsame
    have hdescription : found.description = current.description :=
      congrArg CommitmentView.description hsame
    have howner : found.owner = current.owner := congrArg CommitmentView.owner hsame
    have hpriority : found.priority = current.priority := congrArg CommitmentView.priority hsame
    have hdeadline : found.deadline = current.deadline := congrArg CommitmentView.deadline hsame
    unfold Commitment.view transitioned
    dsimp only
    rw [hid', hdescription, howner, hpriority, hdeadline]

/-- The other native types are none of the situation's. -/
theorem applyBuiltin_elsewhere (htype : event.type ∈ nativeIntentTypes)
    (hother : event.type ∉ nativeHeadTypes)
    (h : applyBuiltin b.toBuiltins t event = .ok (t', handled)) : t' = t := by
  have hcases : event.type ∈ ["intent.roadmap_revision_recorded", "intent.outcome_roles_recorded",
      "intent.assistance_envelope_recorded", "intent.external_workstream_observed",
      "intent.work_order_proposed", "work.order_recorded", "work.graph_accepted"] := by
    simp only [nativeIntentTypes, nativeHeadTypes, List.mem_cons, List.not_mem_nil, or_false]
      at htype hother ⊢
    tauto
  unfold applyBuiltin at h
  simp only [List.mem_cons, List.not_mem_nil, or_false] at hcases
  rcases hcases with hcase | hcase | hcase | hcase | hcase | hcase | hcase
  all_goals
    rw [hcase] at h
    cases h
    rfl

/-- A native event that is accepted leaves the views in agreement. -/
theorem native_views (hview : ViewsAgree t p) (hp : GoalChains p) (hnext : Next p event)
    (htype : event.type ∈ nativeIntentTypes) (hlegacy : isLegacyIntentEvent event = false)
    (hstep : step b p event = .ok p')
    (h : applyBuiltin b.toBuiltins t event = .ok (t', handled)) : ViewsAgree t' p' := by
  obtain ⟨hknown, -⟩ | ⟨-, q, sequence, hrecorded, -, -, rfl⟩ := step_recorded hstep
  · rw [hnext.new] at hknown
    cases hknown
  suffices hq : ViewsAgree t' q from hq.congr (sameGoals_applied q sequence) ⟨rfl, rfl⟩
  have hnot : isLegacyIntentEvent event ≠ true := Bool.eq_false_iff.mp hlegacy
  cases hrecorded with
  | goal _ htype hread _ hrecord =>
    unfold applyBuiltin at h
    rw [htype] at h
    exact goalRevision_views hview hp hread hrecord h
  | commitment _ htype hid hread =>
    unfold applyBuiltin at h
    rw [htype] at h
    exact commitment_views hview hid hread h
  | transition _ htype hread hfind _ hp' =>
    unfold applyBuiltin at h
    rw [htype] at h
    exact (transition_views hview hread hfind h).congr hp'.toSameGoals hp'.toSameCommitments
  | elsewhere _ hother hp' =>
    rw [applyBuiltin_elsewhere htype hother h]
    exact hview.congr hp'.toSameGoals hp'.toSameCommitments
  | legacyGoal hlegacy => exact absurd hlegacy hnot
  | legacyCreate hlegacy => exact absurd hlegacy hnot
  | legacyPatch hlegacy => exact absurd hlegacy hnot
  | legacyNothing hlegacy => exact absurd hlegacy hnot

/-! ## A history -/

/-- A stored history of intent: the ids differ and the sequences rise from one on. -/
structure StoredHistory (stored : List Event) : Prop where
  kinds : ∀ event ∈ stored, IntentEvent event
  sequenced : ∀ event ∈ stored, ∃ sequence, event.sequence = some sequence ∧ 0 < sequence
  rising : stored.Pairwise fun event later =>
    event.id ≠ later.id ∧ event.sequence.getD 0 < later.sequence.getD 0

theorem StoredHistory.init {history : List Event} (h : StoredHistory (history ++ [stored])) :
    StoredHistory history :=
  ⟨fun event hevent => h.kinds event (List.mem_append_left _ hevent),
    fun event hevent => h.sequenced event (List.mem_append_left _ hevent),
    (List.pairwise_append.mp h.rising).1⟩

theorem StoredHistory.single {sequence : Nat} (hkind : IntentEvent stored)
    (hsequence : stored.sequence = some sequence) (hpos : 0 < sequence) :
    StoredHistory [stored] := by
  refine ⟨fun event hevent => ?_, fun event hevent => ?_, List.pairwise_singleton _ _⟩
  · exact List.mem_singleton.mp hevent ▸ hkind
  · exact ⟨sequence, List.mem_singleton.mp hevent ▸ hsequence, hpos⟩

/-- A kernel without projectors, with the schemas of intent. -/
def intentConfig (b : IntentBuiltins) : Config where
  builtins := b.toBuiltins
  projectors := []
  schemas := intentRegistry b.toBuiltins

/-- What the projection knows is in the history. -/
structure Behind (stored : List Event) (p : StrategicProjection) : Prop where
  known : ∀ id, p.events.find id ≠ none → ∃ event ∈ stored, event.id = id
  last : p.lastSequence = 0 ∨ ∃ event ∈ stored, event.sequence.getD 0 = p.lastSequence

theorem Behind.next {history : List Event} (h : Behind history p)
    (hstored : StoredHistory (history ++ [stored])) (hid : event.id = stored.id)
    (hsequence : event.sequence = stored.sequence) : Next p event := by
  obtain ⟨-, -, hbefore⟩ := List.pairwise_append.mp hstored.rising
  obtain ⟨sequence, hgiven, hpos⟩ := hstored.sequenced stored (by simp)
  refine ⟨?_, sequence, hsequence.trans hgiven, ?_⟩
  · by_contra hknown
    obtain ⟨other, hother, hsame⟩ := h.known event.id hknown
    exact (hbefore other hother stored (by simp)).1 (hsame.trans hid)
  · rcases h.last with hzero | ⟨other, hother, hsame⟩
    · rw [hzero]
      exact hpos
    · have hless := (hbefore other hother stored (by simp)).2
      rw [hsame, hgiven] at hless
      exact hless

theorem Behind.step {history : List Event} (h : Behind history p) (hnext : Next p event)
    (hid : event.id = stored.id) (hsequence : event.sequence = stored.sequence)
    (hstep : step b p event = .ok p') : Behind (history ++ [stored]) p' := by
  obtain ⟨hknown, -⟩ | ⟨-, q, sequence, hrecorded, hgiven, -, rfl⟩ := step_recorded hstep
  · rw [hnext.new] at hknown
    cases hknown
  refine ⟨fun id hfind => ?_, Or.inr ⟨stored, by simp, ?_⟩⟩
  · dsimp only at hfind
    rw [KeyedTable.find_put, hrecorded.events] at hfind
    by_cases hsame : event.id = id
    · exact ⟨stored, by simp, hid.symm.trans hsame⟩
    · rw [if_neg hsame] at hfind
      obtain ⟨other, hother, hotherId⟩ := h.known id hfind
      exact ⟨other, List.mem_append_left _ hother, hotherId⟩
  · rw [← hsequence, hgiven]
    rfl

/-- **One event**: if the situation takes it and it keeps the views, so does the strategic
projection, and the views still agree. -/
theorem event_views (hview : ViewsAgree t p) (hp : GoalChains p) (hnext : Next p event)
    (hkind : IntentEvent stored)
    (hnormalized : (intentRegistry b.toBuiltins).normalize stored = .ok event)
    (hkeeps : KeepsViews b p event)
    (h : applyBuiltin b.toBuiltins t event = .ok (t', handled)) :
    ∃ p', step b p event = .ok p' ∧ ViewsAgree t' p' := by
  unfold KeepsViews at hkeeps
  rcases hkind with hnative | ⟨hlegacy, hversion⟩
  · obtain ⟨rfl, hone⟩ := normalize_native hnative hnormalized
    have hnot : isLegacyIntentEvent event = false := by
      unfold isLegacyIntentEvent
      rw [hone]
      rfl
    rw [hnot] at hkeeps
    obtain ⟨p', hstep⟩ := hkeeps
    exact ⟨p', hstep, native_views hview hp hnext hnative hnot hstep h⟩
  · have hupcast := fun upcaster
        (hupcaster : intentUpcaster b.toBuiltins stored.type = some upcaster) =>
      normalize_legacy hupcaster hversion hnormalized
    have hkept : ∀ operation, Migrated stored event operation → event.type = stored.type ∧
        ("goal.".toList <+: stored.type.toList → KeepsGoalView b p event) ∧
        ("commitment.".toList <+: stored.type.toList → ∀ commitmentId,
          textOrElse b.toBuiltins event.payload "id" event.subjectOrId = .ok commitmentId →
          KeepsCommitmentView b p event commitmentId) := by
      intro operation hmigrated
      rw [if_pos hmigrated.legacy, hmigrated.type] at hkeeps
      exact ⟨hmigrated.type, hkeeps⟩
    have hended : ∀ suffix closure closureReason,
        upcastCommitmentTerminal stored suffix = .ok event →
        commitmentClosure suffix = some closure →
        CommitmentClosureReason.ofText closure = .ok closureReason →
        "commitment.".toList <+: stored.type.toList → stored.type ≠ "commitment.created" →
        stored.type ≠ "commitment.updated" →
        commitmentEnded b.toBuiltins t event closureReason = .ok (t', handled) →
        ∃ p', step b p event = .ok p' ∧ ViewsAgree t' p' := by
      intro suffix closure closureReason hended hclosure hreason htype hcreated hupdated
      obtain ⟨hsame, -, hcommitment⟩ := hkept _ (commitmentTerminal_migrated hclosure hended).1
      rw [← hsame] at htype hcreated hupdated hcommitment
      exact commitmentEnded_views hview hnext hended hclosure hreason htype hcreated hupdated
        (hcommitment htype)
    unfold applyBuiltin at h
    simp only [legacyIntentTypes, List.mem_cons, List.not_mem_nil, or_false] at hlegacy
    rcases hlegacy with htype | htype | htype | htype | htype | htype | htype
    · have hcreated := hupcast upcastGoalCreated (by rw [htype]; rfl)
      obtain ⟨hsame, hgoal, -⟩ := hkept _ (goalCreated_migrated hcreated).1
      rw [hsame, htype] at h
      exact goalCreated_views hview hp hnext hcreated (hsame.trans htype)
        (hgoal (by rw [htype]; decide)) h
    · have hupdated := hupcast upcastGoalUpdated (by rw [htype]; rfl)
      obtain ⟨hsame, hgoal, -⟩ := hkept _ (goalUpdated_migrated hupdated)
      rw [hsame, htype] at h
      exact goalUpdated_views hview hp hnext hupdated (hsame.trans htype)
        (hgoal (by rw [htype]; decide)) h
    · have hcreated := hupcast (upcastCommitmentCreated b.toBuiltins) (by rw [htype]; rfl)
      obtain ⟨hsame, -, hcommitment⟩ := hkept _ (commitmentCreated_migrated hcreated).1
      rw [hsame, htype] at h
      exact commitmentCreated_views hview hnext hcreated (hsame.trans htype)
        (hcommitment (by rw [htype]; decide)) h
    · have hupdated := hupcast (upcastCommitmentUpdated b.toBuiltins) (by rw [htype]; rfl)
      obtain ⟨hsame, -, hcommitment⟩ := hkept _ (commitmentUpdated_migrated hupdated)
      rw [hsame, htype] at h
      exact commitmentUpdated_views hview hnext hupdated (hsame.trans htype)
        (hcommitment (by rw [htype]; decide)) h
    · have hcompleted := hupcast (fun event => upcastCommitmentTerminal event "completed")
        (by rw [htype]; rfl)
      rw [(hkept _ (commitmentTerminal_migrated rfl hcompleted).1).1, htype] at h
      rw [htype] at hended
      exact hended _ _ _ hcompleted rfl rfl (by decide) (by decide) (by decide) h
    · have hfailed := hupcast (fun event => upcastCommitmentTerminal event "failed")
        (by rw [htype]; rfl)
      rw [(hkept _ (commitmentTerminal_migrated rfl hfailed).1).1, htype] at h
      rw [htype] at hended
      exact hended _ _ _ hfailed rfl rfl (by decide) (by decide) (by decide) h
    · have hcancelled := hupcast (fun event => upcastCommitmentTerminal event "cancelled")
        (by rw [htype]; rfl)
      rw [(hkept _ (commitmentTerminal_migrated rfl hcancelled).1).1, htype] at h
      rw [htype] at hended
      exact hended _ _ _ hcancelled rfl rfl (by decide) (by decide) (by decide) h

theorem mapM_snoc {α β : Type} {f : α → Except PyError β} {l : List α} {a : α} {out : List β}
    (h : (l ++ [a]).mapM f = .ok out) :
    ∃ init last, l.mapM f = .ok init ∧ f a = .ok last ∧ out = init ++ [last] := by
  rw [List.mapM_append] at h
  obtain ⟨init, hinit, h⟩ := bind_eq_ok h
  obtain ⟨lasts, hlasts, h⟩ := bind_eq_ok h
  rw [List.mapM_cons] at hlasts
  obtain ⟨last, hlast, hlasts⟩ := bind_eq_ok hlasts
  cases hlasts
  cases h
  exact ⟨init, last, hinit, hlast, rfl⟩

/-- What the situation makes of one more event. -/
theorem project_tables {history : List Event} {now : Datetime}
    (hbefore : ((intentConfig b).rebuild now history).2 = none)
    (hlive : ((intentConfig b).rebuild now (history ++ [stored])).2 = none)
    (hnormalized : (intentRegistry b.toBuiltins).normalize stored = .ok event) :
    ∃ handled, applyBuiltin b.toBuiltins ((intentConfig b).rebuild now history).1.tables event =
      .ok (((intentConfig b).rebuild now (history ++ [stored])).1.tables, handled) := by
  unfold Config.rebuild at hlive ⊢
  rw [replay_snoc hbefore] at hlive ⊢
  generalize (replay (intentConfig b).project (Situation.cleared now) history).1 = s at hlive ⊢
  unfold Config.project at hlive ⊢
  rw [show (intentConfig b).schemas.normalize stored = .ok event from hnormalized] at hlive ⊢
  dsimp only [Config.apply] at hlive ⊢
  cases happly : applyBuiltin (intentConfig b).builtins s.tables event with
  | error error =>
    rw [happly] at hlive
    cases hlive
  | ok changed =>
    obtain ⟨tables, handled⟩ := changed
    exact ⟨handled, happly⟩

/-- A legacy goal whose priority is off the scale. -/
def winCreated : Event :=
  { callCreated with
    type := "goal.created", subject := some "win", id := "win-created"
    payload := .ofList [("description", .str "win"), ("priority", .float (.finite 2))] }

end StrategicProjection
end Noema
