import Noema.StrategicSteps

/-!
# Whose goals they are

The revisions of a goal agree on its lineage: its kind, origin, owner and governing goals.
A goal that its user or a constitution wrote is revised by its owner, who is the principal
of its origin, alone.  A native revision is checked for all of this; a legacy event keeps
the kind, the origin and the governing goals of the goal, but takes its author and owner
from the event.  So the goals of an accepted log are sound exactly if every legacy event
of a goal that was there kept its intent (`KeepsIntent`).
-/
namespace Noema

/-- Two revisions have the same lineage. -/
structure GoalRevision.SameLineage (r r' : GoalRevision) : Prop where
  kind : r'.kind = r.kind
  origin : r'.origin = r.origin
  owner : r'.owner = r.owner
  governingGoalRefs : r'.governingGoalRefs = r.governingGoalRefs

theorem GoalRevision.SameLineage.refl (r : GoalRevision) : r.SameLineage r := ⟨rfl, rfl, rfl, rfl⟩

theorem GoalRevision.SameLineage.trans {r s t : GoalRevision} (h : r.SameLineage s)
    (h' : s.SameLineage t) : r.SameLineage t :=
  ⟨h'.kind.trans h.kind, h'.origin.trans h.origin, h'.owner.trans h.owner,
    h'.governingGoalRefs.trans h.governingGoalRefs⟩

theorem GoalRevision.SameLineage.symm {r s : GoalRevision} (h : r.SameLineage s) :
    s.SameLineage r :=
  ⟨h.kind.symm, h.origin.symm, h.owner.symm, h.governingGoalRefs.symm⟩

theorem GoalRevision.revisionId_ne (r : GoalRevision) : r.revisionId ≠ "" := by
  intro hempty
  obtain ⟨answer, htext, -⟩ := bind_eq_ok r.checked
  rw [hempty] at htext
  cases htext

namespace StrategicProjection

/-- The revisions of one goal, oldest first, have one lineage, and if it is a governing
goal, its owner authored all of them. -/
def SoundHistory (history : List GoalRevision) : Prop :=
  (∀ r ∈ history, ∀ r' ∈ history, r.SameLineage r') ∧
  ∀ current, history.getLast? = some current → current.kind.governing = true →
    ∀ r ∈ history, r.author = current.owner ∧ r.author = current.origin.principalId

/-- Every goal's revisions have one lineage, and if it is a governing goal, all are
authored by its owner, the principal of its origin. -/
def IntentSound (p : StrategicProjection) : Prop :=
  ∀ goalId,
    (∀ r ∈ p.goalHistory goalId, ∀ r' ∈ p.goalHistory goalId, r.SameLineage r') ∧
    ∀ current, p.currentGoalRevision goalId = some current → current.kind.governing = true →
      ∀ r ∈ p.goalHistory goalId, r.author = current.owner ∧ r.author = current.origin.principalId

/-- A legacy event of a goal that is there leaves it with its owner, and revises a
governing goal only if the owner sent it. -/
def KeepsIntent (b : IntentBuiltins) (p : StrategicProjection) (event : Event) : Prop :=
  p.events.find event.id = none → isLegacyIntentEvent event = true →
    "goal.".toList <+: event.type.toList →
    ∀ goalId current, textOrElse b.toBuiltins event.payload "id" event.subjectOrId = .ok goalId →
      p.currentGoalRevision goalId = some current →
      textOr b.toBuiltins event.payload "owner" current.owner = .ok current.owner ∧
        (current.kind.governing = true → event.source = current.owner)

/-! ## The chains of revisions -/

/-- The history of a goal lists revisions that are there, and ends with the current. -/
structure GoalChains (p : StrategicProjection) : Prop where
  stored : ∀ goalId, ∀ revisionId ∈ p.goalHistoryIds.listOf goalId,
    revisionId ≠ "" ∧ p.goalRevisions.find revisionId ≠ none
  latest : ∀ goalId,
    p.currentGoalRevisionIds.get? goalId = (p.goalHistoryIds.listOf goalId).getLast?

theorem goalChains_empty : GoalChains empty := by
  refine ⟨fun goalId revisionId h => ?_, fun goalId => rfl⟩
  exact absurd h (List.not_mem_nil)

variable {b : IntentBuiltins} {p p' : StrategicProjection} {event : Event}

/-- The current revision is the last of the history. -/
theorem GoalChains.current_eq (hp : GoalChains p) (goalId : String) :
    p.currentGoalRevision goalId = (p.goalHistory goalId).getLast? := by
  unfold currentGoalRevision goalHistory
  rw [hp.latest]
  rcases List.eq_nil_or_concat' (p.goalHistoryIds.listOf goalId) with hnil | ⟨ids, last, hids⟩
  · rw [hnil]
    rfl
  · obtain ⟨hne, hfind⟩ := hp.stored goalId last (by rw [hids]; simp)
    obtain ⟨r, hr⟩ := Option.ne_none_iff_exists'.mp hfind
    rw [hids, List.getLast?_concat, List.filterMap_append]
    have hlast : List.filterMap p.goalRevisions.find [last] = [r] := by
      rw [List.filterMap_cons, hr]
      rfl
    rw [hlast, List.getLast?_concat]
    split
    · contradiction
    · rename_i heq
      cases heq
      contradiction
    · rename_i heq
      cases heq
      exact hr

/-- A recorded revision ends the history of its goal. -/
theorem goalHistory_record {revision : GoalRevision} (hp : GoalChains p)
    (h : p.recordGoalRevision revision event = .ok p') (goalId : String) :
    p'.goalHistory goalId =
      if revision.goalId = goalId then p.goalHistory goalId ++ [revision]
      else p.goalHistory goalId := by
  obtain ⟨goalRevisions, hinsert, rfl⟩ := recordGoalRevision_ok h
  have hkept : ∀ ids : List String, (∀ id ∈ ids, p.goalRevisions.find id ≠ none) →
      ids.filterMap goalRevisions.find = ids.filterMap p.goalRevisions.find := by
    intro ids hids
    refine List.filterMap_congr fun id hid => ?_
    rw [KeyedTable.find_insertOnce hinsert]
    by_cases hkey : revision.revisionId = id
    · rw [if_pos hkey]
      obtain ⟨r, hr⟩ := Option.ne_none_iff_exists'.mp (hids id hid)
      rcases KeyedTable.insertOnce_cases hinsert with ⟨-, hsame⟩ | ⟨hnew, -⟩
      · rw [← hkey, hsame]
      · rw [← hkey, hnew] at hr
        cases hr
    · rw [if_neg hkey]
  have hnew : goalRevisions.find revision.revisionId = some revision := by
    rw [KeyedTable.find_insertOnce hinsert, if_pos rfl]
  have hstored := fun id hid => (hp.stored goalId id hid).2
  show List.filterMap goalRevisions.find
    ((p.goalHistoryIds.push revision.goalId revision.revisionId).listOf goalId) = _
  rw [Dict.listOf_push]
  by_cases hgoal : revision.goalId = goalId
  · rw [if_pos hgoal, if_pos hgoal, List.filterMap_append, hkept _ hstored, List.filterMap_cons,
      hnew]
    rfl
  · rw [if_neg hgoal, if_neg hgoal]
    exact hkept _ hstored

theorem GoalChains.record {revision : GoalRevision} (hp : GoalChains p)
    (h : p.recordGoalRevision revision event = .ok p') : GoalChains p' := by
  obtain ⟨goalRevisions, hinsert, rfl⟩ := recordGoalRevision_ok h
  refine ⟨fun goalId id hid => ?_, fun goalId => ?_⟩
  · dsimp only at hid ⊢
    rw [Dict.listOf_push] at hid
    rw [KeyedTable.find_insertOnce hinsert]
    by_cases hkey : revision.revisionId = id
    · rw [if_pos hkey, ← hkey]
      exact ⟨revision.revisionId_ne, Option.some_ne_none _⟩
    · rw [if_neg hkey]
      refine hp.stored goalId id ?_
      split at hid
      · rcases List.mem_append.mp hid with hold | hlast
        · exact hold
        · exact absurd (List.mem_singleton.mp hlast).symm hkey
      · exact hid
  · dsimp only
    rw [Dict.listOf_push, Dict.get?_put]
    split
    · rw [List.getLast?_concat]
    · exact hp.latest goalId

theorem SameGoals.chains (h : SameGoals p p') (hp : GoalChains p) : GoalChains p' := by
  refine ⟨fun goalId id hid => ?_, fun goalId => ?_⟩
  · rw [h.revisions]
    rw [h.history] at hid
    exact hp.stored goalId id hid
  · rw [h.current, h.history]
    exact hp.latest goalId

theorem SameGoals.current_eq (h : SameGoals p p') :
    p'.currentGoalRevision = p.currentGoalRevision := by
  funext goalId
  unfold currentGoalRevision
  rw [h.current, h.revisions]

theorem SameGoals.sound_iff (h : SameGoals p p') : IntentSound p' ↔ IntentSound p := by
  have hhistory : p'.goalHistory = p.goalHistory := by
    funext goalId
    unfold goalHistory
    rw [h.history, h.revisions]
  unfold IntentSound
  rw [h.current_eq, hhistory]

/-- A history that is longer by one revision. -/
theorem soundHistory_snoc {history : List GoalRevision} {revision : GoalRevision} :
    SoundHistory (history ++ [revision]) ↔ SoundHistory history ∧
      (∀ current, history.getLast? = some current → current.SameLineage revision) ∧
      (revision.kind.governing = true →
        revision.author = revision.owner ∧ revision.author = revision.origin.principalId) := by
  have hmem : ∀ r ∈ history, r ∈ history ++ [revision] := fun r => List.mem_append_left _
  have hlast : revision ∈ history ++ [revision] := List.mem_append_right _ (List.mem_singleton_self _)
  constructor
  · rintro ⟨hsame, hown⟩
    have hnew := hown revision List.getLast?_concat
    refine ⟨⟨fun r hr r' hr' => hsame r (hmem r hr) r' (hmem r' hr'), ?_⟩, ?_, ?_⟩
    · intro current hcurrent hgoverning r hr
      have hlineage := hsame current (hmem current (List.mem_of_getLast? hcurrent)) revision hlast
      rw [← hlineage.owner, ← hlineage.origin]
      exact hnew (hlineage.kind ▸ hgoverning) r (hmem r hr)
    · exact fun current hcurrent =>
        hsame current (hmem current (List.mem_of_getLast? hcurrent)) revision hlast
    · exact fun hgoverning => hnew hgoverning revision hlast
  · rintro ⟨⟨hsame, hown⟩, hlineage, hauthor⟩
    have hall : ∀ r ∈ history, r.SameLineage revision := by
      intro r hr
      obtain ⟨current, hcurrent⟩ := List.getLast?_isSome.mpr (List.ne_nil_of_mem hr) |>
        Option.isSome_iff_exists.mp
      exact (hsame r hr current (List.mem_of_getLast? hcurrent)).trans (hlineage current hcurrent)
    have hall' : ∀ r ∈ history ++ [revision], r.SameLineage revision := by
      intro r hr
      rcases List.mem_append.mp hr with hr | hr
      · exact hall r hr
      · rw [List.mem_singleton.mp hr]
        exact .refl revision
    refine ⟨fun r hr r' hr' => (hall' r hr).trans (hall' r' hr').symm, ?_⟩
    intro current hcurrent hgoverning r hr
    rw [List.getLast?_concat] at hcurrent
    cases hcurrent
    rcases List.mem_append.mp hr with hr | hr
    · obtain ⟨last, hcurrent⟩ := List.getLast?_isSome.mpr (List.ne_nil_of_mem hr) |>
        Option.isSome_iff_exists.mp
      have hbefore := hlineage last hcurrent
      rw [hbefore.owner, hbefore.origin]
      exact hown last hcurrent (hbefore.kind ▸ hgoverning) r hr
    · rw [List.mem_singleton.mp hr]
      exact hauthor hgoverning

theorem GoalChains.sound_iff (hp : GoalChains p) :
    IntentSound p ↔ ∀ goalId, SoundHistory (p.goalHistory goalId) := by
  unfold IntentSound SoundHistory
  simp only [hp.current_eq]

/-- The goals after a revision is recorded. -/
theorem intentSound_record {revision : GoalRevision} (hp : GoalChains p)
    (h : p.recordGoalRevision revision event = .ok p') :
    IntentSound p' ↔ IntentSound p ∧
      (∀ current, p.currentGoalRevision revision.goalId = some current →
        current.SameLineage revision) ∧
      (revision.kind.governing = true →
        revision.author = revision.owner ∧ revision.author = revision.origin.principalId) := by
  rw [(hp.record h).sound_iff, hp.sound_iff, hp.current_eq]
  constructor
  · intro hsound
    have hgoal := hsound revision.goalId
    rw [goalHistory_record hp h, if_pos rfl, soundHistory_snoc] at hgoal
    refine ⟨fun goalId => ?_, hgoal.2⟩
    by_cases hid : revision.goalId = goalId
    · exact hid ▸ hgoal.1
    · have hother := hsound goalId
      rw [goalHistory_record hp h, if_neg hid] at hother
      exact hother
  · rintro ⟨hsound, hnew⟩ goalId
    rw [goalHistory_record hp h]
    by_cases hid : revision.goalId = goalId
    · rw [if_pos hid, soundHistory_snoc]
      exact ⟨hsound goalId, hid ▸ hnew⟩
    · rw [if_neg hid]
      exact hsound goalId

/-! ## One event -/

/-- A native revision is of the goal's lineage, and by the owner. -/
theorem native_sound {revision : GoalRevision} {answer : Unit}
    (h : p.validateGoalRevisionStructure revision = .ok answer) :
    (∀ current, p.currentGoalRevision revision.goalId = some current →
      current.SameLineage revision) ∧
    revision.author = revision.owner ∧ revision.author = revision.origin.principalId := by
  obtain ⟨_, -, h⟩ := bind_eq_ok h
  obtain ⟨_, -, h⟩ := bind_eq_ok h
  obtain ⟨_, -, h⟩ := bind_eq_ok h
  obtain ⟨_, -, h⟩ := bind_eq_ok h
  obtain ⟨_, hprincipal, h⟩ := bind_eq_ok h
  obtain ⟨_, howner, h⟩ := bind_eq_ok h
  obtain ⟨_, hauthor, h⟩ := bind_eq_ok h
  obtain ⟨_, -, h⟩ := bind_eq_ok h
  have hprincipal := not_or.mp (refuse_ok hprincipal)
  have howner := not_not.mp (refuse_ok howner)
  have hauthor := not_not.mp (refuse_ok hauthor)
  have horigin := hauthor.trans (not_not.mp hprincipal.1)
  refine ⟨fun current hcurrent => ?_, horigin.trans howner.symm, horigin⟩
  dsimp only at h
  rw [hcurrent] at h
  obtain ⟨_, hlineage, -⟩ := bind_eq_ok h
  obtain ⟨_, hsame, -⟩ := bind_eq_ok hlineage
  have hsame := refuse_ok hsame
  push Not at hsame
  exact ⟨hsame.1, hsame.2.1, hsame.2.2.1, hsame.2.2.2⟩

/-- What a legacy revision takes from the goal, and what from the event. -/
theorem legacy_fields {goalId : String} {current : Option GoalRevision} {context : Payload}
    {revision : GoalRevision} (h : p.legacyGoalRevision b event goalId current context = .ok revision) :
    revision.goalId = goalId ∧ revision.author = event.source ∧
    revision.kind = (current.map (·.kind)).getD .legacyUnclassified ∧
    revision.governingGoalRefs = (current.map (·.governingGoalRefs)).getD [] ∧
    textOr b.toBuiltins event.payload "owner" ((current.map (·.owner)).getD event.source) =
      .ok revision.owner ∧
    ∀ before, current = some before → revision.origin = before.origin := by
  obtain ⟨origin, horigin, h⟩ := bind_eq_ok h
  obtain ⟨intentAuthority, -, h⟩ := bind_eq_ok h
  obtain ⟨reading, hreading, h⟩ := bind_eq_ok h
  iterate 4 obtain ⟨_, -, hreading⟩ := bind_eq_ok hreading
  obtain ⟨owner, howner, hreading⟩ := bind_eq_ok hreading
  obtain ⟨status, -, hreading⟩ := bind_eq_ok hreading
  obtain ⟨deadline, -, hreading⟩ := bind_eq_ok hreading
  cases hreading
  obtain ⟨checked, rfl⟩ := checkedBy_ok h
  refine ⟨rfl, rfl, rfl, rfl, howner, fun before hbefore => ?_⟩
  rw [hbefore] at horigin
  cases horigin
  rfl

theorem sameGoals_putCommitment (value : Commitment) : SameGoals p (p.putCommitment value) :=
  ⟨rfl, rfl, rfl⟩

theorem SameGoals.trans {p'' : StrategicProjection} (h : SameGoals p p') (h' : SameGoals p' p'') :
    SameGoals p p'' :=
  ⟨h'.revisions.trans h.revisions, h'.history.trans h.history, h'.current.trans h.current⟩

/-- Only an event of a goal does something to the goals. -/
theorem Recorded.goals (h : Recorded b p event p') :
    (∃ revision, p.recordGoalRevision revision event = .ok p' ∧
      isLegacyIntentEvent event = false ∧ p.validateGoalRevisionStructure revision = .ok ()) ∨
    (∃ goalId context revision, p.recordGoalRevision revision event = .ok p' ∧
      isLegacyIntentEvent event = true ∧ "goal.".toList <+: event.type.toList ∧
      textOrElse b.toBuiltins event.payload "id" event.subjectOrId = .ok goalId ∧
      p.legacyGoalRevision b event goalId (p.currentGoalRevision goalId) context = .ok revision) ∨
    (SameGoals p p' ∧ KeepsIntent b p event) := by
  have hnative : isLegacyIntentEvent event = false → KeepsIntent b p event := by
    intro hnative _ hlegacy
    rw [hnative] at hlegacy
    cases hlegacy
  have hcommitment : "commitment.".toList <+: event.type.toList → KeepsIntent b p event := by
    exact fun htype _ _ hgoal => (goal_ne_commitment hgoal htype).elim
  cases h with
  | goal hlegacy _ _ hvalid hrecord => exact Or.inl ⟨_, hrecord, hlegacy, hvalid⟩
  | legacyGoal hlegacy htype _ _ hid _ hread hrecord =>
    exact Or.inr (Or.inl ⟨_, _, _, hrecord, hlegacy, htype, hid, hread⟩)
  | commitment hlegacy =>
    exact Or.inr (Or.inr ⟨sameGoals_putCommitment _, hnative hlegacy⟩)
  | transition hlegacy _ _ _ _ hp' => exact Or.inr (Or.inr
    ⟨(sameGoals_putCommitment _).trans hp'.toSameGoals, hnative hlegacy⟩)
  | legacyCreate _ htype =>
    exact Or.inr (Or.inr ⟨sameGoals_putCommitment _, hcommitment htype⟩)
  | legacyPatch _ htype _ _ _ hp' => exact Or.inr (Or.inr
    ⟨(sameGoals_putCommitment _).trans hp'.toSameGoals, hcommitment htype⟩)
  | legacyNothing _ hgoal =>
    refine Or.inr (Or.inr ⟨.refl p, fun _ _ htype goalId current hid hcurrent => ?_⟩)
    rw [hgoal htype goalId hid] at hcurrent
    cases hcurrent
  | elsewhere hlegacy _ hp' => exact Or.inr (Or.inr ⟨hp'.toSameGoals, hnative hlegacy⟩)

/-- A legacy revision keeps its goal sound exactly if its event keeps the intent. -/
theorem legacy_sound_iff {goalId : String} {context : Payload} {revision : GoalRevision}
    (hp : GoalChains p) (hsound : IntentSound p) (hnew : p.events.find event.id = none)
    (hlegacy : isLegacyIntentEvent event = true) (htype : "goal.".toList <+: event.type.toList)
    (hid : textOrElse b.toBuiltins event.payload "id" event.subjectOrId = .ok goalId)
    (hread : p.legacyGoalRevision b event goalId (p.currentGoalRevision goalId) context =
      .ok revision) :
    ((∀ current, p.currentGoalRevision revision.goalId = some current →
        current.SameLineage revision) ∧
      (revision.kind.governing = true →
        revision.author = revision.owner ∧ revision.author = revision.origin.principalId)) ↔
      KeepsIntent b p event := by
  obtain ⟨hgoal, hauthor, hkind, hrefs, howner, horigin⟩ := legacy_fields hread
  rw [hgoal]
  cases hcurrent : p.currentGoalRevision goalId with
  | none =>
    rw [hcurrent] at hkind
    refine iff_of_true ⟨fun _ h => (nomatch h), fun hgoverning => ?_⟩ ?_
    · rw [hkind] at hgoverning
      cases hgoverning
    · intro _ _ _ other current hother hfound
      rw [hid] at hother
      cases hother
      rw [hcurrent] at hfound
      cases hfound
  | some current =>
    rw [hcurrent] at hkind hrefs howner
    simp only [Option.map_some, Option.getD_some] at hkind hrefs howner
    have horigin := horigin current hcurrent
    constructor
    · rintro ⟨hlineage, hown⟩ _ _ _ other found hother hfound
      rw [hid] at hother
      cases hother
      rw [hcurrent] at hfound
      cases hfound
      have hlineage := hlineage current rfl
      rw [hlineage.owner] at howner
      refine ⟨howner, fun hgoverning => ?_⟩
      rw [← hauthor, ← hlineage.owner]
      exact (hown (hlineage.kind ▸ hgoverning)).1
    · intro hkeeps
      obtain ⟨hkept, hsource⟩ := hkeeps hnew hlegacy htype goalId current hid hcurrent
      have hsame : revision.owner = current.owner := by
        rw [howner] at hkept
        exact Except.ok.inj hkept
      refine ⟨fun found hfound => ?_, fun hgoverning => ?_⟩
      · cases hfound
        exact ⟨hkind, horigin, hsame, hrefs⟩
      · have hcurrentGoverning : current.kind.governing = true := hkind ▸ hgoverning
        -- the owner of a sound governing goal is the principal of its origin
        have hmem : current ∈ p.goalHistory goalId :=
          List.mem_of_getLast? (hp.current_eq goalId ▸ hcurrent)
        obtain ⟨howns, hprincipal⟩ := (hsound goalId).2 current hcurrent hcurrentGoverning current hmem
        rw [hauthor, hsame, horigin, hsource hcurrentGoverning]
        exact ⟨rfl, howns.symm.trans hprincipal⟩

theorem Recorded.sound_iff (hp : GoalChains p) (hnew : p.events.find event.id = none)
    (h : Recorded b p event p') : IntentSound p' ↔ IntentSound p ∧ KeepsIntent b p event := by
  rcases h.goals with ⟨revision, hrecord, hlegacy, hvalid⟩ |
    ⟨goalId, context, revision, hrecord, hlegacy, htype, hid, hread⟩ | ⟨hsame, hkeeps⟩
  · obtain ⟨hlineage, hown⟩ := native_sound hvalid
    rw [intentSound_record hp hrecord]
    refine and_congr_right fun _ => iff_of_true ⟨hlineage, fun _ => hown⟩ ?_
    intro _ htrue
    rw [hlegacy] at htrue
    cases htrue
  · rw [intentSound_record hp hrecord]
    exact and_congr_right fun hsound =>
      legacy_sound_iff hp hsound hnew hlegacy htype hid hread
  · rw [hsame.sound_iff]
    exact (and_iff_left hkeeps).symm

theorem Recorded.chains (hp : GoalChains p) (h : Recorded b p event p') : GoalChains p' := by
  rcases h.goals with ⟨revision, hrecord, -⟩ | ⟨goalId, context, revision, hrecord, -⟩ | ⟨hsame, -⟩
  · exact hp.record hrecord
  · exact hp.record hrecord
  · exact hsame.chains hp

/-- What is recorded of the event itself is no matter of the goals. -/
theorem sameGoals_applied (q : StrategicProjection) (sequence : Nat) :
    SameGoals q { q with events := q.events.put event, lastSequence := sequence } :=
  ⟨rfl, rfl, rfl⟩

theorem step_chains (hp : GoalChains p) (h : step b p event = .ok p') : GoalChains p' := by
  rcases step_recorded h with ⟨-, rfl⟩ | ⟨-, q, sequence, hrecorded, -, -, rfl⟩
  · exact hp
  · exact (sameGoals_applied q sequence).chains (hrecorded.chains hp)

/-- **An accepted event keeps the goals sound exactly if it keeps their intent.** -/
theorem step_sound_iff (hp : GoalChains p) (h : step b p event = .ok p') :
    IntentSound p' ↔ IntentSound p ∧ KeepsIntent b p event := by
  rcases step_recorded h with ⟨hknown, rfl⟩ | ⟨hnew, q, sequence, hrecorded, -, -, rfl⟩
  · refine (and_iff_left ?_).symm
    intro hnone
    rw [hnone] at hknown
    cases hknown
  · rw [(sameGoals_applied q sequence).sound_iff]
    exact hrecorded.sound_iff hp hnew

theorem rebuild_chains {events : List Event} (h : rebuild b events = .ok p) : GoalChains p :=
  Folding.run_induction (I := fun _ q => GoalChains q) goalChains_empty
    (fun _ _ _ _ _ hq hstep => step_chains hq hstep) h

/-- **The goals of an accepted log are sound exactly if every event of it kept the intent
of the goals that were there.** -/
theorem rebuild_intentSound_iff (b : IntentBuiltins) (events : List Event)
    (p : StrategicProjection) (h : rebuild b events = .ok p) :
    IntentSound p ↔ Folding.Every (step b) empty (KeepsIntent b) events := by
  refine Folding.run_iff ?_ (fun es event q q' hq hstep => ?_) h
  · refine goalChains_empty.sound_iff.mpr fun goalId => ⟨fun r hr => ?_, fun r hr => ?_⟩
    · cases hr
    · cases hr
  · exact step_sound_iff (rebuild_chains hq) hstep

/-! ## A goal that another rewrites -/

/-- Conversions on which the examples run: they read texts and one time, and name a
revision after its goal and description. -/
def plainIntent : IntentBuiltins where
  strOf _ := .error .typeError
  floatOfInt value := .ok (.finite value)
  floatOfStr _ := .error (.valueError "could not convert string to float")
  fromisoformat text :=
    if text = "1970-01-01T00:00:00+00:00" then .ok (0, some 0)
    else .error (.valueError "Invalid isoformat string")
  addSeconds at' seconds :=
    match seconds with
    | .finite value => .ok ⟨at'.instant + (value * 1000000).floor, at'.utcOffset⟩
    | _ => .error .overflowError
  dictOfPairs _ := .error (.valueError "dictionary update sequence")
  intOfStr _ := .error (.valueError "invalid literal for int()")
  sameEvent event event' := event.id = event'.id
  ids :=
    { goalRevision := fun content => content.goalId ++ ":" ++ content.description
      roadmapRevision := fun content => content.roadmapId
      transition := fun content => content.commitmentId
      roles := fun content => content.outcomeRef
      envelope := fun content => content.roleAssignmentId
      workstream := fun content => content.workstreamId
      workProposal := fun content => content.commitmentId }
  workOrderFromDict _ := .error (.valueError "work order")
  workOrderFromEvent _ := .error (.valueError "work order")
  workGraphFromEvent _ := .error (.valueError "work graph")

/-- The schemas of intent, on these conversions. -/
def intentSchemas : EventSchemaRegistry := intentRegistry plainIntent.toBuiltins

/-- A goal that Ada wrote. -/
def paperRecorded : Event where
  type := "intent.goal_revision_recorded"
  source := "intent-steward"
  payload := .ofList
    [("revision_id", .str "goal-revision:paper:write the paper"), ("goal_id", .str "paper"),
     ("version", .int 1), ("description", .str "write the paper"), ("priority", .float (.finite 1)),
     ("utility", .float (.finite 1)), ("success_criteria", .list [.str "it is accepted"]),
     ("owner", .str "ada"), ("status", .str "active"), ("kind", .str "user_authored"),
     ("governing_goal_refs", .list []),
     ("origin", .obj
       [("provenance_id", .str "login"), ("kind", .str "user"), ("principal_id", .str "ada"),
        ("authentication_ref", .str "session")]),
     ("intent_authority", .obj
       [("authority_id", .str "ada-herself"), ("principal_id", .str "ada"), ("scope", .str "user"),
        ("allowed_goal_kinds", .list [.str "user_authored"]), ("goal_refs", .list []),
        ("provenance_ref", .str "login")]),
     ("based_on_event_cursor", .int 0), ("author", .str "ada"),
     ("revision_reason", .str "first draft"), ("recorded_at", .str "1970-01-01T00:00:00+00:00")]
  subject := some "paper"
  id := "goal-revision-recorded:goal-revision:paper:write the paper"
  timestamp := .utc 0
  correlationId := none
  causationId := none
  priority := 0
  sequence := some 1
  metadata := .ofList [("validated_at_event_cursor", .int 0)]
  schemaVersion := 1
  schemaVersion_pos := Nat.one_pos

/-- An agent describes the goal anew. -/
def paperUpdated : Event :=
  { paperRecorded with
    type := "goal.updated", source := "agent", id := "paper-updated", sequence := some 2
    payload := .ofList [("description", .str "leave it to me")], metadata := .empty }

/-- The kind, the author and the owner of the goal's current revision after a log. -/
def authorship (events : List Event) : Except PyError (Option (GoalKind × String × String)) := do
  let normalized ← events.mapM intentSchemas.normalize
  let p ← rebuild plainIntent normalized
  return (p.currentGoalRevision "paper").map fun r => (r.kind, r.author, r.owner)

/-- **The agent is the author of Ada's goal.** -/
theorem goal_rewritten : ¬ ∀ (b : IntentBuiltins) (schemas : EventSchemaRegistry)
    (stored normalized : List Event) (p : StrategicProjection),
    stored.mapM (registerIntentEventSchemas b.toBuiltins schemas).normalize = .ok normalized →
    rebuild b normalized = .ok p → IntentSound p := by
  intro hall
  have hrun : authorship [paperRecorded, paperUpdated] =
      .ok (some (.userAuthored, "agent", "ada")) := by
    decide +kernel
  obtain ⟨normalized, hnormalized, hrun⟩ := bind_eq_ok hrun
  obtain ⟨p, hp, hrun⟩ := bind_eq_ok hrun
  obtain ⟨current, hcurrent, hfields⟩ := Option.map_eq_some_iff.mp (Except.ok.inj hrun)
  obtain ⟨hkind, hfields⟩ := Prod.mk.inj hfields
  obtain ⟨hauthor, howner⟩ := Prod.mk.inj hfields
  have hmem : current ∈ p.goalHistory "paper" :=
    List.mem_of_getLast? ((rebuild_chains hp).current_eq "paper" ▸ hcurrent)
  have hown := (hall plainIntent _ _ normalized p hnormalized hp "paper").2 current hcurrent
    (by rw [hkind]; rfl) current hmem
  rw [hauthor, howner] at hown
  exact absurd hown.1 (by decide)

/-- Ada's goal alone is hers. -/
theorem paper_sound : ∃ p, rebuild plainIntent [paperRecorded] = .ok p ∧ IntentSound p := by
  have haccepted : (rebuild plainIntent [paperRecorded]).isOk = true := by decide +kernel
  cases hp : rebuild plainIntent [paperRecorded] with
  | error error =>
    rw [hp] at haccepted
    cases haccepted
  | ok p =>
    refine ⟨p, rfl, (rebuild_intentSound_iff plainIntent [paperRecorded] p hp).mpr ?_⟩
    intro before event after q hlog _ _ hlegacy
    have hevent : event = paperRecorded := by
      have hmem : event ∈ [paperRecorded] := by rw [hlog]; simp
      exact List.mem_singleton.mp hmem
    rw [hevent] at hlegacy
    cases hlegacy

end StrategicProjection
end Noema
