import Noema.IntentViews

/-!
# The goals of both views

An event of a goal that the situation takes, and that keeps the views, is accepted by the
strategic projection and leaves the same goals in both.
-/
namespace Noema

theorem requireText_of {value name : String} (h : blank value = false) :
    requireText value name = .ok () := by
  unfold requireText
  rw [h]
  rfl

theorem requireText_ok {value name : String} {answer : Unit}
    (h : requireText value name = .ok answer) : blank value = false := by
  unfold requireText at h
  cases hblank : blank value with
  | true =>
    rw [hblank] at h
    cases h
  | false => rfl

/-- What the check of a revision says of the fields that the next one keeps. -/
theorem GoalRevision.kept (r : GoalRevision) : blank r.owner = false ∧ 0 < r.version ∧
    requireUnique r.governingGoalRefs "governing goal refs" false = .ok () := by
  have h := r.checked
  iterate 3 obtain ⟨_, -, h⟩ := bind_eq_ok h
  obtain ⟨_, howner, h⟩ := bind_eq_ok h
  iterate 2 obtain ⟨_, -, h⟩ := bind_eq_ok h
  obtain ⟨_, hversion, h⟩ := bind_eq_ok h
  iterate 4 obtain ⟨_, -, h⟩ := bind_eq_ok h
  exact ⟨requireText_ok howner, not_le.mp (refuse_ok hversion), h⟩

namespace StrategicProjection

variable {b : IntentBuiltins} {p q : StrategicProjection} {stored event : Event}
  {operation goalId : String} {reading : GoalReading}

theorem legacyContent_check (htaken : RevisionTaken b p event goalId reading)
    (origin : OriginProvenance) (authority : IntentAuthority) :
    let content := p.legacyContent event goalId (p.currentGoalRevision goalId) origin authority
      reading
    content.check (b.ids.goalRevisionId content) = .ok () := by
  intro content
  have hid : blank (b.ids.goalRevisionId content) = false := blank_append (by decide)
  have hreason : blank content.revisionReason = false := blank_append (by decide)
  have hversion : ¬ content.version ≤ 0 := by
    show ¬ versionAfter ((p.currentGoalRevision goalId).map (·.version)) ≤ 0
    cases p.currentGoalRevision goalId with
    | none => decide
    | some current =>
      have hpos := current.kept.2.1
      show ¬ current.version + 1 ≤ 0
      omega
  have hcursor : ¬ content.basedOnEventCursor < 0 := not_lt.mpr (Int.natCast_nonneg _)
  have hrefs : requireUnique content.governingGoalRefs "governing goal refs" false = .ok () := by
    show requireUnique (((p.currentGoalRevision goalId).map (·.governingGoalRefs)).getD [])
      "governing goal refs" false = .ok ()
    cases p.currentGoalRevision goalId with
    | none => rfl
    | some current => exact current.kept.2.2
  have hutility : ¬ content.utility.isFinite = false := by
    rw [show content.utility.isFinite = true from htaken.utility]
    decide
  refine (bind_of_ok (requireText_of hid) _).trans ?_
  refine (bind_of_ok (requireText_of htaken.named) _).trans ?_
  refine (bind_of_ok (requireText_of htaken.description) _).trans ?_
  refine (bind_of_ok (requireText_of htaken.owner) _).trans ?_
  refine (bind_of_ok (requireText_of htaken.source) _).trans ?_
  refine (bind_of_ok (requireText_of hreason) _).trans ?_
  refine (bind_of_ok (refuse_of hversion) _).trans ?_
  refine (bind_of_ok (refuse_of hcursor) _).trans ?_
  refine (bind_of_ok htaken.priority _).trans ?_
  refine (bind_of_ok (refuse_of hutility) _).trans ?_
  refine (bind_of_ok htaken.criteria _).trans ?_
  exact hrefs

/-- The revision that a legacy event makes. -/
theorem legacyGoalRevision_of (hreading : readGoal b event (p.currentGoalRevision goalId) =
      .ok reading) (hmigrated : Migrated stored event operation)
    (htaken : RevisionTaken b p event goalId reading) :
    ∃ origin authority revision,
      p.legacyGoalRevision b event goalId (p.currentGoalRevision goalId)
        (.ofList (contextFields stored operation)) = .ok revision ∧
      revision.toGoalContent =
        p.legacyContent event goalId (p.currentGoalRevision goalId) origin authority reading ∧
      revision.revisionId = b.ids.goalRevisionId revision.toGoalContent := by
  have hsource : blank stored.source = false := hmigrated.source ▸ htaken.source
  obtain ⟨origin, horigin⟩ : ∃ origin, legacyOrigin b (p.currentGoalRevision goalId)
      (.ofList (contextFields stored operation)) = .ok origin := by
    cases p.currentGoalRevision goalId with
    | none => exact legacyOrigin_new hsource
    | some current => exact ⟨current.origin, rfl⟩
  obtain ⟨authority, hauthority⟩ : ∃ authority, legacyAuthority b (p.currentGoalRevision goalId)
      (.ofList (contextFields stored operation)) = .ok authority := by
    cases p.currentGoalRevision goalId with
    | none => exact legacyAuthority_new hsource
    | some current => exact ⟨current.intentAuthority, rfl⟩
  refine ⟨origin, authority, ⟨_, _, legacyContent_check htaken origin authority⟩, ?_, rfl, rfl⟩
  unfold legacyGoalRevision
  rw [bind_of_ok horigin, bind_of_ok hauthority, bind_of_ok hreading]
  exact checkedBy_of (legacyContent_check htaken origin authority)

/-- A legacy event of a goal that may be revised so is accepted. -/
theorem legacyGoal_accepted (hnext : Next p event)
    (hmigrated : Migrated stored event operation) (htype : "goal.".toList <+: event.type.toList)
    (hid : textOrElse b.toBuiltins event.payload "id" event.subjectOrId = .ok goalId)
    (hpatch : ¬ (operation = "patch" ∧ p.currentGoalRevision goalId = none))
    (hreading : readGoal b event (p.currentGoalRevision goalId) = .ok reading)
    (htaken : RevisionTaken b p event goalId reading) :
    ∃ revision q p', p.recordGoalRevision revision event = .ok q ∧ step b p event = .ok p' ∧
      SameGoals q p' ∧ SameCommitments q p' ∧
      revision.view = ⟨goalId, reading.description, some reading.owner, reading.priority,
        reading.status, reading.successCriteria, reading.deadline⟩ := by
  obtain ⟨origin, authority, revision, hrevision, hcontent, hrevisionId⟩ :=
    legacyGoalRevision_of hreading hmigrated htaken
  have hgoalId : revision.goalId = goalId := congrArg GoalContent.goalId hcontent
  have hfind : p.goalRevisions.find revision.revisionId = none := by
    rw [hrevisionId, hcontent]
    exact htaken.fresh origin authority
  obtain ⟨goalRevisions, hinsert⟩ : ∃ goalRevisions,
      p.goalRevisions.insertOnce revision = some goalRevisions := by
    unfold KeyedTable.insertOnce
    split
    · rename_i existing hexisting
      rw [hfind] at hexisting
      cases hexisting
    · exact ⟨_, rfl⟩
  have hrecord : p.recordGoalRevision revision event = .ok { p with
      goalRevisions
      goalHistoryIds := p.goalHistoryIds.push revision.goalId revision.revisionId
      currentGoalRevisionIds :=
        p.currentGoalRevisionIds.put (revision.goalId, revision.revisionId) } := by
    have hsubject : ¬ (¬ (event.subject = some revision.goalId ∨
        (isLegacyIntentEvent event = true ∧ event.subject = none)) ∨
        event.timestamp.instant ≠ revision.recordedAt.instant) := by
      rw [hgoalId, show revision.recordedAt = event.timestamp from
        congrArg GoalContent.recordedAt hcontent]
      rcases htaken.subject with h | h <;> simp [h, hmigrated.legacy]
    have hextends : ¬ (revision.version ≠
          versionAfter ((p.currentGoalRevision revision.goalId).map (·.version)) ∨
        revision.supersedesRevisionId ≠
          (p.currentGoalRevision revision.goalId).map (·.revisionId)) := by
      rw [hgoalId, show revision.version = _ from congrArg GoalContent.version hcontent,
        show revision.supersedesRevisionId = _ from
          congrArg GoalContent.supersedesRevisionId hcontent]
      simp [legacyContent]
    have hcursor : ¬ (sequenceOf event : Int) ≤ revision.basedOnEventCursor := by
      obtain ⟨-, sequence, hsequence, hlater⟩ := hnext
      rw [show revision.basedOnEventCursor = (p.lastSequence : Int) from
        congrArg GoalContent.basedOnEventCursor hcontent, sequenceOf, hsequence]
      exact not_le.mpr (Int.ofNat_lt.mpr hlater)
    have hstored : recordImmutable p.goalRevisions revision "goal revision" = .ok goalRevisions := by
      unfold recordImmutable
      rw [hinsert]
    refine (bind_of_ok (refuse_of hsubject) _).trans ?_
    refine (bind_of_ok (refuse_of hextends) _).trans ?_
    refine (bind_of_ok (refuse_of hcursor) _).trans ?_
    exact bind_of_ok hstored _
  obtain ⟨p', hstep, hgoals, hcommitments⟩ := step_of_applyEvent (b := b) hnext (q := _) (by
    unfold applyEvent
    rw [if_pos hmigrated.legacy]
    unfold applyLegacy
    rw [bind_of_ok hmigrated.legacyContext_eq, bind_of_ok itemText_operation, if_pos htype]
    unfold applyLegacyGoal
    rw [bind_of_ok hid]
    dsimp only
    rw [if_neg hpatch, bind_of_ok hrevision, bind_of_ok hrecord]
    rfl)
  refine ⟨revision, _, p', hrecord, hstep, hgoals, hcommitments, ?_⟩
  unfold GoalRevision.view
  rw [hcontent]
  rfl

/-- What a legacy event says of its goal, field by field. -/
theorem readGoal_fields {current : Option GoalRevision} (h : readGoal b event current = .ok reading) :
    textOr b.toBuiltins event.payload "description" ((current.map (·.description)).getD "") =
      .ok reading.description ∧
    floatOr b.toBuiltins event.payload "priority"
      ((current.map (·.priority)).getD (.finite (1 / 2))) = .ok reading.priority ∧
    textsOr b.toBuiltins event.payload "success_criteria"
      ((current.map (·.successCriteria)).getD []) = .ok reading.successCriteria ∧
    textOr b.toBuiltins event.payload "owner" ((current.map (·.owner)).getD event.source) =
      .ok reading.owner ∧
    goalStatusOr b.toBuiltins event.payload ((current.map (·.status)).getD .active) =
      .ok reading.status ∧
    datetimeOr b.toBuiltins event.payload "deadline" (current.bind (·.deadline)) =
      .ok reading.deadline := by
  obtain ⟨description, hdescription, h⟩ := bind_eq_ok h
  obtain ⟨priority, hpriority, h⟩ := bind_eq_ok h
  obtain ⟨utility, -, h⟩ := bind_eq_ok h
  obtain ⟨successCriteria, hcriteria, h⟩ := bind_eq_ok h
  obtain ⟨owner, howner, h⟩ := bind_eq_ok h
  obtain ⟨status, hstatus, h⟩ := bind_eq_ok h
  obtain ⟨deadline, hdeadline, h⟩ := bind_eq_ok h
  cases h
  exact ⟨hdescription, hpriority, hcriteria, howner, hstatus, hdeadline⟩

end StrategicProjection

/-! ## Reading a field that is there -/

section Fields

variable {b : Builtins} {payload : Payload} {key : String}

theorem get?_of_item {value : JSONValue} (h : payload.item key = .ok value) :
    Dict.get? payload key = some value := by
  unfold Payload.item at h
  cases hget : Dict.get? payload key with
  | none =>
    rw [hget] at h
    cases h
  | some given =>
    rw [hget] at h
    cases h
    rfl

theorem textOr_of_item {text default : String} (h : itemText b payload key = .ok text) :
    textOr b payload key default = .ok text := by
  obtain ⟨value, hvalue, h⟩ := bind_eq_ok h
  unfold textOr
  rw [get?_of_item hvalue]
  exact h

theorem floatOr_of_has (h : payload.Has key) (default default' : PyFloat) :
    floatOr b payload key default = floatOr b payload key default' := by
  obtain ⟨value, hvalue⟩ := h
  unfold floatOr
  rw [hvalue]

theorem textsOr_of_has (h : payload.Has key) (default default' : List String) :
    textsOr b payload key default = textsOr b payload key default' := by
  obtain ⟨value, hvalue⟩ := h
  unfold textsOr
  rw [hvalue]

theorem goalStatusOr_of_has (h : payload.Has "status") (default default' : GoalStatus) :
    goalStatusOr b payload default = goalStatusOr b payload default' := by
  obtain ⟨value, hvalue⟩ := h
  unfold goalStatusOr
  rw [hvalue]

theorem commitmentStatusOr_of_has (h : payload.Has "status") (default default' : CommitmentStatus) :
    commitmentStatusOr b payload default = commitmentStatusOr b payload default' := by
  obtain ⟨value, hvalue⟩ := h
  unfold commitmentStatusOr
  rw [hvalue]

/-- A deadline that is left out is there in neither reading, one that is given in both. -/
theorem datetimeOr_eq {default deadline deadline' : Option Datetime}
    (h : datetimeOr b payload key default = .ok deadline)
    (h' : datetime b payload key = .ok deadline')
    (hnone : Dict.get? payload key = none → deadline = none) : deadline = deadline' := by
  unfold datetimeOr at h
  unfold datetime Payload.get at h'
  cases hvalue : Dict.get? payload key with
  | none =>
    rw [hvalue] at h'
    cases h'
    exact hnone hvalue
  | some value =>
    rw [hvalue] at h h'
    exact Except.ok.inj (h.symm.trans h')

/-- A text that is given and not empty reads alike. -/
theorem textIfAny_eq {default text : String} {text' : Option String}
    (htruthy : (payload.get key).truthy = true) (h : textOr b payload key default = .ok text)
    (h' : textIfAny b payload key = .ok text') : text' = some text := by
  unfold textIfAny at h'
  rw [if_pos htruthy] at h'
  unfold textOr at h
  unfold Payload.get at h' htruthy
  cases hvalue : Dict.get? payload key with
  | none =>
    rw [hvalue] at htruthy
    cases htruthy
  | some value =>
    rw [hvalue] at h h'
    dsimp only [Option.getD_some] at h h'
    rw [h] at h'
    exact (Except.ok.inj h').symm

end Fields

namespace StrategicProjection

variable {b : IntentBuiltins} {t t' : Tables} {p : StrategicProjection} {stored event : Event}
  {handled : Bool}

/-- `goal.created`. -/
theorem goalCreated_views (hview : ViewsAgree t p) (hp : GoalChains p) (hnext : Next p event)
    (hcreated : upcastGoalCreated stored = .ok event) (htype : event.type = "goal.created")
    (hkeeps : KeepsGoalView b p event)
    (h : goalCreated b.toBuiltins t event = .ok (t', handled)) :
    ∃ p', step b p event = .ok p' ∧ ViewsAgree t' p' := by
  obtain ⟨hmigrated, hhasPriority, -, hhasStatus, hhasCriteria, hhasOwner⟩ :=
    goalCreated_migrated hcreated
  obtain ⟨goalId, hid, h⟩ := bind_eq_ok h
  obtain ⟨description, hdescription, h⟩ := bind_eq_ok h
  obtain ⟨priority, hpriority, h⟩ := bind_eq_ok h
  obtain ⟨utility, -, h⟩ := bind_eq_ok h
  obtain ⟨status, hstatus, h⟩ := bind_eq_ok h
  obtain ⟨deadline, hdeadline, h⟩ := bind_eq_ok h
  obtain ⟨successCriteria, hcriteria, h⟩ := bind_eq_ok h
  obtain ⟨owner, howner, h⟩ := bind_eq_ok h
  cases h
  obtain ⟨-, ⟨hupdated, -⟩ | ⟨reading, hreading, htaken, htruthy, hleft, -⟩⟩ := hkeeps goalId hid
  · rw [htype] at hupdated
    exact absurd hupdated (by decide)
  obtain ⟨revision, q, p', hrecord, hstep, hgoals, hcommitments, hrevision⟩ :=
    legacyGoal_accepted hnext hmigrated (by rw [htype]; decide) hid
      (fun hpatch => absurd hpatch.1 (by decide)) hreading htaken
  refine ⟨p', hstep, (hview.putGoal hp hrecord ?_).congr hgoals hcommitments⟩
  obtain ⟨rdescription, rpriority, rcriteria, rowner, rstatus, rdeadline⟩ := readGoal_fields hreading
  have howner' : owner = some reading.owner :=
    textIfAny_eq (htruthy (by obtain ⟨value, hvalue⟩ := hhasOwner; rw [hvalue]; exact Option.some_ne_none _))
      rowner howner
  have hdeadline' : reading.deadline = deadline := datetimeOr_eq rdeadline hdeadline (hleft htype)
  rw [textOr_of_item hdescription] at rdescription
  rw [floatOr_of_has hhasPriority _ (.finite (1 / 2)), hpriority] at rpriority
  rw [textsOr_of_has hhasCriteria _ [], hcriteria] at rcriteria
  rw [goalStatusOr_of_has hhasStatus _ .active, hstatus] at rstatus
  rw [hrevision, ← Except.ok.inj rdescription, ← Except.ok.inj rpriority, ← Except.ok.inj rcriteria,
    ← Except.ok.inj rstatus, ← howner', hdeadline']
  rfl

theorem textOrElse_defined {payload : Payload} {key default text : String}
    (h : textOrElse b.toBuiltins payload key default = .ok text) (default' : String) :
    ∃ text', textOrElse b.toBuiltins payload key default' = .ok text' := by
  unfold textOrElse at h ⊢
  split at h
  · rename_i htruthy
    rw [if_pos htruthy]
    exact ⟨text, h⟩
  · rename_i hfalsy
    rw [if_neg hfalsy]
    exact ⟨default', rfl⟩

theorem textOrElse_sameId (h : SameIdRead event) :
    textOrElse b.toBuiltins event.payload "id" event.subjectText =
      textOrElse b.toBuiltins event.payload "id" event.subjectOrId := by
  unfold textOrElse
  by_cases htruthy : (event.payload.get "id").truthy = true
  · rw [if_pos htruthy, if_pos htruthy]
  · rw [if_neg htruthy, if_neg htruthy]
    obtain hgiven | ⟨hsome, hempty⟩ := h
    · exact absurd hgiven htruthy
    · unfold Event.subjectText Event.subjectOrId
      split
      · contradiction
      · contradiction
      · rename_i subject _ hsubject
        rw [hsubject]
        rfl

/-- A legacy update of a goal that is not there is left out. -/
theorem legacyGoal_ignored {goalId : String} (hnext : Next p event)
    (hmigrated : Migrated stored event "patch") (htype : "goal.".toList <+: event.type.toList)
    (hid : textOrElse b.toBuiltins event.payload "id" event.subjectOrId = .ok goalId)
    (hnone : p.currentGoalRevision goalId = none) :
    ∃ p', step b p event = .ok p' ∧ SameGoals p p' ∧ SameCommitments p p' := by
  refine step_of_applyEvent hnext (show p.applyEvent b event = .ok (p, false) from ?_)
  unfold applyEvent
  rw [if_pos hmigrated.legacy]
  unfold applyLegacy
  rw [bind_of_ok hmigrated.legacyContext_eq, bind_of_ok itemText_operation, if_pos htype]
  unfold applyLegacyGoal
  rw [bind_of_ok hid]
  dsimp only
  rw [if_pos ⟨rfl, hnone⟩]
  rfl

/-- `goal.updated`. -/
theorem goalUpdated_views (hview : ViewsAgree t p) (hp : GoalChains p) (hnext : Next p event)
    (hupdated : upcastGoalUpdated stored = .ok event) (htype : event.type = "goal.updated")
    (hkeeps : KeepsGoalView b p event)
    (h : goalUpdated b.toBuiltins t event = .ok (t', handled)) :
    ∃ p', step b p event = .ok p' ∧ ViewsAgree t' p' := by
  have hmigrated := goalUpdated_migrated hupdated
  have hgoal : "goal.".toList <+: event.type.toList := by
    rw [htype]
    decide
  obtain ⟨readId, hreadId, h⟩ := bind_eq_ok h
  obtain ⟨goalId, hid⟩ := textOrElse_defined hreadId event.subjectOrId
  obtain ⟨hsameId, hkept⟩ := hkeeps goalId hid
  have hsame : readId = goalId := by
    rw [textOrElse_sameId (hsameId htype), hid] at hreadId
    exact (Except.ok.inj hreadId).symm
  have hagree := hview.goals goalId
  rw [hsame] at h
  cases hfind : t.goals.find goalId with
  | none =>
    rw [hfind] at h hagree
    cases h
    have hnone : p.currentGoalRevision goalId = none := Option.map_eq_none_iff.mp hagree.symm
    obtain ⟨p', hstep, hgoals, hcommitments⟩ := legacyGoal_ignored hnext hmigrated hgoal hid hnone
    exact ⟨p', hstep, hview.congr hgoals hcommitments⟩
  | some goal =>
    rw [hfind] at h hagree
    obtain ⟨current, hcurrent, hcurrentView⟩ := Option.map_eq_some_iff.mp hagree.symm
    obtain ⟨-, hnone⟩ | ⟨reading, hreading, htaken, htruthy, -, hcriteria⟩ := hkept
    · rw [hnone] at hcurrent
      cases hcurrent
    obtain ⟨revision, q, p', hrecord, hstep, hgoals, hcommitments, hrevision⟩ :=
      legacyGoal_accepted hnext hmigrated hgoal hid
        (fun hpatch => by rw [hcurrent] at hpatch; cases hpatch.2) hreading htaken
    obtain ⟨description, hdescription, h⟩ := bind_eq_ok h
    obtain ⟨priority, hpriority, h⟩ := bind_eq_ok h
    obtain ⟨utility, -, h⟩ := bind_eq_ok h
    obtain ⟨status, hstatus, h⟩ := bind_eq_ok h
    obtain ⟨deadline, hdeadline, h⟩ := bind_eq_ok h
    obtain ⟨rdescription, rpriority, -, rowner, rstatus, rdeadline⟩ := readGoal_fields hreading
    rw [hcurrent] at rdescription rpriority rowner rstatus rdeadline
    -- the two sides fill in the same values
    have hcriteria' : current.successCriteria = goal.successCriteria :=
      congrArg GoalView.successCriteria hcurrentView
    have howner' : some current.owner = goal.owner := congrArg GoalView.owner hcurrentView
    rw [← show current.description = goal.description from
      congrArg GoalView.description hcurrentView] at hdescription
    rw [← show current.priority = goal.priority from congrArg GoalView.priority hcurrentView]
      at hpriority
    rw [← show current.status = goal.status from congrArg GoalView.status hcurrentView] at hstatus
    rw [← show current.deadline = goal.deadline from congrArg GoalView.deadline hcurrentView]
      at hdeadline
    have hput : ∃ owner, owner = some reading.owner ∧ t' = { t with
        goals := t.goals.put { goal with description, priority, utility, status, deadline, owner
                                         updatedAt := event.timestamp } } := by
      dsimp only at h
      split at h
      · rename_i value hvalue
        obtain ⟨owner, howner, h⟩ := bind_eq_ok h
        cases h
        refine ⟨owner, textIfAny_eq (htruthy ?_) rowner howner, rfl⟩
        rw [hvalue]
        exact Option.some_ne_none _
      · rename_i hvalue
        cases h
        refine ⟨_, ?_, rfl⟩
        unfold textOr at rowner
        rw [hvalue] at rowner
        have hgiven : current.owner = reading.owner := Except.ok.inj rowner
        have hne : current.owner ≠ "" := by
          intro hempty
          have hblank := current.kept.1
          rw [hempty] at hblank
          cases hblank
        rw [← howner', ← hgiven, Option.filter_some, if_pos (by simpa using hne)]
    obtain ⟨owner, rfl, rfl⟩ := hput
    refine ⟨p', hstep, (hview.putGoal hp hrecord ?_).congr hgoals hcommitments⟩
    have hgoalId : goal.id = goalId := KeyedTable.find_key hfind
    rw [hrevision, hcriteria htype current hcurrent]
    unfold Goal.view
    dsimp only
    rw [hgoalId, ← hcriteria', Except.ok.inj (hdescription.symm.trans rdescription),
      Except.ok.inj (hpriority.symm.trans rpriority), Except.ok.inj (hstatus.symm.trans rstatus),
      Except.ok.inj (hdeadline.symm.trans rdeadline)]

end StrategicProjection
end Noema
