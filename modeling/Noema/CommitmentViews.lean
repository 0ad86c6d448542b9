import Noema.GoalViews

/-!
# The commitments of both views

An event of a commitment that the situation takes, and that keeps the views, is accepted
by the strategic projection and leaves the same commitments in both.
-/
namespace Noema
namespace StrategicProjection

variable {b : IntentBuiltins} {t t' : Tables} {p : StrategicProjection} {stored event : Event}
  {handled : Bool}

/-! ## Legacy events of commitments -/

section Commitments

variable {operation commitmentId : String}

/-- A legacy event of a commitment, as the projection applies it. -/
theorem applyEvent_commitment (hmigrated : Migrated stored event operation)
    (htype : "commitment.".toList <+: event.type.toList) :
    p.applyEvent b event = p.applyLegacyCommitment b event operation := by
  unfold applyEvent
  rw [if_pos hmigrated.legacy]
  unfold applyLegacy
  rw [bind_of_ok hmigrated.legacyContext_eq, bind_of_ok itemText_operation,
    if_neg fun hgoal => goal_ne_commitment hgoal htype, if_pos htype]

theorem legacyCommitment_created {value : Commitment} (hnext : Next p event)
    (hmigrated : Migrated stored event "create")
    (htype : "commitment.".toList <+: event.type.toList)
    (hid : textOrElse b.toBuiltins event.payload "id" event.subjectOrId = .ok commitmentId)
    (hfind : p.commitments.find commitmentId = none)
    (hread : commitmentFromDict b event.payload commitmentId event.timestamp event.timestamp =
      .ok value) :
    ∃ p', step b p event = .ok p' ∧ SameGoals (p.putCommitment value) p' ∧
      SameCommitments (p.putCommitment value) p' := by
  refine step_of_applyEvent hnext
    (show p.applyEvent b event = .ok (p.putCommitment value, true) from ?_)
  rw [applyEvent_commitment hmigrated htype]
  unfold applyLegacyCommitment
  rw [bind_of_ok hid, hfind]
  dsimp only
  rw [if_neg (not_not.mpr rfl), bind_of_ok hread]
  rfl

theorem legacyCommitment_ignored (hnext : Next p event)
    (hmigrated : Migrated stored event operation)
    (htype : "commitment.".toList <+: event.type.toList)
    (hid : textOrElse b.toBuiltins event.payload "id" event.subjectOrId = .ok commitmentId)
    (hfind : p.commitments.find commitmentId = none) (hoperation : operation ≠ "create") :
    ∃ p', step b p event = .ok p' ∧ SameGoals p p' ∧ SameCommitments p p' := by
  refine step_of_applyEvent hnext (show p.applyEvent b event = .ok (p, false) from ?_)
  rw [applyEvent_commitment hmigrated htype]
  unfold applyLegacyCommitment
  rw [bind_of_ok hid, hfind]
  dsimp only
  rw [if_pos hoperation]
  rfl

/-- A transition that is recorded for a legacy event has a commitment and an author. -/
theorem recordLegacyTransition_of {current updated : Commitment}
    (hstatus : updated.status ≠ current.status →
      blank commitmentId = false ∧ blank event.source = false) :
    ∃ q, p.recordLegacyTransition b event commitmentId current updated = .ok q ∧
      SameGoals p q ∧ SameCommitments p q := by
  unfold recordLegacyTransition
  by_cases hsame : updated.status = current.status
  · rw [if_pos hsame]
    exact ⟨p, rfl, .refl p, .refl p⟩
  · rw [if_neg hsame]
    obtain ⟨hid, hsource⟩ := hstatus hsame
    let content : TransitionContent :=
      { commitmentId, fromState := current.status, toState := updated.status
        closureReason := updated.closureReason, basedOnEventCursor := p.lastSequence
        author := event.source, reason := s!"deterministic migration of {event.type}"
        transitionedAt := event.timestamp }
    have hcheck : content.check (b.ids.transitionId content) = .ok () := by
      have htransition : blank (b.ids.transitionId content) = false := blank_append (by decide)
      have hreason : blank content.reason = false := blank_append (by decide)
      have hcursor : ¬ content.basedOnEventCursor < 0 := not_lt.mpr (Int.natCast_nonneg _)
      refine (bind_of_ok (requireText_of htransition) _).trans ?_
      refine (bind_of_ok (requireText_of hid) _).trans ?_
      refine (bind_of_ok (requireText_of hsource) _).trans ?_
      refine (bind_of_ok (requireText_of hreason) _).trans ?_
      refine (bind_of_ok (refuse_of hcursor) _).trans ?_
      rfl
    have hcreate : CommitmentTransition.create b content = .ok ⟨content, _, hcheck⟩ :=
      checkedBy_of hcheck
    exact ⟨_, bind_of_ok hcreate _, ⟨rfl, rfl, rfl⟩, ⟨rfl, rfl⟩⟩

theorem legacyCommitment_patched {current updated : Commitment} (hnext : Next p event)
    (hmigrated : Migrated stored event operation)
    (htype : "commitment.".toList <+: event.type.toList)
    (hid : textOrElse b.toBuiltins event.payload "id" event.subjectOrId = .ok commitmentId)
    (hfind : p.commitments.find commitmentId = some current)
    (hread : patchedCommitment b event current = .ok updated)
    (hstatus : updated.status ≠ current.status →
      blank commitmentId = false ∧ blank event.source = false) :
    ∃ p', step b p event = .ok p' ∧ SameGoals (p.putCommitment updated) p' ∧
      SameCommitments (p.putCommitment updated) p' := by
  obtain ⟨q, hrecord, hgoals, hcommitments⟩ : ∃ q,
      (p.putCommitment updated).recordLegacyTransition b event commitmentId current updated = .ok q ∧
      SameGoals (p.putCommitment updated) q ∧ SameCommitments (p.putCommitment updated) q :=
    recordLegacyTransition_of hstatus
  obtain ⟨p', hstep, hgoals', hcommitments'⟩ := step_of_applyEvent hnext
    (show p.applyEvent b event = .ok (q, true) by
      rw [applyEvent_commitment hmigrated htype]
      unfold applyLegacyCommitment
      rw [bind_of_ok hid, hfind]
      dsimp only
      rw [bind_of_ok hread, bind_of_ok hrecord]
      rfl)
  exact ⟨p', hstep, hgoals.trans hgoals',
    ⟨hcommitments'.commitments.trans hcommitments.commitments,
      hcommitments'.versions.trans hcommitments.versions⟩⟩

end Commitments

/-! ## What both read -/

/-- A closure reason that the situation reads, the record reads too. -/
theorem closureReasonOf_of {payload : Payload} {closureReason : Option CommitmentClosureReason}
    (h : commitmentClosureReason b.toBuiltins (payload.get "closure_reason") = .ok closureReason) :
    closureReasonOf b payload "closure_reason" = .ok closureReason := by
  unfold commitmentClosureReason at h
  unfold closureReasonOf optionalTextOf optionalText
  split at h
  · cases h
    exact bind_of_ok rfl _
  · obtain ⟨text, htext, h⟩ := bind_eq_ok h
    obtain ⟨reason, hreason, h⟩ := bind_eq_ok h
    cases h
    have hne : text ≠ "" := by
      rintro rfl
      cases hreason
    refine (bind_of_ok (a := some text) ?_ _).trans (bind_of_ok hreason _)
    rw [bind_of_ok htext, if_neg hne]
    rfl

/-- What the situation reads as a new commitment, the record reads as the same. -/
theorem fromDict_of_new {id owner : String} {status : CommitmentStatus}
    {createdAt updatedAt : Datetime} {commitment : Commitment}
    (h : newCommitment b.toBuiltins event id owner status createdAt updatedAt = .ok commitment)
    (howner : itemText b.toBuiltins event.payload "owner" = .ok owner)
    (hstatus : commitmentStatusOr b.toBuiltins event.payload .accepted = .ok status)
    (createdAt' updatedAt' : Datetime) :
    ∃ value, commitmentFromDict b event.payload id createdAt' updatedAt' = .ok value ∧
      commitment.view = value.view := by
  obtain ⟨description, hdescription, h⟩ := bind_eq_ok h
  obtain ⟨priority, hpriority, h⟩ := bind_eq_ok h
  obtain ⟨deadline, hdeadline, h⟩ := bind_eq_ok h
  obtain ⟨attentionCost, hattention, h⟩ := bind_eq_ok h
  obtain ⟨socialCost, hsocial, h⟩ := bind_eq_ok h
  obtain ⟨closureReason, hclosure, h⟩ := bind_eq_ok h
  obtain ⟨governingGoalRefs, hgoverning, h⟩ := bind_eq_ok h
  obtain ⟨roadmap, hroadmap, h⟩ := bind_eq_ok h
  obtain ⟨outcome, houtcome, h⟩ := bind_eq_ok h
  obtain ⟨role, hrole, h⟩ := bind_eq_ok h
  obtain ⟨assistance, hassistance, h⟩ := bind_eq_ok h
  obtain ⟨activation, hactivation, h⟩ := bind_eq_ok h
  obtain ⟨leadTime, hleadTime, h⟩ := bind_eq_ok h
  cases h
  refine ⟨{ id, description, owner, priority, status, deadline
            terminal := boolOr event.payload "terminal" true, attentionCost
            socialCostOfFailure := socialCost, createdAt := createdAt', updatedAt := updatedAt'
            closureReason, governingGoalRefs, roadmapRevisionId := roadmap
            outcomeNodeId := outcome, roleAssignmentId := role, assistanceEnvelopeId := assistance
            activationDueAt := activation, leadTimeEvidenceRefs := leadTime }, ?_, rfl⟩
  refine (bind_of_ok (closureReasonOf_of hclosure) _).trans ?_
  refine (bind_of_ok hdescription _).trans ?_
  refine (bind_of_ok howner _).trans ?_
  refine (bind_of_ok hpriority _).trans ?_
  refine (bind_of_ok hstatus _).trans ?_
  refine (bind_of_ok hdeadline _).trans ?_
  refine (bind_of_ok hattention _).trans ?_
  refine (bind_of_ok hsocial _).trans ?_
  refine (bind_of_ok hgoverning _).trans ?_
  refine (bind_of_ok hroadmap _).trans ?_
  refine (bind_of_ok houtcome _).trans ?_
  refine (bind_of_ok hrole _).trans ?_
  refine (bind_of_ok hassistance _).trans ?_
  refine (bind_of_ok hactivation _).trans ?_
  exact bind_of_ok hleadTime _

theorem floatOr_defined {payload : Payload} {key : String} {default value : PyFloat}
    (h : floatOr b.toBuiltins payload key default = .ok value) (default' : PyFloat) :
    ∃ value', floatOr b.toBuiltins payload key default' = .ok value' := by
  unfold floatOr at h ⊢
  split at h
  · exact ⟨value, h⟩
  · exact ⟨default', rfl⟩

/-- A legacy event of a commitment that is there, of which both sides read the same. -/
theorem patched_views {operation commitmentId : String} {current commitment : Commitment}
    (hview : ViewsAgree t p) (hnext : Next p event) (hmigrated : Migrated stored event operation)
    (htype : "commitment.".toList <+: event.type.toList)
    (hid : textOrElse b.toBuiltins event.payload "id" event.subjectOrId = .ok commitmentId)
    (hfind : p.commitments.find commitmentId = some current)
    (hkept : KeepsCommitmentView b p event commitmentId)
    (hsameId : commitment.id = commitmentId)
    (hstatus : commitmentStatusOr b.toBuiltins event.payload current.status =
      .ok commitment.status)
    (hclosure : closureReasonOr b event.payload current.closureReason = .ok commitment.closureReason)
    (hdescription : textOr b.toBuiltins event.payload "description" current.description =
      .ok commitment.description)
    (howner : textOr b.toBuiltins event.payload "owner" current.owner = .ok commitment.owner)
    (hpriority : floatOr b.toBuiltins event.payload "priority" current.priority =
      .ok commitment.priority)
    (hdeadline : datetimeOr b.toBuiltins event.payload "deadline" current.deadline =
      .ok commitment.deadline)
    (hattention : ∃ cost, floatOr b.toBuiltins event.payload "attention_cost"
      current.attentionCost = .ok cost)
    (hsocial : ∃ cost, floatOr b.toBuiltins event.payload "social_cost_of_failure"
      current.socialCostOfFailure = .ok cost) :
    ∃ p', step b p event = .ok p' ∧
      ViewsAgree { t with commitments := t.commitments.put commitment } p' := by
  obtain ⟨attentionCost, hattention⟩ := hattention
  obtain ⟨socialCostOfFailure, hsocial⟩ := hsocial
  let updated : Commitment := { current with
    description := commitment.description, owner := commitment.owner
    priority := commitment.priority, status := commitment.status, deadline := commitment.deadline
    terminal := boolOr event.payload "terminal" current.terminal, attentionCost
    socialCostOfFailure, closureReason := commitment.closureReason, updatedAt := event.timestamp }
  have hread : patchedCommitment b event current = .ok updated := by
    refine (bind_of_ok hstatus _).trans ?_
    refine (bind_of_ok hclosure _).trans ?_
    refine (bind_of_ok hdescription _).trans ?_
    refine (bind_of_ok howner _).trans ?_
    refine (bind_of_ok hpriority _).trans ?_
    refine (bind_of_ok hdeadline _).trans ?_
    refine (bind_of_ok hattention _).trans ?_
    exact bind_of_ok hsocial _
  obtain ⟨p', hstep, hgoals, hcommitments⟩ := legacyCommitment_patched hnext hmigrated htype hid
    hfind hread (hkept.status current hfind commitment.status hstatus)
  refine ⟨p', hstep, (hview.putCommitment ?_).congr hgoals hcommitments⟩
  have hupdated : updated.id = commitment.id := (KeyedTable.find_key hfind).trans hsameId.symm
  unfold Commitment.view
  rw [hupdated]

theorem datetimeOr_of {payload : Payload} {key : String} {deadline default : Option Datetime}
    (h : datetime b.toBuiltins payload key = .ok deadline)
    (hnone : Dict.get? payload key = none → default = none) :
    datetimeOr b.toBuiltins payload key default = .ok deadline := by
  unfold datetime Payload.get at h
  unfold datetimeOr
  cases hvalue : Dict.get? payload key with
  | none =>
    rw [hvalue] at h
    cases h
    rw [hnone hvalue]
  | some value =>
    rw [hvalue] at h
    exact h

theorem closureReasonOr_of {payload : Payload}
    {closureReason default : Option CommitmentClosureReason}
    (h : commitmentClosureReason b.toBuiltins (payload.get "closure_reason") = .ok closureReason)
    (hnone : Dict.get? payload "closure_reason" = none → default = none) :
    closureReasonOr b payload default = .ok closureReason := by
  unfold Payload.get at h
  unfold closureReasonOr
  cases hvalue : Dict.get? payload "closure_reason" with
  | none =>
    rw [hvalue] at h
    cases h
    rw [hnone hvalue]
  | some value =>
    rw [hvalue] at h
    exact h

/-! ## The handlers -/

/-- `commitment.created`. -/
theorem commitmentCreated_views (hview : ViewsAgree t p) (hnext : Next p event)
    (hcreated : upcastCommitmentCreated b.toBuiltins stored = .ok event)
    (htype : event.type = "commitment.created")
    (hkeeps : ∀ commitmentId,
      textOrElse b.toBuiltins event.payload "id" event.subjectOrId = .ok commitmentId →
      KeepsCommitmentView b p event commitmentId)
    (h : commitmentCreated b.toBuiltins t event = .ok (t', handled)) :
    ∃ p', step b p event = .ok p' ∧ ViewsAgree t' p' := by
  obtain ⟨hmigrated, hhasStatus, -, hhasPriority⟩ := commitmentCreated_migrated hcreated
  have hcommitmentType : "commitment.".toList <+: event.type.toList := by
    rw [htype]
    decide
  obtain ⟨commitmentId, hid, h⟩ := bind_eq_ok h
  obtain ⟨owner, howner, h⟩ := bind_eq_ok h
  obtain ⟨status, hstatus, h⟩ := bind_eq_ok h
  obtain ⟨commitment, hnew, h⟩ := bind_eq_ok h
  cases h
  have hkept := hkeeps commitmentId hid
  have hgiven : itemText b.toBuiltins event.payload "owner" = .ok owner :=
    (hkept.owner htype).trans howner
  cases hfind : p.commitments.find commitmentId with
  | none =>
    rw [commitmentStatusOr_of_has hhasStatus _ .accepted] at hstatus
    obtain ⟨value, hread, hsame⟩ :=
      fromDict_of_new hnew hgiven hstatus event.timestamp event.timestamp
    obtain ⟨p', hstep, hgoals, hcommitments⟩ :=
      legacyCommitment_created hnext hmigrated hcommitmentType hid hfind hread
    exact ⟨p', hstep, (hview.putCommitment hsame).congr hgoals hcommitments⟩
  | some current =>
    obtain ⟨hdeadlineKept, hclosureKept⟩ := hkept.anew htype current hfind
    obtain ⟨description, hdescription, hnew⟩ := bind_eq_ok hnew
    obtain ⟨priority, hpriority, hnew⟩ := bind_eq_ok hnew
    obtain ⟨deadline, hdeadline, hnew⟩ := bind_eq_ok hnew
    obtain ⟨_, hattention, hnew⟩ := bind_eq_ok hnew
    obtain ⟨_, hsocial, hnew⟩ := bind_eq_ok hnew
    obtain ⟨closureReason, hclosure, hnew⟩ := bind_eq_ok hnew
    iterate 7 obtain ⟨_, -, hnew⟩ := bind_eq_ok hnew
    cases hnew
    rw [commitmentStatusOr_of_has hhasStatus _ current.status] at hstatus
    rw [floatOr_of_has hhasPriority _ current.priority] at hpriority
    exact patched_views hview hnext hmigrated hcommitmentType hid hfind hkept rfl hstatus
      (closureReasonOr_of hclosure hclosureKept) (textOr_of_item hdescription)
      (textOr_of_item hgiven) hpriority (datetimeOr_of hdeadline hdeadlineKept)
      (floatOr_defined hattention _) (floatOr_defined hsocial _)

/-- What the situation makes of `commitment.updated`. -/
theorem commitmentUpdated_fields
    (h : commitmentUpdated b.toBuiltins t event = .ok (t', handled)) :
    ∃ readId, textOrElse b.toBuiltins event.payload "id" event.subjectText = .ok readId ∧
      ((t.commitments.find readId = none ∧ t' = t) ∨ ∃ current commitment,
        t.commitments.find readId = some current ∧
        t' = { t with commitments := t.commitments.put commitment } ∧
        commitment.id = current.id ∧
        commitmentStatusOr b.toBuiltins event.payload current.status = .ok commitment.status ∧
        closureReasonOr b event.payload current.closureReason = .ok commitment.closureReason ∧
        textOr b.toBuiltins event.payload "description" current.description =
          .ok commitment.description ∧
        textOr b.toBuiltins event.payload "owner" current.owner = .ok commitment.owner ∧
        floatOr b.toBuiltins event.payload "priority" current.priority = .ok commitment.priority ∧
        datetimeOr b.toBuiltins event.payload "deadline" current.deadline =
          .ok commitment.deadline ∧
        (∃ cost, floatOr b.toBuiltins event.payload "attention_cost" current.attentionCost =
          .ok cost) ∧
        ∃ cost, floatOr b.toBuiltins event.payload "social_cost_of_failure"
          current.socialCostOfFailure = .ok cost) := by
  obtain ⟨readId, hreadId, h⟩ := bind_eq_ok h
  refine ⟨readId, hreadId, ?_⟩
  dsimp only at h
  cases hfind : t.commitments.find readId with
  | none =>
    rw [hfind] at h
    cases h
    exact Or.inl ⟨rfl, rfl⟩
  | some current =>
    rw [hfind] at h
    obtain ⟨description, hdescription, h⟩ := bind_eq_ok h
    obtain ⟨owner, howner, h⟩ := bind_eq_ok h
    obtain ⟨priority, hpriority, h⟩ := bind_eq_ok h
    obtain ⟨status, hstatus, h⟩ := bind_eq_ok h
    obtain ⟨deadline, hdeadline, h⟩ := bind_eq_ok h
    obtain ⟨attentionCost, hattention, h⟩ := bind_eq_ok h
    obtain ⟨socialCostOfFailure, hsocial, h⟩ := bind_eq_ok h
    split at h
    all_goals
      rename_i hvalue
      obtain ⟨closureReason, hclosure, h⟩ := bind_eq_ok h
      iterate 7 obtain ⟨_, -, h⟩ := bind_eq_ok h
      cases h
      refine Or.inr ⟨current, _, rfl, rfl, rfl, hstatus, ?_, hdescription, howner, hpriority,
        hdeadline, ⟨attentionCost, hattention⟩, ⟨socialCostOfFailure, hsocial⟩⟩
      unfold closureReasonOr
      rw [hvalue]
      exact hclosure

/-- The commitment that an event is about is in both views or in neither. -/
theorem about_cases {readId : String} (hview : ViewsAgree t p)
    (hreadId : textOrElse b.toBuiltins event.payload "id" event.subjectText = .ok readId)
    (htype : event.type ≠ "commitment.created")
    (hkeeps : ∀ commitmentId,
      textOrElse b.toBuiltins event.payload "id" event.subjectOrId = .ok commitmentId →
      KeepsCommitmentView b p event commitmentId) :
    textOrElse b.toBuiltins event.payload "id" event.subjectOrId = .ok readId ∧
      KeepsCommitmentView b p event readId ∧
      ((t.commitments.find readId = none ∧ p.commitments.find readId = none) ∨
        ∃ current current', t.commitments.find readId = some current ∧
          p.commitments.find readId = some current' ∧ current'.view = current.view) := by
  obtain ⟨commitmentId, hid⟩ := textOrElse_defined hreadId event.subjectOrId
  have hkept := hkeeps commitmentId hid
  obtain rfl : readId = commitmentId := by
    rw [textOrElse_sameId (hkept.id htype), hid] at hreadId
    exact (Except.ok.inj hreadId).symm
  refine ⟨hid, hkept, ?_⟩
  have hagree := hview.commitments readId
  cases hfind : t.commitments.find readId with
  | none =>
    rw [hfind] at hagree
    exact Or.inl ⟨rfl, Option.map_eq_none_iff.mp hagree.symm⟩
  | some current =>
    rw [hfind] at hagree
    obtain ⟨current', hcurrent', hsame⟩ := Option.map_eq_some_iff.mp hagree.symm
    exact Or.inr ⟨current, current', rfl, hcurrent', hsame⟩

/-- `commitment.updated`. -/
theorem commitmentUpdated_views (hview : ViewsAgree t p) (hnext : Next p event)
    (hupdated : upcastCommitmentUpdated b.toBuiltins stored = .ok event)
    (htype : event.type = "commitment.updated")
    (hkeeps : ∀ commitmentId,
      textOrElse b.toBuiltins event.payload "id" event.subjectOrId = .ok commitmentId →
      KeepsCommitmentView b p event commitmentId)
    (h : commitmentUpdated b.toBuiltins t event = .ok (t', handled)) :
    ∃ p', step b p event = .ok p' ∧ ViewsAgree t' p' := by
  have hmigrated := commitmentUpdated_migrated hupdated
  have hcommitmentType : "commitment.".toList <+: event.type.toList := by
    rw [htype]
    decide
  obtain ⟨readId, hreadId, hfields⟩ := commitmentUpdated_fields h
  obtain ⟨hid, hkept, habout⟩ := about_cases hview hreadId (by rw [htype]; decide) hkeeps
  obtain ⟨hnone, hnone'⟩ | ⟨current, current', hfind, hfind', hsame⟩ := habout
  · obtain ⟨-, rfl⟩ | ⟨_, _, hsome, -⟩ := hfields
    · obtain ⟨p', hstep, hgoals, hcommitments⟩ :=
        legacyCommitment_ignored hnext hmigrated hcommitmentType hid hnone' (by decide)
      exact ⟨p', hstep, hview.congr hgoals hcommitments⟩
    · rw [hnone] at hsome
      cases hsome
  · obtain ⟨hnone, -⟩ | ⟨found, commitment, hfound, rfl, hsameId, hstatus, hclosure, hdescription,
      howner, hpriority, hdeadline, ⟨_, hattention⟩, ⟨_, hsocial⟩⟩ := hfields
    · rw [hnone] at hfind
      cases hfind
    rw [hfind] at hfound
    cases hfound
    -- both sides fill in the same values
    rw [← show current'.status = current.status from congrArg CommitmentView.status hsame] at hstatus
    rw [← show current'.closureReason = current.closureReason from
      congrArg CommitmentView.closureReason hsame] at hclosure
    rw [← show current'.description = current.description from
      congrArg CommitmentView.description hsame] at hdescription
    rw [← show current'.owner = current.owner from congrArg CommitmentView.owner hsame] at howner
    rw [← show current'.priority = current.priority from
      congrArg CommitmentView.priority hsame] at hpriority
    rw [← show current'.deadline = current.deadline from
      congrArg CommitmentView.deadline hsame] at hdeadline
    exact patched_views hview hnext hmigrated hcommitmentType hid hfind' hkept
      (hsameId.trans (KeyedTable.find_key hfind)) hstatus hclosure hdescription howner hpriority
      hdeadline (floatOr_defined hattention _) (floatOr_defined hsocial _)

/-- `commitment.completed`, `commitment.failed` and `commitment.cancelled`. -/
theorem commitmentEnded_views {suffix closure : String} {closureReason : CommitmentClosureReason}
    (hview : ViewsAgree t p) (hnext : Next p event)
    (hended : upcastCommitmentTerminal stored suffix = .ok event)
    (hclosure : commitmentClosure suffix = some closure)
    (hreason : CommitmentClosureReason.ofText closure = .ok closureReason)
    (hcommitmentType : "commitment.".toList <+: event.type.toList)
    (hcreated : event.type ≠ "commitment.created") (hupdated : event.type ≠ "commitment.updated")
    (hkeeps : ∀ commitmentId,
      textOrElse b.toBuiltins event.payload "id" event.subjectOrId = .ok commitmentId →
      KeepsCommitmentView b p event commitmentId)
    (h : commitmentEnded b.toBuiltins t event closureReason = .ok (t', handled)) :
    ∃ p', step b p event = .ok p' ∧ ViewsAgree t' p' := by
  obtain ⟨hmigrated, hstatusRead, hclosureRead⟩ := commitmentTerminal_migrated hclosure hended
  obtain ⟨readId, hreadId, h⟩ := bind_eq_ok h
  obtain ⟨hid, hkept, habout⟩ := about_cases hview hreadId hcreated hkeeps
  obtain ⟨hnone, hnone'⟩ | ⟨current, current', hfind, hfind', hsame⟩ := habout
  · rw [hnone] at h
    cases h
    obtain ⟨p', hstep, hgoals, hcommitments⟩ :=
      legacyCommitment_ignored hnext hmigrated hcommitmentType hid hnone' (by decide)
    exact ⟨p', hstep, hview.congr hgoals hcommitments⟩
  · rw [hfind] at h
    cases h
    obtain ⟨hdescription, howner, hpriority, hdeadline, hattention, hsocial⟩ :=
      hkept.ended hcreated hupdated current' hfind'
    have hstatus : commitmentStatusOr b.toBuiltins event.payload current'.status = .ok .closed := by
      unfold commitmentStatusOr
      rw [hstatusRead]
      rfl
    have hclosure' : closureReasonOr b event.payload current'.closureReason =
        .ok (some closureReason) := by
      unfold closureReasonOr
      rw [hclosureRead]
      exact bind_of_ok hreason _
    have hsameId : current.id = readId := KeyedTable.find_key hfind
    refine patched_views hview hnext hmigrated hcommitmentType hid hfind' hkept hsameId hstatus
      hclosure' ?_ ?_ ?_ ?_ hattention hsocial
    · exact hdescription.trans (congrArg (Except.ok ∘ CommitmentView.description) hsame)
    · exact howner.trans (congrArg (Except.ok ∘ CommitmentView.owner) hsame)
    · exact hpriority.trans (congrArg (Except.ok ∘ CommitmentView.priority) hsame)
    · exact hdeadline.trans (congrArg (Except.ok ∘ CommitmentView.deadline) hsame)

end StrategicProjection
end Noema
