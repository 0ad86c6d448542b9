import Noema.DenominatorStability

/-!
# Attention denominators are blind to labels

The projection seen without its labels, that is without dispositions, outcomes and feedback,
is the projection of the events that are no labels (`rebuild_unlabelled`): so histories with
the same other events recognize the same opportunities.
-/
namespace Noema

/-- The types of the events that label an opportunity. -/
def attentionLabelTypes : List String :=
  [attentionDispositionRecorded, attentionOutcomeLinked, attentionFeedbackRecorded]

/-- A history without its labels. -/
def withoutLabels (events : List Event) : List Event :=
  events.filter fun event => event.type ∉ attentionLabelTypes

namespace AttentionExposure

variable {b : ContentBuiltins} {p p' q : AttentionExposure b} {event : Event} {sequence : Nat}

/-- What a projection recognizes, and by which contracts. -/
def unlabelled (p : AttentionExposure b) : AttentionExposure b :=
  { empty b with schemas := p.schemas, policies := p.policies, recognized := p.recognized }

/-- The next event of a history without labels. -/
def recognizeNext (p : AttentionExposure b) (event : Event) :
    Except PyError (AttentionExposure b) := do
  let sequence ← required event.sequence
    "attention projection requires canonical sequenced events"
  let recorded ← p.applyRecord event sequence
  recorded.recognize event sequence

/-- A contract is recorded whatever the labels are. -/
theorem applyRecord_unlabelled (hsource : event.type ∉ attentionLabelTypes)
    (h : p.applyRecord event sequence = .ok p') :
    p.unlabelled.applyRecord event sequence = .ok p'.unlabelled := by
  simp only [attentionLabelTypes, List.mem_cons, List.not_mem_nil, or_false, not_or] at hsource
  obtain ⟨hdisposition, houtcome, hfeedback⟩ := hsource
  unfold applyRecord at h ⊢
  split_ifs at h ⊢ with hschema hpolicy
  · obtain ⟨schema, hread, h⟩ := bind_eq_ok h
    obtain ⟨schemas, hput, h⟩ := bind_eq_ok h
    obtain rfl := Except.ok.inj h
    exact (bind_of_ok hread _).trans (bind_of_ok hput _)
  · obtain ⟨policy, hread, h⟩ := bind_eq_ok h
    obtain ⟨schema, hknown, h⟩ := bind_eq_ok h
    obtain ⟨_, hdisjoint, h⟩ := bind_eq_ok h
    obtain ⟨_, hsame, h⟩ := bind_eq_ok h
    obtain rfl := Except.ok.inj h
    refine (bind_of_ok hread _).trans ((bind_of_ok hknown _).trans ?_)
    exact (bind_of_ok hdisjoint _).trans (bind_of_ok hsame _)
  · obtain rfl := Except.ok.inj h
    rfl

/-- What is recognized does not depend on the labels. -/
theorem recognize_unlabelled (h : p.recognize event sequence = .ok p') :
    p.unlabelled.recognize event sequence = .ok p'.unlabelled := by
  unfold recognize at h ⊢
  split_ifs at h ⊢
  · obtain rfl := Except.ok.inj h
    rfl
  · obtain ⟨opportunities, hmapped, h⟩ := bind_eq_ok h
    obtain rfl := Except.ok.inj h
    exact bind_of_ok hmapped _

/-- A label changes neither the contracts nor what is recognized. -/
theorem applyRecord_label (hlabel : event.type ∈ attentionLabelTypes)
    (h : p.applyRecord event sequence = .ok p') : p'.unlabelled = p.unlabelled := by
  have hcontract : event.type ≠ attentionFeatureSchemaRecorded ∧
      event.type ≠ attentionSourcePolicyRecorded := by
    simp only [attentionLabelTypes, List.mem_cons, List.not_mem_nil, or_false] at hlabel
    rcases hlabel with htype | htype | htype
    all_goals
      rw [htype]
      decide
  unfold applyRecord at h
  rw [if_neg hcontract.1, if_neg hcontract.2] at h
  split_ifs at h
  · obtain ⟨record, -, h⟩ := bind_eq_ok h
    obtain ⟨_, -, h⟩ := bind_eq_ok h
    obtain ⟨_, -, h⟩ := bind_eq_ok h
    obtain ⟨_, -, h⟩ := bind_eq_ok h
    obtain ⟨schema, -, h⟩ := bind_eq_ok h
    obtain ⟨row, -, h⟩ := bind_eq_ok h
    obtain ⟨complete, -, h⟩ := bind_eq_ok h
    obtain rfl := Except.ok.inj h
    rfl
  · obtain ⟨link, -, h⟩ := bind_eq_ok h
    obtain ⟨_, -, h⟩ := bind_eq_ok h
    obtain ⟨outcomes, -, h⟩ := bind_eq_ok h
    obtain rfl := Except.ok.inj h
    rfl
  · obtain ⟨record, -, h⟩ := bind_eq_ok h
    obtain ⟨_, -, h⟩ := bind_eq_ok h
    obtain ⟨feedback, -, h⟩ := bind_eq_ok h
    obtain rfl := Except.ok.inj h
    rfl
  · obtain rfl := Except.ok.inj h
    rfl

theorem recognize_label (hlabel : event.type ∈ attentionLabelTypes)
    (h : p.recognize event sequence = .ok p') : p' = p := by
  have hattention : event.type ∈ deliberativeAttentionEventTypes := by
    simp only [attentionLabelTypes, List.mem_cons, List.not_mem_nil, or_false] at hlabel
    rcases hlabel with htype | htype | htype
    all_goals
      rw [htype]
      decide
  unfold recognize at h
  rw [if_pos hattention] at h
  exact (Except.ok.inj h).symm

/-- A history has one event at each sequence. -/
def Canonical (events : List Event) : Prop := (events.map Event.sequence).Nodup

/-- The last event applied is one of the history. -/
def HeadKnown (events : List Event) (p : AttentionExposure b) : Prop :=
  p.lastEventId.isSome → ∃ event ∈ events, event.sequence = some p.lastSequence

/-- **The projection without its labels is that of the history without them.** -/
theorem rebuild_unlabelled {events : List Event} (h : rebuild events = .ok p)
    (hcanonical : Canonical events) :
    Folding.run recognizeNext (empty b) (withoutLabels events) = .ok p.unlabelled := by
  have hrun : HeadKnown events p ∧ (Canonical events →
      Folding.run recognizeNext (empty b) (withoutLabels events) = .ok p.unlabelled) := by
    refine Folding.run_induction (I := fun events p => HeadKnown events p ∧ (Canonical events →
      Folding.run recognizeNext (empty b) (withoutLabels events) = .ok p.unlabelled)) ?_ ?_ h
    · exact ⟨fun hsome => (nomatch hsome), fun _ => rfl⟩
    · rintro events event t u - ⟨ihHead, ih⟩ happly
      rcases apply_cases happly with ⟨hagain, hid, rfl⟩ | ⟨sequence, information, handled, recorded,
        recognized, hsequence, -, -, -, hrecorded, hrecognized, rfl⟩
      · -- delivered again, which a canonical history excludes
        obtain ⟨last, hlast, hhead⟩ := ihHead (by rw [hid]; rfl)
        refine ⟨fun _ => ⟨last, List.mem_append_left _ hlast, hhead⟩, fun hcanonical => ?_⟩
        rw [Canonical, List.map_append, List.map_singleton] at hcanonical
        exact absurd (List.mem_map.mpr ⟨last, hlast, hhead.trans hagain.symm⟩)
          (fun hmem => (List.nodup_append.mp hcanonical).2.2 _ hmem _
            (List.mem_singleton_self _) rfl)
      · refine ⟨fun _ => ⟨event, by simp, hsequence⟩, fun hcanonical => ?_⟩
        rw [Canonical, List.map_append] at hcanonical
        have hbefore := ih (List.nodup_append.mp hcanonical).1
        rw [withoutLabels, List.filter_append]
        by_cases hlabel : event.type ∈ attentionLabelTypes
        · rw [List.filter_cons_of_neg (by simpa using hlabel), List.filter_nil, List.append_nil]
          obtain rfl := recognize_label hlabel hrecognized
          exact hbefore.trans (congrArg Except.ok (applyRecord_label hlabel hrecorded).symm)
        · rw [List.filter_cons_of_pos (by simpa using hlabel), List.filter_nil]
          refine Folding.run_snoc.mpr ⟨_, hbefore, ?_⟩
          have hread : required event.sequence
              "attention projection requires canonical sequenced events" = .ok sequence := by
            rw [hsequence]
            rfl
          unfold recognizeNext
          rw [bind_of_ok hread]
          have hnext := applyRecord_unlabelled hlabel hrecorded
          have hafter := recognize_unlabelled hrecognized
          exact (bind_of_ok hnext _).trans hafter
  exact hrun.2 hcanonical

/-- **Histories that differ only in labels recognize the same.** -/
theorem recognized_blind {events events' : List Event} (h : rebuild events = .ok p)
    (h' : rebuild events' = .ok q) (hcanonical : Canonical events)
    (hcanonical' : Canonical events') (hsame : withoutLabels events' = withoutLabels events) :
    q.recognized = p.recognized := by
  have hp := rebuild_unlabelled h hcanonical
  have hq := rebuild_unlabelled h' hcanonical'
  rw [hsame, hp] at hq
  exact (congrArg AttentionExposure.recognized (Except.ok.inj hq)).symm

/-- **What the audit of a range promises**: it moves one way over every extension; it
recognizes the same in every history that differs only in labels; and it reports records of
recognized opportunities only, as all that are recorded are. -/
structure DenominatorSound (events : List Event) (p : AttentionExposure b)
    (sourcePolicyId featureSchemaId : String) (startSequence endSequence : Int)
    (report : AttentionDenominatorAudit) : Prop where
  extension : ∀ (more : List Event) (q : AttentionExposure b), rebuild (events ++ more) = .ok q →
    ∃ report', q.audit sourcePolicyId featureSchemaId startSequence (some endSequence) =
      .ok report' ∧ AuditMoves report report'
  blind : ∀ (events' : List Event) (q : AttentionExposure b), Canonical events →
    Canonical events' → withoutLabels events' = withoutLabels events → rebuild events' = .ok q →
    ∃ report', q.audit sourcePolicyId featureSchemaId startSequence (some endSequence) =
      .ok report' ∧ report'.recognizedOpportunities = report.recognizedOpportunities
  reported : ∀ record ∈ report.dispositionRecords,
    ∃ opportunity ∈ report.recognizedOpportunities, opportunity.key = record.key
  recorded : ∀ record ∈ p.dispositionsByKey.rows, (p.recognized.find record.key).isSome

/-- **Attention denominators are stable and blind to labels.** -/
theorem denominators_sound {events : List Event} (h : rebuild events = .ok p)
    {sourcePolicyId featureSchemaId : String} {startSequence endSequence : Int}
    (hstart : 0 < startSequence) (hrange : startSequence ≤ endSequence)
    (hend : endSequence ≤ p.lastSequence) :
    ∃ report, p.audit sourcePolicyId featureSchemaId startSequence (some endSequence) =
        .ok report ∧
      DenominatorSound events p sourcePolicyId featureSchemaId startSequence endSequence report := by
  have hwell := wellRecognized_of_rebuild h
  obtain ⟨report, hreport⟩ := @audit_total b p sourcePolicyId featureSchemaId startSequence
    endSequence hwell hstart hrange
  have hreports := audit_ok hreport
  refine ⟨report, hreport, ?_, ?_, ?_, ?_⟩
  · intro more q hq
    obtain ⟨middle, hmiddle, hmore⟩ := Folding.run_append.mp hq
    have hsame : middle = p := Except.ok.inj (hmiddle.symm.trans h)
    subst hsame
    obtain ⟨hwellLater, hextends⟩ := run_extends hwell hmore
    obtain ⟨report', hreport'⟩ := @audit_total b q sourcePolicyId featureSchemaId startSequence
      endSequence hwellLater hstart hrange
    exact ⟨report', hreport', audit_moves hwell hextends hend hreports (audit_ok hreport')⟩
  · intro events' q hcanonical hcanonical' hsame hq
    obtain ⟨report', hreport'⟩ := @audit_total b q sourcePolicyId featureSchemaId startSequence
      endSequence (wellRecognized_of_rebuild hq) hstart hrange
    refine ⟨report', hreport', ?_⟩
    rw [(audit_ok hreport').recognized, hreports.recognized, recognizedOpportunities,
      recognizedOpportunities, recognized_blind h hq hcanonical hcanonical' hsame]
  · intro record hrecord
    obtain ⟨opportunity, hmem, hkey, -⟩ := hreports.mem_records.mp hrecord
    exact ⟨opportunity, hmem, hkey⟩
  · intro record hrecord
    exact (hwell.recorded _ _ (KeyedTable.find_of_mem hrecord)).1

/-- The contracts, and a reading that they recognize. -/
def readingHistory : List Event :=
  (contractsLog.append (sensorReading (.int 3)) (.takes 0)).1.events

theorem reading_sound : ∃ p : AttentionExposure sensorContent,
    rebuild readingHistory = .ok p ∧ p.recognizedOpportunities.length = 1 ∧
      ∃ report, p.audit sensorPolicyId urgencySchemaId 1 (some 3) = .ok report ∧
        DenominatorSound readingHistory p sensorPolicyId urgencySchemaId 1 3 report := by
  have hrebuilt : ((rebuild (b := sensorContent) readingHistory).toOption.map
      fun p => (p.lastSequence, p.recognizedOpportunities.length)) = some (3, 1) := by
    decide +kernel
  obtain ⟨p, hp, hread⟩ := Option.map_eq_some_iff.mp hrebuilt
  obtain ⟨hhead, hone⟩ := Prod.mk.inj hread
  exact ⟨p, toOption_eq_some.mp hp, hone, denominators_sound (toOption_eq_some.mp hp) (by decide)
    (by decide) (by rw [hhead]; decide)⟩

end AttentionExposure

end Noema
