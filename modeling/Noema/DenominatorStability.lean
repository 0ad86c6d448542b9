import Noema.ExposureAudit

/-!
# Attention denominators are stable and blind to labels

What an audit recognizes is settled when its last source event was applied: later events only
add opportunities of their own sequences, dispositions of opportunities that are recognized,
and outcomes that stay (`Extends`).  And it does not depend on labels: the projection seen
without its dispositions, outcomes and feedback is a projection of the other events
(`rebuild_unlabelled`).
-/
namespace Noema

namespace AttentionDispositionRecord

variable {existing record : AttentionDispositionRecord}

/-- Equal dispositions have one id. -/
theorem dispositionId_of_beq (h : (existing == record) = true) :
    record.dispositionId = existing.dispositionId := by
  simp only [BEq.beq, instBEqAttentionDispositionRecord.beq, Bool.and_eq_true] at h
  exact (of_decide_eq_true h.1).symm

end AttentionDispositionRecord

/-- Equal links have one outcome. -/
theorem AttentionDispositionOutcomeLink.outcome_of_beq
    {existing link : AttentionDispositionOutcomeLink} (h : (existing == link) = true) :
    link.outcome = existing.outcome := by
  simp only [BEq.beq, instBEqAttentionDispositionOutcomeLink.beq, Bool.and_eq_true] at h
  exact (of_decide_eq_true h.2.2.2.1).symm

namespace AttentionExposure

variable {b : ContentBuiltins} {p p' q : AttentionExposure b} {event : Event} {sequence : Nat}

/-! ### What a step does to the tables of an audit -/

/-- At most one disposition is recorded, of a recognized opportunity, and at most one outcome;
what was there before is replaced by an equal record only. -/
structure Labels (p p' : AttentionExposure b) : Prop where
  recognized : p'.recognized = p.recognized
  records : (p'.dispositionsByKey = p.dispositionsByKey ∧ p'.dispositions = p.dispositions) ∨
    ∃ stored : StoredDisposition, p'.dispositionsByKey = p.dispositionsByKey.put stored.record ∧
      p'.dispositions = p.dispositions.put stored ∧
      (p.recognized.find stored.record.key).isSome ∧
      ∀ existing, p.dispositionsByKey.find stored.record.key = some existing →
        (existing == stored.record) = true
  outcomes : p'.outcomes = p.outcomes ∨
    ∃ link : AttentionDispositionOutcomeLink, p'.outcomes = p.outcomes.put link ∧
      ∀ existing, p.outcomes.find link.dispositionId = some existing → (existing == link) = true

theorem any_of_refuse {α : Type} {entry : Option α} {test : α → Bool} {message : String}
    {answer : Unit} (h : refuse (entry.any (fun value => test value = false) = true) message =
      .ok answer) : ∀ value, entry = some value → test value = true := by
  rintro value rfl
  have hfalse := refuse_ok h
  rw [Option.any_some, decide_eq_true_iff, Bool.not_eq_false] at hfalse
  exact hfalse

theorem applyDisposition_labels {precedingHead : Nat}
    (h : p.applyDisposition event precedingHead sequence = .ok p') : Labels p p' := by
  obtain ⟨record, -, h⟩ := bind_eq_ok h
  obtain ⟨_, hvalid, h⟩ := bind_eq_ok h
  obtain ⟨_, hsame, h⟩ := bind_eq_ok h
  obtain ⟨_, -, h⟩ := bind_eq_ok h
  obtain ⟨schema, -, h⟩ := bind_eq_ok h
  obtain ⟨row, -, h⟩ := bind_eq_ok h
  obtain ⟨complete, -, h⟩ := bind_eq_ok h
  obtain rfl := Except.ok.inj h
  obtain ⟨_, -, hvalid⟩ := bind_eq_ok hvalid
  obtain ⟨opportunity, hrecognized, -⟩ := bind_eq_ok hvalid
  refine ⟨rfl, .inr ⟨⟨record, sequence, complete⟩, rfl, rfl, ?_, any_of_refuse hsame⟩, .inl rfl⟩
  exact Option.isSome_iff_exists.mpr ⟨opportunity, required_ok hrecognized⟩

theorem applyOutcome_labels {precedingHead : Nat}
    (h : p.applyOutcome event precedingHead = .ok p') : Labels p p' := by
  obtain ⟨link, -, h⟩ := bind_eq_ok h
  obtain ⟨_, -, h⟩ := bind_eq_ok h
  obtain ⟨outcomes, hput, h⟩ := bind_eq_ok h
  obtain rfl := Except.ok.inj h
  obtain ⟨_, hsame, hput⟩ := bind_eq_ok hput
  obtain rfl := Except.ok.inj hput
  exact ⟨rfl, .inl ⟨rfl, rfl⟩, .inr ⟨link, rfl, any_of_refuse hsame⟩⟩

theorem applyRecord_labels (h : p.applyRecord event sequence = .ok p') : Labels p p' := by
  unfold applyRecord at h
  split_ifs at h
  · -- a schema
    obtain ⟨schema, -, h⟩ := bind_eq_ok h
    obtain ⟨schemas, -, h⟩ := bind_eq_ok h
    obtain rfl := Except.ok.inj h
    exact ⟨rfl, .inl ⟨rfl, rfl⟩, .inl rfl⟩
  · -- a source policy
    obtain ⟨policy, -, h⟩ := bind_eq_ok h
    obtain ⟨schema, -, h⟩ := bind_eq_ok h
    obtain ⟨_, -, h⟩ := bind_eq_ok h
    obtain ⟨_, -, h⟩ := bind_eq_ok h
    obtain rfl := Except.ok.inj h
    exact ⟨rfl, .inl ⟨rfl, rfl⟩, .inl rfl⟩
  · exact applyDisposition_labels h
  · exact applyOutcome_labels h
  · -- feedback
    obtain ⟨record, -, h⟩ := bind_eq_ok h
    obtain ⟨_, -, h⟩ := bind_eq_ok h
    obtain ⟨feedback, -, h⟩ := bind_eq_ok h
    obtain rfl := Except.ok.inj h
    exact ⟨rfl, .inl ⟨rfl, rfl⟩, .inl rfl⟩
  · obtain rfl := Except.ok.inj h
    exact ⟨rfl, .inl ⟨rfl, rfl⟩, .inl rfl⟩

theorem opportunityOf_ok {row : ActiveSourcePolicy} {opportunity : RecognizedOpportunity}
    (h : p.opportunityOf event row sequence = .ok opportunity) :
    opportunity.key.sourceEventId = event.id ∧ opportunity.sourceEventSequence = sequence := by
  obtain ⟨schema, -, h⟩ := bind_eq_ok h
  obtain ⟨ids, -, h⟩ := bind_eq_ok h
  obtain ⟨features, -, h⟩ := bind_eq_ok h
  obtain rfl := Except.ok.inj h
  exact ⟨rfl, rfl⟩

/-- What is recognized in an event carries its id and its sequence. -/
theorem recognize_cases (h : p.recognize event sequence = .ok p') :
    ∃ opportunities : List RecognizedOpportunity,
      p' = { p with recognized := p.recognized.putAll opportunities } ∧
      ∀ opportunity ∈ opportunities, opportunity.key.sourceEventId = event.id ∧
        opportunity.sourceEventSequence = sequence := by
  unfold recognize at h
  split_ifs at h
  · obtain rfl := Except.ok.inj h
    exact ⟨[], rfl, fun _ hmem => nomatch hmem⟩
  · obtain ⟨opportunities, hmapped, h⟩ := bind_eq_ok h
    obtain rfl := Except.ok.inj h
    refine ⟨opportunities, rfl, fun opportunity hmem => ?_⟩
    obtain ⟨row, -, hrow⟩ := item_of_mapM hmapped hmem
    exact opportunityOf_ok hrow

/-- How an event that is applied changes what audits read. -/
structure Steps (p p' : AttentionExposure b) (event : Event) (sequence : Nat) : Prop where
  later : p.lastSequence < sequence
  fresh : p.events.find event.id = none
  head : p'.lastSequence = sequence
  events : p'.events = p.events.put ⟨event.id, event.type, sequence, event.timestamp⟩
  recognized : ∃ opportunities : List RecognizedOpportunity,
    p'.recognized = p.recognized.putAll opportunities ∧
    ∀ opportunity ∈ opportunities, opportunity.key.sourceEventId = event.id ∧
      opportunity.sourceEventSequence = sequence
  labels : Labels p { p' with recognized := p.recognized }

theorem apply_steps (h : p.apply event = .ok p') : p' = p ∨ ∃ sequence, Steps p p' event sequence := by
  rcases apply_cases h with ⟨-, -, rfl⟩ | ⟨sequence, information, handled, recorded, recognized, -,
    hlater, hfresh, -, hrecorded, hrecognized, rfl⟩
  · exact .inl rfl
  · have hrecord := applyRecord_ok hrecorded
    have hlabels := applyRecord_labels hrecorded
    obtain ⟨opportunities, rfl, hopportunities⟩ := recognize_cases hrecognized
    refine .inr ⟨sequence, hlater, hfresh, rfl, ?_, ⟨opportunities, ?_, hopportunities⟩,
      ⟨rfl, hlabels.records, hlabels.outcomes⟩⟩
    · show recorded.events.put _ = _
      rw [hrecord.events]
    · show recorded.recognized.putAll opportunities = _
      rw [hlabels.recognized]

/-! ### Extensions -/

/-- What an extension of the history keeps of a projection, for the audits up to its head. -/
structure Extends (p q : AttentionExposure b) : Prop where
  head : p.lastSequence ≤ q.lastSequence
  recognized : ∀ row ∈ p.recognized.rows, row ∈ q.recognized.rows
  later : ∀ row ∈ q.recognized.rows,
    row ∈ p.recognized.rows ∨ p.lastSequence < row.sourceEventSequence
  records : ∀ key record, p.dispositionsByKey.find key = some record →
    ∃ kept, q.dispositionsByKey.find key = some kept ∧ kept.dispositionId = record.dispositionId
  outcomes : ∀ id link, p.outcomes.find id = some link →
    ∃ kept, q.outcomes.find id = some kept ∧ kept.outcome = link.outcome

theorem Extends.refl (p : AttentionExposure b) : Extends p p where
  head := le_rfl
  recognized := fun _ hrow => hrow
  later := fun _ hrow => .inl hrow
  records := fun _ record hfind => ⟨record, hfind, rfl⟩
  outcomes := fun _ link hfind => ⟨link, hfind, rfl⟩

theorem Extends.trans (h : Extends p p') (h' : Extends p' q) : Extends p q where
  head := h.head.trans h'.head
  recognized := fun row hrow => h'.recognized row (h.recognized row hrow)
  later := by
    intro row hrow
    rcases h'.later row hrow with hold | hlater
    · exact h.later row hold
    · exact .inr (Nat.lt_of_le_of_lt h.head hlater)
  records := by
    intro key record hfind
    obtain ⟨kept, hkept, hid⟩ := h.records key record hfind
    obtain ⟨last, hlast, hlastId⟩ := h'.records key kept hkept
    exact ⟨last, hlast, hlastId.trans hid⟩
  outcomes := by
    intro id link hfind
    obtain ⟨kept, hkept, houtcome⟩ := h.outcomes id link hfind
    obtain ⟨last, hlast, hlastOutcome⟩ := h'.outcomes id kept hkept
    exact ⟨last, hlast, hlastOutcome.trans houtcome⟩

/-- What a rebuilt projection recognized: sources that it saw, one at a sequence, up to its head;
and what it recorded is of these. -/
structure WellRecognized (p : AttentionExposure b) : Prop where
  below : ∀ row ∈ p.recognized.rows, row.sourceEventSequence ≤ p.lastSequence
  sourced : ∀ row ∈ p.recognized.rows, (p.events.find row.key.sourceEventId).isSome
  single : ∀ row ∈ p.recognized.rows, ∀ other ∈ p.recognized.rows,
    row.sourceEventSequence = other.sourceEventSequence →
      row.key.sourceEventId = other.key.sourceEventId
  recorded : ∀ key record, p.dispositionsByKey.find key = some record →
    (p.recognized.find key).isSome ∧ (p.dispositions.find record.dispositionId).isSome

namespace Steps

variable (h : Steps p p' event sequence)
include h

/-- Under the id of another event nothing changes. -/
theorem find_recognized {key : OpportunityKey} (hother : key.sourceEventId ≠ event.id) :
    p'.recognized.find key = p.recognized.find key := by
  obtain ⟨opportunities, heq, hopportunities⟩ := h.recognized
  rw [heq, KeyedTable.find_putAll]
  have hnone : opportunities.reverse.find? (fun row => RecognizedOpportunity.key row = key) =
      none := by
    refine List.find?_eq_none.mpr fun row hrow hkey => hother ?_
    rw [← of_decide_eq_true hkey]
    exact (hopportunities row (List.mem_reverse.mp hrow)).1
  rw [hnone, Option.none_or]

/-- What is recognized was so before, or is of the event. -/
theorem recognized_cases {row : RecognizedOpportunity} (hrow : row ∈ p'.recognized.rows) :
    row ∈ p.recognized.rows ∨
      (row.key.sourceEventId = event.id ∧ row.sourceEventSequence = sequence) := by
  have hfind := KeyedTable.find_of_mem hrow
  by_cases hsource : row.key.sourceEventId = event.id
  · obtain ⟨opportunities, heq, hopportunities⟩ := h.recognized
    rw [heq, KeyedTable.find_putAll] at hfind
    rcases Option.or_eq_some_iff.mp hfind with hnew | ⟨-, hold⟩
    · exact .inr (hopportunities row (List.mem_reverse.mp (List.mem_of_find?_eq_some hnew)))
    · exact .inl (KeyedTable.mem_of_find hold)
  · rw [h.find_recognized hsource] at hfind
    exact .inl (KeyedTable.mem_of_find hfind)

variable (hwell : WellRecognized p)
include hwell

theorem source_ne {row : RecognizedOpportunity} (hrow : row ∈ p.recognized.rows) :
    row.key.sourceEventId ≠ event.id := by
  intro hsame
  have hknown := hwell.sourced row hrow
  rw [hsame, h.fresh] at hknown
  cases hknown

theorem mem_recognized {row : RecognizedOpportunity} (hrow : row ∈ p.recognized.rows) :
    row ∈ p'.recognized.rows := by
  have hfind := KeyedTable.find_of_mem hrow
  rw [← h.find_recognized (h.source_ne hwell hrow)] at hfind
  exact KeyedTable.mem_of_find hfind

/-- **An event extends the projection.** -/
theorem extend : Extends p p' where
  head := h.head ▸ h.later.le
  recognized := fun _ hrow => h.mem_recognized hwell hrow
  later := by
    intro row hrow
    rcases h.recognized_cases hrow with hold | ⟨-, hnew⟩
    · exact .inl hold
    · exact .inr (hnew ▸ h.later)
  records := by
    intro key record hfind
    rcases h.labels.records with ⟨hkeep, -⟩ | ⟨stored, hput, -, -, hequal⟩
    · have hsame : p'.dispositionsByKey = p.dispositionsByKey := hkeep
      exact ⟨record, hsame ▸ hfind, rfl⟩
    · have hsame : p'.dispositionsByKey = p.dispositionsByKey.put stored.record := hput
      by_cases hkey : stored.record.key = key
      · subst hkey
        refine ⟨stored.record, ?_, AttentionDispositionRecord.dispositionId_of_beq (hequal _ hfind)⟩
        rw [hsame, KeyedTable.find_put, if_pos rfl]
      · refine ⟨record, ?_, rfl⟩
        rw [hsame, KeyedTable.find_put, if_neg hkey]
        exact hfind
  outcomes := by
    intro id link hfind
    rcases h.labels.outcomes with hkeep | ⟨added, hput, hequal⟩
    · have hsame : p'.outcomes = p.outcomes := hkeep
      exact ⟨link, hsame ▸ hfind, rfl⟩
    · have hsame : p'.outcomes = p.outcomes.put added := hput
      by_cases hid : added.dispositionId = id
      · subst hid
        refine ⟨added, ?_, AttentionDispositionOutcomeLink.outcome_of_beq (hequal _ hfind)⟩
        rw [hsame, KeyedTable.find_put, if_pos rfl]
      · refine ⟨link, ?_, rfl⟩
        rw [hsame, KeyedTable.find_put, if_neg hid]
        exact hfind

/-- **An event keeps the recognition well.** -/
theorem wellRecognized : WellRecognized p' where
  below := by
    intro row hrow
    rw [h.head]
    rcases h.recognized_cases hrow with hold | ⟨-, hnew⟩
    · exact (hwell.below row hold).trans h.later.le
    · exact hnew.le
  sourced := by
    intro row hrow
    rw [h.events]
    rcases h.recognized_cases hrow with hold | ⟨hnew, -⟩
    · exact put_isSome (hwell.sourced row hold)
    · rw [KeyedTable.find_put, if_pos hnew.symm]
      rfl
  single := by
    intro row hrow other hother hsequence
    rcases h.recognized_cases hrow with hold | ⟨hid, hnew⟩
    · have hbelow := hwell.below row hold
      rcases h.recognized_cases hother with hold' | ⟨-, hnew'⟩
      · exact hwell.single row hold other hold' hsequence
      · have hlater := h.later
        omega
    · rcases h.recognized_cases hother with hold' | ⟨hid', -⟩
      · have hbelow := hwell.below other hold'
        have hlater := h.later
        omega
      · rw [hid, hid']
  recorded := by
    intro key record hfind
    have hkept : ∀ key, (p.recognized.find key).isSome → (p'.recognized.find key).isSome := by
      intro key hsome
      obtain ⟨row, hrow⟩ := Option.isSome_iff_exists.mp hsome
      obtain rfl := KeyedTable.find_key hrow
      have hmem := h.mem_recognized hwell (KeyedTable.mem_of_find hrow)
      exact Option.isSome_iff_exists.mpr ⟨row, KeyedTable.find_of_mem hmem⟩
    rcases h.labels.records with ⟨hkeep, hkeepIds⟩ | ⟨stored, hput, hputIds, hrecognized, -⟩
    · have hsame : p'.dispositionsByKey = p.dispositionsByKey := hkeep
      have hsameIds : p'.dispositions = p.dispositions := hkeepIds
      rw [hsame] at hfind
      obtain ⟨hknown, hstored⟩ := hwell.recorded key record hfind
      exact ⟨hkept key hknown, hsameIds ▸ hstored⟩
    · have hsame : p'.dispositionsByKey = p.dispositionsByKey.put stored.record := hput
      have hsameIds : p'.dispositions = p.dispositions.put stored := hputIds
      rw [hsame, KeyedTable.find_put] at hfind
      rw [hsameIds]
      split_ifs at hfind with hkey
      · obtain rfl := Option.some.inj hfind
        refine ⟨hkept key (hkey ▸ hrecognized), ?_⟩
        have hid : stored.dispositionId = stored.record.dispositionId := rfl
        rw [KeyedTable.find_put, if_pos hid]
        rfl
      · obtain ⟨hknown, hstored⟩ := hwell.recorded key record hfind
        exact ⟨hkept key hknown, put_isSome hstored⟩

end Steps

theorem wellRecognized_empty : WellRecognized (empty b) where
  below := fun _ hrow => nomatch hrow
  sourced := fun _ hrow => nomatch hrow
  single := fun _ hrow => nomatch hrow
  recorded := fun _ _ hfind => nomatch hfind

/-- What was recognized well stays so, and is extended, in every run. -/
theorem run_extends {events : List Event} (hwell : WellRecognized p)
    (h : Folding.run apply p events = .ok q) : WellRecognized q ∧ Extends p q := by
  refine Folding.run_induction (I := fun _ q => WellRecognized q ∧ Extends p q)
    ⟨hwell, .refl p⟩ ?_ h
  rintro _ event t u - ⟨ihWell, ihExtends⟩ happly
  rcases apply_steps happly with rfl | ⟨sequence, hsteps⟩
  · exact ⟨ihWell, ihExtends⟩
  · exact ⟨hsteps.wellRecognized ihWell, ihExtends.trans (hsteps.extend ihWell)⟩

theorem wellRecognized_of_rebuild {events : List Event} (h : rebuild events = .ok p) :
    WellRecognized p :=
  (run_extends wellRecognized_empty h).1

/-! ### Audits over an extension -/

theorem mem_recognizedOpportunities {opportunity : AttentionOpportunity} :
    opportunity ∈ p.recognizedOpportunities ↔
      ∃ row ∈ p.recognized.rows, row.opportunity = opportunity := by
  rw [recognizedOpportunities, List.mem_insertionSort, List.mem_map]

theorem recognizedOpportunities_nodup : p.recognizedOpportunities.Nodup := by
  have hkeys : (p.recognized.rows.map RecognizedOpportunity.opportunity).Nodup := by
    refine List.Nodup.of_map AttentionOpportunity.key ?_
    rw [List.map_map]
    exact p.recognized.unique
  exact (List.perm_insertionSort _ _).nodup_iff.mpr hkeys

/-- Opportunities of one rank are the same. -/
theorem WellRecognized.eq_of_rank (h : WellRecognized p) {opportunity other : AttentionOpportunity}
    (hmem : opportunity ∈ p.recognizedOpportunities) (hother : other ∈ p.recognizedOpportunities)
    (hrank : opportunity.rank = other.rank) : opportunity = other := by
  obtain ⟨row, hrow, rfl⟩ := mem_recognizedOpportunities.mp hmem
  obtain ⟨row', hrow', rfl⟩ := mem_recognizedOpportunities.mp hother
  have hsequence : row.sourceEventSequence = row'.sourceEventSequence :=
    congrArg (fun rank => (ofLex rank).1) hrank
  have hpolicy : row.key.sourcePolicyId = row'.key.sourcePolicyId :=
    congrArg (fun rank => (ofLex (ofLex rank).2).1) hrank
  have hschema : row.key.featureSchemaId = row'.key.featureSchemaId :=
    congrArg (fun rank => (ofLex (ofLex rank).2).2) hrank
  have hkey : row.key = row'.key := by
    have hsource := h.single row hrow row' hrow' hsequence
    cases hk : row.key
    cases hk' : row'.key
    rw [hk, hk'] at hsource hpolicy hschema
    rw [OpportunityKey.mk.injEq]
    exact ⟨hsource, hpolicy, hschema⟩
  rw [RecognizedOpportunity.opportunity, RecognizedOpportunity.opportunity, hkey, hsequence]

variable {sourcePolicyId featureSchemaId : String} {startSequence endSequence : Int}
  {report report' : AttentionDenominatorAudit}

/-- **A range up to the head holds the same opportunities after an extension.** -/
theorem recognized_stable (hwell : WellRecognized p) (hextends : Extends p q)
    (hend : endSequence ≤ p.lastSequence) :
    q.recognizedOpportunities.filter
        (inRange sourcePolicyId featureSchemaId startSequence endSequence) =
      p.recognizedOpportunities.filter
        (inRange sourcePolicyId featureSchemaId startSequence endSequence) := by
  have hsame : ∀ opportunity, opportunity ∈ q.recognizedOpportunities.filter
        (inRange sourcePolicyId featureSchemaId startSequence endSequence) ↔
      opportunity ∈ p.recognizedOpportunities.filter
        (inRange sourcePolicyId featureSchemaId startSequence endSequence) := by
    intro opportunity
    simp only [List.mem_filter, mem_recognizedOpportunities]
    refine and_congr_left fun hrange => ?_
    constructor
    · rintro ⟨row, hrow, rfl⟩
      refine ⟨row, (hextends.later row hrow).resolve_right fun hlater => ?_, rfl⟩
      -- what is later is beyond the range
      have hbound : (row.sourceEventSequence : Int) ≤ endSequence := by
        simp only [inRange, RecognizedOpportunity.opportunity, Bool.and_eq_true] at hrange
        exact of_decide_eq_true hrange.2
      omega
    · rintro ⟨row, hrow, rfl⟩
      exact ⟨row, hextends.recognized row hrow, rfl⟩
  have hperm := (List.perm_ext_iff_of_nodup (recognizedOpportunities_nodup.filter _)
    (recognizedOpportunities_nodup.filter _)).mpr hsame
  refine hperm.eq_of_pairwise (fun opportunity other hmem hother hle hge => ?_)
    ((List.pairwise_insertionSort _ _).filter _) ((List.pairwise_insertionSort _ _).filter _)
  exact hwell.eq_of_rank (List.mem_filter.mp ((hsame _).mp hmem)).1 (List.mem_filter.mp hother).1
    (le_antisymm hle hge)

/-- **How an audit moves over an extension**: what is recognized stays; what is recorded stays
recorded, under its id; what is resolved stays resolved. -/
structure AuditMoves (report report' : AttentionDenominatorAudit) : Prop where
  recognized : report'.recognizedOpportunities = report.recognizedOpportunities
  missing : ∀ opportunity ∈ report'.missingDispositions,
    opportunity ∈ report.missingDispositions
  recorded : ∀ record ∈ report.dispositionRecords, ∃ kept ∈ report'.dispositionRecords,
    kept.key = record.key ∧ kept.dispositionId = record.dispositionId
  resolved : ∀ id ∈ report.outcomeResolvedIds, id ∈ report'.outcomeResolvedIds
  censored : ∀ id ∈ report'.outcomeCensoredIds, id ∉ report.outcomeResolvedIds

theorem resolved_of_extends (h : Extends p q) {id : String} (hresolved : p.resolved id = true) :
    q.resolved id = true := by
  obtain ⟨link, hfind, hclass⟩ := (Option.any_eq_true _ _).mp hresolved
  obtain ⟨kept, hkept, houtcome⟩ := h.outcomes id link hfind
  unfold resolved
  rw [hkept, Option.any_some, houtcome]
  exact hclass

theorem audit_moves (hwell : WellRecognized p) (hextends : Extends p q)
    (hend : endSequence ≤ p.lastSequence)
    (h : Reports p sourcePolicyId featureSchemaId startSequence endSequence report)
    (h' : Reports q sourcePolicyId featureSchemaId startSequence endSequence report') :
    AuditMoves report report' := by
  have hrecognized : report'.recognizedOpportunities = report.recognizedOpportunities := by
    rw [h.recognized, h'.recognized]
    exact recognized_stable hwell hextends hend
  have hrecorded : ∀ record ∈ report.dispositionRecords, ∃ kept ∈ report'.dispositionRecords,
      kept.key = record.key ∧ kept.dispositionId = record.dispositionId := by
    intro record hrecord
    obtain ⟨opportunity, hmem, hkey, hfind⟩ := h.mem_records.mp hrecord
    obtain ⟨kept, hkept, hid⟩ := hextends.records _ _ hfind
    have hkeptKey := KeyedTable.find_key hkept
    refine ⟨kept, h'.mem_records.mpr ⟨opportunity, hrecognized ▸ hmem, hkeptKey.symm, hkept⟩, ?_,
      hid⟩
    rw [← hkey]
    exact hkeptKey
  refine ⟨hrecognized, ?_, hrecorded, ?_, ?_⟩
  · intro opportunity hmem
    obtain ⟨hmem, hnone⟩ := h'.mem_missing.mp hmem
    refine h.mem_missing.mpr ⟨hrecognized ▸ hmem, ?_⟩
    cases hfind : p.dispositionsByKey.find opportunity.key with
    | none => rfl
    | some record =>
      obtain ⟨kept, hkept, -⟩ := hextends.records _ _ hfind
      rw [hnone] at hkept
      cases hkept
  · intro id hid
    obtain ⟨⟨record, hrecord, rfl⟩, hresolved⟩ := h.mem_resolved.mp hid
    obtain ⟨kept, hkept, -, hsame⟩ := hrecorded record hrecord
    exact h'.mem_resolved.mpr ⟨⟨kept, hkept, hsame⟩, resolved_of_extends hextends hresolved⟩
  · intro id hid hbefore
    have hcensored := (h'.mem_censored.mp hid).2
    rw [resolved_of_extends hextends (h.mem_resolved.mp hbefore).2] at hcensored
    cases hcensored

/-- **An audit of a range raises nothing.** -/
theorem audit_total (hwell : WellRecognized p) (hstart : 0 < startSequence)
    (hrange : startSequence ≤ endSequence) : ∃ report,
      p.audit sourcePolicyId featureSchemaId startSequence (some endSequence) = .ok report := by
  have hrows : ∀ record ∈ (p.recognizedOpportunities.filter
      (inRange sourcePolicyId featureSchemaId startSequence endSequence)).filterMap
        (fun opportunity => p.dispositionsByKey.find opportunity.key),
      ∃ complete, p.featureComplete record.dispositionId = .ok complete := by
    intro record hrecord
    obtain ⟨opportunity, -, hfind⟩ := List.mem_filterMap.mp hrecord
    obtain ⟨stored, hstored⟩ := Option.isSome_iff_exists.mp (hwell.recorded _ _ hfind).2
    refine ⟨stored.featureComplete, ?_⟩
    unfold featureComplete
    rw [hstored]
    rfl
  obtain ⟨complete, hcomplete⟩ := exists_mapM hrows
  unfold audit
  rw [refuse_of (not_le.mpr hstart), ok_bind]
  dsimp only [Option.getD_some]
  rw [refuse_of (not_lt.mpr hrange), ok_bind, bind_of_ok hcomplete]
  exact ⟨_, rfl⟩

end AttentionExposure

end Noema
