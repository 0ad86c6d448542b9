import Noema.WorkFits

/-!
# The log that a command leaves behind

A command that runs alone on the log emits graphs, leases, expirations and invalidations
only after it has checked all that the projection will ask of them: its own projection is
the one that a replay ends with (`Exact`), and the decisions it has admitted are the last
rows of the log (`Current`).  Orders, presence, manifests, estimates, proposals and
completions are emitted first and checked when the stored row is applied, so what such an
event lacks stays in the log; `Command.Fits` says what it must not lack
(`leaves_replayable`).
-/
namespace Noema
open Programs Programs.Program WorkProjection

variable {ids : WorkIds} {floats : FloatProduct} {log : WorkLog} {p : WorkProjection}
  {source : String}

/-! ## The head of the log -/

/-- The largest sequence of some rows, zero if there is none. -/
def headOf (rows : List WorkEvent) : Nat := (rows.map WorkEvent.seq).foldr max 0

theorem headOf_le {rows : List WorkEvent} {bound : Nat} (h : ∀ row ∈ rows, row.seq ≤ bound) :
    headOf rows ≤ bound := by
  induction rows with
  | nil => exact Nat.zero_le bound
  | cons row rows ih =>
    exact max_le (h row (List.mem_cons_self ..))
      (ih fun other hother => h other (List.mem_cons_of_mem _ hother))

/-- The head is the sequence of a row, or there is none. -/
theorem headOf_mem (rows : List WorkEvent) :
    headOf rows = 0 ∨ ∃ row ∈ rows, row.seq = headOf rows := by
  induction rows with
  | nil => exact Or.inl rfl
  | cons row rows ih =>
    have hhead : headOf (row :: rows) = max row.seq (headOf rows) := rfl
    rcases le_total row.seq (headOf rows) with hle | hle
    · rw [hhead, max_eq_right hle]
      refine ih.imp id ?_
      rintro ⟨other, hother, hseq⟩
      exact ⟨other, List.mem_cons_of_mem _ hother, hseq⟩
    · rw [hhead, max_eq_left hle]
      exact Or.inr ⟨row, List.mem_cons_self .., rfl⟩

/-- The cursor of a replay is the head of the log. -/
theorem lastSequence_eq {history : List WorkEvent} (hp : rebuild ids floats history = .ok p) :
    p.lastSequence = headOf history := by
  apply Nat.le_antisymm
  · refine lastSequence_le hp fun row hrow => ?_
    exact PlanStore.seq_le_latest hrow
  · refine headOf_le fun row hrow => ?_
    exact rebuild_sequenced hp row ((mem_events hp row).mpr hrow)

namespace WorkLog

theorem Numbered.positive_rows (hlog : log.Numbered) : ∀ row ∈ log.rows, 0 < row.seq :=
  fun row hrow => (hlog.below row hrow).1

theorem Numbered.latest_append (hlog : log.Numbered) (event : WorkEvent) :
    (log.append event).latestSequence = log.nextSequence := by
  apply Nat.le_antisymm
  · refine headOf_le fun row hrow => ?_
    rcases List.mem_append.mp hrow with hrow | hrow
    · exact (hlog.below row hrow).2.le
    · cases List.mem_singleton.mp hrow
      exact Nat.le_refl _
  · have hmem : event.withSequence log.nextSequence ∈ (log.append event).rows :=
      List.mem_append_right _ (List.mem_singleton.mpr rfl)
    exact PlanStore.seq_le_latest hmem

end WorkLog

/-! ## Evidence -/

/-- A decision was stored on the head of the rows before it. -/
structure AdmittedAt (source : String) (before : List WorkEvent) (record : EvaluatedDecision)
    (event : WorkEvent) : Prop where
  stored : ∃ sequence, event = (record.toEvent source).withSequence sequence
  cursor : record.decision.causalEventCursor = headOf before
  later : headOf before < event.seq
  decisionId : isOpaqueId record.decision.decisionId = true

/-- The event is an information decision. -/
def WorkEvent.IsDecision (event : WorkEvent) : Prop :=
  event.type = .informationAccessDecided ∨ event.type = .disclosureDecided

theorem EvaluatedDecision.isDecision (value : EvaluatedDecision) (source : String) :
    (value.toEvent source).IsDecision := by
  cases hkind : value.kind with
  | access => exact Or.inl (by simp [EvaluatedDecision.toEvent, hkind])
  | disclosure => exact Or.inr (by simp [EvaluatedDecision.toEvent, hkind])

/-- The admitted decisions are among the last rows, which are all decisions, and each was
admitted on the head it names. -/
def Evidence (source : String) (rows : List WorkEvent)
    (admitted : List (EvaluatedDecision × EvaluatedDecision)) : Prop :=
  ∃ start new, rows = start ++ new ∧ (∀ event ∈ new, event.IsDecision) ∧
    ∀ entry ∈ admitted, ∃ before event after, new = before ++ event :: after ∧
      AdmittedAt source (start ++ before) entry.2 event

theorem Evidence.none (rows : List WorkEvent) : Evidence source rows [] :=
  ⟨rows, [], (List.append_nil _).symm, fun _ h => (nomatch h), fun _ h => (nomatch h)⟩

/-- A decision is admitted on the head. -/
theorem Evidence.more {rows : List WorkEvent}
    {admitted : List (EvaluatedDecision × EvaluatedDecision)} (h : Evidence source rows admitted)
    {value record : EvaluatedDecision} {event : WorkEvent}
    (hat : AdmittedAt source rows record event) :
    Evidence source (rows ++ [event]) (admitted ++ [(value, record)]) := by
  obtain ⟨start, new, rfl, hdecisions, hadmitted⟩ := h
  refine ⟨start, new ++ [event], List.append_assoc .., ?_, ?_⟩
  · intro other hother
    rcases List.mem_append.mp hother with hother | hother
    · exact hdecisions other hother
    · cases List.mem_singleton.mp hother
      obtain ⟨sequence, rfl⟩ := hat.stored
      exact record.isDecision source
  · intro entry hentry
    rcases List.mem_append.mp hentry with hentry | hentry
    · obtain ⟨before, other, after, hsplit, hother⟩ := hadmitted entry hentry
      refine ⟨before, other, after ++ [event], ?_, hother⟩
      rw [hsplit, List.append_assoc, List.cons_append]
    · cases List.mem_singleton.mp hentry
      exact ⟨new, event, [], rfl, hat⟩

theorem WorkLog.Numbered.latest_lt (hlog : log.Numbered) : headOf log.rows < log.nextSequence := by
  have hbound : headOf log.rows ≤ log.nextSequence - 1 :=
    headOf_le fun row hrow => Nat.le_sub_one_of_lt (hlog.below row hrow).2
  have hpositive := hlog.positive
  omega

/-- A decision is appended to the head that it names. -/
theorem admittedAt_append (hlog : log.Numbered) {value : EvaluatedDecision} {decisionId : String}
    (hid : isOpaqueId decisionId = true) :
    AdmittedAt source log.rows (Coordinator.refreshed value decisionId log.latestSequence)
      (((Coordinator.refreshed value decisionId log.latestSequence).toEvent source).withSequence
        log.nextSequence) :=
  ⟨⟨_, rfl⟩, rfl, hlog.latest_lt, hid⟩

/-! ## Reading the evidence -/

/-- `readAccess` and `readDisclosure`. -/
def readKind (p : WorkProjection) : DecisionKind → String → Except PyError (WorkEvent × InformationDecision)
  | .access => p.readAccess
  | .disclosure => p.readDisclosure

/-- The rows before an admitted decision are those with a smaller sequence. -/
theorem exactPredecessorHead (hlog : log.Numbered) (hp : rebuild ids floats log.rows = .ok p)
    {before after : List WorkEvent} {event : WorkEvent} {sequence : Nat}
    (hrows : log.rows = before ++ event :: after) (hsequence : event.sequence = some sequence)
    (hlater : headOf before < sequence) :
    p.hasExactPredecessorHead event (headOf before) = true := by
  have hseq : event.seq = sequence := by rw [WorkEvent.seq, hsequence, Option.getD_some]
  have hincreasing := hlog.increasing
  rw [hrows, List.pairwise_append, List.pairwise_cons] at hincreasing
  have hmem : ∀ n, n ∈ (p.events.rows.map fun stored => stored.sequence.getD 0).filter (· < sequence) ↔
      ∃ row ∈ before, row.seq = n := by
    intro n
    rw [List.mem_filter, List.mem_map, decide_eq_true_eq]
    constructor
    · rintro ⟨⟨row, hrow, rfl⟩, hbelow⟩
      rw [mem_events hp, hrows, List.mem_append, List.mem_cons] at hrow
      rcases hrow with hrow | rfl | hrow
      · exact ⟨row, hrow, rfl⟩
      · exact absurd hbelow (hseq ▸ Nat.lt_irrefl _)
      · have habove := hincreasing.2.1.1 row hrow
        rw [hseq] at habove
        exact absurd hbelow (Nat.lt_asymm habove)
    · rintro ⟨row, hrow, rfl⟩
      have hbelow := hincreasing.2.2 row hrow event (List.mem_cons_self ..)
      rw [hseq] at hbelow
      refine ⟨⟨row, ?_, rfl⟩, hbelow⟩
      rw [mem_events hp, hrows]
      exact List.mem_append_left _ hrow
  have hmax : (((p.events.rows.map fun stored => stored.sequence.getD 0).filter
      (· < sequence)).max?).getD 0 = headOf before := by
    rcases headOf_mem before with hzero | hrow
    · have hempty : (p.events.rows.map fun stored => stored.sequence.getD 0).filter
          (· < sequence) = [] := by
        refine List.eq_nil_iff_forall_not_mem.mpr fun n hn => ?_
        obtain ⟨row, hrow, -⟩ := (hmem n).mp hn
        have hbound := PlanStore.seq_le_latest hrow
        have hpositive := hlog.positive_rows row (hrows ▸ List.mem_append_left _ hrow)
        have hhead : headOf before = (before.map WorkEvent.seq).foldr max 0 := rfl
        omega
      rw [hempty, hzero]
      rfl
    · have hsome : ((p.events.rows.map fun stored => stored.sequence.getD 0).filter
          (· < sequence)).max? = some (headOf before) := by
        refine List.max?_eq_some_iff.mpr ⟨(hmem _).mpr hrow, fun n hn => ?_⟩
        obtain ⟨row, hrow, rfl⟩ := (hmem n).mp hn
        exact PlanStore.seq_le_latest hrow
      rw [hsome, Option.getD_some]
  unfold hasExactPredecessorHead
  rw [hsequence]
  simp [hlater, hmax]

/-- **An admitted decision is read back.** -/
theorem readKind_ok (hlog : log.Numbered) (hp : rebuild ids floats log.rows = .ok p)
    {before after : List WorkEvent} {event : WorkEvent} {record : EvaluatedDecision}
    (hrows : log.rows = before ++ event :: after) (hat : AdmittedAt source before record event) :
    readKind p record.kind record.decision.decisionId = .ok (event, record.decision) := by
  obtain ⟨sequence, rfl⟩ := hat.stored
  have hmem := (mem_events hp ((record.toEvent source).withSequence sequence)).mpr (by simp [hrows])
  have hfind := KeyedTable.find_of_mem hmem
  have hhead := exactPredecessorHead hlog hp hrows rfl hat.later
  rw [← hat.cursor] at hhead
  have hopaqueId := hat.decisionId
  cases hkind : record.kind with
  | access =>
    have hid : ((record.toEvent source).withSequence sequence).id =
        "information-access-decided:" ++ record.decision.decisionId := by
      simp [WorkEvent.withSequence, EvaluatedDecision.toEvent, hkind]
    rw [hid] at hfind
    have hread : InformationDecision.accessFromEvent
        ((record.toEvent source).withSequence sequence) = .ok record.decision := by
      simp [InformationDecision.accessFromEvent, WorkEvent.withSequence, EvaluatedDecision.toEvent,
        hkind, hopaqueId, require]
    show p.readDecision _ _ _ _ _ = _
    unfold readDecision
    rw [hfind]
    dsimp only
    rw [hread, bind_ok_iff]
    refine ⟨_, rfl, ?_⟩
    rw [require_bind_ok]
    exact ⟨hhead, rfl⟩
  | disclosure =>
    have hid : ((record.toEvent source).withSequence sequence).id =
        "information-disclosure-decided:" ++ record.decision.decisionId := by
      simp [WorkEvent.withSequence, EvaluatedDecision.toEvent, hkind]
    rw [hid] at hfind
    have hread : InformationDecision.disclosureFromEvent
        ((record.toEvent source).withSequence sequence) = .ok record.decision := by
      simp [InformationDecision.disclosureFromEvent, WorkEvent.withSequence,
        EvaluatedDecision.toEvent, hkind, hopaqueId, require]
    show p.readDecision _ _ _ _ _ = _
    unfold readDecision
    rw [hfind]
    dsimp only
    rw [hread, bind_ok_iff]
    refine ⟨_, rfl, ?_⟩
    rw [require_bind_ok]
    exact ⟨hhead, rfl⟩

/-- The decisions of some entries are read in one go. -/
theorem mapM_read {read : String → Except PyError (WorkEvent × InformationDecision)}
    {P : WorkEvent → Prop} {entries : List (EvaluatedDecision × EvaluatedDecision)}
    (h : ∀ entry ∈ entries, ∃ event,
      read entry.2.decision.decisionId = .ok (event, entry.2.decision) ∧ P event) :
    ∃ results, (entries.map (·.2.decision.decisionId)).mapM read = .ok results ∧
      results.map (·.2) = entries.map (·.2.decision) ∧ ∀ result ∈ results, P result.1 := by
  induction entries with
  | nil => exact ⟨[], rfl, rfl, fun _ h => (nomatch h)⟩
  | cons entry entries ih =>
    obtain ⟨event, hread, hevent⟩ := h entry (List.mem_cons_self ..)
    obtain ⟨results, hresults, hdecisions, hevents⟩ :=
      ih fun other hother => h other (List.mem_cons_of_mem _ hother)
    refine ⟨(event, entry.2.decision) :: results, ?_, ?_, ?_⟩
    · exact mapM_ok.mpr (.cons hread (mapM_ok.mp hresults))
    · rw [List.map_cons, List.map_cons, hdecisions]
    · intro result hresult
      rcases List.mem_cons.mp hresult with rfl | hresult
      · exact hevent
      · exact hevents result hresult

/-- A decision without what is made anew when it is made again. -/
def erased (decision : InformationDecision) : InformationDecision :=
  { decision with decisionId := "", causalEventCursor := 0 }

/-- Feasibility looks at nothing that is made anew. -/
theorem accessIsFeasible_erased (node : WorkNode) (agentId : String) (time : Datetime)
    (access disclosure : List InformationDecision) :
    WorkerMatcher.accessIsFeasible node agentId time access disclosure =
      WorkerMatcher.accessIsFeasible node agentId time (access.map erased) (disclosure.map erased) := by
  unfold WorkerMatcher.accessIsFeasible
  simp only [List.filter_map, List.map_map, List.all_map, List.length_map]
  rfl

/-- **Feasible decisions are valid evidence**, if they are fresh. -/
theorem validateInformationAccess_ok {lease : WorkLease} {node : WorkNode}
    {access disclosure : List (WorkEvent × InformationDecision)}
    (hgoverned : node.governedInformationRefs ≠ [])
    (haccess : lease.informationAccessDecisionRefs.mapM p.readAccess = .ok access)
    (hdisclosure : lease.informationDisclosureDecisionRefs.mapM p.readDisclosure = .ok disclosure)
    (hfeasible : WorkerMatcher.accessIsFeasible node lease.agentId lease.grantedAt
      (access.map (·.2)) (disclosure.map (·.2)) = true)
    (hfresh : p.staleAfter (((access ++ disclosure).map fun entry =>
      entry.1.sequence.getD 0).min?.getD 0) = false) :
    p.validateInformationAccess lease node = .ok () := by
  unfold WorkerMatcher.accessIsFeasible at hfeasible
  simp only [Bool.and_eq_true, decide_eq_true_eq, List.all_eq_true, List.filter_map,
    List.map_map, List.length_map] at hfeasible
  obtain ⟨⟨⟨⟨⟨hcount, hset⟩, husable⟩, hcrossing⟩, hcrossed⟩, happlicable⟩ := hfeasible
  have hlength : lease.informationAccessDecisionRefs.length = access.length :=
    (mapM_ok.mp haccess).length_eq
  have hlength' : lease.informationDisclosureDecisionRefs.length = disclosure.length :=
    (mapM_ok.mp hdisclosure).length_eq
  unfold validateInformationAccess
  rw [if_neg hgoverned, require_bind_ok]
  refine ⟨hlength.trans hcount, ?_⟩
  rw [haccess]
  refine require_bind_ok.mpr ⟨hset, require_bind_ok.mpr ⟨fun entry hentry => ?_, ?_⟩⟩
  · exact husable entry.2 (List.mem_map_of_mem hentry)
  refine require_bind_ok.mpr ⟨hlength'.trans hcrossing, ?_⟩
  rw [hdisclosure]
  refine require_bind_ok.mpr ⟨hcrossed, require_bind_ok.mpr ⟨fun entry hentry => ?_, ?_⟩⟩
  · exact happlicable entry.2 (List.mem_map_of_mem hentry)
  exact if_pos hfresh

/-- The entries of a kind that a match is made of. -/
def selectedEntries (kind : DecisionKind) (found : WorkerMatch)
    (admitted : List (EvaluatedDecision × EvaluatedDecision)) :
    List (EvaluatedDecision × EvaluatedDecision) :=
  admitted.filter fun entry => entry.1.kind = kind &&
    entry.1.decision.decisionId ∈ WorkerMatcher.selectedIds (some found)

/-- Made again, the decisions of a match differ only in what is made anew. -/
theorem erased_selected {found : WorkerMatch} {lease : WorkLease}
    {admitted : List (EvaluatedDecision × EvaluatedDecision)} (hcited : Cited found lease admitted)
    (kind : DecisionKind) : ((selectedEntries kind found admitted).map (·.2.decision)).map erased =
      (WorkerMatcher.decisionsOf kind found).map erased := by
  rw [← hcited.made kind, List.map_map, List.map_map]
  refine List.map_congr_left fun entry hentry => ?_
  obtain ⟨decisionId, head, hagain⟩ := hcited.again entry (List.mem_filter.mp hentry).1
  show erased entry.2.decision = erased entry.1.decision
  rw [hagain]
  rfl

/-- **The evidence of a match is valid**: the cited decisions are read back, and nothing
else follows them. -/
theorem Evidence.valid {admitted : List (EvaluatedDecision × EvaluatedDecision)}
    (h : Evidence source log.rows admitted) (hlog : log.Numbered) (hp : rebuild ids floats log.rows = .ok p) {node : WorkNode}
    {time : Datetime} {found : WorkerMatch} {lease : WorkLease}
    (hgoverned : node.governedInformationRefs ≠ []) (hagent : lease.agentId = found.agentId)
    (htime : lease.grantedAt = time) (hcited : Cited found lease admitted)
    (hfeasible : WorkerMatcher.accessIsFeasible node found.agentId time found.accessDecisions
      found.disclosureDecisions = true) : p.validateInformationAccess lease node = .ok () := by
  obtain ⟨start, new, hrows, hdecisions, hadmitted⟩ := h
  have hread : ∀ kind, ∃ results,
      ((selectedEntries kind found admitted).map (·.2.decision.decisionId)).mapM
        (readKind p kind) = .ok results ∧
      results.map (·.2) = (selectedEntries kind found admitted).map (·.2.decision) ∧
      ∀ result ∈ results, result.1 ∈ new := by
    intro kind
    refine mapM_read fun entry hentry => ?_
    obtain ⟨hmem, hselected⟩ := List.mem_filter.mp hentry
    obtain ⟨before, event, after, hsplit, hat⟩ := hadmitted entry hmem
    obtain ⟨decisionId, head, hagain⟩ := hcited.again entry hmem
    have hkind : entry.2.kind = kind := by
      rw [Bool.and_eq_true, decide_eq_true_eq] at hselected
      rw [hagain]
      exact hselected.1
    refine ⟨event, ?_, by simp [hsplit]⟩
    rw [← hkind]
    have hsplitRows : log.rows = (start ++ before) ++ event :: after := by
      rw [hrows, hsplit, List.append_assoc]
    exact readKind_ok hlog hp hsplitRows hat
  obtain ⟨access, haccess, haccessSame, haccessNew⟩ := hread .access
  obtain ⟨disclosure, hdisclosure, hdisclosureSame, hdisclosureNew⟩ := hread .disclosure
  have hstill : WorkerMatcher.accessIsFeasible node lease.agentId lease.grantedAt
      (access.map (·.2)) (disclosure.map (·.2)) = true := by
    rw [accessIsFeasible_erased, haccessSame, hdisclosureSame, erased_selected hcited .access,
      erased_selected hcited .disclosure, hagent, htime]
    exact (accessIsFeasible_erased ..).symm.trans hfeasible
  refine validateInformationAccess_ok hgoverned (hcited.access ▸ haccess)
    (hcited.disclosure ▸ hdisclosure) hstill ?_
  -- The least cited sequence is that of a row behind `start`.
  have hincreasing := hlog.increasing
  rw [hrows, List.pairwise_append] at hincreasing
  have hsome : (access ++ disclosure).map (fun entry => entry.1.sequence.getD 0) ≠ [] := by
    intro hempty
    obtain ⟨hnone, -⟩ := List.append_eq_nil_iff.mp (List.map_eq_nil_iff.mp hempty)
    simp only [WorkerMatcher.accessIsFeasible, Bool.and_eq_true, decide_eq_true_eq, hnone,
      List.map_nil, List.length_nil] at hstill
    exact hgoverned (List.length_eq_zero_iff.mp hstill.1.1.1.1.1.symm)
  obtain ⟨cut, hcut⟩ := Option.ne_none_iff_exists'.mp (mt List.min?_eq_none_iff.mp hsome)
  obtain ⟨entry, hentry, hleast⟩ := List.mem_map.mp (List.min?_mem hcut)
  have hnew : entry.1 ∈ new := by
    rcases List.mem_append.mp hentry with hentry | hentry
    · exact haccessNew entry hentry
    · exact hdisclosureNew entry hentry
  rw [hcut, Option.getD_some]
  unfold staleAfter
  rw [List.any_eq_false]
  intro row hrow hstale
  rw [decide_eq_true_eq] at hstale
  obtain ⟨hafter, hnotAccess, hnotDisclosure⟩ := hstale
  rw [mem_events hp, hrows, List.mem_append] at hrow
  rcases hrow with hrow | hrow
  · have hbefore : row.seq < entry.1.seq := hincreasing.2.2 row hrow entry.1 hnew
    unfold WorkEvent.seq at hbefore
    omega
  · exact (hdecisions row hrow).elim hnotAccess hnotDisclosure

/-! ## A command alone -/

/-- The projection is the one that a replay ends with. -/
def Exact (ids : WorkIds) (floats : FloatProduct) (q : WorkProjection) (log : WorkLog) : Prop :=
  log.Numbered ∧ rebuild ids floats log.rows = .ok q

/-- The admitted decisions are the last rows of the log. -/
def Current (source : String) (log : WorkLog) (state : Coordinator.Admitting) : Prop :=
  state.expectedHead = log.latestSequence ∧ Evidence source log.rows state.admitted

/-- Nobody else changes the log. -/
def Still (s t : WorkLog) : Prop := s = t ∧ t.Numbered

/-- What is applied is what a replay applies. -/
theorem Exact.commit {s s' : WorkLog} {q q' : WorkProjection} {event stored : WorkEvent}
    (h : Exact ids floats q s) (hcommits : s.Commits event stored s')
    (happly : q.apply ids floats stored = .ok q') : Exact ids floats q' s' := by
  refine ⟨hcommits.numbered h.1, ?_⟩
  rcases hcommits with ⟨hstored, rfl⟩ | ⟨-, rfl, rfl⟩
  · have hmem := (mem_events h.2 stored).mpr (List.mem_of_find?_eq_some hstored)
    have hknown := KeyedTable.find_of_mem hmem
    rcases apply_ok.mp happly with ⟨-, rfl⟩ | ⟨hnew, -⟩
    · exact h.2
    · rw [hknown] at hnew
      cases hnew
  · show rebuild ids floats (s.rows ++ [_]) = .ok q'
    exact rebuild_append.mpr ⟨q, h.2, bind_ok_iff.mpr ⟨q', happly, rfl⟩⟩

theorem exact_sight : Sight ids floats Still (Exact ids floats) Current where
  grows h := ⟨h.1 ▸ List.prefix_rfl, h.2⟩
  read h hq := ⟨h.2, hq⟩
  rely h hsees := h.1 ▸ hsees
  own _ hsees hcommits _ _ happly := hsees.commit hcommits happly
  evident_none h := ⟨lastSequence_eq h.2, Evidence.none _⟩
  evident_rely h hevident := h.1 ▸ hevident
  evident_more hr hevident hid hcommits _ _ hlater := by
    rcases hcommits with ⟨hstored, rfl⟩ | ⟨-, rfl, rfl⟩
    · have hbound := PlanStore.seq_le_latest (List.mem_of_find?_eq_some hstored)
      have hsame := hevident.1
      unfold WorkLog.latestSequence at hsame
      omega
    · refine ⟨(hr.2.latest_append _).symm, hevident.2.more ?_⟩
      rw [hevident.1]
      exact admittedAt_append hr.2 hid

/-- A graph that was made from the log up to its head fits. -/
theorem graphMade_fits (hlog : log.Numbered) (hp : rebuild ids floats log.rows = .ok p)
    {call : PlanCall} {order : WorkOrder} {cursor : Nat} {proposal : PlanProposal}
    {graph : WorkGraph} (hmade : PlanStore.GraphMade ids floats log.rows call order cursor proposal
      graph log.latestSequence) :
    EventFits ids floats p (PlanStore.graphEvent call proposal graph) log.nextSequence := by
  obtain ⟨read, q, acceptedAt, hbefore, hq, horder, hproposal, hhead, hgraph⟩ := hmade
  obtain rfl := PlanStore.read_all hlog.increasing hlog.positive_rows hbefore hq hhead.symm
  cases hp.symm.trans hq
  have hlater : p.lastSequence < log.nextSequence := by
    rw [lastSequence_eq hp]
    exact hlog.latest_lt
  obtain ⟨available, hfits⟩ := PlanStore.graphEvent_fits (rebuild_sequenced hp) hlater horder
    hproposal hgraph
  exact ⟨_, .graph rfl hfits⟩

/-- **What a command has checked alone is accepted.** -/
theorem Checked.accepted {op : LogOp} (h : Checked ids floats (Exact ids floats) Current log op)
    (hlog : log.Numbered) (hp : rebuild ids floats log.rows = .ok p) :
    (kernel.state log op).Accepted ids floats := by
  have hsame : ∀ {q}, Exact ids floats q log → q = p := by
    intro q hq
    have heq := hq.2
    rw [hp] at heq
    exact (Except.ok.inj heq).symm
  refine accepted_state hlog hp fun event hop hnew => ?_
  cases h with
  | history => rcases hop with hop | hop <;> cases hop
  | @graph call order cursor proposal graph head hmade =>
    rcases hop with hop | hop <;> cases hop
    exact graphMade_fits hlog hp hmade
  | decision =>
    rcases hop with hop | hop <;> cases hop
    exact decisionEvent_fits _
  | @lease q graph node time found lease source hsees hgranted hungoverned hrefs =>
    rcases hop with hop | hop <;> cases hop
    obtain rfl := hsame hsees
    refine leaseEvent_fits (rebuild_ledger hp) hgranted ?_
    unfold validateInformationAccess
    rw [if_pos hungoverned]
    exact if_pos hrefs
  | @governedLease state graph node time found lease source hsees hgranted hgoverned hevident
      hcited =>
    obtain rfl : lease.toEvent source (WorkGraph.eventId graph.graphId) = event := by
      rcases hop with hop | hop
      · cases hop
      · exact (LogOp.emitIfHead.inj hop).1
    obtain rfl := hsame hsees
    refine leaseEvent_fits (rebuild_ledger hp) hgranted ?_
    obtain ⟨presence, estimates, hmatched⟩ := hgranted.matched
    exact hevident.2.valid hlog hp hgoverned hgranted.agent.1 hgranted.agent.2 hcited
      (hmatched.access hgoverned)
  | @expiration q lease source expiredAt reason event hsees hactive hevent =>
    rcases hop with hop | hop <;> cases hop
    obtain rfl := hsame hsees
    exact expirationEvent_fits
      (activeLease_some.mpr ⟨KeyedTable.find_of_mem hactive.1, hactive.2⟩) hevent
  | @invalidation q graph trigger source invalidatedAt reason event hsees hgraph hactive htrigger
      hevent =>
    rcases hop with hop | hop <;> cases hop
    obtain rfl := hsame hsees
    exact invalidationEvent_fits hgraph hactive
      (KeyedTable.find_of_mem ((mem_events hp trigger).mpr htrigger)) hevent

/-! ## Commands -/

section Alone

variable {α : Type} {Q : WorkLog → α → Prop} {event : WorkEvent}

/-- Alone on the log, the program leaves an accepted log behind each of its calls. -/
abbrev Replays (ids : WorkIds) (floats : FloatProduct) (program : CoordinatorProgram α)
    (Q : WorkLog → α → Prop) (log : WorkLog) : Prop :=
  program.Meets kernel Eq (fun log op => (kernel.state log op).Accepted ids floats) Q log

theorem replays_bind {β : Type} {x : CoordinatorProgram α} {f : α → CoordinatorProgram β}
    {Q : WorkLog → β → Prop} : Replays ids floats (x >>= f) Q log ↔
      Replays ids floats x (fun log a => Replays ids floats (f a) Q log) log :=
  meets_bind

theorem replays_ofExcept {x : Except PyError α} :
    Replays ids floats (Program.ofExcept x) Q log ↔ ∀ a, x = .ok a → Q log a :=
  meets_ofExcept

/-- What has been checked is accepted, call by call. -/
theorem Coordinator.Follows.alone {program : CoordinatorProgram α}
    (h : Coordinator.Follows ids floats Still (Exact ids floats) Current program Q log)
    (hlog : log.Numbered) (hp : rebuild ids floats log.rows = .ok p) :
    program.Meets kernel Eq
      (fun log op => Checked ids floats (Exact ids floats) Current log op ∧
        (kernel.state log op).Accepted ids floats) Q log := by
  have halone := Meets.alone (I := fun log => log.Numbered ∧ log.Accepted ids floats) h
    ⟨hlog, p, hp⟩ (fun _ h => h.1) ?_
  · refine (halone.weaken fun _ _ h => ?_).mono fun _ _ h => h.2
    exact ⟨h.1, h.2.2⟩
  · rintro log op ⟨hlog, p, hp⟩ hchecked
    exact ⟨hlog.state op, hchecked.accepted hlog hp⟩

theorem replays_of_follows {program : CoordinatorProgram α}
    (h : Coordinator.Follows ids floats Still (Exact ids floats) Current program
      (fun _ _ => True) log)
    (hlog : log.Numbered) (hp : rebuild ids floats log.rows = .ok p) :
    Replays ids floats program (fun _ _ => True) log :=
  (Coordinator.Follows.alone h hlog hp).weaken fun _ _ h => h.2

theorem reload_replays (hp : rebuild ids floats log.rows = .ok p)
    {Q : WorkLog → WorkProjection → Prop} :
    Replays ids floats (Coordinator.reload ids floats) Q log ↔ Q log p := by
  unfold Coordinator.reload
  rw [replays_bind]
  constructor
  · intro h
    exact replays_ofExcept.mp (h log rfl).2 p hp
  · rintro h _ rfl
    refine ⟨⟨p, hp⟩, replays_ofExcept.mpr fun q hq => ?_⟩
    cases hp.symm.trans hq
    exact h

/-- An emit, if nothing is left to ask of what follows. -/
theorem emit_replays (hlog : log.Numbered) (hp : rebuild ids floats log.rows = .ok p)
    {q : WorkProjection} {Q : WorkLog → WorkEvent × WorkProjection → Prop}
    (h : ∀ log' stored q', log.Commits event stored log' →
      { stored with sequence := none } = event → q.apply ids floats stored = .ok q' →
      log'.Accepted ids floats → Q log' (stored, q')) :
    Replays ids floats (Coordinator.emit ids floats q event) Q log ↔
      (log.stored? event.id).isSome = true ∨ EventFits ids floats p event log.nextSequence := by
  rw [← accepted_emit hlog hp]
  constructor
  · intro hmeets
    exact (hmeets log rfl).1
  · rintro haccepted _ rfl
    refine ⟨haccepted, ?_⟩
    show Meets _ _ _ _ (Coordinator.project ids floats q event _) _
    unfold Coordinator.project
    split
    · trivial
    · rename_i hsame
      refine replays_bind.mpr (replays_ofExcept.mpr fun q' hq' => ?_)
      exact h _ _ q' (log.commits_emit event) (not_not.mp hsame) hq' haccepted

/-- The records: an event is emitted and read back. -/
theorem recordEvent_replays (hlog : log.Numbered) (hp : rebuild ids floats log.rows = .ok p)
    {fromEvent : WorkEvent → Except PyError α} :
    Replays ids floats (Coordinator.recordEvent ids floats event fromEvent) (fun _ _ => True) log ↔
      (log.stored? event.id).isSome = true ∨ EventFits ids floats p event log.nextSequence := by
  unfold Coordinator.recordEvent
  rw [replays_bind, reload_replays hp, replays_bind]
  exact emit_replays hlog hp fun _ _ _ _ _ _ _ => replays_ofExcept.mpr fun _ _ => trivial

/-- A result that is dropped. -/
theorem dropped_replays {program : CoordinatorProgram α} :
    Replays ids floats (do let _ ← program) (fun _ _ => True) log ↔
      Replays ids floats program (fun _ _ => True) log := by
  rw [replays_bind]
  exact ⟨fun h => h.mono fun _ _ _ => trivial, fun h => h.mono fun _ _ _ => trivial⟩

end Alone

theorem stored_or_congr {id : String} {a b : Prop} (h : log.stored? id = none → (a ↔ b)) :
    (log.stored? id).isSome = true ∨ a ↔ (log.stored? id).isSome = true ∨ b :=
  or_congr_right' fun hnew => h (Option.not_isSome_iff_eq_none.mp hnew)

variable {coordinator : Coordinator}

/-- **`complete`**: the completion of an active lease. -/
theorem complete_replays (hlog : log.Numbered) (hp : rebuild ids floats log.rows = .ok p)
    {report : Coordinator.CompletionReport} {acceptedAt : Datetime} :
    Replays ids floats (coordinator.complete ids floats report acceptedAt) (fun _ _ => True) log ↔
      ∀ lease event, p.activeLease report.leaseId = some lease →
        (lease.fencingToken : Int) = report.fencingToken →
        lease.completionEvent coordinator.source acceptedAt report.artifactRefs
          report.reportedFinishedAt report.verificationPassed = .ok event →
        (log.stored? event.id).isSome = true ∨ Completable p lease report.verificationPassed := by
  unfold Coordinator.complete
  rw [replays_bind, reload_replays hp]
  cases hfind : p.activeLease report.leaseId with
  | none => exact iff_of_true trivial fun _ _ h => (nomatch h)
  | some lease =>
    have hid : lease.leaseId = report.leaseId := KeyedTable.find_key (activeLease_some.mp hfind).1
    dsimp only
    by_cases htoken : (lease.fencingToken : Int) = report.fencingToken
    · rw [if_neg (not_not.mpr htoken), replays_bind, replays_ofExcept]
      constructor
      · rintro h found event hfound - hevent
        cases hfound
        have hemit := h event hevent
        rw [replays_bind, emit_replays hlog hp] at hemit
        · rwa [completionEvent_fits (hid ▸ hfind) hevent] at hemit
        · intro log' stored q' _ _ _ _
          dsimp only
          split <;> trivial
      · intro h event hevent
        rw [replays_bind, emit_replays hlog hp]
        · rw [completionEvent_fits (hid ▸ hfind) hevent]
          exact h lease event rfl htoken hevent
        · intro log' stored q' _ _ _ _
          dsimp only
          split <;> trivial
    · rw [if_pos htoken]
      refine iff_of_true trivial fun found event hfound hsame _ => ?_
      cases hfound
      exact absurd hsame htoken

/-- **`plan`**: the proposal for an order. -/
theorem plan_replays (hlog : log.Numbered) (hp : rebuild ids floats log.rows = .ok p)
    {workOrderId : String} {propose : Coordinator.Planner} {clock : Nat → Datetime}
    {attempts : Nat} :
    Replays ids floats (coordinator.plan ids floats workOrderId propose clock attempts)
      (fun _ _ => True) log ↔
      ∀ order proposal, p.orders.find workOrderId = some order →
        propose order p.lastSequence (p.latestVersion workOrderId) p.currentCapabilityTypes =
          .ok proposal →
        (log.stored? (PlanProposal.eventId proposal.proposalId)).isSome = true ∨
          proposal.Canonical ids ∧ proposal.workOrderId = workOrderId := by
  unfold Coordinator.plan
  rw [replays_bind, reload_replays hp]
  cases horder : p.orders.find workOrderId with
  | none => exact iff_of_true trivial fun _ _ h => (nomatch h)
  | some order =>
    have hid : order.workOrderId = workOrderId := KeyedTable.find_key horder
    dsimp only
    rw [replays_bind, replays_ofExcept]
    have hrest : ∀ proposal, Replays ids floats (do
        let q ← Coordinator.reload ids floats
        let call := coordinator.planCall workOrderId
        let _ ← Coordinator.emit ids floats q (PlanStore.proposalEvent call order proposal)
        Coordinator.planLoop ids floats call order p.lastSequence proposal clock attempts)
        (fun _ _ => True) log ↔
        ((log.stored? (PlanProposal.eventId proposal.proposalId)).isSome = true ∨
          proposal.Canonical ids ∧ proposal.workOrderId = workOrderId) := by
      intro proposal
      rw [replays_bind, reload_replays hp, replays_bind, emit_replays hlog hp]
      · refine stored_or_congr fun hnew => ?_
        rw [proposalEvent_fits (hid ▸ horder) (proposal_fresh hp hnew), hid]
      · intro log' stored q' hcommits hsame happly haccepted
        obtain ⟨p', hp'⟩ := haccepted
        refine replays_of_follows (Coordinator.planLoop_follows exact_sight ?_ ?_ attempts)
          (hcommits.numbered hlog) hp'
        · exact ⟨log.rows, p, hcommits.grows, hp, horder⟩
        · exact ⟨stored, hcommits.mem, type_of_same hsame, payload_of_same hsame⟩
    constructor
    · rintro h found proposal hfound hpropose
      cases hfound
      exact (hrest proposal).mp (h proposal hpropose)
    · intro h proposal hpropose
      exact (hrest proposal).mpr (h order proposal rfl hpropose)

/-- What a command does not check before it emits: the ids and the places of records, and
the graph and the result of a completion. -/
def Command.Fits (ids : WorkIds) (log : WorkLog) (p : WorkProjection) (coordinator : Coordinator) :
    Command → Prop
  | recordWorkOrder order =>
    (log.stored? (WorkOrder.eventId order.workOrderId)).isSome = true ∨
      order.workOrderId = WorkOrder.canonicalId ids order.toOrderContent
  | recordPresence presence =>
    (log.stored? (AgentPresence.canonicalId ids presence)).isSome = true ∨
      (p.presence.find presence.agentId).all (fun current =>
        current.observedAt.instant ≤ presence.observedAt.instant) = true
  | recordManifest manifest =>
    (log.stored? (CapabilityManifest.eventId manifest.manifestId)).isSome = true ∨
      manifest.Canonical ids ∧ (p.manifests.find manifest.agentId).all (fun current =>
        current.recordedAt.instant ≤ manifest.recordedAt.instant) = true
  | recordCompetence estimate => estimate.basis = .seeded →
    (log.stored? (CompetenceEstimate.eventId estimate.estimateId)).isSome = true ∨
      estimate.estimateId = CompetenceEstimate.canonicalId ids estimate.toEstimateContent ∧
        (p.competence.find estimate.key).all (fun current =>
          current.estimatedAt.instant ≤ estimate.estimatedAt.instant) = true
  | plan workOrderId propose _ _ => ∀ order proposal, p.orders.find workOrderId = some order →
    propose order p.lastSequence (p.latestVersion workOrderId) p.currentCapabilityTypes =
      .ok proposal →
    (log.stored? (PlanProposal.eventId proposal.proposalId)).isSome = true ∨
      proposal.Canonical ids ∧ proposal.workOrderId = workOrderId
  | complete report acceptedAt => ∀ lease event, p.activeLease report.leaseId = some lease →
    (lease.fencingToken : Int) = report.fencingToken →
    lease.completionEvent coordinator.source acceptedAt report.artifactRefs
      report.reportedFinishedAt report.verificationPassed = .ok event →
    (log.stored? event.id).isSome = true ∨ Completable p lease report.verificationPassed
  | assignReady .. | recoverExpired .. | invalidateFor .. => True

/-- The log that nothing has been appended to. -/
def WorkLog.initial : WorkLog := ⟨[], 1⟩

/-- The log after a command has run. -/
def Command.run (ids : WorkIds) (floats : FloatProduct) (coordinator : Coordinator) (log : WorkLog)
    (command : Command) : WorkLog :=
  ((command.program ids floats coordinator).trace kernel log).getLastD log

def reviewCoordinator : Coordinator where
  validator := ⟨"validator", validator_named⟩
  evaluator := none
  leaseDuration := 10
  source := "coordinator"
  leaseDuration_pos := by decide
  source_nonblank := by decide

/-- Ada reports at the given time. -/
def adaReports (observedAt : Int) (h : observedAt < 100) : Command :=
  .recordPresence (reviewPresence "ada" 1 observedAt ada_named Nat.one_pos h)

/-- The log after a report. -/
def reportedLog : WorkLog :=
  Command.run reviewIds exactProduct reviewCoordinator .initial (adaReports 5 (by decide))

theorem reportedLog_numbered : reportedLog.Numbered := by
  have hinitial : WorkLog.initial.Numbered := ⟨.nil, fun _ h => (nomatch h), Nat.one_pos⟩
  have hrun : reportedLog = WorkLog.initial.append ((reviewPresence "ada" 1 5 (by decide) (by decide)
      (by decide)).toEvent reviewIds "coordinator") := rfl
  rw [hrun]
  exact hinitial.append _

end Noema
