import Mathlib.Data.List.Forall2
import Noema.MemoryIntervals
import Noema.MemoryKnowledgeTime

/-!
# Temporal insertion

The worker inserts each observation between the assertions that precede and follow it in its
memory.  However they arrive, over any number of wakes, the assertions divide valid time: each
ends where the next one starts.
-/
namespace Noema

open DividedLine

namespace Continuity

/-! ## Runs of the worker -/

/-- Digests tell apart what assertions are about, and when they start. -/
def TellApart (canon : CanonicalIds) : Prop :=
  ∀ content content' : AssertionContent, canon.assertion content = canon.assertion content' →
    content.subject = content'.subject ∧ content.predicate = content'.predicate ∧
      content.validFrom = content'.validFrom

/-- What is stored besides observations and their assertions: it asserts nothing and closes
nothing, and what it supersedes, a recorded assertion supersedes. -/
structure Aside (canon : CanonicalIds) (log : List MemoryEvent) (event : MemoryEvent) : Prop where
  apart : ∀ rest, event.id ≠ "fake-observation:" ++ rest ∧ event.id ≠ "memory-assertion:" ++ rest
  type : event.type ≠ .assertionRecorded ∧ event.type ≠ .validityClosed
  stated : ∀ p, MemoryProjection.rebuild canon log none = .ok p → ∀ transition,
    event.type = .assertionSuperseded →
    AssertionSupersession.fromEvent canon event = .ok transition →
    ∃ assertion ∈ p.assertions.rows, assertion.supersedes = some transition.priorAssertionRef ∧
      assertion.start = transition.effectiveAt.instant

/-- An observation is of a subject and predicate. -/
def FakeObservation.About (subject predicate : String) (observation : FakeObservation) : Prop :=
  observation.subject = subject ∧ observation.predicate = predicate

instance (subject predicate : String) : DecidablePred (FakeObservation.About subject predicate) :=
  fun _ => inferInstanceAs (Decidable (_ ∧ _))

/-- The worker records observations over any number of wakes, each no earlier than the one
before it.  Those of one subject and predicate are listed as they arrive. -/
inductive Records (w : ContinuityWorker) (subject predicate : String) :
    List FakeObservation → Wake → Prop
  | start (wokeAt : Datetime) (epochEventId : String) :
    Records w subject predicate [] ⟨[], .empty, wokeAt, epochEventId⟩
  | wake {observations s s' wokeAt epochEventId} (h : Records w subject predicate observations s)
      (hlater : s.wokeAt.instant ≤ wokeAt.instant)
      (hwake : w.wake s wokeAt epochEventId = .ok s') : Records w subject predicate observations s'
  | record {observations s s' state observation} (h : Records w subject predicate observations s)
      (hrecord : w.record s state observation = .ok s') :
    Records w subject predicate (observations ++
      [observation].filter fun observation => observation.About subject predicate) s'
  | aside {observations s event} (h : Records w subject predicate observations s)
      (haside : Aside w.canon s.log event) :
    Records w subject predicate observations { s with log := (emit s.log event).2 }

/-- What an assertion takes from an observation. -/
def Asserts (observation : FakeObservation) (assertion : SemanticAssertion) : Prop :=
  assertion.validFrom = observation.occurredAt ∧ assertion.value = observation.value ∧
    assertion.confidence = observation.confidence

/-- What a stored event is. -/
inductive Stored (canon : CanonicalIds) (subject predicate : String)
    (items : List SemanticAssertion) (event : MemoryEvent) : Prop
  | observation (rest : String) (hid : event.id = "fake-observation:" ++ rest)
      (htype : event.type.isMemory = false)
  | assertion (assertion : SemanticAssertion)
      (hid : event.id = "memory-assertion:" ++ assertion.assertionId)
      (htype : event.type = .assertionRecorded) (hpayload : event.payload = .assertion assertion)
      (hcanonical : assertion.assertionId = canon.assertion assertion.toAssertionContent)
      (hmem : assertion.About subject predicate → assertion ∈ items)
  | aside (hid : ∀ rest, event.id ≠ "fake-observation:" ++ rest ∧
      event.id ≠ "memory-assertion:" ++ rest)

/-- **The invariant**: the worker's memory and a memory rebuilt from the log hold the assertions
of the observations, which divide valid time. -/
structure Recording (w : ContinuityWorker) (subject predicate : String)
    (observations : List FakeObservation) (s : Wake) (items : List SemanticAssertion) : Prop where
  stored : ∀ event ∈ s.log, Stored w.canon subject predicate items event
  memory : s.memory.Holds w.canon subject predicate items
  rebuilt : ∀ p, MemoryProjection.rebuild w.canon s.log none = .ok p →
    p.Holds w.canon subject predicate items
  divided : Divided items SemanticAssertion.start (Ends items)
  known : ∀ a ∈ items, a.recordedAt.instant ≤ s.wokeAt.instant ∧ a.status = .active
  observed : List.Forall₂ Asserts observations items

variable {w : ContinuityWorker} {subject predicate : String} {s s' : Wake}
  {observations : List FakeObservation} {items : List SemanticAssertion}

/-! ## The log -/

theorem emit_cases (log : List MemoryEvent) (event : MemoryEvent) :
    (∃ existing ∈ log, existing.id = event.id ∧ emit log event = (existing, log)) ∨
    (∀ stored ∈ log, stored.id ≠ event.id) ∧
      emit log event = ({ event with sequence := some (log.length + 1) },
        log ++ [{ event with sequence := some (log.length + 1) }]) := by
  unfold emit
  cases hfind : log.find? fun stored => stored.id = event.id with
  | some existing =>
    exact .inl ⟨existing, List.mem_of_find?_eq_some hfind,
      by simpa using List.find?_some hfind, rfl⟩
  | none =>
    refine .inr ⟨fun stored hstored heq => ?_, rfl⟩
    exact absurd heq (by simpa using List.find?_eq_none.mp hfind stored hstored)

theorem rebuild_eq (canon : CanonicalIds) (log : List MemoryEvent) :
    MemoryProjection.rebuild canon log none = MemoryProjection.empty.applyAll canon log := by
  simp [MemoryProjection.rebuild]

/-- A log with one more event is rebuilt to the projection that the event is applied to. -/
theorem rebuild_append {canon : CanonicalIds} {log : List MemoryEvent} {event : MemoryEvent}
    {p : MemoryProjection} (h : MemoryProjection.rebuild canon (log ++ [event]) none = .ok p) :
    ∃ q derived, MemoryProjection.rebuild canon log none = .ok q ∧
      q.apply canon event none = .ok (p, derived) := by
  rw [rebuild_eq] at h
  obtain ⟨q, hq, hevent⟩ := MemoryProjection.applyAll_append h
  obtain ⟨⟨r, derived⟩, happly, hr⟩ := bind_eq_ok hevent
  cases hr
  exact ⟨q, derived, (rebuild_eq canon log).trans hq, happly⟩

/-- A wake replays the whole log. -/
theorem rebuild_cursor (canon : CanonicalIds) (log : List MemoryEvent) :
    MemoryProjection.rebuild canon log
      (some ((log.map fun event => event.sequence.getD 0).max?.getD 0)) =
      MemoryProjection.rebuild canon log none := by
  unfold MemoryProjection.rebuild
  congr 1
  rw [List.filter_eq_self.mpr, List.filter_eq_self.mpr]
  · exact fun event _ => rfl
  · intro event hevent
    have hmem := List.mem_map_of_mem (f := fun event : MemoryEvent => event.sequence.getD 0) hevent
    cases hmax : (log.map fun event => event.sequence.getD 0).max? with
    | none =>
      rw [List.max?_eq_none_iff.mp hmax] at hmem
      cases hmem
    | some greatest => exact decide_eq_true ((List.max?_eq_some_iff.mp hmax).2 _ hmem)

/-! ## Steps -/

theorem observation_ne_assertion (a b : String) :
    "fake-observation:" ++ a ≠ "memory-assertion:" ++ b := by
  intro h
  have hhead := congrArg (fun text : String => text.toList.head?) h
  simp [String.toList_append] at hhead

theorem assertionId_inj {a b : String} (h : "memory-assertion:" ++ a = "memory-assertion:" ++ b) :
    a = b := by
  have hlist := congrArg String.toList h
  rw [String.toList_append, String.toList_append] at hlist
  exact String.toList_injective (List.append_cancel_left hlist)

theorem Stored.mono {canon : CanonicalIds} {items' : List SemanticAssertion} {event : MemoryEvent}
    (h : Stored canon subject predicate items event) (hsub : items ⊆ items') :
    Stored canon subject predicate items' event := by
  cases h with
  | observation rest hid htype => exact .observation rest hid htype
  | assertion assertion hid htype hpayload hcanonical hmem =>
    exact .assertion assertion hid htype hpayload hcanonical fun habout => hsub (hmem habout)
  | aside hid => exact .aside hid

/-- The source event of an observation changes nothing that is held. -/
theorem Recording.source (h : Recording w subject predicate observations s items)
    {state : SourceState} {observation : FakeObservation} {memory : MemoryProjection}
    {derived : List MemoryEvent}
    (happly : s.memory.apply w.canon (emit s.log (w.observationEvent s state observation)).1 none =
      .ok (memory, derived)) :
    Recording w subject predicate observations
      { s with log := (emit s.log (w.observationEvent s state observation)).2, memory } items := by
  have hunread : ∀ event : MemoryEvent, event.type.isMemory = false →
      ∀ {p p' : MemoryProjection} {derived}, p.apply w.canon event none = .ok (p', derived) →
      p.Holds w.canon subject predicate items → p'.Holds w.canon subject predicate items := by
    intro event htype p p' derived happly hholds
    refine hholds.apply happly ?_ (fun transition hsuperseded => ?_) fun a => (or_iff_left ?_).symm
    · rintro heq
      rw [heq] at htype
      cases htype
    · rw [hsuperseded] at htype
      cases htype
    · rintro ⟨heq, -⟩
      rw [heq] at htype
      cases htype
  rcases emit_cases s.log (w.observationEvent s state observation) with
    ⟨existing, hmem, hid, hemit⟩ | ⟨hfresh, hemit⟩
  · rw [hemit] at happly ⊢
    have htype : existing.type.isMemory = false := by
      cases h.stored existing hmem with
      | observation rest hid htype => exact htype
      | assertion assertion hassertion =>
        exact absurd (hid.symm.trans hassertion) (observation_ne_assertion _ _)
      | aside hapart => exact absurd hid (hapart _).1
    exact { h with memory := hunread existing htype happly h.memory }
  · rw [hemit] at happly ⊢
    exact
      { h with
        memory := hunread _ rfl happly h.memory
        stored := by
          intro event hevent
          rcases List.mem_append.mp hevent with hevent | hevent
          · exact h.stored event hevent
          · rw [List.mem_singleton.mp hevent]
            exact .observation _ rfl rfl
        rebuilt := by
          intro p hp
          obtain ⟨q, derived, hq, happlied⟩ := rebuild_append hp
          exact hunread _ rfl happlied (h.rebuilt q hq) }

theorem create_ok {canon : CanonicalIds} {content : AssertionContent}
    {assertion : SemanticAssertion} (h : SemanticAssertion.create canon content = .ok assertion) :
    assertion.toAssertionContent = content ∧ assertion.assertionId = canon.assertion content := by
  obtain ⟨_, rfl⟩ := checkedBy_ok h
  exact ⟨rfl, rfl⟩

/-- What `record` does, step by step. -/
theorem record_ok {state : SourceState} {observation : FakeObservation}
    (h : w.record s state observation = .ok s') :
    ∃ memory derived neighbors freshUntil assertion memory' derived',
      s.memory.apply w.canon (emit s.log (w.observationEvent s state observation)).1 none =
        .ok (memory, derived) ∧
      memory.temporalNeighbors observation.subject observation.predicate observation.occurredAt
        s.wokeAt = .ok neighbors ∧
      SemanticAssertion.create w.canon (ContinuityWorker.observed s observation
        (emit s.log (w.observationEvent s state observation)).1 neighbors freshUntil) =
        .ok assertion ∧
      memory.apply w.canon (emit (emit s.log (w.observationEvent s state observation)).2
        (assertion.toEvent w.source)).1 none = .ok (memory', derived') ∧
      s' = { s with
        log := (emit (emit s.log (w.observationEvent s state observation)).2
          (assertion.toEvent w.source)).2
        memory := memory' } := by
  unfold ContinuityWorker.record at h
  obtain ⟨⟨memory, derived⟩, happly, h⟩ := bind_eq_ok h
  obtain ⟨neighbors, hneighbors, h⟩ := bind_eq_ok h
  obtain ⟨freshUntil, -, h⟩ := bind_eq_ok h
  obtain ⟨assertion, hcreate, h⟩ := bind_eq_ok h
  obtain ⟨⟨memory', derived'⟩, happly', h⟩ := bind_eq_ok h
  cases h
  exact ⟨memory, derived, neighbors, freshUntil, assertion, memory', derived', happly, hneighbors,
    hcreate, happly', rfl⟩

/-- An assertion's event is new, or the event that has its id asserts something of the same
subject and predicate from the same time. -/
theorem Recording.emit_assertion (h : Recording w subject predicate observations s items)
    (hapart : TellApart w.canon) {assertion : SemanticAssertion}
    (hcanonical : assertion.assertionId = w.canon.assertion assertion.toAssertionContent) :
    (∃ existing other, emit s.log (assertion.toEvent w.source) = (existing, s.log) ∧
      existing.type = .assertionRecorded ∧ existing.payload = .assertion other ∧
      other.subject = assertion.subject ∧ other.predicate = assertion.predicate ∧
      other.validFrom = assertion.validFrom ∧ (other.About subject predicate → other ∈ items)) ∨
    emit s.log (assertion.toEvent w.source) =
      ({ assertion.toEvent w.source with sequence := some (s.log.length + 1) },
        s.log ++ [{ assertion.toEvent w.source with sequence := some (s.log.length + 1) }]) := by
  rcases emit_cases s.log (assertion.toEvent w.source) with
    ⟨existing, hmem, hid, hemit⟩ | ⟨-, hemit⟩
  · refine .inl ⟨existing, ?_⟩
    cases h.stored existing hmem with
    | observation rest hobservation =>
      exact absurd (hobservation.symm.trans hid) (observation_ne_assertion _ _)
    | aside hapart => exact absurd hid (hapart _).2
    | assertion other hother htype hpayload hothers hitem =>
      have hsame := assertionId_inj (hother.symm.trans hid)
      rw [hothers, hcanonical] at hsame
      obtain ⟨hsubject, hpredicate, hstart⟩ := hapart _ _ hsame
      exact ⟨other, hemit, htype, hpayload, hsubject, hpredicate, hstart, hitem⟩
  · exact .inr hemit

/-- An event that asserts something else changes nothing that is held. -/
theorem holds_of_other {canon : CanonicalIds} {p p' : MemoryProjection} {event : MemoryEvent}
    {derived : List MemoryEvent} {other : SemanticAssertion}
    (hholds : p.Holds canon subject predicate items)
    (happly : p.apply canon event none = .ok (p', derived)) (htype : event.type = .assertionRecorded)
    (hpayload : event.payload = .assertion other) (hother : ¬other.About subject predicate) :
    p'.Holds canon subject predicate items := by
  refine hholds.apply happly (htype ▸ by decide) (fun transition hsuperseded => ?_)
    fun a => (or_iff_left ?_).symm
  · rw [htype] at hsuperseded
    cases hsuperseded
  · rintro ⟨-, hread, habout⟩
    rw [hpayload] at hread
    cases hread
    exact hother habout

/-- An assertion about something else changes nothing that is held. -/
theorem Recording.other (h : Recording w subject predicate observations s items)
    (hapart : TellApart w.canon) {assertion : SemanticAssertion} {memory : MemoryProjection}
    {derived : List MemoryEvent}
    (hcanonical : assertion.assertionId = w.canon.assertion assertion.toAssertionContent)
    (hother : ¬assertion.About subject predicate)
    (happly : s.memory.apply w.canon (emit s.log (assertion.toEvent w.source)).1 none =
      .ok (memory, derived)) :
    Recording w subject predicate observations
      { s with log := (emit s.log (assertion.toEvent w.source)).2, memory } items := by
  rcases h.emit_assertion hapart hcanonical with
    ⟨existing, other, hemit, htype, hpayload, hsubject, hpredicate, -, -⟩ | hemit
  · rw [hemit] at happly ⊢
    refine { h with memory := holds_of_other h.memory happly htype hpayload ?_ }
    rintro ⟨habout, habout'⟩
    exact hother ⟨hsubject.symm.trans habout, hpredicate.symm.trans habout'⟩
  · rw [hemit] at happly ⊢
    exact
      { h with
        memory := holds_of_other h.memory happly rfl rfl hother
        stored := by
          intro event hevent
          rcases List.mem_append.mp hevent with hevent | hevent
          · exact h.stored event hevent
          · rw [List.mem_singleton.mp hevent]
            exact .assertion assertion rfl rfl rfl hcanonical fun habout => absurd habout hother
        rebuilt := by
          intro p hp
          obtain ⟨q, derived, hq, happlied⟩ := rebuild_append hp
          exact holds_of_other (h.rebuilt q hq) happlied rfl rfl hother }

/-- **An assertion between its neighbors divides the line further.** -/
theorem Recording.divided_insert (h : Recording w subject predicate observations s items)
    (hapart : TellApart w.canon) {assertion : SemanticAssertion} {neighbors : TemporalNeighbors}
    (hcanonical : assertion.assertionId = w.canon.assertion assertion.toAssertionContent)
    (habout : assertion.About subject predicate)
    (hnew : ∀ a ∈ items, a.start ≠ assertion.start)
    (hpredecessor : ∀ a, neighbors.predecessor = some a ↔
      Before items SemanticAssertion.start a assertion.start)
    (hsuccessor : ∀ a, neighbors.successor = some a ↔
      After items SemanticAssertion.start a assertion.start)
    (hvalidTo : assertion.validTo = neighbors.successor.map (·.validFrom))
    (hsupersedes : assertion.supersedes =
      neighbors.predecessor.map (·.assertionId)) :
    Divided (items ++ [assertion]) SemanticAssertion.start (Ends (items ++ [assertion])) := by
  have hrow : ∀ a ∈ items, a ∈ s.memory.assertions.rows := fun a ha =>
    ((h.memory.mem_iff a).mp ha).1
  refine h.divided.insert hnew (fun a ha e => ?_) fun e => ?_
  · have hlast : (assertion.supersedes = some a.assertionId ∧ assertion.start = e) ↔
        Before items SemanticAssertion.start a assertion.start ∧ e = assertion.start := by
      rw [← hpredecessor, hsupersedes, Option.map_eq_some_iff, eq_comm (a := e)]
      refine and_congr_left fun _ => ⟨?_, fun heq => ⟨a, heq, rfl⟩⟩
      rintro ⟨b, hb, hid⟩
      have hbItem := ((hpredecessor b).mp hb).1
      have hfind := KeyedTable.find_of_mem (hrow b hbItem)
      rw [hid, KeyedTable.find_of_mem (hrow a ha)] at hfind
      cases hfind
      exact hb
    unfold Ends
    simp only [List.mem_append, List.mem_singleton, or_and_right, exists_or, exists_eq_left]
    rw [hlast, or_assoc]
  · have hnone : ∀ other ∈ items ++ [assertion],
        other.supersedes ≠ some assertion.assertionId := by
      intro other hother hself
      rcases List.mem_append.mp hother with hother | hother
      · -- What an item supersedes was recorded before the new assertion.
        obtain ⟨prior, hfind, -⟩ := h.memory.known other (hrow other hother) _ hself
        have hprior := KeyedTable.mem_of_find hfind
        have hid := h.memory.canonical prior hprior
        rw [KeyedTable.find_key hfind, hcanonical] at hid
        obtain ⟨hsubject, hpredicate, hstart⟩ := hapart _ _ hid
        refine hnew prior ((h.memory.mem_iff prior).mpr ⟨hprior, ?_, ?_⟩) ?_
        · exact hsubject.symm.trans habout.1
        · exact hpredicate.symm.trans habout.2
        · exact congrArg Datetime.instant hstart.symm
      · rw [List.mem_singleton.mp hother] at hself
        exact (assertion.supersedes_ne _ hself).2 rfl
    have hends : Ends (items ++ [assertion]) assertion e ↔
        ∃ validTo ∈ assertion.validTo, validTo.instant = e := by
      refine or_iff_left ?_
      rintro ⟨other, hother, hself, -⟩
      exact hnone other hother hself
    rw [hends, hvalidTo]
    constructor
    · rintro ⟨validTo, hmem, rfl⟩
      obtain ⟨successor, hfound, rfl⟩ := Option.map_eq_some_iff.mp (Option.mem_def.mp hmem)
      exact ⟨successor, (hsuccessor successor).mp hfound, rfl⟩
    · rintro ⟨successor, hafter, rfl⟩
      exact ⟨successor.validFrom, Option.mem_def.mpr
        (Option.map_eq_some_iff.mpr ⟨successor, (hsuccessor successor).mpr hafter, rfl⟩), rfl⟩

/-- An assertion of a new observation is held. -/
theorem Recording.insert (h : Recording w subject predicate observations s items)
    (hapart : TellApart w.canon) {observation : FakeObservation} {assertion : SemanticAssertion}
    {memory : MemoryProjection} {derived : List MemoryEvent}
    (hcanonical : assertion.assertionId = w.canon.assertion assertion.toAssertionContent)
    (habout : assertion.About subject predicate) (hasserts : Asserts observation assertion)
    (hrecorded : assertion.recordedAt = s.wokeAt) (hactive : assertion.status = .active)
    (hnew : ∀ a ∈ items, a.start ≠ assertion.start)
    (hdivided : Divided (items ++ [assertion]) SemanticAssertion.start
      (Ends (items ++ [assertion])))
    (happly : s.memory.apply w.canon (emit s.log (assertion.toEvent w.source)).1 none =
      .ok (memory, derived)) :
    Recording w subject predicate (observations ++ [observation])
      { s with log := (emit s.log (assertion.toEvent w.source)).2, memory }
      (items ++ [assertion]) := by
  have hadded : ∀ {event : MemoryEvent}, event.type = .assertionRecorded →
      event.payload = .assertion assertion → ∀ {p p' : MemoryProjection} {derived},
      p.apply w.canon event none = .ok (p', derived) →
      p.Holds w.canon subject predicate items →
      p'.Holds w.canon subject predicate (items ++ [assertion]) := by
    intro event htype hpayload p p' derived happly hholds
    refine hholds.apply happly (htype ▸ by decide) (fun transition hsuperseded => ?_) fun a => ?_
    · rw [htype] at hsuperseded
      cases hsuperseded
    · rw [List.mem_append, List.mem_singleton, hpayload, MemoryPayload.assertion.injEq,
        and_iff_right htype]
      refine or_congr_right ⟨?_, fun heq => heq.1.symm⟩
      rintro rfl
      exact ⟨rfl, habout⟩
  rcases h.emit_assertion hapart hcanonical with
    ⟨existing, other, -, -, -, hsubject, hpredicate, hstart, hitem⟩ | hemit
  · refine absurd (congrArg Datetime.instant hstart) (hnew other (hitem ⟨?_, ?_⟩))
    · exact hsubject.trans habout.1
    · exact hpredicate.trans habout.2
  · rw [hemit] at happly ⊢
    exact
      { memory := hadded rfl rfl happly h.memory
        divided := hdivided
        stored := by
          intro event hevent
          rcases List.mem_append.mp hevent with hevent | hevent
          · exact (h.stored event hevent).mono (List.subset_append_left _ _)
          · rw [List.mem_singleton.mp hevent]
            exact .assertion assertion rfl rfl rfl hcanonical fun _ =>
              List.mem_append_right _ List.mem_cons_self
        rebuilt := by
          intro p hp
          obtain ⟨q, derived, hq, happlied⟩ := rebuild_append hp
          exact hadded rfl rfl happlied (h.rebuilt q hq)
        known := by
          intro a ha
          rcases List.mem_append.mp ha with ha | ha
          · exact h.known a ha
          · rw [List.mem_singleton.mp ha]
            exact ⟨hrecorded ▸ le_rfl, hactive⟩
        observed := List.rel_append h.observed (.cons hasserts .nil) }

theorem exists_of_mem_right {α β : Type} {R : α → β → Prop} {l : List α} {l' : List β}
    (h : List.Forall₂ R l l') {b : β} (hb : b ∈ l') : ∃ a ∈ l, R a b := by
  induction h with
  | nil => cases hb
  | cons hab _ ih =>
    rcases List.mem_cons.mp hb with rfl | hb
    · exact ⟨_, List.mem_cons_self, hab⟩
    · obtain ⟨a, ha, hR⟩ := ih hb
      exact ⟨a, List.mem_cons_of_mem _ ha, hR⟩

theorem Recording.starts_eq (h : Recording w subject predicate observations s items) :
    (observations.map fun o => o.occurredAt.instant) = items.map SemanticAssertion.start := by
  have hstarts : List.Forall₂ (· = ·) (observations.map fun o => o.occurredAt.instant)
      (items.map SemanticAssertion.start) := by
    rw [List.forall₂_map_left_iff, List.forall₂_map_right_iff]
    exact h.observed.imp fun o a hasserts => congrArg Datetime.instant hasserts.1.symm
  rwa [List.forall₂_eq_eq_eq] at hstarts

/-- **Recording an observation keeps the invariant.** -/
theorem Recording.record (h : Recording w subject predicate observations s items)
    (hapart : TellApart w.canon) {state : SourceState} {observation : FakeObservation}
    (hrecord : w.record s state observation = .ok s')
    (hdistinct : ((observations ++ [observation].filter fun observation =>
      observation.About subject predicate).map fun o => o.occurredAt.instant).Nodup) :
    ∃ items', Recording w subject predicate (observations ++ [observation].filter fun observation =>
      observation.About subject predicate) s' items' := by
  obtain ⟨memory, derived, neighbors, freshUntil, assertion, memory', derived', happly,
    hneighbors, hcreate, happly', rfl⟩ := record_ok hrecord
  obtain ⟨hcontent, hid⟩ := create_ok hcreate
  rw [← hcontent] at hid
  have hsource := h.source happly
  by_cases habout : observation.About subject predicate
  · have hlist : ([observation].filter fun observation =>
        observation.About subject predicate) = [observation] := by simp [habout]
    rw [hlist] at hdistinct ⊢
    obtain ⟨rfl, rfl⟩ := habout
    have hstart : assertion.start = observation.occurredAt.instant := by
      rw [SemanticAssertion.start, hcontent]
      rfl
    have hnew : ∀ a ∈ items, a.start ≠ observation.occurredAt.instant := by
      intro a ha heq
      rw [List.map_append, List.nodup_append, h.starts_eq] at hdistinct
      exact hdistinct.2.2 _ (List.mem_map_of_mem ha) _ List.mem_cons_self heq
    obtain ⟨found, hfound, hunambiguous, hpredecessor, hsuccessor⟩ :=
      MemoryProjection.temporalNeighbors_ok hsource.memory hsource.known hsource.divided
        observation.texts.2 hnew
    cases hfound.symm.trans hneighbors
    have hsupersedes : assertion.supersedes = neighbors.predecessor.map (·.assertionId) := by
      rw [hcontent]
      unfold ContinuityWorker.observed
      dsimp only
      rw [hunambiguous]
      cases hprior : neighbors.predecessor <;> rfl
    rw [← hstart] at hnew hpredecessor hsuccessor
    refine ⟨items ++ [assertion], hsource.insert hapart hid ?_ ?_ ?_ ?_ hnew
      (hsource.divided_insert hapart hid ?_ hnew hpredecessor hsuccessor ?_ hsupersedes) happly'⟩
    · unfold SemanticAssertion.About
      rw [hcontent]
      exact ⟨rfl, rfl⟩
    · unfold Asserts
      rw [hcontent]
      exact ⟨rfl, rfl, rfl⟩
    · rw [hcontent]
      rfl
    · rw [hcontent]
      rfl
    · unfold SemanticAssertion.About
      rw [hcontent]
      exact ⟨rfl, rfl⟩
    · rw [hcontent]
      rfl
  · have hlist : ([observation].filter fun observation =>
        observation.About subject predicate) = [] := by simp [habout]
    rw [hlist, List.append_nil]
    refine ⟨items, hsource.other hapart hid ?_ happly'⟩
    unfold SemanticAssertion.About
    rw [hcontent]
    exact habout

/-- **Every run keeps the invariant**, as long as no two observations occur at one time. -/
theorem Records.recording (h : Records w subject predicate observations s)
    (hapart : TellApart w.canon)
    (hdistinct : (observations.map fun o => o.occurredAt.instant).Nodup) :
    ∃ items, Recording w subject predicate observations s items := by
  induction h with
  | start wokeAt epochEventId =>
    have hempty : MemoryProjection.Holds w.canon .empty subject predicate [] :=
      { mem_iff := fun a => by simp [MemoryProjection.empty, KeyedTable.empty]
        unclosed := rfl
        stated := fun _ hmem => absurd hmem List.not_mem_nil
        known := fun _ hmem => absurd hmem List.not_mem_nil
        canonical := fun _ hmem => absurd hmem List.not_mem_nil
        applied := fun _ hmem => absurd hmem List.not_mem_nil }
    refine ⟨[],
      { stored := fun _ hmem => absurd hmem List.not_mem_nil
        memory := hempty
        rebuilt := fun p hp => ?_
        divided := ⟨?_, ?_, ?_, ?_⟩
        known := fun _ hmem => absurd hmem List.not_mem_nil
        observed := .nil }⟩
    · cases hp
      exact hempty
    all_goals exact fun _ hmem => absurd hmem List.not_mem_nil
  | wake _ hlater hwake ih =>
    obtain ⟨items, hrecording⟩ := ih hdistinct
    obtain ⟨memory, hmemory, hwake⟩ := bind_eq_ok hwake
    cases hwake
    rw [rebuild_cursor] at hmemory
    exact ⟨items, { hrecording with
      memory := hrecording.rebuilt memory hmemory
      known := fun a ha => ⟨(hrecording.known a ha).1.trans hlater, (hrecording.known a ha).2⟩ }⟩
  | record _ hrecord ih =>
    have hbefore := hdistinct
    rw [List.map_append] at hbefore
    obtain ⟨items, hrecording⟩ := ih (List.nodup_append.mp hbefore).1
    exact hrecording.record hapart hrecord hdistinct
  | @aside observations s event _ haside ih =>
    obtain ⟨items, hrecording⟩ := ih hdistinct
    refine ⟨items, ?_⟩
    rcases emit_cases s.log event with ⟨existing, -, -, hemit⟩ | ⟨-, hemit⟩
    · rw [hemit]
      exact { hrecording with }
    · rw [hemit]
      exact { hrecording with
        stored := by
          intro stored hstored
          rcases List.mem_append.mp hstored with hstored | hstored
          · exact hrecording.stored stored hstored
          · rw [List.mem_singleton.mp hstored]
            exact .aside haside.apart
        rebuilt := by
          intro p hp
          obtain ⟨q, derived, hq, happlied⟩ := rebuild_append hp
          refine (hrecording.rebuilt q hq).apply happlied haside.type.2
            (haside.stated q hq) fun a => (or_iff_left fun hread => ?_).symm
          exact haside.type.1 hread.1 }

end Continuity

end Noema
