import Noema.Lib.PrefixCode
import Noema.TemporalInsertion

/-!
# The order of arrival

However observations arrive, each is visible from when it occurred until the next one occurred.
So the order of arrival does not matter to what is believed in the end.
-/
namespace Noema

open DividedLine

namespace MemoryProjection

variable {canon : CanonicalIds} {p p' : MemoryProjection} {subject predicate : String}
  {assertion : SemanticAssertion} {event : MemoryEvent}

/-! ## Contradictions -/

/-- A contradiction is between two assertions. -/
def BetweenTwo (p : MemoryProjection) : Prop :=
  ∀ contradiction ∈ p.contradictions.rows,
    contradiction.assertionRefs.1 ≠ contradiction.assertionRefs.2

theorem fromDetection_refs {contradiction : MemoryContradiction}
    (h : MemoryContradiction.fromDetection canon event = .ok contradiction) :
    contradiction.assertionRefs.1 ≠ contradiction.assertionRefs.2 := by
  unfold MemoryContradiction.fromDetection at h
  split at h
  · cases h
  · split at h
    · split at h
      · cases h
      · obtain ⟨detected, hdetect, h⟩ := bind_eq_ok h
        split_ifs at h
        cases h
        unfold MemoryContradiction.detect at hdetect
        dsimp only at hdetect
        split_ifs at hdetect with hrefs
        cases hdetect
        exact fun heq => hrefs (.inl heq)
    · cases h
    · cases h

theorem BetweenTwo.recorded (hrecorded : Recorded canon p event p') (h : p.BetweenTwo) :
    p'.BetweenTwo := by
  cases hrecorded with
  | nothing | assertion | evidence | supersession | closure => exact h
  | detection htype hread hleft hright hstored =>
    intro c hc
    rcases (KeyedTable.mem_insertOnce hstored).mp hc with hc | rfl
    · exact h c hc
    · exact fromDetection_refs hread
  | resolution htype hread hfind htime hresolve hsame =>
    intro c hc
    rcases KeyedTable.mem_put.mp hc with rfl | ⟨hc, -⟩
    · have hexisting := h _ (KeyedTable.mem_of_find hfind)
      rw [MemoryContradiction.resolve_ok hresolve]
      exact hexisting
    · exact h c hc

theorem BetweenTwo.applyAll : ∀ {events : List MemoryEvent} {p : MemoryProjection},
    p.applyAll canon events = .ok p' → p.BetweenTwo → p'.BetweenTwo := by
  intro events
  induction events with
  | nil =>
    intro p h hp
    cases h
    exact hp
  | cons event events ih =>
    intro p h hp
    obtain ⟨⟨q, derived⟩, happly, h⟩ := bind_eq_ok h
    obtain ⟨episodes, -, hrecorded⟩ := apply_recorded happly
    exact ih h (BetweenTwo.recorded hrecorded hp)

/-- At most one assertion does not contradict itself. -/
theorem BetweenTwo.visibleContradictions_eq (h : p.BetweenTwo) {assertions : List SemanticAssertion}
    (hone : assertions.length ≤ 1) (k : Datetime) :
    p.visibleContradictions assertions k = [] := by
  unfold visibleContradictions
  rw [List.filter_eq_nil_iff]
  intro contradiction hmem
  have hrefs := h contradiction (KeyedTable.mem_sorted.mp (List.mem_filter.mp hmem).1)
  rw [decide_eq_true_iff]
  rintro ⟨hleft, hright⟩
  match assertions with
  | [] => cases hleft
  | [a] =>
    rw [List.map_singleton, List.mem_singleton] at hleft hright
    exact hrefs (hleft.trans hright.symm)
  | a :: b :: rest =>
    rw [List.length_cons, List.length_cons] at hone
    omega

/-- What is believed of one visible assertion. -/
theorem BetweenTwo.belief_held (h : p.BetweenTwo) {k t : Datetime}
    (hone : ((p.visibleAssertions t k false true).filter fun assertion =>
      assertion.subject = subject ∧ assertion.predicate = predicate) = [assertion]) :
    (p.belief subject predicate t k true).disposition = .held ∧
      (p.belief subject predicate t k true).value = assertion.value ∧
      (p.belief subject predicate t k true).maxAssertionConfidence = assertion.confidence := by
  unfold belief
  dsimp only
  rw [hone, h.visibleContradictions_eq le_rfl]
  exact ⟨rfl, rfl, rfl⟩

/-- What is believed if nothing is visible. -/
theorem BetweenTwo.belief_unknown (h : p.BetweenTwo) {k t : Datetime}
    (hnone : ((p.visibleAssertions t k false true).filter fun assertion =>
      assertion.subject = subject ∧ assertion.predicate = predicate) = []) :
    (p.belief subject predicate t k true).disposition = .unknown ∧
      (p.belief subject predicate t k true).value = .null ∧
      (p.belief subject predicate t k true).maxAssertionConfidence = 0 := by
  have hone : ([] : List SemanticAssertion).length ≤ 1 := Nat.zero_le 1
  unfold belief
  dsimp only
  rw [hnone, h.visibleContradictions_eq hone]
  exact ⟨rfl, rfl, rfl⟩

end MemoryProjection

namespace Continuity

variable {w : ContinuityWorker} {subject predicate : String} {s s' : Wake}
  {observations : List FakeObservation} {items : List SemanticAssertion}

/-! ## Beliefs -/

/-- What is believed. -/
def believed (belief : BeliefState) : BeliefDisposition × JSONScalar × ℚ :=
  (belief.disposition, belief.value, belief.maxAssertionConfidence)

/-- An observation is the latest that has occurred. -/
def Latest (observations : List FakeObservation) (t : Datetime) (observation : FakeObservation) :
    Prop :=
  observation ∈ observations ∧ observation.occurredAt.instant ≤ t.instant ∧
    ∀ other ∈ observations, other.occurredAt.instant ≤ t.instant →
      other.occurredAt.instant ≤ observation.occurredAt.instant

section Beliefs

variable {p : MemoryProjection} {k : Datetime}

/-- The visible assertions of the subject and predicate are those that cover the time. -/
theorem mem_visible (h : Recording w subject predicate observations s items)
    (hp : MemoryProjection.rebuild w.canon s.log none = .ok p)
    (hk : s.wokeAt.instant ≤ k.instant) (t : Datetime) (a : SemanticAssertion) :
    a ∈ ((p.visibleAssertions t k false true).filter fun assertion =>
      assertion.subject = subject ∧ assertion.predicate = predicate) ↔
      a ∈ items ∧ Covers SemanticAssertion.start (Ends items) a t.instant := by
  have hholds := h.rebuilt p hp
  have hknown : ∀ a ∈ items, a.recordedAt.instant ≤ k.instant ∧ a.status = .active :=
    fun a ha => ⟨(h.known a ha).1.trans hk, (h.known a ha).2⟩
  rw [List.mem_filter, decide_eq_true_iff, MemoryProjection.visibleAssertions,
    List.mem_insertionSort, List.mem_filter, Bool.and_eq_true, Bool.false_or, decide_eq_true_iff]
  constructor
  · rintro ⟨⟨hrow, hvisible, -⟩, habout⟩
    have hmem := (hholds.mem_iff a).mpr ⟨hrow, habout⟩
    exact ⟨hmem, (MemoryProjection.visible_iff hholds hknown hmem).mp hvisible⟩
  · rintro ⟨hmem, hcovers⟩
    obtain ⟨hrow, habout⟩ := (hholds.mem_iff a).mp hmem
    exact ⟨⟨hrow, (MemoryProjection.visible_iff hholds hknown hmem).mpr hcovers,
      (hknown a hmem).2⟩, habout⟩

/-- **What is visible is the latest that occurred**, and nothing before the earliest. -/
theorem visible_eq (h : Recording w subject predicate observations s items)
    (hp : MemoryProjection.rebuild w.canon s.log none = .ok p)
    (hk : s.wokeAt.instant ≤ k.instant) (t : Datetime) :
    (∃ observation, Latest observations t observation ∧ ∃ assertion, Asserts observation assertion ∧
      ((p.visibleAssertions t k false true).filter fun assertion =>
        assertion.subject = subject ∧ assertion.predicate = predicate) = [assertion]) ∨
    (∀ observation ∈ observations, t.instant < observation.occurredAt.instant) ∧
      ((p.visibleAssertions t k false true).filter fun assertion =>
        assertion.subject = subject ∧ assertion.predicate = predicate) = [] := by
  have hvisible := mem_visible h hp hk t
  have hstart : ∀ o ∈ observations, ∃ a ∈ items, a.start = o.occurredAt.instant := by
    intro o ho
    have hmem := List.mem_map_of_mem (f := fun o : FakeObservation => o.occurredAt.instant) ho
    rw [h.starts_eq] at hmem
    exact List.mem_map.mp hmem
  by_cases hsome : ∃ a ∈ items, a.start ≤ t.instant
  · left
    obtain ⟨a, ha, hstarted, hlatest⟩ := exists_latest hsome
    have hcovers := (covers_iff h.divided ha).mpr ⟨hstarted, hlatest⟩
    obtain ⟨o, ho, hasserts⟩ := exists_of_mem_right h.observed ha
    have hoccurred : o.occurredAt.instant = a.start := congrArg Datetime.instant hasserts.1.symm
    refine ⟨o, ⟨ho, hoccurred ▸ hstarted, fun other hother hbefore => ?_⟩, a, hasserts,
      eq_singleton_of_nodup ?_ fun b => ?_⟩
    · obtain ⟨b, hb, hbstart⟩ := hstart other hother
      rw [hoccurred, ← hbstart]
      exact hlatest b hb (hbstart ▸ hbefore)
    · refine List.Nodup.filter _ ?_
      exact (List.perm_insertionSort _ _).nodup_iff.mpr
        ((List.Nodup.of_map _ p.assertions.unique).filter _)
    · rw [hvisible]
      constructor
      · rintro ⟨hb, hbcovers⟩
        exact covers_unique h.divided hb ha hbcovers hcovers
      · rintro rfl
        exact ⟨ha, hcovers⟩
  · right
    refine ⟨fun o ho => not_le.mp fun hle => ?_, List.eq_nil_iff_forall_not_mem.mpr fun a ha => ?_⟩
    · obtain ⟨a, ha, hstarts⟩ := hstart o ho
      exact hsome ⟨a, ha, hstarts ▸ hle⟩
    · obtain ⟨hmem, hcovers⟩ := (hvisible a).mp ha
      exact hsome ⟨a, hmem, hcovers.1⟩

/-- What is believed is what the latest observation said. -/
theorem believed_eq (h : Recording w subject predicate observations s items)
    (hp : MemoryProjection.rebuild w.canon s.log none = .ok p)
    (hk : s.wokeAt.instant ≤ k.instant) (t : Datetime) :
    (∃ observation, Latest observations t observation ∧
      believed (p.belief subject predicate t k true) =
        (.held, observation.value, observation.confidence)) ∨
    (∀ observation ∈ observations, t.instant < observation.occurredAt.instant) ∧
      believed (p.belief subject predicate t k true) = (.unknown, .null, 0) := by
  have hbetween : p.BetweenTwo := by
    rw [rebuild_eq] at hp
    exact MemoryProjection.BetweenTwo.applyAll hp fun _ hmem => nomatch hmem
  rcases visible_eq h hp hk t with ⟨o, hlatest, a, hasserts, hone⟩ | ⟨hnone, hnil⟩
  · obtain ⟨hheld, hvalue, hconfidence⟩ := hbetween.belief_held hone
    refine .inl ⟨o, hlatest, ?_⟩
    rw [believed, hheld, hvalue, hconfidence, hasserts.2.1, hasserts.2.2]
  · obtain ⟨hunknown, hvalue, hconfidence⟩ := hbetween.belief_unknown hnil
    refine .inr ⟨hnone, ?_⟩
    rw [believed, hunknown, hvalue, hconfidence]

end Beliefs

/-- **Temporal insertion does not depend on the order of arrival.**  However a worker records
some observations of a subject and predicate, at distinct times, the visible assertion is that
of the latest one that has occurred; so what is believed is the same for all orders. -/
theorem insertion_order_free (hapart : TellApart w.canon) {s s' : Wake}
    {observations observations' : List FakeObservation}
    (h : Records w subject predicate observations s)
    (h' : Records w subject predicate observations' s') (hperm : observations.Perm observations')
    (hdistinct : (observations.map fun o => o.occurredAt.instant).Nodup) {p p' : MemoryProjection}
    (hp : MemoryProjection.rebuild w.canon s.log none = .ok p)
    (hp' : MemoryProjection.rebuild w.canon s'.log none = .ok p') {k k' : Datetime}
    (hk : s.wokeAt.instant ≤ k.instant) (hk' : s'.wokeAt.instant ≤ k'.instant) (t : Datetime) :
    ((∃ observation ∈ observations, observation.occurredAt.instant ≤ t.instant) →
      ∃ latest, Latest observations t latest ∧ ∃ assertion, Asserts latest assertion ∧
        ((p.visibleAssertions t k false true).filter fun assertion =>
          assertion.subject = subject ∧ assertion.predicate = predicate) = [assertion]) ∧
    believed (p.belief subject predicate t k true) =
      believed (p'.belief subject predicate t k' true) := by
  obtain ⟨items, hrecording⟩ := h.recording hapart hdistinct
  obtain ⟨items', hrecording'⟩ := h'.recording hapart ((hperm.map _).nodup_iff.mp hdistinct)
  constructor
  · rintro ⟨o, ho, hoccurred⟩
    rcases visible_eq hrecording hp hk t with hone | ⟨hnone, -⟩
    · exact hone
    · exact absurd (hnone o ho) (not_lt.mpr hoccurred)
  · rcases believed_eq hrecording hp hk t with ⟨o, hlatest, hbelieved⟩ | ⟨hnone, hbelieved⟩ <;>
      rcases believed_eq hrecording' hp' hk' t with
        ⟨o', hlatest', hbelieved'⟩ | ⟨hnone', hbelieved'⟩
    · have ho' := hperm.mem_iff.mpr hlatest'.1
      have htime : o.occurredAt.instant = o'.occurredAt.instant :=
        le_antisymm (hlatest'.2.2 o (hperm.mem_iff.mp hlatest.1) hlatest.2.1)
          (hlatest.2.2 o' ho' hlatest'.2.1)
      rw [hbelieved, hbelieved', List.inj_on_of_nodup_map hdistinct hlatest.1 ho' htime]
    · exact absurd (hnone' o (hperm.mem_iff.mp hlatest.1)) (not_lt.mpr hlatest.2.1)
    · exact absurd (hnone o' (hperm.mem_iff.mpr hlatest'.1)) (not_lt.mpr hlatest'.2.1)
    · rw [hbelieved, hbelieved']

/-! ### A door that two sources report on -/

/-- Ids that spell out the key and the start of an assertion. -/
def spelledIds : CanonicalIds where
  assertion content := String.ofList ("assertion:".toList ++
    (PrefixCode.textCode content.subject ++ (PrefixCode.textCode content.predicate ++
      (PrefixCode.intCode content.validFrom.instant ++
        PrefixCode.intCode content.validFrom.utcOffset))))
  evidence _ := "evidence"
  supersession _ := "supersession"
  closure _ := "closure"
  contradiction refs := "contradiction:" ++ refs.1 ++ refs.2
  resolution _ := "resolution"

theorem spelledIds_tellApart : TellApart spelledIds := by
  intro content content' h
  have hcodes := List.append_cancel_left (String.ofList_injective h)
  obtain ⟨hsubject, hcodes⟩ := PrefixCode.textCode_prefixFree hcodes
  obtain ⟨hpredicate, hcodes⟩ := PrefixCode.textCode_prefixFree hcodes
  obtain ⟨hinstant, hoffset⟩ := PrefixCode.intCode_prefixFree hcodes
  refine ⟨hsubject, hpredicate, ?_⟩
  have hutcOffset := PrefixCode.intCode_prefixFree.injective hoffset
  cases hstart : content.validFrom
  cases hstart' : content'.validFrom
  rw [hstart, hstart'] at hinstant hutcOffset
  exact congr (congrArg Datetime.mk hinstant) hutcOffset

/-- A worker that takes what it observes to be fresh for a minute. -/
def doorWorker : ContinuityWorker where
  canon := spelledIds
  source := "continuity"
  freshUntil observedAt _ := .ok (.utc (observedAt.instant + 60))
  payload _ observation := observation.cursor

/-- A camera at the door. -/
def camera : SourceState where
  sourceId := "camera"
  domain := "home"
  lastObservedAt := .utc 0
  lastCursor := none
  changeHazard := 1
  confidence := 1
  refreshCost := 1
  capturedAt := .utc 0
  texts := by decide
  captured := le_rfl
  cursor := by simp
  changeHazard_nonneg := zero_le_one
  confidence_unit := one_unit
  refreshCost_nonneg := zero_le_one

/-- The door opens, and is shut later. -/
def seen (cursor value : String) (time : Int) (text : blank cursor = false) : FakeObservation where
  cursor := cursor
  occurredAt := .utc time
  subject := "door"
  predicate := "state"
  value := .str value
  confidence := 1
  texts := ⟨text, by decide⟩
  confidence_unit := one_unit

def opened : FakeObservation := seen "1" "open" 1 (by decide)

def shut : FakeObservation := seen "2" "shut" 2 (by decide)

/-- A wake once an observation is recorded. -/
def recorded (s : Wake) (observation : FakeObservation) : Wake :=
  match doorWorker.record s camera observation with
  | .ok s' => s'
  | .error _ => s

/-- The next wake. -/
def woken (s : Wake) : Wake :=
  match doorWorker.wake s (.utc 7) "next" with
  | .ok s' => s'
  | .error _ => s

def firstWake : Wake := ⟨[], .empty, .utc 5, "first"⟩

/-- Both observations in one wake, in the order in which they occurred. -/
def inOrder : Wake := recorded (recorded firstWake opened) shut

/-- The earlier observation arrives in the next wake. -/
def outOfOrder : Wake := recorded (woken (recorded firstWake shut)) opened

theorem records_recorded (observation : FakeObservation) {s : Wake}
    {observations : List FakeObservation} (h : Records doorWorker "door" "state" observations s)
    (hrecorded : (doorWorker.record s camera observation).isOk = true)
    (habout : observation.About "door" "state") :
    Records doorWorker "door" "state" (observations ++ [observation]) (recorded s observation) := by
  obtain ⟨s', hs'⟩ := ok_of_isOk hrecorded
  have hlist : ([observation].filter fun observation => observation.About "door" "state") =
      [observation] := by simp [habout]
  rw [recorded, hs', ← hlist]
  exact .record h hs'

theorem inOrder_records : Records doorWorker "door" "state" [opened, shut] inOrder := by
  have hopened : Records doorWorker "door" "state" [opened] (recorded firstWake opened) :=
    records_recorded opened (.start (.utc 5) "first") (by decide +kernel) ⟨rfl, rfl⟩
  exact records_recorded shut hopened (by decide +kernel) ⟨rfl, rfl⟩

theorem outOfOrder_records : Records doorWorker "door" "state" [shut, opened] outOfOrder := by
  have hshut : Records doorWorker "door" "state" [shut] (recorded firstWake shut) :=
    records_recorded shut (.start (.utc 5) "first") (by decide +kernel) ⟨rfl, rfl⟩
  have hnext : (doorWorker.wake (recorded firstWake shut) (.utc 7) "next").isOk = true := by
    decide +kernel
  obtain ⟨s', hs'⟩ := ok_of_isOk hnext
  have hlater : (recorded firstWake shut).wokeAt.instant ≤ (Datetime.utc 7).instant := by
    decide +kernel
  have hwoken : Records doorWorker "door" "state" [shut] (woken (recorded firstWake shut)) := by
    rw [woken, hs']
    exact .wake hshut hlater hs'
  exact records_recorded opened hwoken (by decide +kernel) ⟨rfl, rfl⟩

theorem rebuilt_of_isOk {canon : CanonicalIds} {log : List MemoryEvent}
    (h : (MemoryProjection.rebuild canon log none).isOk = true) :
    MemoryProjection.rebuild canon log none = .ok (MemoryProjection.rebuilt canon log) := by
  obtain ⟨p, hp⟩ := ok_of_isOk h
  rw [MemoryProjection.rebuilt, hp]

theorem insertion_order_free_door :
    ((∃ observation ∈ [opened, shut], observation.occurredAt.instant ≤ (Datetime.utc 3).instant) →
      ∃ latest, Latest [opened, shut] (.utc 3) latest ∧ ∃ assertion, Asserts latest assertion ∧
        (((MemoryProjection.rebuilt spelledIds inOrder.log).visibleAssertions (.utc 3) (.utc 9)
          false true).filter fun assertion =>
            assertion.subject = "door" ∧ assertion.predicate = "state") = [assertion]) ∧
    believed ((MemoryProjection.rebuilt spelledIds inOrder.log).belief "door" "state" (.utc 3)
      (.utc 9) true) =
    believed ((MemoryProjection.rebuilt spelledIds outOfOrder.log).belief "door" "state" (.utc 3)
      (.utc 9) true) :=
  insertion_order_free spelledIds_tellApart inOrder_records outOfOrder_records
    (List.Perm.swap shut opened []) (by decide) (rebuilt_of_isOk (by decide +kernel))
    (rebuilt_of_isOk (by decide +kernel)) (by decide +kernel) (by decide +kernel) (.utc 3)

end Continuity

end Noema
