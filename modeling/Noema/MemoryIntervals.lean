import Noema.ContinuityWorker
import Noema.Lib.DividedLine

/-!
# Intervals in memory

The assertions of one subject and predicate are the items of a line: each starts at its
`valid_from`, and ends where it says, or where one that supersedes it starts.  As long as they
divide the line, a valid time sees the one that covers it, and `temporal_neighbors` finds the
ones before and after.
-/
namespace Noema

open DividedLine

/-- Where an assertion starts. -/
def SemanticAssertion.start (assertion : SemanticAssertion) : Int := assertion.validFrom.instant

/-- An assertion is about a subject and a predicate. -/
def SemanticAssertion.About (subject predicate : String) (assertion : SemanticAssertion) : Prop :=
  assertion.subject = subject ∧ assertion.predicate = predicate

instance (subject predicate : String) : DecidablePred (SemanticAssertion.About subject predicate) :=
  fun _ => inferInstanceAs (Decidable (_ ∧ _))

/-- An assertion of some ends where it says, or where one of them that supersedes it starts. -/
def Ends (items : List SemanticAssertion) (assertion : SemanticAssertion) (e : Int) : Prop :=
  (∃ validTo ∈ assertion.validTo, validTo.instant = e) ∨
    ∃ other ∈ items, other.supersedes = some assertion.assertionId ∧ other.start = e

theorem all_min?_le {ends : List Int} {t : Int} :
    (ends.min?.all fun e => t ≤ e) = true ↔ ∀ e ∈ ends, t ≤ e := by
  cases hmin : ends.min? with
  | none => simp [List.min?_eq_none_iff.mp hmin]
  | some least =>
    rw [Option.all_some, decide_eq_true_iff]
    exact List.le_min?_iff hmin

theorem all_min?_lt {ends : List Int} {t : Int} :
    (ends.min?.all fun e => t < e) = true ↔ ∀ e ∈ ends, t < e :=
  all_min?_le (t := t + 1)

/-- A list without repetitions of the only thing that satisfies a condition. -/
theorem eq_singleton_of_nodup {α : Type} {l : List α} {a : α} (hnodup : l.Nodup)
    (hmem : ∀ b, b ∈ l ↔ b = a) : l = [a] := by
  have hperm : l.Perm [a] := (List.perm_ext_iff_of_nodup hnodup (List.nodup_singleton a)).mpr
    fun b => by rw [hmem, List.mem_singleton]
  exact List.perm_singleton.mp hperm

namespace MemoryProjection

/-- What a memory holds of a subject and predicate: just these assertions, which nothing closes
and nothing but themselves supersedes. -/
structure Holds (canon : CanonicalIds) (p : MemoryProjection) (subject predicate : String)
    (items : List SemanticAssertion) : Prop where
  mem_iff : ∀ assertion, assertion ∈ items ↔
    assertion ∈ p.assertions.rows ∧ assertion.About subject predicate
  unclosed : p.closures.rows = []
  stated : ∀ transition ∈ p.supersessions.rows, ∃ assertion ∈ p.assertions.rows,
    assertion.supersedes = some transition.priorAssertionRef ∧
      assertion.start = transition.effectiveAt.instant
  known : ∀ assertion ∈ p.assertions.rows, ∀ priorId ∈ assertion.supersedes,
    ∃ prior, p.assertions.find priorId = some prior ∧ prior.About assertion.subject
      assertion.predicate
  canonical : ∀ assertion ∈ p.assertions.rows,
    assertion.assertionId = canon.assertion assertion.toAssertionContent
  applied : ∀ event ∈ p.applied.rows, event.type = .assertionRecorded → ∀ assertion,
    event.payload = .assertion assertion → assertion ∈ p.assertions.rows

variable {canon : CanonicalIds} {p : MemoryProjection} {subject predicate : String}
  {items : List SemanticAssertion} {assertion : SemanticAssertion} {k t : Datetime}

/-- **What is visible, however stale.** -/
theorem isVisible_iff : p.isVisible assertion t k true = true ↔
    assertion.recordedAt.instant ≤ k.instant ∧
      Covers SemanticAssertion.start (fun a e => e ∈ p.boundaries a k) assertion t.instant := by
  unfold isVisible Covers effectiveValidTo
  simp only [Bool.and_eq_true, Bool.true_or, decide_eq_true_eq, Bool.not_eq_true',
    List.any_eq_false]
  constructor
  · rintro ⟨⟨⟨⟨⟨hrecorded, hstart⟩, hends⟩, -⟩, -⟩, -⟩
    exact ⟨hrecorded, hstart, all_min?_lt.mp hends⟩
  · rintro ⟨hrecorded, hstart, hends⟩
    -- What supersedes the assertion is among its ends.
    refine ⟨⟨⟨⟨⟨hrecorded, hstart⟩, all_min?_lt.mpr hends⟩, trivial⟩, ?_⟩, ?_⟩
    · rintro transition htransition ⟨hprior, hknown, heffective⟩
      refine absurd (hends transition.effectiveAt.instant ?_) (not_lt.mpr heffective)
      simp only [boundaries, List.mem_append, List.mem_map, List.mem_filter, decide_eq_true_eq]
      exact .inl (.inr ⟨transition, ⟨htransition, hprior, hknown⟩, rfl⟩)
    · rintro candidate hcandidate ⟨hsupersedes, hknown, hlater⟩
      refine absurd (hends candidate.validFrom.instant ?_) (not_lt.mpr hlater)
      simp only [boundaries, List.mem_append, List.mem_map, List.mem_filter, decide_eq_true_eq]
      exact .inr ⟨candidate, ⟨hcandidate, hsupersedes, hknown⟩, rfl⟩

/-- What supersedes an assertion of some is among them. -/
theorem Holds.mem_of_supersedes (h : p.Holds canon subject predicate items) (hmem : assertion ∈ items)
    {other : SemanticAssertion} (hother : other ∈ p.assertions.rows)
    (hsupersedes : other.supersedes = some assertion.assertionId) : other ∈ items := by
  obtain ⟨hrow, habout⟩ := (h.mem_iff assertion).mp hmem
  obtain ⟨prior, hfind, hprior⟩ := h.known other hother _ hsupersedes
  rw [KeyedTable.find_of_mem hrow] at hfind
  cases hfind
  exact (h.mem_iff other).mpr ⟨hother, hprior.1.symm.trans habout.1, hprior.2.symm.trans habout.2⟩

/-- **The ends of an assertion**, once all of them are known. -/
theorem Holds.mem_boundaries (h : p.Holds canon subject predicate items) (hmem : assertion ∈ items)
    (hknown : ∀ a ∈ items, a.recordedAt.instant ≤ k.instant) {e : Int} :
    e ∈ p.boundaries assertion k ↔ Ends items assertion e := by
  simp only [boundaries, h.unclosed, List.filter_nil, List.map_nil, List.append_nil,
    List.mem_append, List.mem_map, List.mem_filter, decide_eq_true_eq, Option.mem_toList]
  constructor
  · rintro ((⟨validTo, hvalidTo, rfl⟩ | ⟨transition, ⟨htransition, hprior, -⟩, rfl⟩) |
      ⟨other, ⟨hother, hsupersedes, -⟩, rfl⟩)
    · exact .inl ⟨validTo, hvalidTo, rfl⟩
    · obtain ⟨other, hother, hsupersedes, hstart⟩ := h.stated transition htransition
      rw [hprior] at hsupersedes
      exact .inr ⟨other, h.mem_of_supersedes hmem hother hsupersedes, hsupersedes, hstart⟩
    · exact .inr ⟨other, h.mem_of_supersedes hmem hother hsupersedes, hsupersedes, rfl⟩
  · rintro (⟨validTo, hvalidTo, rfl⟩ | ⟨other, hother, hsupersedes, rfl⟩)
    · exact .inl (.inl ⟨validTo, hvalidTo, rfl⟩)
    · exact .inr ⟨other, ⟨((h.mem_iff other).mp hother).1, hsupersedes, hknown other hother⟩, rfl⟩

/-! ## Neighbors -/

section Known

variable (h : p.Holds canon subject predicate items)
  (hknown : ∀ a ∈ items, a.recordedAt.instant ≤ k.instant ∧ a.status = .active)
include h hknown

theorem visible_iff (hmem : assertion ∈ items) : p.isVisible assertion t k true = true ↔
    Covers SemanticAssertion.start (Ends items) assertion t.instant := by
  rw [isVisible_iff, and_iff_right (hknown assertion hmem).1, Covers, Covers]
  simp only [h.mem_boundaries hmem fun a ha => (hknown a ha).1]

theorem mem_knownActive : assertion ∈ p.knownActive subject predicate k ↔ assertion ∈ items := by
  rw [knownActive, List.mem_filter, decide_eq_true_iff]
  constructor
  · rintro ⟨hrow, hsubject, hpredicate, -, -⟩
    exact (h.mem_iff assertion).mpr ⟨hrow, hsubject, hpredicate⟩
  · intro hmem
    obtain ⟨hrow, hsubject, hpredicate⟩ := (h.mem_iff assertion).mp hmem
    exact ⟨hrow, hsubject, hpredicate, (hknown assertion hmem).2, (hknown assertion hmem).1⟩

omit h hknown in
theorem knownActive_nodup : (p.knownActive subject predicate k).Nodup :=
  (List.Nodup.of_map _ p.assertions.unique).filter _

/-- Of the known assertions, those that satisfy a condition that only one does. -/
theorem filter_knownActive (test : SemanticAssertion → Bool) (P : SemanticAssertion → Prop)
    (htest : ∀ a ∈ items, test a = true ↔ P a) (hunique : ∀ a b, P a → P b → a = b) :
    (p.knownActive subject predicate k).filter test = [] ∧ (∀ a ∈ items, ¬P a) ∨
      ∃ a ∈ items, P a ∧ (p.knownActive subject predicate k).filter test = [a] := by
  by_cases hsome : ∃ a ∈ items, P a
  · obtain ⟨a, hmem, ha⟩ := hsome
    refine .inr ⟨a, hmem, ha, eq_singleton_of_nodup ?_ fun b => ?_⟩
    · exact knownActive_nodup.filter _
    · rw [List.mem_filter, mem_knownActive h hknown]
      constructor
      · rintro ⟨hb, hpass⟩
        exact hunique b a ((htest b hb).mp hpass) ha
      · rintro rfl
        exact ⟨hmem, (htest b hmem).mpr ha⟩
  · refine .inl ⟨List.filter_eq_nil_iff.mpr fun a ha hpass => ?_, fun a ha hP => hsome ⟨a, ha, hP⟩⟩
    have hmem := (mem_knownActive h hknown).mp ha
    exact hsome ⟨a, hmem, (htest a hmem).mp hpass⟩

end Known

/-- The first of some later assertions, if no two of them start together. -/
theorem soleEarliest_eq_some {future : List SemanticAssertion} (hnodup : future.Nodup)
    (happart : ∀ a ∈ future, ∀ b ∈ future, a.start = b.start → a = b) :
    soleEarliest future = some assertion ↔
      assertion ∈ future ∧ ∀ b ∈ future, assertion.start ≤ b.start := by
  unfold soleEarliest
  cases hmin : (future.map (·.validFrom.instant)).min? with
  | none =>
    have hnil : future = [] := List.map_eq_nil_iff.mp (List.min?_eq_none_iff.mp hmin)
    simp [hnil]
  | some earliest =>
    obtain ⟨hmem, hleast⟩ := List.min?_eq_some_iff.mp hmin
    obtain ⟨first, hfirst, rfl⟩ := List.mem_map.mp hmem
    have hsole : (future.filter fun a => a.validFrom.instant = first.validFrom.instant) =
        [first] := by
      refine eq_singleton_of_nodup (hnodup.filter _) fun b => ?_
      rw [List.mem_filter, decide_eq_true_iff]
      constructor
      · rintro ⟨hb, hstart⟩
        exact happart b hb first hfirst hstart
      · rintro rfl
        exact ⟨hfirst, rfl⟩
    have hbefore : ∀ b ∈ future, first.start ≤ b.start := fun b hb =>
      hleast _ (List.mem_map_of_mem hb)
    dsimp only
    rw [hsole]
    constructor
    · rintro heq
      cases heq
      exact ⟨hfirst, hbefore⟩
    · rintro ⟨hassertion, hall⟩
      exact congrArg some (happart first hfirst assertion hassertion
        (le_antisymm (hbefore assertion hassertion) (hall first hfirst)))

section Divided

variable (h : p.Holds canon subject predicate items)
  (hknown : ∀ a ∈ items, a.recordedAt.instant ≤ k.instant ∧ a.status = .active)
  (hdivided : Divided items SemanticAssertion.start (Ends items))
include h hknown hdivided

/-- At most one assertion covers a valid time. -/
theorem visible_length_le :
    ((p.knownActive subject predicate k).filter fun a => p.isVisible a t k true).length ≤ 1 := by
  rcases filter_knownActive h hknown (fun a => p.isVisible a t k true)
      (fun a => a ∈ items ∧ Covers SemanticAssertion.start (Ends items) a t.instant)
      (fun a ha => (visible_iff h hknown ha).trans (and_iff_right ha).symm)
      (fun a b ha hb => covers_unique hdivided ha.1 hb.1 ha.2 hb.2) with ⟨hnil, -⟩ | ⟨a, -, -, hone⟩
  · rw [hnil]
    exact Nat.zero_le 1
  · rw [hone]
    exact le_rfl

/-- The one that precedes a valid time at which none starts. -/
theorem predecessors_cases (hnew : ∀ a ∈ items, a.start ≠ t.instant) :
    ((p.knownActive subject predicate k).filter fun a => a.validFrom.instant < t.instant &&
        (p.effectiveValidTo a k).all fun boundary => t.instant ≤ boundary) = [] ∧
      (∀ a ∈ items, ¬Before items SemanticAssertion.start a t.instant) ∨
    ∃ a ∈ items, Before items SemanticAssertion.start a t.instant ∧
      ((p.knownActive subject predicate k).filter fun a => a.validFrom.instant < t.instant &&
        (p.effectiveValidTo a k).all fun boundary => t.instant ≤ boundary) = [a] := by
  refine filter_knownActive h hknown _ _ (fun a ha => ?_)
    fun a b ha hb => before_unique hdivided ha hb
  rw [Bool.and_eq_true, decide_eq_true_iff, effectiveValidTo, all_min?_le,
    ← before_iff hdivided ha hnew]
  exact and_congr_right fun _ => forall_congr' fun e => by
    rw [h.mem_boundaries ha fun b hb => (hknown b hb).1]

/-- The one that follows a valid time. -/
theorem successor_iff (follower : SemanticAssertion) :
    soleEarliest ((p.knownActive subject predicate k).filter fun a =>
      t.instant < a.validFrom.instant && p.isVisible a a.validFrom k true) = some follower ↔
        After items SemanticAssertion.start follower t.instant := by
  have hfuture : ∀ a, a ∈ ((p.knownActive subject predicate k).filter fun a =>
      t.instant < a.validFrom.instant && p.isVisible a a.validFrom k true) ↔
      a ∈ items ∧ t.instant < a.start := by
    intro a
    rw [List.mem_filter, mem_knownActive h hknown, Bool.and_eq_true, decide_eq_true_iff]
    refine and_congr_right fun ha => and_iff_left ?_
    exact (visible_iff h hknown ha).mpr (covers_start hdivided ha)
  rw [soleEarliest_eq_some (knownActive_nodup.filter _)
    fun a ha b hb => hdivided.apart a ((hfuture a).mp ha).1 b ((hfuture b).mp hb).1, hfuture]
  constructor
  · rintro ⟨⟨hmem, hlater⟩, hfirst⟩
    exact ⟨hmem, hlater, fun b hb hbt => hfirst b ((hfuture b).mpr ⟨hb, hbt⟩)⟩
  · rintro ⟨hmem, hlater, hfirst⟩
    exact ⟨⟨hmem, hlater⟩, fun b hb => hfirst b ((hfuture b).mp hb).1 ((hfuture b).mp hb).2⟩

/-- **The neighbors of a valid time at which no assertion starts** are the assertions before
and after it. -/
theorem temporalNeighbors_ok (hkey : blank subject = false ∧ blank predicate = false)
    (hnew : ∀ a ∈ items, a.start ≠ t.instant) :
    ∃ neighbors, p.temporalNeighbors subject predicate t k = .ok neighbors ∧
      neighbors.ambiguousAtValidTime = false ∧
      (∀ a, neighbors.predecessor = some a ↔ Before items SemanticAssertion.start a t.instant) ∧
      ∀ a, neighbors.successor = some a ↔ After items SemanticAssertion.start a t.instant := by
  have hvisible := visible_length_le (t := t) h hknown hdivided
  have hsuccessor := successor_iff (t := t) h hknown hdivided
  unfold temporalNeighbors
  rw [hkey.1, hkey.2]
  refine ⟨_, if_neg (by decide), ?_⟩
  dsimp only
  rcases predecessors_cases h hknown hdivided hnew with ⟨hnil, hnone⟩ | ⟨a, hmem, hbefore, hone⟩
  · rw [hnil]
    refine ⟨by simpa using hvisible, fun b => ⟨fun heq => (nomatch heq), fun hb => ?_⟩, hsuccessor⟩
    exact absurd hb (hnone b hb.1)
  · rw [hone]
    have hambiguous : (decide (((p.knownActive subject predicate k).filter fun a =>
        p.isVisible a t k true).length > 1) || decide ([a].length > 1)) = false := by
      simpa using hvisible
    refine ⟨hambiguous, fun b => ?_, hsuccessor⟩
    dsimp only
    rw [hambiguous, if_neg Bool.false_ne_true, Option.some.injEq]
    constructor
    · rintro rfl
      exact hbefore
    · exact fun hb => before_unique hdivided hbefore hb

end Divided

section Applied

variable {p' : MemoryProjection} {event : MemoryEvent} {derivedSource : Option String}
  {derived : List MemoryEvent}

/-! ## What an event does to what memory holds -/

theorem fromEvent_ok (h : SemanticAssertion.fromEvent canon event = .ok assertion) :
    event.payload = .assertion assertion ∧
      assertion.assertionId = canon.assertion assertion.toAssertionContent := by
  unfold SemanticAssertion.fromEvent at h
  split at h
  · rename_i hpayload
    split_ifs at h with hid
    cases h
    exact ⟨hpayload, not_not.mp hid⟩
  · cases h

/-- What is held depends on four tables. -/
theorem Holds.congr (h : p.Holds canon subject predicate items)
    (hassertions : p'.assertions = p.assertions) (hsupersessions : p'.supersessions = p.supersessions)
    (hclosures : p'.closures = p.closures)
    (happlied : ∀ e ∈ p'.applied.rows, e ∈ p.applied.rows ∨ e.type ≠ .assertionRecorded) :
    p'.Holds canon subject predicate items where
  mem_iff := hassertions ▸ h.mem_iff
  unclosed := hclosures ▸ h.unclosed
  stated := hassertions ▸ hsupersessions ▸ h.stated
  known := hassertions ▸ h.known
  canonical := hassertions ▸ h.canonical
  applied := by
    intro e he htype a hpayload
    rw [hassertions]
    exact h.applied e ((happlied e he).resolve_right (not_not.mpr htype)) htype a hpayload

theorem Holds.items_congr (h : p.Holds canon subject predicate items)
    {items' : List SemanticAssertion} (hitems : ∀ a, a ∈ items' ↔ a ∈ items) :
    p.Holds canon subject predicate items' :=
  { h with mem_iff := fun a => (hitems a).trans (h.mem_iff a) }

/-- A new assertion is one more item, if it is about the subject and predicate. -/
theorem Holds.insert {assertions : KeyedTable SemanticAssertion.assertionId}
    (h : p.Holds canon subject predicate items)
    (hread : SemanticAssertion.fromEvent canon event = .ok assertion)
    (hstored : p.assertions.insertOnce assertion = some assertions)
    (hprior : ∀ priorId ∈ assertion.supersedes, ∃ prior, p.assertions.find priorId = some prior ∧
      prior.subject = assertion.subject ∧ prior.predicate = assertion.predicate)
    {items' : List SemanticAssertion}
    (hitems : ∀ a, a ∈ items' ↔ a ∈ items ∨ a = assertion ∧ a.About subject predicate) :
    { p with assertions, applied := p.applied.put event }.Holds canon subject predicate items' := by
  have hrows := fun a => KeyedTable.mem_insertOnce (x := a) hstored
  have hfind : ∀ {id a}, p.assertions.find id = some a → assertions.find id = some a := by
    intro id a hfind
    have hmem := (hrows a).mpr (.inl (KeyedTable.mem_of_find hfind))
    rw [← KeyedTable.find_key hfind]
    exact KeyedTable.find_of_mem hmem
  obtain ⟨hpayload, hcanonical⟩ := fromEvent_ok hread
  exact
    { mem_iff := by
        intro a
        rw [hitems, h.mem_iff, hrows, or_and_right]
      unclosed := h.unclosed
      stated := by
        intro transition htransition
        obtain ⟨a, ha, hstated⟩ := h.stated transition htransition
        exact ⟨a, (hrows a).mpr (.inl ha), hstated⟩
      known := by
        intro a ha priorId hpriorId
        rcases (hrows a).mp ha with ha | rfl
        · obtain ⟨prior, hprior, habout⟩ := h.known a ha priorId hpriorId
          exact ⟨prior, hfind hprior, habout⟩
        · obtain ⟨prior, hprior, habout⟩ := hprior priorId hpriorId
          exact ⟨prior, hfind hprior, habout⟩
      canonical := by
        intro a ha
        rcases (hrows a).mp ha with ha | rfl
        · exact h.canonical a ha
        · exact hcanonical
      applied := by
        intro e he htype a ha
        rcases KeyedTable.mem_put.mp he with rfl | ⟨he, -⟩
        · rw [hpayload] at ha
          cases ha
          exact (hrows _).mpr (.inr rfl)
        · exact (hrows a).mpr (.inl (h.applied e he htype a ha)) }

/-- **What an accepted event adds to what memory holds**, if it closes nothing and supersedes
only what an assertion supersedes. -/
theorem Holds.apply (h : p.Holds canon subject predicate items)
    (happly : p.apply canon event derivedSource = .ok (p', derived))
    (hunclosed : event.type ≠ .validityClosed)
    (hstated : ∀ transition, event.type = .assertionSuperseded →
      AssertionSupersession.fromEvent canon event = .ok transition →
      ∃ assertion ∈ p.assertions.rows, assertion.supersedes = some transition.priorAssertionRef ∧
        assertion.start = transition.effectiveAt.instant)
    {items' : List SemanticAssertion}
    (hitems : ∀ a, a ∈ items' ↔ a ∈ items ∨ event.type = .assertionRecorded ∧
      event.payload = .assertion a ∧ a.About subject predicate) :
    p'.Holds canon subject predicate items' := by
  obtain ⟨episodes, -, hrecorded⟩ := apply_recorded happly
  have hother : event.type ≠ .assertionRecorded → ∀ a, a ∈ items' ↔ a ∈ items := fun htype a =>
    (hitems a).trans (or_iff_left fun hread => htype hread.1)
  have happlied : event.type ≠ .assertionRecorded → ∀ e ∈ (p.applied.put event).rows,
      e ∈ p.applied.rows ∨ e.type ≠ .assertionRecorded := by
    intro htype e he
    rcases KeyedTable.mem_put.mp he with rfl | ⟨he, -⟩
    · exact .inr htype
    · exact .inl he
  cases hrecorded with
  | nothing hnothing =>
    have hsame : { p with episodes }.Holds canon subject predicate items :=
      h.congr rfl rfl rfl fun e he => .inl he
    refine hsame.items_congr fun a => (hitems a).trans (or_iff_left_of_imp ?_)
    rintro ⟨htype, hpayload, habout⟩
    rcases hnothing with hmemory | hfind
    · rw [htype] at hmemory
      cases hmemory
    · exact (h.mem_iff a).mpr
        ⟨h.applied event (KeyedTable.mem_of_find hfind) htype a hpayload, habout⟩
  | assertion htype hread hstored hprior =>
    have hrow : { p with episodes }.Holds canon subject predicate items :=
      h.congr rfl rfl rfl fun e he => .inl he
    refine hrow.insert hread hstored hprior fun a => (hitems a).trans (or_congr_right ?_)
    rw [and_iff_right htype, (fromEvent_ok hread).1, MemoryPayload.assertion.injEq]
    exact and_congr_left fun _ => eq_comm
  | supersession htype hread hprior hnew hstored =>
    have hne : event.type ≠ .assertionRecorded := by
      rw [htype]
      decide
    refine Holds.items_congr ?_ (hother hne)
    exact
      { h with
        stated := by
          intro transition htransition
          rcases (KeyedTable.mem_insertOnce hstored).mp htransition with hmem | rfl
          · exact h.stated transition hmem
          · exact hstated _ htype hread
        applied := by
          intro e he hrecorded a hpayload
          exact h.applied e (((happlied hne e he)).resolve_right (not_not.mpr hrecorded))
            hrecorded a hpayload }
  | closure htype => exact absurd htype hunclosed
  | evidence htype | detection htype | resolution htype =>
    have hne : event.type ≠ .assertionRecorded := by
      rw [htype]
      decide
    refine Holds.items_congr ?_ (hother hne)
    exact h.congr rfl rfl rfl (happlied hne)

end Applied

end MemoryProjection

end Noema
