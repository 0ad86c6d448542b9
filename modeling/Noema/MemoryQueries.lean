import Mathlib.Data.String.Basic
import Noema.MemoryProjection

/-!
# Bitemporal queries

A query is asked for a valid time and a knowledge time.  It sees the records known at
the knowledge time: `asOf` keeps just those, and every query gives the same answer on
the projection and on what it knew (`visibleAssertions_asOf` and the lemmas after it).
-/
namespace Noema

inductive BeliefDisposition
  | unknown
  | held
  | uncertain

/-- `BeliefState`. -/
structure BeliefState where
  subject : String
  predicate : String
  disposition : BeliefDisposition
  value : JSONScalar
  maxAssertionConfidence : ℚ
  assertions : List SemanticAssertion
  evidence : List EvidenceLink
  contradictions : List MemoryContradiction
  validAt : Datetime
  knownAt : Datetime

/-- `TemporalNeighbors`. -/
structure TemporalNeighbors where
  predecessor : Option SemanticAssertion
  successor : Option SemanticAssertion
  ambiguousAtValidTime : Bool

namespace MemoryProjection

variable (p : MemoryProjection)

/-- `_is_visible`. -/
def isVisible (assertion : SemanticAssertion) (validAt knownAt : Datetime)
    (includeStale : Bool) : Bool :=
  assertion.recordedAt.instant ≤ knownAt.instant &&
  assertion.validFrom.instant ≤ validAt.instant &&
  ((p.effectiveValidTo assertion knownAt).all fun validTo => validAt.instant < validTo) &&
  (includeStale || assertion.freshUntil.all fun freshUntil => validAt.instant < freshUntil.instant) &&
  !(p.supersessions.rows.any fun transition =>
    transition.priorAssertionRef = assertion.assertionId ∧
    transition.recordedAt.instant ≤ knownAt.instant ∧
    transition.effectiveAt.instant ≤ validAt.instant) &&
  !(p.assertions.rows.any fun candidate =>
    candidate.supersedes = some assertion.assertionId ∧
    candidate.recordedAt.instant ≤ knownAt.instant ∧
    candidate.validFrom.instant ≤ validAt.instant)

/-- The sort key of `visible_assertions`. -/
def assertionKey (assertion : SemanticAssertion) : String ×ₗ String ×ₗ Int ×ₗ String :=
  toLex (assertion.subject, toLex (assertion.predicate,
    toLex (assertion.recordedAt.instant, assertion.assertionId)))

/-- `visible_assertions`. -/
def visibleAssertions (validAt knownAt : Datetime) (includeHypotheses includeStale : Bool) :
    List SemanticAssertion :=
  (p.assertions.rows.filter fun assertion =>
    p.isVisible assertion validAt knownAt includeStale &&
      (includeHypotheses || assertion.status = .active)).insertionSort
    fun a b => assertionKey a ≤ assertionKey b

/-- `unresolved_contradictions`. -/
def unresolvedContradictions (knownAt : Datetime) : List MemoryContradiction :=
  p.contradictions.sorted.filter fun contradiction =>
    contradiction.detectedAt.instant ≤ knownAt.instant ∧
      contradiction.resolvedAt.all fun resolvedAt => knownAt.instant < resolvedAt.instant

/-- `is_contradicted`. -/
def isContradicted (assertionId : String) (validAt knownAt : Datetime) (includeStale : Bool) :
    Bool :=
  let visibleIds := (p.visibleAssertions validAt knownAt true includeStale).map
    SemanticAssertion.assertionId
  assertionId ∈ visibleIds &&
    (p.unresolvedContradictions knownAt).any fun contradiction =>
      (assertionId = contradiction.assertionRefs.1 ∨ assertionId = contradiction.assertionRefs.2) ∧
        contradiction.assertionRefs.1 ∈ visibleIds ∧ contradiction.assertionRefs.2 ∈ visibleIds

/-- `_visible_contradictions`. -/
def visibleContradictions (assertions : List SemanticAssertion) (knownAt : Datetime) :
    List MemoryContradiction :=
  (p.unresolvedContradictions knownAt).filter fun contradiction =>
    contradiction.assertionRefs.1 ∈ assertions.map SemanticAssertion.assertionId ∧
    contradiction.assertionRefs.2 ∈ assertions.map SemanticAssertion.assertionId

/-- The evidence a belief cites. -/
def citedEvidence (assertions : List SemanticAssertion) (knownAt : Datetime) : List EvidenceLink :=
  p.evidence.sorted.filter fun link =>
    link.assertionRef ∈ assertions.map SemanticAssertion.assertionId ∧
    link.recordedAt.instant ≤ knownAt.instant

/-- `max(assertion.confidence for assertion in assertions)`, zero if there are none. -/
def maxConfidence (assertions : List SemanticAssertion) : ℚ :=
  (assertions.map (·.confidence)).max?.getD 0

/-- `belief`. -/
def belief (subject predicate : String) (validAt knownAt : Datetime) (includeStale : Bool) :
    BeliefState :=
  let assertions := (p.visibleAssertions validAt knownAt false includeStale).filter
    fun assertion => assertion.subject = subject ∧ assertion.predicate = predicate
  let contradictions := p.visibleContradictions assertions knownAt
  let uncertain := (assertions.map (·.value)).dedup.length > 1 || !contradictions.isEmpty
  { subject, predicate
    disposition := if assertions.isEmpty then .unknown else if uncertain then .uncertain else .held
    value := if uncertain then .null else (assertions.getLast?.map (·.value)).getD .null
    maxAssertionConfidence := maxConfidence assertions
    assertions
    evidence := p.citedEvidence assertions knownAt
    contradictions, validAt, knownAt }

/-- The active assertions of a semantic key that are known at `knownAt`. -/
def knownActive (subject predicate : String) (knownAt : Datetime) : List SemanticAssertion :=
  p.assertions.rows.filter fun assertion =>
    assertion.subject = subject ∧ assertion.predicate = predicate ∧ assertion.status = .active ∧
    assertion.recordedAt.instant ≤ knownAt.instant

/-- The earliest of some later assertions, if it is alone. -/
def soleEarliest (future : List SemanticAssertion) : Option SemanticAssertion :=
  match (future.map (·.validFrom.instant)).min? with
  | none => none
  | some earliest =>
    match future.filter fun assertion => assertion.validFrom.instant = earliest with
    | [assertion] => some assertion
    | _ => none

/-- `temporal_neighbors`. -/
def temporalNeighbors (subject predicate : String) (validAt knownAt : Datetime) :
    Except PyError TemporalNeighbors :=
  if blank subject || blank predicate then
    .error (.valueError "temporal-neighbor semantic key must be non-empty")
  else
    let assertions := p.knownActive subject predicate knownAt
    let visible := assertions.filter fun assertion => p.isVisible assertion validAt knownAt true
    let predecessors := assertions.filter fun assertion =>
      assertion.validFrom.instant < validAt.instant &&
        (p.effectiveValidTo assertion knownAt).all fun boundary => validAt.instant ≤ boundary
    let ambiguous := visible.length > 1 || predecessors.length > 1
    let future := assertions.filter fun assertion =>
      validAt.instant < assertion.validFrom.instant &&
        p.isVisible assertion assertion.validFrom knownAt true
    .ok
      { predecessor := match predecessors with
          | [predecessor] => if ambiguous then none else some predecessor
          | _ => none
        successor := soleEarliest future
        ambiguousAtValidTime := ambiguous }

/-! ## What was known -/

/-- The records known at `knownAt`; a contradiction is, from its detection on. -/
def asOf (knownAt : Datetime) : MemoryProjection :=
  { episodes := .empty
    applied := .empty
    assertions := p.assertions.restrict fun a => a.recordedAt.instant ≤ knownAt.instant
    evidence := p.evidence.restrict fun l => l.recordedAt.instant ≤ knownAt.instant
    supersessions := p.supersessions.restrict fun t => t.recordedAt.instant ≤ knownAt.instant
    closures := p.closures.restrict fun c => c.recordedAt.instant ≤ knownAt.instant
    contradictions := p.contradictions.restrict fun c => c.detectedAt.instant ≤ knownAt.instant }

variable {p}

theorem filter_known {α : Type} {known keep : α → Bool} (h : ∀ a, keep a = true → known a = true)
    (rows : List α) : (rows.filter known).filter keep = rows.filter keep := by
  rw [List.filter_filter]
  refine List.filter_congr fun a _ => ?_
  cases hkeep : keep a with
  | false => rfl
  | true => simp [h a hkeep]

theorem any_known {α : Type} {known test : α → Bool} (h : ∀ a, test a = true → known a = true)
    (rows : List α) : (rows.filter known).any test = rows.any test := by
  rw [List.any_filter]
  congr 1
  funext a
  cases htest : test a with
  | false => simp
  | true => simp [h a htest]

theorem effectiveValidTo_asOf (assertion : SemanticAssertion) (knownAt : Datetime) :
    (p.asOf knownAt).effectiveValidTo assertion knownAt = p.effectiveValidTo assertion knownAt := by
  unfold effectiveValidTo boundaries asOf
  dsimp only [KeyedTable.restrict_rows]
  rw [filter_known fun c h => by simp at h ⊢; exact h.2,
    filter_known fun t h => by simp at h ⊢; exact h.2,
    filter_known fun a h => by simp at h ⊢; exact h.2]

theorem isVisible_asOf (assertion : SemanticAssertion) (validAt knownAt : Datetime)
    (includeStale : Bool) :
    (p.asOf knownAt).isVisible assertion validAt knownAt includeStale =
      p.isVisible assertion validAt knownAt includeStale := by
  unfold isVisible
  rw [effectiveValidTo_asOf]
  dsimp only [asOf, KeyedTable.restrict_rows]
  rw [any_known fun t h => by simp at h ⊢; exact h.2.1,
    any_known fun a h => by simp at h ⊢; exact h.2.1]

theorem recorded_of_isVisible {assertion : SemanticAssertion} {validAt knownAt : Datetime}
    {includeStale : Bool} (h : p.isVisible assertion validAt knownAt includeStale = true) :
    assertion.recordedAt.instant ≤ knownAt.instant := by
  simp only [isVisible, Bool.and_eq_true, decide_eq_true_eq] at h
  exact h.1.1.1.1.1

theorem visibleAssertions_asOf (validAt knownAt : Datetime) (includeHypotheses includeStale : Bool) :
    (p.asOf knownAt).visibleAssertions validAt knownAt includeHypotheses includeStale =
      p.visibleAssertions validAt knownAt includeHypotheses includeStale := by
  unfold visibleAssertions
  simp only [isVisible_asOf]
  dsimp only [asOf, KeyedTable.restrict_rows]
  rw [filter_known]
  intro assertion h
  rw [Bool.and_eq_true] at h
  exact decide_eq_true (recorded_of_isVisible h.1)

theorem unresolvedContradictions_asOf (knownAt : Datetime) :
    (p.asOf knownAt).unresolvedContradictions knownAt = p.unresolvedContradictions knownAt := by
  refine p.contradictions.filter_sorted_restrict fun contradiction h => ?_
  simp only [decide_eq_true_eq] at h ⊢
  exact h.1

theorem citedEvidence_asOf (assertions : List SemanticAssertion) (knownAt : Datetime) :
    (p.asOf knownAt).citedEvidence assertions knownAt = p.citedEvidence assertions knownAt := by
  refine p.evidence.filter_sorted_restrict fun link h => ?_
  simp only [decide_eq_true_eq] at h ⊢
  exact h.2

theorem belief_asOf (subject predicate : String) (validAt knownAt : Datetime)
    (includeStale : Bool) :
    (p.asOf knownAt).belief subject predicate validAt knownAt includeStale =
      p.belief subject predicate validAt knownAt includeStale := by
  unfold belief visibleContradictions
  simp only [visibleAssertions_asOf, unresolvedContradictions_asOf, citedEvidence_asOf]

theorem temporalNeighbors_asOf (subject predicate : String) (validAt knownAt : Datetime) :
    (p.asOf knownAt).temporalNeighbors subject predicate validAt knownAt =
      p.temporalNeighbors subject predicate validAt knownAt := by
  have hactive : (p.asOf knownAt).knownActive subject predicate knownAt =
      p.knownActive subject predicate knownAt := by
    refine filter_known (fun assertion h => ?_) p.assertions.rows
    simp only [decide_eq_true_eq] at h ⊢
    exact h.2.2.2
  unfold temporalNeighbors
  simp only [hactive, isVisible_asOf, effectiveValidTo_asOf]

end MemoryProjection
end Noema
