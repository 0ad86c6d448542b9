import Mathlib.Data.Finset.Lattice.Basic
import Mathlib.Data.Finset.Card
import Mathlib.Tactic.NormNum
import Noema.MemoryQueries

/-!
# Retrieval

`MemoryRetriever` ranks the visible assertions that an access evaluator does not deny.
Words and the text of a value are what `re` and `str` make of them (`Tokenizer`), and the
scores are finite floats (`ScoreArith`); of both nothing is assumed.
-/
namespace Noema

/-- `_tokens` of a text, and `str` of an assertion's value. -/
structure Tokenizer where
  tokens : String → Finset String
  str : JSONScalar → String

/-- The arithmetic of finite floats, and the readings of a time in seconds.  The contradiction
penalty needs none: its sums are exact, or above one. -/
structure ScoreArith where
  add : ℚ → ℚ → ℚ
  sub : ℚ → ℚ → ℚ
  mul : ℚ → ℚ → ℚ
  div : ℚ → ℚ → ℚ
  sum : List ℚ → ℚ
  totalSeconds : Int → ℚ
  timestamp : Int → ℚ

/-- `RetrievalWeights`. -/
structure RetrievalWeights where
  semantic : ℚ := 3 / 10
  temporal : ℚ := 1 / 5
  goal : ℚ := 1 / 10
  evidence : ℚ := 1 / 5
  freshness : ℚ := 1 / 5
  contradiction : ℚ := 3 / 20
  nonneg : 0 ≤ semantic ∧ 0 ≤ temporal ∧ 0 ≤ goal ∧ 0 ≤ evidence ∧ 0 ≤ freshness ∧
    0 ≤ contradiction := by norm_num

/-- `MemoryQuery`. -/
structure MemoryQuery where
  text : String
  validAt : Datetime
  knownAt : Datetime
  goalTerms : List String := []
  limit : Nat := 10
  includeHypotheses : Bool := false
  includeStale : Bool := false
  text_nonblank : blank text = false
  limit_pos : 0 < limit

structure RetrievalComponents where
  semantic : ℚ
  temporal : ℚ
  goal : ℚ
  evidence : ℚ
  freshness : ℚ
  contradiction : ℚ
deriving DecidableEq

/-- `RetrievedMemory`, for the evaluator's decisions. -/
structure RetrievedMemory (Decision : Type) where
  assertion : SemanticAssertion
  score : ℚ
  components : RetrievalComponents
  accessDecision : Option Decision

structure MemoryRetrieval (Decision : Type) where
  results : List (RetrievedMemory Decision)
  accessDecisions : List Decision

/-- `MemoryAccessEvaluator`, with `decision.allowed`. -/
structure MemoryAccessEvaluator (Decision : Type) where
  evaluate : SemanticAssertion → MemoryQuery → Option Decision
  allowed : Decision → Bool

/-! ## The token index -/

/-- `LexicalMemoryIndex`. -/
structure LexicalMemoryIndex where
  tokensByAssertion : KeyedTable (Prod.fst : String × Finset String → String)

namespace LexicalMemoryIndex

/-- `clear`, and the index at construction. -/
def clear : LexicalMemoryIndex := ⟨.empty⟩

/-- `tokens_for`. -/
def tokensFor (tok : Tokenizer) (assertion : SemanticAssertion) : Finset String :=
  tok.tokens s!"{assertion.subject} {assertion.predicate} {tok.str assertion.value}"

/-- `rebuild`. -/
def rebuild (tok : Tokenizer) (projection : MemoryProjection) : LexicalMemoryIndex :=
  ⟨.ofList (projection.assertions.sorted.map fun assertion =>
    (assertion.assertionId, tokensFor tok assertion))⟩

/-- `get`. -/
def get (index : LexicalMemoryIndex) (assertionId : String) : Option (Finset String) :=
  (index.tokensByAssertion.find assertionId).map Prod.snd

end LexicalMemoryIndex

/-! ## Scores -/

/-- `_overlap`. -/
def overlap (arith : ScoreArith) (left right : Finset String) : ℚ :=
  if left = ∅ ∨ right = ∅ then 0 else arith.div (left ∩ right).card (left ∪ right).card

/-- `_freshness`. -/
def freshness (arith : ScoreArith) (assertion : SemanticAssertion) (validAt : Datetime) : ℚ :=
  match assertion.freshUntil with
  | none => 1
  | some freshUntil =>
    let lifetime := arith.totalSeconds (freshUntil.instant - assertion.recordedAt.instant)
    let remaining := arith.totalSeconds (freshUntil.instant - validAt.instant)
    max 0 (min 1 (arith.div remaining lifetime))

/-- The relations that `_evidence_strength` counts in an assertion's favour. -/
def EvidenceRelation.positive : EvidenceRelation → Bool
  | .supports | .refines | .derivedFrom => true
  | .contradicts | .supersedes => false

/-- `_evidence_strength`. -/
def MemoryProjection.evidenceStrength (p : MemoryProjection) (arith : ScoreArith)
    (assertion : SemanticAssertion) (knownAt : Datetime) : ℚ :=
  let links := p.evidence.sorted.filter fun link =>
    link.assertionRef = assertion.assertionId ∧ link.recordedAt.instant ≤ knownAt.instant
  if links.isEmpty then assertion.confidence
  else
    let positive := (links.filter (·.relation.positive)).map (·.strength)
    let negative := (links.filter (·.relation = .contradicts)).map (·.strength)
    let support := if positive.isEmpty then assertion.confidence
      else arith.div (arith.sum positive) positive.length
    let opposition := if negative.isEmpty then 0
      else arith.div (arith.sum negative) negative.length
    max 0 (min 1 (arith.mul support (arith.sub 1 opposition)))

/-- `stale`, in `_score`. -/
def stale (assertion : SemanticAssertion) (validAt : Datetime) : Bool :=
  assertion.freshUntil.any fun freshUntil => freshUntil.instant ≤ validAt.instant

/-- The contradiction component. -/
def contradictionPenalty (contradicted stale : Bool) : ℚ :=
  min 1 ((if contradicted then 13 / 20 else 0) + if stale then 3 / 5 else 0)

/-- The assertions that a query sees. -/
def MemoryProjection.visibleTo (p : MemoryProjection) (query : MemoryQuery) :
    List SemanticAssertion :=
  p.visibleAssertions query.validAt query.knownAt query.includeHypotheses query.includeStale

/-- `MemoryRetriever`. -/
structure MemoryRetriever (Decision : Type) where
  projection : MemoryProjection
  weights : RetrievalWeights := {}
  index : LexicalMemoryIndex := .clear
  accessEvaluator : Option (MemoryAccessEvaluator Decision) := none

namespace MemoryRetriever

variable {Decision : Type} (tok : Tokenizer) (arith : ScoreArith) (r : MemoryRetriever Decision)

/-- `rebuild_index`. -/
def rebuildIndex : MemoryRetriever Decision :=
  { r with index := .rebuild tok r.projection }

/-- `drop_index`. -/
def dropIndex : MemoryRetriever Decision := { r with index := .clear }

/-- The components of `_score`. -/
def components (assertion : SemanticAssertion) (query : MemoryQuery)
    (queryTokens goalTokens : Finset String) : RetrievalComponents :=
  let assertionTokens := (r.index.get assertion.assertionId).getD
    (LexicalMemoryIndex.tokensFor tok assertion)
  let ageSeconds := max 0
    (arith.totalSeconds (query.validAt.instant - assertion.validFrom.instant))
  { semantic := overlap arith queryTokens assertionTokens
    temporal := arith.div 1 (arith.add 1 (arith.div ageSeconds (30 * 86400)))
    goal := if goalTokens = ∅ then 0 else overlap arith goalTokens assertionTokens
    evidence := r.projection.evidenceStrength arith assertion query.knownAt
    freshness := freshness arith assertion query.validAt
    contradiction := contradictionPenalty
      (r.projection.isContradicted assertion.assertionId query.validAt query.knownAt
        query.includeStale)
      (stale assertion query.validAt) }

/-- The weighted sum of `_score`. -/
def weigh (weights : RetrievalWeights) (c : RetrievalComponents) : ℚ :=
  arith.sub
    (arith.add
      (arith.add
        (arith.add
          (arith.add (arith.mul weights.semantic c.semantic)
            (arith.mul weights.temporal c.temporal))
          (arith.mul weights.goal c.goal))
        (arith.mul weights.evidence c.evidence))
      (arith.mul weights.freshness c.freshness))
    (arith.mul weights.contradiction c.contradiction)

/-- `_score`. -/
def score (assertion : SemanticAssertion) (query : MemoryQuery)
    (queryTokens goalTokens : Finset String) (accessDecision : Option Decision) :
    RetrievedMemory Decision :=
  let components := r.components tok arith assertion query queryTokens goalTokens
  { assertion, score := weigh arith r.weights components, components, accessDecision }

/-- `decision`, in the loop of `retrieve_with_decisions`. -/
def decision (query : MemoryQuery) (assertion : SemanticAssertion) : Option Decision :=
  r.accessEvaluator.bind fun evaluator => evaluator.evaluate assertion query

/-- `decision is not None and not decision.allowed`. -/
def denied (accessEvaluator : Option (MemoryAccessEvaluator Decision)) (query : MemoryQuery)
    (assertion : SemanticAssertion) : Bool :=
  accessEvaluator.any fun evaluator =>
    (evaluator.evaluate assertion query).any fun decision => !evaluator.allowed decision

/-- The sort key of `retrieve_with_decisions`. -/
def rankKey (result : RetrievedMemory Decision) : ℚ ×ₗ ℚ ×ₗ String :=
  toLex (-result.score, toLex (-arith.timestamp result.assertion.recordedAt.instant,
    result.assertion.assertionId))

/-- The entry of `ranked` for an assertion. -/
def entry (query : MemoryQuery) (assertion : SemanticAssertion) : RetrievedMemory Decision :=
  r.score tok arith assertion query (tok.tokens query.text)
    (tok.tokens (" ".intercalate query.goalTerms)) (r.decision query assertion)

@[simp] theorem entry_assertion (query : MemoryQuery) (assertion : SemanticAssertion) :
    (r.entry tok arith query assertion).assertion = assertion := rfl

theorem entry_contradiction (query : MemoryQuery) (assertion : SemanticAssertion) :
    (r.entry tok arith query assertion).components.contradiction = contradictionPenalty
      (r.projection.isContradicted assertion.assertionId query.validAt query.knownAt
        query.includeStale) (stale assertion query.validAt) := rfl

theorem entry_evidence (query : MemoryQuery) (assertion : SemanticAssertion) :
    (r.entry tok arith query assertion).components.evidence =
      r.projection.evidenceStrength arith assertion query.knownAt := rfl

/-- `ranked`, sorted. -/
def ranked (query : MemoryQuery) : List (RetrievedMemory Decision) :=
  (((r.projection.visibleTo query).filter fun assertion =>
    !denied r.accessEvaluator query assertion).map (r.entry tok arith query)).insertionSort
      fun a b => rankKey arith a ≤ rankKey arith b

/-- `retrieve_with_decisions`. -/
def retrieveWithDecisions (query : MemoryQuery) : MemoryRetrieval Decision :=
  { results := (r.ranked tok arith query).take query.limit
    accessDecisions := (r.projection.visibleTo query).filterMap (r.decision query) }

/-- `retrieve`. -/
def retrieve (query : MemoryQuery) : List (RetrievedMemory Decision) :=
  (r.retrieveWithDecisions tok arith query).results

end MemoryRetriever
end Noema
