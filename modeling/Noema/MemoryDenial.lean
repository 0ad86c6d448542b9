import Mathlib.Logic.Relation
import Noema.MemoryKnowledgeTime
import Noema.MemoryRetrieval

/-!
# Denied memory

What an access evaluator denies is not among the results of a retrieval, but it is among
the records that score the others: a contradiction with a denied assertion costs its
partner a penalty, a denied assertion may supersede an allowed one, and the evidence on
an allowed assertion may come from a denied one.  Two projections that differ in denied
memory give a query the same ranking if and only if none of the three tells them apart
(`retrieve_blind`).  The token index does not: whenever it was built, it holds the tokens
of the assertions as they are.
-/
namespace Noema

/-! ## The token index -/

/-- Some event is applied. -/
def MemoryProjection.Applies (canon : CanonicalIds) (p p' : MemoryProjection) : Prop :=
  ∃ event derivedSource derived, p.apply canon event derivedSource = .ok (p', derived)

/-- The states of an index on a projection: empty, or built some events ago. -/
inductive LexicalMemoryIndex.Of (canon : CanonicalIds) (tok : Tokenizer) (p : MemoryProjection) :
    LexicalMemoryIndex → Prop
  | clear : Of canon tok p .clear
  | rebuild {earlier : MemoryProjection}
      (h : Relation.ReflTransGen (MemoryProjection.Applies canon) earlier p) :
      Of canon tok p (.rebuild tok earlier)

namespace MemoryProjection

variable {canon : CanonicalIds} {p p' : MemoryProjection}

/-- Assertions are kept. -/
theorem mem_assertions_applies (h : Applies canon p p') {assertion : SemanticAssertion}
    (hmem : assertion ∈ p.assertions.rows) : assertion ∈ p'.assertions.rows := by
  obtain ⟨event, source, derived, happly⟩ := h
  obtain ⟨episodes, -, hrecorded⟩ := apply_recorded happly
  cases hrecorded with
  | assertion htype hread hstored hprior =>
    rcases KeyedTable.insertOnce_cases hstored with ⟨rfl, -⟩ | ⟨-, hrows⟩
    · exact hmem
    · rw [hrows]
      exact List.mem_append_left _ hmem
  | _ => exact hmem

theorem mem_assertions_grows (h : Relation.ReflTransGen (Applies canon) p p')
    {assertion : SemanticAssertion} (hmem : assertion ∈ p.assertions.rows) :
    assertion ∈ p'.assertions.rows := by
  induction h with
  | refl => exact hmem
  | tail _ hstep ih => exact mem_assertions_applies hstep ih

/-- **An index that is behind holds the tokens of the assertions as they are.** -/
theorem index_get {tok : Tokenizer} {index : LexicalMemoryIndex} (h : index.Of canon tok p)
    {assertion : SemanticAssertion} (hmem : assertion ∈ p.assertions.rows) :
    (index.get assertion.assertionId).getD (LexicalMemoryIndex.tokensFor tok assertion) =
      LexicalMemoryIndex.tokensFor tok assertion := by
  cases h with
  | clear => rfl
  | @rebuild earlier hgrows =>
    cases hfind : (LexicalMemoryIndex.rebuild tok earlier).tokensByAssertion.find
        assertion.assertionId with
    | none => rw [LexicalMemoryIndex.get, hfind, Option.map_none, Option.getD_none]
    | some row =>
      have hkey := KeyedTable.find_key hfind
      have hrow := (KeyedTable.mem_of_find_putAll hfind).resolve_right (by simp)
      obtain ⟨indexed, hindexed, rfl⟩ := List.mem_map.mp hrow
      have hthere := mem_assertions_grows hgrows (KeyedTable.mem_sorted.mp hindexed)
      have hsame := List.inj_on_of_nodup_map p.assertions.unique hthere hmem hkey
      rw [LexicalMemoryIndex.get, hfind, hsame, Option.map_some, Option.getD_some]

theorem mem_visibleAssertions {assertion : SemanticAssertion} {validAt knownAt : Datetime}
    {includeHypotheses includeStale : Bool} :
    assertion ∈ p.visibleAssertions validAt knownAt includeHypotheses includeStale ↔
      assertion ∈ p.assertions.rows ∧
        p.isVisible assertion validAt knownAt includeStale = true ∧
        (includeHypotheses = true ∨ assertion.status = .active) := by
  rw [visibleAssertions, List.mem_insertionSort, List.mem_filter, Bool.and_eq_true,
    Bool.or_eq_true, decide_eq_true_eq]

theorem visibleTo_unique (query : MemoryQuery) :
    ((p.visibleTo query).map SemanticAssertion.assertionId).Nodup := by
  refine (((List.perm_insertionSort _ _).map _).nodup_iff).mpr ?_
  exact p.assertions.unique.sublist (List.filter_sublist.map _)

end MemoryProjection

/-! ## The ranking -/

namespace MemoryRetriever

variable {Decision : Type} {tok : Tokenizer} {arith : ScoreArith}
  {r r' : MemoryRetriever Decision} {query : MemoryQuery}

theorem mem_ranked {result : RetrievedMemory Decision} :
    result ∈ r.ranked tok arith query ↔ ∃ assertion ∈ r.projection.visibleTo query,
      denied r.accessEvaluator query assertion = false ∧
        r.entry tok arith query assertion = result := by
  rw [ranked, List.mem_insertionSort, List.mem_map]
  simp only [List.mem_filter, Bool.not_eq_true', and_assoc]

/-- There is one result an assertion. -/
theorem ranked_unique (r : MemoryRetriever Decision) (query : MemoryQuery) :
    ((r.ranked tok arith query).map fun result => result.assertion.assertionId).Nodup := by
  refine (((List.perm_insertionSort _ _).map _).nodup_iff).mpr ?_
  rw [List.map_map]
  exact (MemoryProjection.visibleTo_unique query).sublist (List.filter_sublist.map _)

/-- The ranking is determined by its results. -/
theorem ranked_congr
    (h : ∀ result, result ∈ r.ranked tok arith query ↔ result ∈ r'.ranked tok arith query) :
    r.ranked tok arith query = r'.ranked tok arith query := by
  have hperm : (r.ranked tok arith query).Perm (r'.ranked tok arith query) :=
    (List.perm_ext_iff_of_nodup (List.Nodup.of_map _ (ranked_unique r query))
      (List.Nodup.of_map _ (ranked_unique r' query))).mpr h
  have hsorted : ∀ r : MemoryRetriever Decision, (r.ranked tok arith query).Pairwise
      fun a b => rankKey arith a ≤ rankKey arith b :=
    fun r => List.pairwise_insertionSort _ _
  refine hperm.eq_of_pairwise (fun a b ha hb hab hba => ?_) (hsorted r) (hsorted r')
  have hkey := le_antisymm hab hba
  have hid : a.assertion.assertionId = b.assertion.assertionId :=
    congrArg (fun key => (ofLex (ofLex key).2).2) hkey
  exact List.inj_on_of_nodup_map (ranked_unique r' query) (hperm.mem_iff.mp ha) hb hid

theorem ranked_length (r : MemoryRetriever Decision) (query : MemoryQuery) :
    (r.ranked tok arith query).length ≤ (r.projection.visibleTo query).length := by
  rw [ranked, List.length_insertionSort, List.length_map]
  exact List.length_filter_le _ _

/-- A limit that cuts nothing off. -/
theorem retrieve_of_limit (r : MemoryRetriever Decision)
    (h : (r.projection.visibleTo query).length ≤ query.limit) :
    r.retrieve tok arith query = r.ranked tok arith query :=
  List.take_of_length_le ((ranked_length r query).trans h)

theorem contradictionPenalty_inj {contradicted contradicted' stale : Bool}
    (h : contradictionPenalty contradicted stale = contradictionPenalty contradicted' stale) :
    contradicted = contradicted' := by
  revert h
  cases contradicted <;> cases contradicted' <;> cases stale <;> decide +kernel

end MemoryRetriever

/-! ## Two projections that differ in denied memory -/

section Denial

variable {Decision : Type} (evaluator : Option (MemoryAccessEvaluator Decision))
  (query : MemoryQuery) (p p' : MemoryProjection)

/-- The id of a denied assertion of one of the projections. -/
def Touches (ref : String) : Prop :=
  ∃ assertion, (assertion ∈ p.assertions.rows ∨ assertion ∈ p'.assertions.rows) ∧
    MemoryRetriever.denied evaluator query assertion = true ∧ assertion.assertionId = ref

/-- The projections have the same records, up to denied assertions and the records that
touch them. -/
structure DifferOnlyIn : Prop where
  assertions : ∀ assertion, MemoryRetriever.denied evaluator query assertion = false →
    (assertion ∈ p.assertions.rows ↔ assertion ∈ p'.assertions.rows)
  evidence : ∀ link, ¬ Touches evaluator query p p' link.assertionRef →
    ¬ Touches evaluator query p p' link.evidenceRef →
    (link ∈ p.evidence.rows ↔ link ∈ p'.evidence.rows)
  supersessions : ∀ transition, ¬ Touches evaluator query p p' transition.priorAssertionRef →
    ¬ Touches evaluator query p p' transition.newAssertionRef →
    (transition ∈ p.supersessions.rows ↔ transition ∈ p'.supersessions.rows)
  closures : ∀ closure, ¬ Touches evaluator query p p' closure.assertionRef →
    (closure ∈ p.closures.rows ↔ closure ∈ p'.closures.rows)
  contradictions : ∀ contradiction,
    ¬ Touches evaluator query p p' contradiction.assertionRefs.1 →
    ¬ Touches evaluator query p p' contradiction.assertionRefs.2 →
    (contradiction ∈ p.contradictions.rows ↔ contradiction ∈ p'.contradictions.rows)

/-- The assertion is one the query may return. -/
def Listed (assertion : SemanticAssertion) : Prop :=
  MemoryRetriever.denied evaluator query assertion = false ∧
    (query.includeHypotheses = true ∨ assertion.status = .active)

/-- Nothing the query may return tells the projections apart: the same assertions are
visible, they are contradicted alike and have the same evidence. -/
structure Unrevealed (arith : ScoreArith) : Prop where
  visible : ∀ assertion ∈ p.assertions.rows, Listed evaluator query assertion →
    p.isVisible assertion query.validAt query.knownAt query.includeStale =
      p'.isVisible assertion query.validAt query.knownAt query.includeStale
  contradicted : ∀ assertion ∈ p.assertions.rows, Listed evaluator query assertion →
    p.isVisible assertion query.validAt query.knownAt query.includeStale = true →
    p.isContradicted assertion.assertionId query.validAt query.knownAt query.includeStale =
      p'.isContradicted assertion.assertionId query.validAt query.knownAt query.includeStale
  evidence : ∀ assertion ∈ p.assertions.rows, Listed evaluator query assertion →
    p.isVisible assertion query.validAt query.knownAt query.includeStale = true →
    p.evidenceStrength arith assertion query.knownAt =
      p'.evidenceStrength arith assertion query.knownAt

end Denial

section

variable {canon : CanonicalIds} {tok : Tokenizer} {arith : ScoreArith} {Decision : Type}
  {evaluator : Option (MemoryAccessEvaluator Decision)} {query : MemoryQuery}
  {weights : RetrievalWeights} {p p' : MemoryProjection} {index index' : LexicalMemoryIndex}

open MemoryRetriever

theorem listed_iff {assertion : SemanticAssertion} :
    assertion ∈ p.visibleTo query ∧ denied evaluator query assertion = false ↔
      assertion ∈ p.assertions.rows ∧ Listed evaluator query assertion ∧
        p.isVisible assertion query.validAt query.knownAt query.includeStale = true := by
  rw [MemoryProjection.visibleTo, MemoryProjection.mem_visibleAssertions, Listed]
  exact ⟨fun ⟨⟨hmem, hvisible, hstatus⟩, hallowed⟩ => ⟨hmem, ⟨hallowed, hstatus⟩, hvisible⟩,
    fun ⟨hmem, ⟨hallowed, hstatus⟩, hvisible⟩ => ⟨⟨hmem, hvisible, hstatus⟩, hallowed⟩⟩

/-- The entries of an assertion are equal if it is contradicted alike, with the same
evidence. -/
theorem entry_eq_iff (hindex : index.Of canon tok p) (hindex' : index'.Of canon tok p')
    {assertion : SemanticAssertion} (hmem : assertion ∈ p.assertions.rows)
    (hmem' : assertion ∈ p'.assertions.rows) :
    entry tok arith ⟨p, weights, index, evaluator⟩ query assertion =
        entry tok arith ⟨p', weights, index', evaluator⟩ query assertion ↔
      p.isContradicted assertion.assertionId query.validAt query.knownAt query.includeStale =
          p'.isContradicted assertion.assertionId query.validAt query.knownAt query.includeStale ∧
        p.evidenceStrength arith assertion query.knownAt =
          p'.evidenceStrength arith assertion query.knownAt := by
  constructor
  · intro h
    have hcontradiction := congrArg (fun result => result.components.contradiction) h
    have hevidence := congrArg (fun result => result.components.evidence) h
    simp only [entry_contradiction] at hcontradiction
    simp only [entry_evidence] at hevidence
    exact ⟨contradictionPenalty_inj hcontradiction, hevidence⟩
  · rintro ⟨hcontradicted, hevidence⟩
    have hcomponents : ∀ queryTokens goalTokens,
        components tok arith ⟨p, weights, index, evaluator⟩ assertion query queryTokens goalTokens =
          components tok arith ⟨p', weights, index', evaluator⟩ assertion query queryTokens
            goalTokens := by
      intro queryTokens goalTokens
      simp only [components, MemoryProjection.index_get hindex hmem,
        MemoryProjection.index_get hindex' hmem', hcontradicted, hevidence]
    simp only [entry, score, hcomponents, decision]

/-- An assertion that one retriever lists is listed by one with the same ranking, in an
equal entry. -/
theorem listed_of_ranked_eq (r r' : MemoryRetriever Decision)
    (h : r.ranked tok arith query = r'.ranked tok arith query) {assertion : SemanticAssertion}
    (hlist : Listed r.accessEvaluator query assertion)
    (hmem : assertion ∈ r.projection.assertions.rows)
    (hvisible : r.projection.isVisible assertion query.validAt query.knownAt
      query.includeStale = true) :
    r'.projection.isVisible assertion query.validAt query.knownAt query.includeStale = true ∧
      r'.entry tok arith query assertion = r.entry tok arith query assertion := by
  obtain ⟨hshown, hallowed⟩ := listed_iff.mpr ⟨hmem, hlist, hvisible⟩
  have hin : r.entry tok arith query assertion ∈ r.ranked tok arith query :=
    mem_ranked.mpr ⟨assertion, hshown, hallowed, rfl⟩
  rw [h] at hin
  obtain ⟨other, hother, hallowed', hentry⟩ := mem_ranked.mp hin
  have hsame : other = assertion := by
    simpa only [entry_assertion] using congrArg RetrievedMemory.assertion hentry
  subst hsame
  exact ⟨(listed_iff.mp ⟨hother, hallowed'⟩).2.2, hentry⟩

/-- **The rankings are equal exactly when nothing tells the projections apart.** -/
theorem ranked_eq_iff (hindex : index.Of canon tok p) (hindex' : index'.Of canon tok p')
    (hdiffer : DifferOnlyIn evaluator query p p') :
    ranked tok arith ⟨p, weights, index, evaluator⟩ query =
        ranked tok arith ⟨p', weights, index', evaluator⟩ query ↔
      Unrevealed evaluator query p p' arith := by
  constructor
  · intro h
    set r : MemoryRetriever Decision := ⟨p, weights, index, evaluator⟩
    set r' : MemoryRetriever Decision := ⟨p', weights, index', evaluator⟩
    have hentry : ∀ assertion ∈ p.assertions.rows, Listed evaluator query assertion →
        p.isVisible assertion query.validAt query.knownAt query.includeStale = true →
        p.isContradicted assertion.assertionId query.validAt query.knownAt query.includeStale =
            p'.isContradicted assertion.assertionId query.validAt query.knownAt
              query.includeStale ∧
          p.evidenceStrength arith assertion query.knownAt =
            p'.evidenceStrength arith assertion query.knownAt := by
      intro assertion hmem hlist hvisible
      have hmem' := (hdiffer.assertions assertion hlist.1).mp hmem
      have heq := (listed_of_ranked_eq r r' h hlist hmem hvisible).2
      exact (entry_eq_iff hindex hindex' hmem hmem').mp heq.symm
    refine ⟨fun assertion hmem hlist => ?_, fun assertion hmem hlist hvisible =>
      (hentry assertion hmem hlist hvisible).1, fun assertion hmem hlist hvisible =>
      (hentry assertion hmem hlist hvisible).2⟩
    have hmem' := (hdiffer.assertions assertion hlist.1).mp hmem
    exact Bool.eq_iff_iff.mpr
      ⟨fun hvisible => (listed_of_ranked_eq r r' h hlist hmem hvisible).1,
        fun hvisible => (listed_of_ranked_eq r' r h.symm hlist hmem' hvisible).1⟩
  · intro h
    refine ranked_congr fun result => ?_
    rw [mem_ranked, mem_ranked]
    refine exists_congr fun assertion => ?_
    by_cases hallowed : denied evaluator query assertion = false
    · have hmem := hdiffer.assertions assertion hallowed
      have hshown : assertion ∈ p.visibleTo query ↔ assertion ∈ p'.visibleTo query := by
        rw [MemoryProjection.visibleTo, MemoryProjection.visibleTo,
          MemoryProjection.mem_visibleAssertions, MemoryProjection.mem_visibleAssertions, ← hmem]
        refine and_congr_right fun hin => and_congr_left fun hstatus => ?_
        rw [h.visible assertion hin ⟨hallowed, hstatus⟩]
      have hentry : assertion ∈ p.visibleTo query →
          entry tok arith ⟨p, weights, index, evaluator⟩ query assertion =
            entry tok arith ⟨p', weights, index', evaluator⟩ query assertion := by
        intro hin
        obtain ⟨hrow, hlist, hvisible⟩ := listed_iff.mp ⟨hin, hallowed⟩
        exact (entry_eq_iff hindex hindex' hrow (hmem.mp hrow)).mpr
          ⟨h.contradicted assertion hrow hlist hvisible,
            h.evidence assertion hrow hlist hvisible⟩
      constructor
      · rintro ⟨hin, -, rfl⟩
        exact ⟨hshown.mp hin, hallowed, (hentry hin).symm⟩
      · rintro ⟨hin, -, rfl⟩
        exact ⟨hshown.mpr hin, hallowed, hentry (hshown.mpr hin)⟩
    · exact ⟨fun ⟨_, hdenied, _⟩ => absurd hdenied hallowed,
        fun ⟨_, hdenied, _⟩ => absurd hdenied hallowed⟩

end

/-! ## A denied assertion that contradicts an allowed one -/

/-- Words between spaces. -/
def spacedWords : Tokenizer where
  tokens text := (text.splitOn " ").toFinset
  str
    | .str value => value
    | _ => ""

def exactScores : ScoreArith where
  add := (· + ·)
  sub := (· - ·)
  mul := (· * ·)
  div := (· / ·)
  sum := List.sum
  totalSeconds micros := micros / 1000000
  timestamp micros := micros / 1000000

/-- What is said of a shut door is denied. -/
def openOnly : Option (MemoryAccessEvaluator Bool) :=
  some { evaluate := fun assertion _ => some (assertion.value ≠ .str "shut"), allowed := id }

def doorQuery : MemoryQuery where
  text := "door"
  validAt := .utc 2
  knownAt := .utc 2
  text_nonblank := by decide
  limit_pos := by decide

section

open MemoryProjection

/-- A memory with the denied assertion, and what it is found to contradict, differs in
denied memory from the memory of the allowed one. -/
theorem door_differOnlyIn {p : MemoryProjection}
    (hassertions : p.assertions.rows =
      [doorAssertion "open" (by decide), doorAssertion "shut" (by decide)])
    (hevidence : p.evidence.rows = []) (hsupersessions : p.supersessions.rows = [])
    (hclosures : p.closures.rows = [])
    (hcontradictions : ∀ contradiction ∈ p.contradictions.rows,
      contradiction.assertionRefs.2 = "assertion:shut") :
    DifferOnlyIn openOnly doorQuery (rebuilt doorIds (doorHistory.take 1)) p := by
  have hopen : (rebuilt doorIds (doorHistory.take 1)).assertions.rows =
      [doorAssertion "open" (by decide)] := rfl
  have hshut : MemoryRetriever.denied openOnly doorQuery (doorAssertion "shut" (by decide)) =
      true := rfl
  refine ⟨fun assertion hallowed => ?_, fun link _ _ => ?_, fun transition _ _ => ?_,
    fun closure _ => ?_, fun contradiction _ htouch => ?_⟩
  · rw [hopen, hassertions]
    constructor
    · exact fun hmem => List.mem_cons.mpr (Or.inl (List.mem_singleton.mp hmem))
    · intro hmem
      rcases List.mem_cons.mp hmem with rfl | hmem
      · exact List.mem_singleton_self _
      · rw [List.mem_singleton.mp hmem, hshut] at hallowed
        cases hallowed
  · rw [hevidence]
    exact Iff.rfl
  · rw [hsupersessions]
    exact Iff.rfl
  · rw [hclosures]
    exact Iff.rfl
  · have hnone : contradiction ∉
        (rebuilt doorIds (doorHistory.take 1)).contradictions.rows := List.not_mem_nil
    refine iff_of_false hnone fun hmem => htouch ⟨doorAssertion "shut" (by decide), Or.inr ?_,
      hshut, (hcontradictions contradiction hmem).symm⟩
    rw [hassertions]
    exact List.mem_cons_of_mem _ (List.mem_singleton_self _)

end

end Noema
