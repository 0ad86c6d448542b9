import Noema.RuleCell

/-!
# Replay and the wall clock

An evaluation reads the clock in one place, the snapshot, and sees of it only whether a
fact has expired.  So two replays of a history leave the same traces if at each event
the facts that a rule can tell apart are alive at both readings or at neither, and this
is all there is to it: if not, there is a rule whose traces differ (`timeless_iff`).

The proof runs from clauses to rules to replays.  For the converse the rule is
`probe key`, which looks at one fact and never emits a signal.
-/
namespace Noema
namespace RuleCell

variable {b : Builtins} {floats : FloatArith} {ids : AutonomicIds}

/-- The traces that were produced, without their costs. -/
def produced (result : Except PyError (List RuleEvaluationTrace)) :
    Option (List RuleEvaluationTrace) :=
  (result.map (List.map RuleEvaluationTrace.semantic)).toOption

end RuleCell

open RuleCell

/-- A rule on this event cannot tell the two readings apart by the fact: it is alive at
both or at neither, or no clause can name it, or it says nothing and the event itself is
its evidence. -/
def Fact.Steady (now now' : Datetime) (event : Event) (fact : Fact) : Prop :=
  fact.alive now = fact.alive now' ∨ fact.key = "" ∨
    fact.value = .null ∧ ∀ id, fact.evidenceEventId = some id → id = event.id

/-- No fact of the situation tells the readings apart. -/
def Situation.Steady (now now' : Datetime) (event : Event) (s : Situation) : Prop :=
  ∀ fact ∈ s.tables.facts.rows, fact.Steady now now' event

namespace RuleCell

variable {b : Builtins} {floats : FloatArith} {ids : AutonomicIds}

/-! ## What a rule sees of the clock -/

section Steady

variable {now now' : Datetime} {event : Event} {s : Situation}

theorem find_snapshot (s : Situation) (now : Datetime) (key : String) :
    (s.snapshot now).tables.facts.find key = (s.tables.facts.find key).filter (Fact.alive now) :=
  KeyedTable.find_restrict _ _ _

theorem sortedIds_own (id : String) {evidence : Option String}
    (h : ∀ other, evidence = some other → other = id) :
    sortedIds (id :: evidence.toList) = sortedIds [id] := by
  cases evidence with
  | none => rfl
  | some other =>
    rw [h other rfl]
    simp [sortedIds]

/-- What a clause reads of the fact it names. -/
theorem fact_steady (h : s.Steady now now' event) {key : String} (hkey : key ≠ "") :
    (((s.snapshot now).tables.facts.find key).map Fact.value).getD .null =
      (((s.snapshot now').tables.facts.find key).map Fact.value).getD .null ∧
    sortedIds (event.id :: (((s.snapshot now).tables.facts.find key).bind Fact.evidenceEventId).toList) =
      sortedIds
        (event.id :: (((s.snapshot now').tables.facts.find key).bind Fact.evidenceEventId).toList) := by
  rw [find_snapshot, find_snapshot]
  cases hfind : s.tables.facts.find key with
  | none => exact ⟨rfl, rfl⟩
  | some fact =>
    rcases h fact (KeyedTable.mem_of_find hfind) with halive | hempty | ⟨hnull, hown⟩
    · rw [Option.filter_some, Option.filter_some, halive]
      exact ⟨rfl, rfl⟩
    · exact absurd ((KeyedTable.find_key hfind).symm.trans hempty) hkey
    · -- with or without the fact the clause reads `None`, and the event is its evidence
      have hseen : ∀ at' : Datetime,
          (((some fact).filter (Fact.alive at')).map Fact.value).getD .null = .null ∧
            sortedIds (event.id :: (((some fact).filter (Fact.alive at')).bind
              Fact.evidenceEventId).toList) = sortedIds [event.id] := by
        intro at'
        rw [Option.filter_some]
        split
        · exact ⟨hnull, sortedIds_own event.id hown⟩
        · exact ⟨rfl, rfl⟩
      obtain ⟨hvalue, hevidence⟩ := hseen now
      obtain ⟨hvalue', hevidence'⟩ := hseen now'
      exact ⟨hvalue.trans hvalue'.symm, hevidence.trans hevidence'.symm⟩

theorem evaluateClause_steady (h : s.Steady now now' event) (clause : PredicateClause) :
    evaluateClause clause event (s.snapshot now) = evaluateClause clause event (s.snapshot now') := by
  unfold evaluateClause factOf
  cases clause.ref.source with
  | event => rfl
  | fact =>
    obtain ⟨hvalue, hevidence⟩ := fact_steady h clause.ref.key_ne
    simp only [hvalue, hevidence]

theorem evaluateClauses_steady (h : s.Steady now now' event) (clauses : List PredicateClause) :
    evaluateClauses clauses event (s.snapshot now) =
      evaluateClauses clauses event (s.snapshot now') := by
  simp only [evaluateClauses, evaluateClause_steady h]

theorem evaluateRule_steady (h : s.Steady now now' event) (rule : AutonomicRule) (history : List Event) :
    evaluateRule floats rule event (s.snapshot now) history =
      evaluateRule floats rule event (s.snapshot now') history := by
  unfold evaluateRule
  cases rule.spec with
  | predicate spec => simp only [evaluatePredicate, evaluateClauses_steady h]
  | temporal spec => simp only [evaluateTemporal, evaluateClauses_steady h]
  | scoring spec => simp only [evaluateScoring, evaluateClause_steady h]

end Steady

/-! ## Costs -/

theorem traceOf_cost (b : Builtins) (floats : FloatArith) (ids : AutonomicIds) (cell : RuleCell)
    (epoch : EvaluationEpoch) (event : Event) (rule : AutonomicRule) (result : EvaluationResult) (cost cost' : Nat) :
    (cell.traceOf b floats ids epoch event rule result cost).map RuleEvaluationTrace.semantic =
      (cell.traceOf b floats ids epoch event rule result cost').map
        RuleEvaluationTrace.semantic := by
  unfold traceOf
  dsimp only
  cases wouldEmit b floats ids epoch event rule (floats.round12 (clamp result.score))
    result.evidence with
  | error error => rfl
  | ok signal => rfl

theorem map_mapM {α β γ : Type} {f : α → Except PyError β} (g : β → γ) (items : List α) :
    (items.mapM f).map (List.map g) = items.mapM fun item => (f item).map g := by
  induction items with
  | nil => rfl
  | cons item items ih =>
    rw [List.mapM_cons, List.mapM_cons, ← ih]
    cases f item with
    | error error => rfl
    | ok value => cases items.mapM f <;> rfl

/-- **Two evaluations on a steady situation** differ in their costs only. -/
theorem evaluate_steady {now now' : Datetime} {event : Event} {s : Situation}
    (h : s.Steady now now' event) (cell : RuleCell) (epoch : EvaluationEpoch) (history : List Event)
    (cost cost' : AutonomicRule → Nat) :
    (cell.evaluate b floats ids epoch event (s.snapshot now) history cost).map
        (List.map RuleEvaluationTrace.semantic) =
      (cell.evaluate b floats ids epoch event (s.snapshot now') history cost').map
        (List.map RuleEvaluationTrace.semantic) := by
  unfold evaluate
  split
  · rfl
  · simp only [map_mapM, evaluateRule_steady h,
      fun rule result => traceOf_cost b floats ids cell epoch event rule result (cost rule) (cost' rule)]

/-! ## Replays of steady histories -/

section Replays

variable {clock clock' : Nat → Datetime} {cost cost' : Nat → AutonomicRule → Nat}

/-- At each event that a cell may evaluate, the situation does not tell the readings
apart. -/
def SteadyFrom (b : Builtins) (clock clock' : Nat → Datetime) (index : Nat) (s : Situation)
    (events : List Event) : Prop :=
  ∀ past event rest s', events = past ++ event :: rest →
    (past ++ [event]).foldlM (Situation.applied b) s = .ok s' → event.sequence ≠ some 0 →
      s'.Steady (clock (index + past.length)) (clock' (index + past.length)) event

theorem SteadyFrom.head {index : Nat} {s s' : Situation} {event : Event} {events : List Event}
    (h : SteadyFrom b clock clock' index s (event :: events)) (hs : s.applied b event = .ok s')
    (hseq : event.sequence ≠ some 0) : s'.Steady (clock index) (clock' index) event := by
  refine h [] event events s' rfl ?_ hseq
  simp only [List.nil_append, List.foldlM_cons, hs]
  rfl

theorem SteadyFrom.tail {index : Nat} {s s' : Situation} {event : Event} {events : List Event}
    (h : SteadyFrom b clock clock' index s (event :: events)) (hs : s.applied b event = .ok s') :
    SteadyFrom b clock clock' (index + 1) s' events := by
  intro past other rest t hsplit ht hseq
  have hsteady := h (event :: past) other rest t (by rw [hsplit]; rfl) (by
    simp only [List.cons_append, List.foldlM_cons, hs]
    exact ht) hseq
  rw [List.length_cons, Nat.add_comm past.length 1, ← Nat.add_assoc] at hsteady
  exact hsteady

theorem replayStep_steady {now now' : Datetime} {event : Event} {s : Situation}
    (h : event.sequence ≠ some 0 → s.Steady now now' event) (cell : RuleCell)
    (epoch : EvaluationEpoch) (index : Nat) (history : List Event) (cost cost' : AutonomicRule → Nat) :
    (cell.replayStep b floats ids epoch now cost index s history event).map
        (List.map RuleEvaluationTrace.semantic) =
      (cell.replayStep b floats ids epoch now' cost' index s history event).map
        (List.map RuleEvaluationTrace.semantic) := by
  unfold replayStep
  split
  · rfl
  · by_cases hseq : event.sequence = some 0
    · -- a cell ignores an event at zero, whatever the cursor of its epoch
      have hold : event.sequence.any (· ≤ epoch.eventLogCursor) = true := by simp [hseq]
      simp only [evaluate, hold, Bool.or_true, if_true]
    · exact evaluate_steady (h hseq) cell epoch history cost cost'

/-- A sequence of two computations that agree up to `f` and `g`, of which the second
does not look at the difference. -/
theorem bind_append {x y : Except PyError (List RuleEvaluationTrace)}
    {u v : Except PyError (List RuleEvaluationTrace)}
    (h : x.map (List.map RuleEvaluationTrace.semantic) =
      y.map (List.map RuleEvaluationTrace.semantic))
    (k : u.map (List.map RuleEvaluationTrace.semantic) =
      v.map (List.map RuleEvaluationTrace.semantic)) :
    (do return (← x) ++ (← u)).map (List.map RuleEvaluationTrace.semantic) =
      (do return (← y) ++ (← v)).map (List.map RuleEvaluationTrace.semantic) := by
  have hsplit : ∀ x u : Except PyError (List RuleEvaluationTrace),
      (do return (← x) ++ (← u)).map (List.map RuleEvaluationTrace.semantic) =
        (do return (← x.map (List.map RuleEvaluationTrace.semantic)) ++
          (← u.map (List.map RuleEvaluationTrace.semantic))) := by
    intro x u
    cases x with
    | error error => rfl
    | ok traces =>
      cases u with
      | error error => rfl
      | ok others => exact congrArg Except.ok List.map_append
  rw [hsplit, hsplit, h, k]

theorem replayFrom_steady (cell : RuleCell) (epoch : EvaluationEpoch) {index : Nat} {s : Situation}
    {history events : List Event} (h : SteadyFrom b clock clock' index s events) :
    (cell.replayFrom b floats ids epoch clock cost index s history events).map
        (List.map RuleEvaluationTrace.semantic) =
      (cell.replayFrom b floats ids epoch clock' cost' index s history events).map
        (List.map RuleEvaluationTrace.semantic) := by
  induction events generalizing index s history with
  | nil => simp only [replayFrom]
  | cons event events ih =>
    rw [replayFrom, replayFrom]
    cases hs : s.applied b event with
    | error error => rw [error_bind, error_bind]
    | ok s' =>
      rw [ok_bind, ok_bind]
      exact bind_append (replayStep_steady (h.head hs) cell epoch index _ _ _) (ih (h.tail hs))

end Replays

/-! ## A rule that tells two readings apart -/

section Probe

/-- It holds of a fact that says something. -/
def probeClause (key : String) (hkey : key ≠ "") : PredicateClause :=
  ⟨⟨.fact, key, hkey⟩, .notEquals, .null⟩

/-- It never holds. -/
def neverClause : PredicateClause := ⟨⟨.event, "type", by decide⟩, .equals, .null⟩

/-- The rule looks at one fact.  It never holds, so it needs no signal. -/
def probe (key : String) (hkey : key ≠ "") : AutonomicRule where
  ruleId := "probe"
  version := 1
  purpose := "probe"
  trigger := "*"
  spec := .predicate ⟨[probeClause key hkey, neverClause], by simp⟩
  output :=
    { kind := "probe", salience := 0, confidence := 0, urgency := 0, expectedValue := 0,
      ttlSeconds := 1, role := .excitatory, suggestedDisposition := .remember, subject := none,
      kind_ne := by decide, salience_unit := by simp, confidence_unit := by simp,
      urgency_unit := by simp, expectedValue_nonneg := by decide, ttlSeconds_pos := by decide }
  threshold := 1
  precedence := 0
  intentText := none
  evidenceRefs := []
  texts_ne := by decide
  version_pos := Nat.one_pos
  threshold_unit := by simp

def probeEpoch (key : String) (hkey : key ≠ "") : EvaluationEpoch where
  epochId := "probe"
  ruleset := ⟨[probe key hkey], by simp, by simp⟩
  startedAt := .utc 0
  eventLogCursor := 0

def probeCell : RuleCell := ⟨"probe", ["*"], by decide, by decide⟩

variable (b : Builtins) (floats : FloatArith) (ids : AutonomicIds) {key : String} (hkey : key ≠ "")
  {event : Event} {s : Situation}

theorem neverClause_fails (event : Event) (s : Situation) :
    (evaluateClause neverClause event s).holds = false := rfl

/-- The trace of the probe says whether the fact says something, and its evidence. -/
theorem probe_evaluate (s : Situation) (hseq : event.sequence ≠ some 0) (history : List Event)
    (cost : AutonomicRule → Nat) : ∃ trace,
      probeCell.evaluate b floats ids (probeEpoch key hkey) event s history cost = .ok [trace] ∧
      trace.matchedConditions = (if (evaluateClause (probeClause key hkey) event s).holds then
        [(evaluateClause (probeClause key hkey) event s).description] else []) ∧
      trace.evidenceRefs = sortedIds (event.id ::
        ((evaluateClause (probeClause key hkey) event s).evidence ++
          (evaluateClause neverClause event s).evidence)) := by
  have hactive : (!probeCell.accepts event ||
      event.sequence.any (· ≤ (probeEpoch key hkey).eventLogCursor)) = false := by
    have haccepts : probeCell.accepts event = true := by
      simp [accepts, probeCell, Glob.fnmatchcase_star]
    have hnew : event.sequence.any (· ≤ (probeEpoch key hkey).eventLogCursor) = false := by
      cases hsequence : event.sequence with
      | none => rfl
      | some sequence =>
        have : sequence ≠ 0 := by
          rintro rfl
          exact hseq hsequence
        simpa only [Option.any_some, probeEpoch, decide_eq_false_iff_not, Nat.le_zero]
    rw [haccepts, hnew]
    rfl
  have htriggered : ((probeEpoch key hkey).ruleset.rules.filter fun rule =>
      Glob.fnmatchcase event.type rule.trigger) = [probe key hkey] := by
    simp [probeEpoch, probe, Glob.fnmatchcase_star]
  have hscore : (evaluateRule floats (probe key hkey) event s history).score = 0 := by
    cases hholds : (evaluateClause (probeClause key hkey) event s).holds <;>
      simp [evaluateRule, probe, evaluatePredicate, evaluateClauses,
        neverClause_fails, hholds]
  have hsilent : wouldEmit b floats ids (probeEpoch key hkey) event (probe key hkey)
      (floats.round12 (clamp (evaluateRule floats (probe key hkey) event s history).score))
      (evaluateRule floats (probe key hkey) event s history).evidence = .ok none := by
    have hclamp : clamp 0 = 0 := by decide
    rw [hscore, hclamp, floats.round12_zero]
    have habove : ¬ (probe key hkey).threshold ≤ 0 := by
      show ¬ (1 : ℚ) ≤ 0
      decide
    exact if_neg habove
  simp only [evaluate, hactive, Bool.false_eq_true, if_false, htriggered, List.mapM_cons,
    List.mapM_nil, traceOf, hsilent, ok_bind]
  refine ⟨_, rfl, ?_, ?_⟩
  · cases hholds : (evaluateClause (probeClause key hkey) event s).holds <;>
      simp [evaluateRule, probe, evaluatePredicate, evaluateClauses,
        neverClause_fails, hholds]
  · simp [evaluateRule, probe, evaluatePredicate, evaluateClauses]

theorem null_of_equals {value : JSONValue} (h : Literal.null.equals value = true) :
    value = .null := by
  cases value <;> first | rfl | cases h

/-- What the clause of the probe says when its fact is alive, and when it is not. -/
theorem probeClause_eq (event : Event) {fact : Fact} (hfind : s.tables.facts.find key = some fact) (now : Datetime) :
    (evaluateClause (probeClause key hkey) event (s.snapshot now)).holds =
        (fact.alive now && !Literal.null.equals fact.value) ∧
      (evaluateClause (probeClause key hkey) event (s.snapshot now)).evidence =
        if fact.alive now then sortedIds (event.id :: fact.evidenceEventId.toList)
        else sortedIds [event.id] := by
  have hfact : factOf (probeClause key hkey) (s.snapshot now) =
      if fact.alive now then some fact else none := by
    rw [factOf, probeClause, find_snapshot, hfind, Option.filter_some]
  simp only [evaluateClause, hfact]
  cases fact.alive now with
  | false => exact ⟨rfl, rfl⟩
  | true => exact ⟨rfl, rfl⟩

/-- **The probe tells apart what any rule can.** -/
theorem steady_of_probe {fact : Fact} (hfind : s.tables.facts.find key = some fact)
    {now now' : Datetime}
    (hmatched : (evaluateClause (probeClause key hkey) event (s.snapshot now)).holds =
      (evaluateClause (probeClause key hkey) event (s.snapshot now')).holds)
    (hevidence : ∀ id, id ∈ (evaluateClause (probeClause key hkey) event (s.snapshot now)).evidence ∨
        id = event.id ↔
      id ∈ (evaluateClause (probeClause key hkey) event (s.snapshot now')).evidence ∨
        id = event.id) : fact.Steady now now' event := by
  obtain ⟨hholds, hrefs⟩ := probeClause_eq hkey event hfind now
  obtain ⟨hholds', hrefs'⟩ := probeClause_eq hkey event hfind now'
  rw [hholds, hholds'] at hmatched
  simp only [hrefs, hrefs'] at hevidence
  cases halive : fact.alive now with
  | false =>
    cases halive' : fact.alive now' with
    | false => exact Or.inl (halive.trans halive'.symm)
    | true =>
      simp only [halive, halive', Bool.false_and, Bool.true_and] at hmatched
      refine Or.inr (Or.inr ⟨null_of_equals (by simpa using hmatched.symm), fun id hid => ?_⟩)
      simpa [halive, halive', hid] using hevidence id
  | true =>
    cases halive' : fact.alive now' with
    | true => exact Or.inl (halive.trans halive'.symm)
    | false =>
      simp only [halive, halive', Bool.false_and, Bool.true_and] at hmatched
      refine Or.inr (Or.inr ⟨null_of_equals (by simpa using hmatched), fun id hid => ?_⟩)
      simpa [halive, halive', hid] using hevidence id

/-- Every other event lies after the epoch of the probe. -/
theorem probe_place {index : Nat} (hindex : 0 < index) (hseq : event.sequence ≠ some 0) :
    ¬ logicalSequence (probeEpoch key hkey) index event ≤ (probeEpoch key hkey).eventLogCursor := by
  show ¬ logicalSequence (probeEpoch key hkey) index event ≤ 0
  unfold logicalSequence
  split
  · show ¬ 0 + index ≤ 0
    omega
  · exact absurd ‹_› hseq
  · rename_i sequence hzero hsequence
    have : sequence ≠ 0 := fun h => hseq (h ▸ hsequence)
    omega

/-- On an event at zero the probe leaves no trace, on every other event one. -/
theorem probe_step (s : Situation) (event : Event) (now : Datetime) (cost : AutonomicRule → Nat) {index : Nat} (hindex : 0 < index)
    (history : List Event) : ∃ traces,
      probeCell.replayStep b floats ids (probeEpoch key hkey) now cost index s history event =
        .ok traces ∧ traces.length = if event.sequence = some 0 then 0 else 1 := by
  unfold replayStep
  by_cases hseq : event.sequence = some 0
  · refine ⟨[], ?_, by rw [if_pos hseq]; rfl⟩
    split
    · rfl
    · have hold : event.sequence.any (· ≤ (probeEpoch key hkey).eventLogCursor) = true := by
        simp [hseq]
      simp only [evaluate, hold, Bool.or_true, if_true]
  · have hplace := probe_place hkey hindex hseq
    obtain ⟨trace, htrace, -, -⟩ := probe_evaluate b floats ids hkey (s.snapshot now) hseq
      history cost
    exact ⟨[trace], by rw [if_neg hplace, htrace], by rw [if_neg hseq]; rfl⟩

/-- The probe replays every history that can be applied. -/
theorem probe_returns (clock : Nat → Datetime) (cost : Nat → AutonomicRule → Nat)
    {events : List Event} {index : Nat} (hindex : 0 < index) {t : Situation}
    (happly : events.foldlM (Situation.applied b) s = .ok t) (history : List Event) :
    ∃ traces, probeCell.replayFrom b floats ids (probeEpoch key hkey) clock cost index s history events =
      .ok traces := by
  induction events generalizing index s history with
  | nil => exact ⟨[], by simp only [replayFrom]⟩
  | cons event events ih =>
    rw [List.foldlM_cons] at happly
    obtain ⟨s', hs, happly⟩ := bind_eq_ok happly
    obtain ⟨traces, htraces, -⟩ := probe_step b floats ids hkey s' event (clock index)
      (cost index) hindex (history ++ [event])
    obtain ⟨others, hothers⟩ := ih (Nat.succ_pos index) happly (history ++ [event])
    exact ⟨traces ++ others, by
      rw [replayFrom, hs, ok_bind]
      simp only [htraces, hothers, ok_bind]
      rfl⟩

/-- What the traces of the probe have in common. -/
theorem steady_of_traces {now now' : Datetime} (hseq : event.sequence ≠ some 0)
    {cost cost' : AutonomicRule → Nat} {history : List Event} {fact : Fact}
    (hfind : s.tables.facts.find key = some fact)
    (h : (probeCell.evaluate b floats ids (probeEpoch key hkey) event (s.snapshot now) history
        cost).map (List.map RuleEvaluationTrace.semantic) =
      (probeCell.evaluate b floats ids (probeEpoch key hkey) event (s.snapshot now') history
        cost').map (List.map RuleEvaluationTrace.semantic)) : fact.Steady now now' event := by
  obtain ⟨trace, htrace, hmatched, hevidence⟩ := probe_evaluate b floats ids hkey (s.snapshot now)
    hseq history cost
  obtain ⟨trace', htrace', hmatched', hevidence'⟩ := probe_evaluate b floats ids hkey
    (s.snapshot now') hseq history cost'
  rw [htrace, htrace'] at h
  have hsame : trace.semantic = trace'.semantic := by
    simpa only [List.map_cons, List.map_nil, List.cons.injEq, and_true] using Except.ok.inj h
  have hmatch : trace.semantic.matchedConditions = trace'.semantic.matchedConditions := by rw [hsame]
  have hrefs : trace.semantic.evidenceRefs = trace'.semantic.evidenceRefs := by rw [hsame]
  simp only [RuleEvaluationTrace.semantic] at hmatch hrefs
  refine steady_of_probe hkey hfind ?_ fun id => ?_
  · rw [hmatched, hmatched'] at hmatch
    cases hholds : (evaluateClause (probeClause key hkey) event (s.snapshot now)).holds <;>
      cases hholds' : (evaluateClause (probeClause key hkey) event (s.snapshot now')).holds <;>
      simp [hholds, hholds'] at hmatch ⊢
  · have hmem : id ∈ trace.evidenceRefs ↔ id ∈ trace'.evidenceRefs := by rw [hrefs]
    have hnever : ∀ t : Situation, (evaluateClause neverClause event t).evidence = [event.id] :=
      fun t => by simp [evaluateClause, factOf, neverClause, sortedIds]
    rw [hevidence, hevidence'] at hmem
    simp only [mem_sortedIds, List.mem_cons, List.mem_append, hnever, List.not_mem_nil,
      or_false] at hmem
    tauto

/-- Two replays that leave the same traces do so event by event. -/
theorem probe_split {clock clock' : Nat → Datetime} {cost cost' : Nat → AutonomicRule → Nat}
    {events : List Event} {index : Nat} (hindex : 0 < index) {s' t : Situation}
    (hs : s.applied b event = .ok s') (happly : events.foldlM (Situation.applied b) s' = .ok t)
    {history : List Event}
    (h : (probeCell.replayFrom b floats ids (probeEpoch key hkey) clock cost index s history
        (event :: events)).map (List.map RuleEvaluationTrace.semantic) =
      (probeCell.replayFrom b floats ids (probeEpoch key hkey) clock' cost' index s history
        (event :: events)).map (List.map RuleEvaluationTrace.semantic)) :
    (probeCell.replayStep b floats ids (probeEpoch key hkey) (clock index) (cost index) index s'
        (history ++ [event]) event).map (List.map RuleEvaluationTrace.semantic) =
      (probeCell.replayStep b floats ids (probeEpoch key hkey) (clock' index) (cost' index) index s'
        (history ++ [event]) event).map (List.map RuleEvaluationTrace.semantic) ∧
    (probeCell.replayFrom b floats ids (probeEpoch key hkey) clock cost (index + 1) s'
        (history ++ [event]) events).map (List.map RuleEvaluationTrace.semantic) =
      (probeCell.replayFrom b floats ids (probeEpoch key hkey) clock' cost' (index + 1) s'
        (history ++ [event]) events).map (List.map RuleEvaluationTrace.semantic) := by
  have hstep := probe_step b floats ids hkey s' event
  obtain ⟨traces, htraces, hlength⟩ := hstep (clock index) (cost index) hindex (history ++ [event])
  obtain ⟨traces', htraces', hlength'⟩ :=
    hstep (clock' index) (cost' index) hindex (history ++ [event])
  obtain ⟨others, hothers⟩ := probe_returns b floats ids hkey clock cost (Nat.succ_pos index)
    happly (history ++ [event])
  obtain ⟨others', hothers'⟩ := probe_returns b floats ids hkey clock' cost' (Nat.succ_pos index)
    happly (history ++ [event])
  rw [replayFrom, replayFrom, hs, ok_bind, ok_bind] at h
  simp only [htraces, htraces', hothers, hothers', ok_bind] at h
  have hsame : traces.map RuleEvaluationTrace.semantic ++ others.map RuleEvaluationTrace.semantic =
      traces'.map RuleEvaluationTrace.semantic ++ others'.map RuleEvaluationTrace.semantic := by
    rw [← List.map_append, ← List.map_append]
    exact Except.ok.inj h
  obtain ⟨hfirst, hlast⟩ := List.append_inj hsame (by
    rw [List.length_map, List.length_map, hlength, hlength'])
  rw [htraces, htraces', hothers, hothers']
  exact ⟨congrArg Except.ok hfirst, congrArg Except.ok hlast⟩

/-- **Replays that leave the same traces of every probe met a steady history.** -/
theorem steady_of_replays {clock clock' : Nat → Datetime} {cost cost' : Nat → AutonomicRule → Nat}
    {index : Nat} (hindex : 0 < index) {past rest history : List Event} {s' t : Situation}
    (happly : (past ++ event :: rest).foldlM (Situation.applied b) s = .ok t)
    (h : (probeCell.replayFrom b floats ids (probeEpoch key hkey) clock cost index s history
        (past ++ event :: rest)).map (List.map RuleEvaluationTrace.semantic) =
      (probeCell.replayFrom b floats ids (probeEpoch key hkey) clock' cost' index s history
        (past ++ event :: rest)).map (List.map RuleEvaluationTrace.semantic))
    (hs' : (past ++ [event]).foldlM (Situation.applied b) s = .ok s')
    (hseq : event.sequence ≠ some 0) {fact : Fact} (hfind : s'.tables.facts.find key = some fact) :
    fact.Steady (clock (index + past.length)) (clock' (index + past.length)) event := by
  induction past generalizing index s history with
  | nil =>
    rw [List.nil_append, List.foldlM_cons] at happly hs'
    obtain ⟨s₁, hs, happly⟩ := bind_eq_ok happly
    obtain ⟨hstep, -⟩ := probe_split b floats ids hkey hindex hs happly h
    rw [hs, ok_bind] at hs'
    cases hs'
    have hplace : ¬ logicalSequence (probeEpoch key hkey) index event ≤
        (probeEpoch key hkey).eventLogCursor := probe_place hkey hindex hseq
    unfold replayStep at hstep
    rw [if_neg hplace, if_neg hplace] at hstep
    exact steady_of_traces b floats ids hkey hseq hfind hstep
  | cons first past ih =>
    rw [List.cons_append, List.foldlM_cons] at happly hs'
    obtain ⟨s₁, hs, happly⟩ := bind_eq_ok happly
    obtain ⟨-, hrest⟩ := probe_split b floats ids hkey hindex hs happly h
    rw [hs, ok_bind] at hs'
    have hlater := ih (Nat.succ_pos index) happly hrest hs'
    rwa [List.length_cons, Nat.add_comm past.length 1, ← Nat.add_assoc]

end Probe

/-! ## The wall clock -/

section Timeless

variable (b : Builtins) (floats : FloatArith) (ids : AutonomicIds)

/-- At each event of a history that can be applied, the situation does not tell the
readings apart. -/
def SteadyHistory (clock clock' : Nat → Datetime) (events : List Event) : Prop :=
  ∀ t, situationOf b (clock 0) events = .ok t →
    ∀ past event rest s, events = past ++ event :: rest →
      situationOf b (clock 0) (past ++ [event]) = .ok s → event.sequence ≠ some 0 →
        s.Steady (clock (1 + past.length)) (clock' (1 + past.length)) event

/-- The situation at an event does not tell the readings apart. -/
def SteadyEnd (now now' : Datetime) (past : List Event) (event : Event) : Prop :=
  ∀ s, situationOf b now (past ++ [event]) = .ok s → event.sequence ≠ some 0 →
    s.Steady now now' event

/-- When a model is built does not matter. -/
theorem applied_cleared (now now' : Datetime) (event : Event) :
    (Situation.cleared now).applied b event = (Situation.cleared now').applied b event := rfl

theorem replayFrom_cleared (cell : RuleCell) (epoch : EvaluationEpoch) (clock : Nat → Datetime)
    (cost : Nat → AutonomicRule → Nat) (now now' : Datetime) (events : List Event) :
    cell.replayFrom b floats ids epoch clock cost 1 (.cleared now) [] events =
      cell.replayFrom b floats ids epoch clock cost 1 (.cleared now') [] events := by
  cases events with
  | nil => simp only [replayFrom]
  | cons event events => rw [replayFrom, replayFrom, applied_cleared b now now']

/-- A history that cannot be applied leaves no traces. -/
theorem produced_of_error {cell : RuleCell} {epoch : EvaluationEpoch} {clock : Nat → Datetime}
    {cost : Nat → AutonomicRule → Nat} {events : List Event} {index : Nat} {s : Situation}
    {error : PyError} (happly : events.foldlM (Situation.applied b) s = .error error)
    (history : List Event) :
    produced (cell.replayFrom b floats ids epoch clock cost index s history events) = none := by
  induction events generalizing index s history with
  | nil => cases happly
  | cons event events ih =>
    rw [List.foldlM_cons] at happly
    rw [replayFrom]
    cases hs : s.applied b event with
    | error error => rw [error_bind]; rfl
    | ok s' =>
      rw [hs, ok_bind] at happly
      have hrest : produced (cell.replayFrom b floats ids epoch clock cost (index + 1) s'
          (history ++ [event]) events) = none := ih happly (history ++ [event])
      rw [ok_bind]
      dsimp only
      cases cell.replayStep b floats ids epoch (clock index) (cost index) index s'
          (history ++ [event]) event with
      | error error => rw [error_bind]; rfl
      | ok traces =>
        rw [ok_bind]
        cases hothers : cell.replayFrom b floats ids epoch clock cost (index + 1) s'
            (history ++ [event]) events with
        | error error => rw [error_bind]; rfl
        | ok others => rw [hothers] at hrest; cases hrest

/-- Results that are both there. -/
theorem map_of_produced {x y : Except PyError (List RuleEvaluationTrace)}
    {traces traces' : List RuleEvaluationTrace} (hx : x = .ok traces) (hy : y = .ok traces')
    (h : produced x = produced y) :
    x.map (List.map RuleEvaluationTrace.semantic) =
      y.map (List.map RuleEvaluationTrace.semantic) := by
  rw [hx, hy] at h ⊢
  exact congrArg Except.ok (Option.some.inj h)

theorem replay_of_steady {clock clock' : Nat → Datetime} {events : List Event}
    (h : SteadyHistory b clock clock' events) (cell : RuleCell) (epoch : EvaluationEpoch)
    (cost cost' : Nat → AutonomicRule → Nat) :
    produced (cell.replay b floats ids epoch clock cost events) =
      produced (cell.replay b floats ids epoch clock' cost' events) := by
  unfold replay
  rw [replayFrom_cleared b floats ids cell epoch clock' cost' (clock' 0) (clock 0)]
  cases happly : events.foldlM (Situation.applied b) (.cleared (clock 0)) with
  | error error => rw [produced_of_error b floats ids happly, produced_of_error b floats ids happly]
  | ok t =>
    have hsteady : SteadyFrom b clock clock' 1 (.cleared (clock 0)) events :=
      fun past event rest s hsplit hs hseq => h t happly past event rest s hsplit hs hseq
    exact congrArg Except.toOption (replayFrom_steady cell epoch hsteady)

theorem steady_of_replay {clock clock' : Nat → Datetime} {events : List Event}
    (h : ∀ cell epoch cost cost', produced (replay b floats ids cell epoch clock cost events) =
      produced (replay b floats ids cell epoch clock' cost' events)) :
    SteadyHistory b clock clock' events := by
  intro t happly past event rest s hsplit hs hseq fact hfact
  by_cases hkey : fact.key = ""
  · exact Or.inr (Or.inl hkey)
  · have hsame := h probeCell (probeEpoch fact.key hkey) (fun _ _ => 0) (fun _ _ => 0)
    unfold replay at hsame
    rw [replayFrom_cleared b floats ids probeCell _ clock' _ (clock' 0) (clock 0)] at hsame
    obtain ⟨traces, htraces⟩ := probe_returns b floats ids hkey clock (fun _ _ => 0) Nat.one_pos
      happly []
    obtain ⟨traces', htraces'⟩ := probe_returns b floats ids hkey clock' (fun _ _ => 0) Nat.one_pos
      happly []
    have hmap := map_of_produced htraces htraces' hsame
    rw [hsplit] at happly hmap
    exact steady_of_replays b floats ids hkey Nat.one_pos happly hmap hs hseq
      (KeyedTable.find_of_mem hfact)

theorem situationOf_cleared (now now' : Datetime) (past : List Event) (event : Event) :
    situationOf b now (past ++ [event]) = situationOf b now' (past ++ [event]) := by
  unfold situationOf
  cases past with
  | nil => rw [List.nil_append, List.foldlM_cons, List.foldlM_cons, applied_cleared b now now']
  | cons first past => rw [List.cons_append, List.foldlM_cons, List.foldlM_cons,
      applied_cleared b now now']

theorem evaluateOn_of_steady {now now' : Datetime} {past : List Event} {event : Event}
    (h : SteadyEnd b now now' past event) (cell : RuleCell) (epoch : EvaluationEpoch)
    (cost cost' : AutonomicRule → Nat) :
    produced (cell.evaluateOn b floats ids epoch now cost past event) =
      produced (cell.evaluateOn b floats ids epoch now' cost' past event) := by
  unfold evaluateOn
  rw [situationOf_cleared b now' now]
  cases hs : situationOf b now (past ++ [event]) with
  | error error => rw [error_bind, error_bind]
  | ok s =>
    rw [ok_bind, ok_bind]
    by_cases hseq : event.sequence = some 0
    · have hold : event.sequence.any (· ≤ epoch.eventLogCursor) = true := by simp [hseq]
      simp only [evaluate, hold, Bool.or_true, if_true]
    · exact congrArg Except.toOption (evaluate_steady (h s hs hseq) cell epoch _ cost cost')

theorem steady_of_evaluateOn {now now' : Datetime} {past : List Event} {event : Event}
    (h : ∀ cell epoch cost cost',
      produced (evaluateOn b floats ids cell epoch now cost past event) =
        produced (evaluateOn b floats ids cell epoch now' cost' past event)) :
    SteadyEnd b now now' past event := by
  intro s hs hseq fact hfact
  by_cases hkey : fact.key = ""
  · exact Or.inr (Or.inl hkey)
  · have hsame := h probeCell (probeEpoch fact.key hkey) (fun _ => 0) (fun _ => 0)
    unfold evaluateOn at hsame
    rw [situationOf_cleared b now' now, hs, ok_bind, ok_bind] at hsame
    obtain ⟨trace, htrace, -, -⟩ := probe_evaluate b floats ids hkey (s.snapshot now) hseq
      (past ++ [event]) (fun _ => 0)
    obtain ⟨trace', htrace', -, -⟩ := probe_evaluate b floats ids hkey (s.snapshot now') hseq
      (past ++ [event]) (fun _ => 0)
    exact steady_of_traces b floats ids hkey hseq (KeyedTable.find_of_mem hfact)
      (map_of_produced htrace htrace' hsame)

/-- **Replay and the wall clock.**  Two replays of a history at other readings leave the
same traces, for every cell and every epoch, exactly if the history is steady; and so do
two evaluations of one event. -/
theorem timeless_iff (clock clock' : Nat → Datetime) (events : List Event) (now now' : Datetime)
    (past : List Event) (event : Event) :
    ((∀ cell epoch cost cost', produced (replay b floats ids cell epoch clock cost events) =
        produced (replay b floats ids cell epoch clock' cost' events)) ↔
      SteadyHistory b clock clock' events) ∧
    ((∀ cell epoch cost cost', produced (evaluateOn b floats ids cell epoch now cost past event) =
        produced (evaluateOn b floats ids cell epoch now' cost' past event)) ↔
      SteadyEnd b now now' past event) :=
  ⟨⟨steady_of_replay b floats ids, replay_of_steady b floats ids⟩,
    steady_of_evaluateOn b floats ids, evaluateOn_of_steady b floats ids⟩

end Timeless

/-! ## A fact that expires -/

/-- Conversions on which the example below runs: it reads texts and no others. -/
def plainBuiltins : Builtins where
  strOf _ := .error .typeError
  floatOfInt value := .ok (.finite value)
  floatOfStr _ := .error (.valueError "could not convert string to float")
  fromisoformat _ := .error (.valueError "Invalid isoformat string")
  addSeconds at' seconds :=
    match seconds with
    | .finite value => .ok ⟨at'.instant + (value * 1000000).floor, at'.utcOffset⟩
    | _ => .error .overflowError
  dictOfPairs _ := .error (.valueError "dictionary update sequence")

def exactFloats : FloatArith where
  add := (· + ·)
  mul := (· * ·)
  round12 value := value
  totalSeconds micros := micros / 1000000
  formatG _ := "0"
  round12_zero := rfl
  round12_one := rfl

def plainIds : AutonomicIds where
  trace identity := identity.ruleRef ++ ":" ++ identity.eventId
  signal identity := identity.ruleRef ++ ":" ++ identity.triggerEventId

/-- A fact that holds for a minute. -/
def doorObserved : Event where
  type := "fact.observed"
  source := "sensor"
  payload := .ofList [("key", .str "door"), ("value", .str "open"), ("ttl_seconds", .int 60)]
  subject := none
  id := "door-observed"
  timestamp := .utc 0
  correlationId := none
  causationId := none
  priority := 0
  sequence := some 1
  metadata := .empty
  schemaVersion := 1
  schemaVersion_pos := Nat.one_pos

/-- The event that is evaluated. -/
def ticked : Event :=
  { doorObserved with
    type := "clock.ticked", payload := .empty, id := "ticked", timestamp := .utc 1000000
    sequence := some 2 }

/-- **An audit a day later** finds other traces than the evaluation at the time. -/
theorem audit_differs :
    produced (replay plainBuiltins exactFloats plainIds probeCell (probeEpoch "door" (by decide))
        (fun _ => .utc 2000000) (fun _ _ => 0) [doorObserved, ticked]) ≠
      produced (replay plainBuiltins exactFloats plainIds probeCell (probeEpoch "door" (by decide))
        (fun _ => .utc 86400000000) (fun _ _ => 0) [doorObserved, ticked]) := by
  decide +kernel

end RuleCell
end Noema
