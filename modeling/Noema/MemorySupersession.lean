import Noema.Lib.Folding
import Noema.Lib.TopologicalOrder
import Noema.MemoryKnowledgeTime

/-!
# Supersession

An assertion is superseded by one that says so of itself, or by one that a supersession
event names.  A new assertion can only supersede what is recorded before it, but the
assertions that an event names are both recorded, and nothing is checked of what they
supersede already.  So supersession is acyclic exactly if no accepted event names as its
new assertion one that its prior assertion supersedes, through others or directly
(`supersession_acyclic_iff`).
-/
namespace Noema
namespace MemoryProjection

open TopologicalOrder

/-- The one assertion is superseded by the other. -/
def SupersededBy (p : MemoryProjection) (priorId newId : String) : Prop :=
  (∃ assertion ∈ p.assertions.rows, assertion.assertionId = newId ∧
    assertion.supersedes = some priorId) ∨
  ∃ transition ∈ p.supersessions.rows, transition.priorAssertionRef = priorId ∧
    transition.newAssertionRef = newId

instance (p : MemoryProjection) (priorId newId : String) :
    Decidable (p.SupersededBy priorId newId) := by
  unfold SupersededBy
  infer_instance

/-- `apply`, on an event and the source of what is derived from it. -/
def applyEntry (canon : CanonicalIds) (p : MemoryProjection)
    (entry : MemoryEvent × Option String) : Except PyError MemoryProjection :=
  (p.apply canon entry.1 entry.2).map Prod.fst

/-- A new supersession event does not name as its new assertion one that its prior
assertion supersedes. -/
def NoReturn (canon : CanonicalIds) (p : MemoryProjection) (entry : MemoryEvent × Option String) :
    Prop :=
  ∀ transition, entry.1.type = .assertionSuperseded → p.applied.find entry.1.id = none →
    AssertionSupersession.fromEvent canon entry.1 = .ok transition →
    ¬ Relation.TransGen p.SupersededBy transition.newAssertionRef transition.priorAssertionRef

/-- The assertions have the same subject and predicate. -/
def SameKey (a b : SemanticAssertion) : Prop := a.subject = b.subject ∧ a.predicate = b.predicate

/-- Supersession is between recorded assertions of one subject and predicate. -/
def Grounded (p : MemoryProjection) : Prop :=
  ∀ priorId newId, p.SupersededBy priorId newId → ∃ prior new,
    p.assertions.find priorId = some prior ∧ p.assertions.find newId = some new ∧
      SameKey prior new

variable {canon : CanonicalIds} {p p' : MemoryProjection} {event : MemoryEvent}
  {derivedSource : Option String} {derived : List MemoryEvent}

/-! ## What an event does to supersession -/

/-- An event that changes neither table, or records an assertion, or a supersession. -/
inductive Links (canon : CanonicalIds) (p : MemoryProjection) (event : MemoryEvent)
    (p' : MemoryProjection) : Prop
  | nothing (hassertions : p'.assertions = p.assertions)
      (hsupersessions : p'.supersessions = p.supersessions)
      (h : event.type = .assertionSuperseded → (p.applied.find event.id).isSome = true)
  | assertion {assertion} (hsupersessions : p'.supersessions = p.supersessions)
      (hnew : p.assertions.find assertion.assertionId = none)
      (hstored : p.assertions.insertOnce assertion = some p'.assertions)
      (hprior : ∀ priorId ∈ assertion.supersedes, ∃ prior,
        p.assertions.find priorId = some prior ∧ SameKey prior assertion)
      (htype : event.type = .assertionRecorded)
  | supersession {transition prior new} (hassertions : p'.assertions = p.assertions)
      (hstored : p.supersessions.insertOnce transition = some p'.supersessions)
      (htype : event.type = .assertionSuperseded) (happlied : p.applied.find event.id = none)
      (hread : AssertionSupersession.fromEvent canon event = .ok transition)
      (hprior : p.assertions.find transition.priorAssertionRef = some prior)
      (hnew : p.assertions.find transition.newAssertionRef = some new)
      (hkey : SameKey prior new)

/-- What a supersession event was checked for. -/
theorem applySupersession_ok
    (h : p.applySupersession canon event derivedSource = .ok (p', derived)) :
    ∃ transition prior new, AssertionSupersession.fromEvent canon event = .ok transition ∧
      p.assertions.find transition.priorAssertionRef = some prior ∧
      p.assertions.find transition.newAssertionRef = some new ∧ SameKey prior new ∧
      p'.assertions = p.assertions ∧
      p.supersessions.insertOnce transition = some p'.supersessions := by
  obtain ⟨transition, hread, h⟩ := bind_eq_ok h
  obtain ⟨prior, hprior, h⟩ := bind_eq_ok h
  obtain ⟨new, hnew, h⟩ := bind_eq_ok h
  split at h
  · cases h
  · rename_i hkey
    split at h
    · cases h
    · obtain ⟨supersessions, hstored, h⟩ := bind_eq_ok h
      obtain ⟨_, -, h⟩ := bind_eq_ok h
      cases h
      simp only [not_or, ne_eq, not_not] at hkey
      exact ⟨transition, prior, new, hread, requireAssertion_ok hprior, requireAssertion_ok hnew,
        hkey, rfl, once_ok hstored⟩

/-- An accepted supersession event. -/
theorem applyRecords_links (htype : event.type = .assertionSuperseded)
    (h : p.applyRecords canon event derivedSource = .ok (p', derived)) :
    Links canon p event p' := by
  unfold applyRecords at h
  rw [if_neg (by rw [htype]; exact Bool.noConfusion)] at h
  split at h
  · rename_i existing hfind
    split at h
    · cases h
    · cases h
      exact .nothing rfl rfl fun _ => Option.isSome_of_eq_some hfind
  · rename_i happlied
    obtain ⟨⟨q, events⟩, hmemory, h⟩ := bind_eq_ok h
    cases h
    unfold applyMemory at hmemory
    rw [htype] at hmemory
    obtain ⟨transition, prior, new, hread, hprior, hnew, hkey, hassertions, hstored⟩ :=
      applySupersession_ok hmemory
    exact .supersession hassertions hstored htype happlied hread hprior hnew hkey

/-- **What an accepted event does to the two tables.** -/
theorem apply_links (h : p.apply canon event derivedSource = .ok (p', derived)) :
    Links canon p event p' := by
  by_cases htype : event.type = .assertionSuperseded
  · obtain ⟨episodes, -, h⟩ := bind_eq_ok h
    have hlinks := applyRecords_links htype h
    cases hlinks with
    | nothing hassertions hsupersessions h => exact .nothing hassertions hsupersessions h
    | assertion hsupersessions hnew hstored hprior htype =>
      exact .assertion hsupersessions hnew hstored hprior htype
    | supersession hassertions hstored htype happlied hread hprior hnew hkey =>
      exact .supersession hassertions hstored htype happlied hread hprior hnew hkey
  · obtain ⟨episodes, -, hrecorded⟩ := apply_recorded h
    cases hrecorded with
    | nothing | evidence | closure | detection | resolution =>
      exact .nothing rfl rfl fun h => absurd h htype
    | supersession hrecorded => exact absurd hrecorded htype
    | assertion hrecorded hread hinsert hprior =>
      rcases KeyedTable.insertOnce_cases hinsert with ⟨rfl, -⟩ | ⟨hnew, -⟩
      · exact .nothing rfl rfl fun h => absurd h htype
      · exact .assertion rfl hnew hinsert hprior hrecorded

/-! ## What a link does to supersession -/

theorem supersededBy_congr (hassertions : p'.assertions = p.assertions)
    (hsupersessions : p'.supersessions = p.supersessions) : p'.SupersededBy = p.SupersededBy := by
  funext priorId newId
  rw [SupersededBy, SupersededBy, hassertions, hsupersessions]

/-- A supersession event adds one edge. -/
theorem supersededBy_transition {transition : AssertionSupersession}
    (hassertions : p'.assertions = p.assertions)
    (hstored : p.supersessions.insertOnce transition = some p'.supersessions)
    (priorId newId : String) : p'.SupersededBy priorId newId ↔ p.SupersededBy priorId newId ∨
      (priorId = transition.priorAssertionRef ∧ newId = transition.newAssertionRef) := by
  rw [SupersededBy, SupersededBy, hassertions, or_assoc]
  refine or_congr_right ?_
  rcases KeyedTable.insertOnce_cases hstored with ⟨hsame, hfind⟩ | ⟨-, hrows⟩
  · rw [hsame]
    refine ⟨.inl, ?_⟩
    rintro (h | ⟨rfl, rfl⟩)
    · exact h
    · exact ⟨transition, KeyedTable.mem_of_find hfind, rfl, rfl⟩
  · rw [hrows]
    constructor
    · rintro ⟨other, hother, rfl, rfl⟩
      rcases List.mem_append.mp hother with hold | hnew
      · exact .inl ⟨other, hold, rfl, rfl⟩
      · obtain rfl := List.mem_singleton.mp hnew
        exact .inr ⟨rfl, rfl⟩
    · rintro (⟨other, hother, rfl, rfl⟩ | ⟨rfl, rfl⟩)
      · exact ⟨other, List.mem_append_left _ hother, rfl, rfl⟩
      · exact ⟨transition, List.mem_append_right _ (List.mem_singleton_self _), rfl, rfl⟩

/-- A new assertion adds the edge that it states. -/
theorem supersededBy_assertion {assertion : SemanticAssertion}
    (hsupersessions : p'.supersessions = p.supersessions)
    (hnew : p.assertions.find assertion.assertionId = none)
    (hstored : p.assertions.insertOnce assertion = some p'.assertions) (priorId newId : String) :
    p'.SupersededBy priorId newId ↔ p.SupersededBy priorId newId ∨
      (assertion.supersedes = some priorId ∧ newId = assertion.assertionId) := by
  have hrows : p'.assertions.rows = p.assertions.rows ++ [assertion] := by
    rcases KeyedTable.insertOnce_cases hstored with ⟨-, hfind⟩ | ⟨-, hrows⟩
    · rw [hnew] at hfind
      cases hfind
    · exact hrows
  rw [SupersededBy, SupersededBy, hsupersessions, hrows, or_right_comm]
  refine or_congr_left ?_
  constructor
  · rintro ⟨other, hother, rfl, hprior⟩
    rcases List.mem_append.mp hother with hold | hnew
    · exact .inl ⟨other, hold, rfl, hprior⟩
    · obtain rfl := List.mem_singleton.mp hnew
      exact .inr ⟨hprior, rfl⟩
  · rintro (⟨other, hother, rfl, hprior⟩ | ⟨hprior, rfl⟩)
    · exact ⟨other, List.mem_append_left _ hother, rfl, hprior⟩
    · exact ⟨assertion, List.mem_append_right _ (List.mem_singleton_self _), rfl, hprior⟩

/-! ## What every event keeps -/

/-- Recorded assertions are found as before. -/
theorem find_insertOnce_of_some {t t' : KeyedTable SemanticAssertion.assertionId}
    {new assertion : SemanticAssertion} {id : String} (h : t.insertOnce new = some t')
    (hnew : t.find new.assertionId = none) (hfind : t.find id = some assertion) :
    t'.find id = some assertion := by
  rw [KeyedTable.find_insertOnce h, if_neg, hfind]
  rintro rfl
  rw [hnew] at hfind
  cases hfind

/-- **Supersession stays between recorded assertions of one key.** -/
theorem Grounded.link (h : Grounded p) (hlinks : Links canon p event p') : Grounded p' := by
  intro priorId newId hsuperseded
  cases hlinks with
  | nothing hassertions hsupersessions =>
    rw [supersededBy_congr hassertions hsupersessions] at hsuperseded
    rw [hassertions]
    exact h priorId newId hsuperseded
  | @assertion assertion hsupersessions hnew hstored hprior =>
    rcases (supersededBy_assertion hsupersessions hnew hstored priorId newId).mp hsuperseded with
      hold | ⟨hstated, rfl⟩
    · obtain ⟨prior, new, hfind, hfind', hkey⟩ := h priorId newId hold
      exact ⟨prior, new, find_insertOnce_of_some hstored hnew hfind,
        find_insertOnce_of_some hstored hnew hfind', hkey⟩
    · obtain ⟨prior, hfind, hkey⟩ := hprior priorId hstated
      refine ⟨prior, assertion, find_insertOnce_of_some hstored hnew hfind, ?_, hkey⟩
      rw [KeyedTable.find_insertOnce hstored, if_pos rfl]
  | supersession hassertions hstored _ _ _ hprior hnew hkey =>
    rw [hassertions]
    rcases (supersededBy_transition hassertions hstored priorId newId).mp hsuperseded with
      hold | ⟨rfl, rfl⟩
    · exact h priorId newId hold
    · exact ⟨_, _, hprior, hnew, hkey⟩

/-- A new assertion closes no cycle: nothing is superseded by what is not recorded. -/
theorem acyclic_assertion {assertion : SemanticAssertion} (h : Grounded p)
    (hsupersessions : p'.supersessions = p.supersessions)
    (hnew : p.assertions.find assertion.assertionId = none)
    (hstored : p.assertions.insertOnce assertion = some p'.assertions) :
    Acyclic p'.SupersededBy ↔ Acyclic p.SupersededBy := by
  have hedges := supersededBy_assertion hsupersessions hnew hstored
  constructor
  · exact fun hacyclic => hacyclic.mono fun m n hmn => (hedges m n).mpr (.inl hmn)
  · intro hacyclic
    cases hstated : assertion.supersedes with
    | none =>
      refine hacyclic.mono fun m n hmn => ((hedges m n).mp hmn).resolve_right ?_
      rw [hstated]
      exact fun h => nomatch h.1
    | some priorId =>
      have hback : ¬ Relation.ReflTransGen p.SupersededBy assertion.assertionId priorId := by
        intro hback
        rcases Relation.ReflTransGen.cases_head hback with hself | ⟨next, hedge, -⟩
        · exact (assertion.supersedes_ne priorId hstated).2 hself.symm
        · obtain ⟨prior, -, hfind, -⟩ := h _ _ hedge
          rw [hnew] at hfind
          cases hfind
      refine (acyclic_edge_iff.mpr ⟨hacyclic, hback⟩).mono fun m n hmn => ?_
      rcases (hedges m n).mp hmn with hold | ⟨hprior, rfl⟩
      · exact .inl hold
      · rw [hstated] at hprior
        cases hprior
        exact .inr ⟨rfl, rfl⟩

/-- A supersession names two assertions. -/
theorem fromEvent_distinct {transition : AssertionSupersession}
    (h : AssertionSupersession.fromEvent canon event = .ok transition) :
    transition.priorAssertionRef ≠ transition.newAssertionRef := by
  unfold AssertionSupersession.fromEvent at h
  split at h
  · obtain ⟨created, hcreated, h⟩ := bind_eq_ok h
    split_ifs at h with hid hsubject htime
    cases h
    unfold AssertionSupersession.create at hcreated
    split_ifs at hcreated with hblank hself
    cases hcreated
    exact hself
  · cases h

/-- **An accepted event keeps supersession acyclic exactly if it does not return.** -/
theorem acyclic_link (h : Grounded p) (hlinks : Links canon p event p') :
    Acyclic p'.SupersededBy ↔
      Acyclic p.SupersededBy ∧ NoReturn canon p (event, derivedSource) := by
  cases hlinks with
  | nothing hassertions hsupersessions hknown =>
    rw [supersededBy_congr hassertions hsupersessions]
    refine (and_iff_left ?_).symm
    intro transition htype hunknown
    rw [Option.isSome_iff_ne_none] at hknown
    exact absurd hunknown (hknown htype)
  | assertion hsupersessions hnew hstored hprior htype =>
    rw [acyclic_assertion h hsupersessions hnew hstored]
    refine (and_iff_left ?_).symm
    intro transition hother
    rw [htype] at hother
    cases hother
  | @supersession transition prior new hassertions hstored htype happlied hread _ _ _ =>
    have hedges : p'.SupersededBy = fun m n => p.SupersededBy m n ∨
        (m = transition.priorAssertionRef ∧ n = transition.newAssertionRef) := by
      funext m n
      exact propext (supersededBy_transition hassertions hstored m n)
    rw [hedges, acyclic_edge_iff]
    refine and_congr_right fun _ => ?_
    constructor
    · intro hback other _ _ hother hreturn
      rw [hread] at hother
      cases hother
      exact hback hreturn.to_reflTransGen
    · intro hreturn hback
      rcases Relation.reflTransGen_iff_eq_or_transGen.mp hback with hself | hback
      · exact fromEvent_distinct hread hself
      · exact hreturn transition htype happlied hread hback

/-! ## Accepted histories -/

theorem applyEntry_links {entry : MemoryEvent × Option String}
    (h : applyEntry canon p entry = .ok p') : Links canon p entry.1 p' := by
  unfold applyEntry at h
  cases happly : p.apply canon entry.1 entry.2 with
  | error error =>
    rw [happly] at h
    cases h
  | ok applied =>
    rw [happly] at h
    cases h
    exact apply_links happly

theorem empty_grounded : Grounded empty := by
  rintro priorId newId (⟨assertion, hmem, -⟩ | ⟨transition, hmem, -⟩)
  · cases hmem
  · cases hmem

theorem run_grounded {events : List (MemoryEvent × Option String)}
    (h : Folding.run (applyEntry canon) empty events = .ok p) : Grounded p := by
  refine Folding.run_induction (I := fun _ p => Grounded p) empty_grounded ?_ h
  exact fun _ _ _ _ _ hgrounded hstep => hgrounded.link (applyEntry_links hstep)

theorem run_acyclic_iff {events : List (MemoryEvent × Option String)}
    (h : Folding.run (applyEntry canon) empty events = .ok p) :
    Acyclic p.SupersededBy ↔ Folding.Every (applyEntry canon) empty (NoReturn canon) events := by
  refine Folding.run_iff (P := fun p => Acyclic p.SupersededBy) ?_ ?_ h
  · refine acyclic_of_acc fun n => Acc.intro n fun m hm => ?_
    rcases hm with ⟨assertion, hmem, -⟩ | ⟨transition, hmem, -⟩
    · cases hmem
    · cases hmem
  · exact fun _ _ _ _ hrun hstep => acyclic_link (run_grounded hrun) (applyEntry_links hstep)

/-- An assertion of the same subject and predicate is not superseded. -/
def HasLatest (p : MemoryProjection) (assertion : SemanticAssertion) : Prop :=
  ∃ latest ∈ p.assertions.rows, SameKey latest assertion ∧
    ∀ newId, ¬ p.SupersededBy latest.assertionId newId

/-- **Without a cycle, one assertion of every key is not superseded.** -/
theorem hasLatest_of_acyclic (h : Grounded p) (hacyclic : Acyclic p.SupersededBy)
    {assertion : SemanticAssertion} (hmem : assertion ∈ p.assertions.rows) :
    p.HasLatest assertion := by
  classical
  let ids := (p.assertions.rows.filter fun other => SameKey other assertion).map (·.assertionId)
  have hids : assertion.assertionId ∈ ids :=
    List.mem_map_of_mem (List.mem_filter.mpr ⟨hmem, decide_eq_true ⟨rfl, rfl⟩⟩)
  have hswap : Acyclic (Function.swap p.SupersededBy) :=
    fun n hn => hacyclic n (Relation.transGen_swap.mp hn)
  obtain ⟨first, hfirst, hlast⟩ := hswap.exists_first hids
  obtain ⟨latest, hlatest, rfl⟩ := List.mem_map.mp hfirst
  obtain ⟨hlatest, hkey⟩ := List.mem_filter.mp hlatest
  have hkey := of_decide_eq_true hkey
  refine ⟨latest, hlatest, hkey, fun newId hedge => ?_⟩
  obtain ⟨prior, new, hprior, hnew, hsame⟩ := h _ _ hedge
  rw [KeyedTable.find_of_mem hlatest] at hprior
  cases hprior
  have hmember : newId ∈ ids := by
    rw [← KeyedTable.find_key hnew]
    refine List.mem_map_of_mem (List.mem_filter.mpr ⟨KeyedTable.mem_of_find hnew, ?_⟩)
    exact decide_eq_true ⟨hsame.1.symm.trans hkey.1, hsame.2.symm.trans hkey.2⟩
  exact hlast newId hmember hedge

/-- **Supersession is acyclic, and leaves an assertion of every key, exactly if no accepted
event returns.** -/
theorem supersession_acyclic_iff {events : List (MemoryEvent × Option String)}
    (h : Folding.run (applyEntry canon) empty events = .ok p) :
    (Acyclic p.SupersededBy ∧ ∀ assertion ∈ p.assertions.rows, p.HasLatest assertion) ↔
      Folding.Every (applyEntry canon) empty (NoReturn canon) events := by
  rw [← run_acyclic_iff h]
  constructor
  · exact fun hboth => hboth.1
  · exact fun hacyclic => ⟨hacyclic, fun _ => hasLatest_of_acyclic (run_grounded h) hacyclic⟩

/-! ### An example -/

/-- Ids that tell supersessions apart. -/
def turnIds : CanonicalIds :=
  { doorIds with supersession := fun content => "supersession:" ++ content.priorAssertionRef }

/-- One state of the door is superseded by another. -/
def turn (id priorId newId : String) : MemoryEvent :=
  { id, type := .assertionSuperseded, source := "user", subject := some priorId, timestamp := 5
    payload := .supersession
      { priorAssertionRef := priorId, newAssertionRef := newId, effectiveAt := .utc 4
        recordedAt := .utc 5, transitionId := "supersession:" ++ priorId } }

/-- Each of the two states is superseded by the other. -/
def turnedHistory : List (MemoryEvent × Option String) :=
  ((doorHistory.take 2) ++ [turn "e4" "assertion:open" "assertion:shut",
    turn "e5" "assertion:shut" "assertion:open"]).map fun event => (event, none)

/-- The state after some entries, if they are accepted. -/
def afterEntries (canon : CanonicalIds) (events : List (MemoryEvent × Option String)) :
    MemoryProjection :=
  (Folding.run (applyEntry canon) empty events).toOption.getD empty

theorem afterEntries_run {events : List (MemoryEvent × Option String)}
    (h : (Folding.run (applyEntry canon) empty events).toOption.isSome = true) :
    Folding.run (applyEntry canon) empty events = .ok (afterEntries canon events) := by
  unfold afterEntries
  cases hrun : Folding.run (applyEntry canon) empty events with
  | ok p => rfl
  | error error =>
    rw [hrun] at h
    cases h

theorem turnedHistory_cyclic :
    Folding.run (applyEntry turnIds) empty turnedHistory =
        .ok (afterEntries turnIds turnedHistory) ∧
      ¬ Acyclic (afterEntries turnIds turnedHistory).SupersededBy ∧
      ∀ assertion ∈ (afterEntries turnIds turnedHistory).assertions.rows,
        ∃ newId, (afterEntries turnIds turnedHistory).SupersededBy assertion.assertionId newId := by
  have hedges : (afterEntries turnIds turnedHistory).SupersededBy "assertion:open"
        "assertion:shut" ∧
      (afterEntries turnIds turnedHistory).SupersededBy "assertion:shut" "assertion:open" := by
    decide +kernel
  have hall : ∀ assertion ∈ (afterEntries turnIds turnedHistory).assertions.rows,
      (afterEntries turnIds turnedHistory).SupersededBy assertion.assertionId "assertion:shut" ∨
        (afterEntries turnIds turnedHistory).SupersededBy assertion.assertionId
          "assertion:open" := by
    decide +kernel
  refine ⟨afterEntries_run (by decide +kernel), ?_, ?_⟩
  · intro hacyclic
    exact hacyclic "assertion:open" (.tail (.single hedges.1) hedges.2)
  · intro assertion hmem
    rcases hall assertion hmem with hshut | hopen
    · exact ⟨_, hshut⟩
    · exact ⟨_, hopen⟩

/-- The two states as they were recorded. -/
def doorEntries : List (MemoryEvent × Option String) := doorHistory.map fun event => (event, none)

theorem doorEntries_acyclic : Acyclic (afterEntries doorIds doorEntries).SupersededBy ∧
    ∀ assertion ∈ (afterEntries doorIds doorEntries).assertions.rows,
      (afterEntries doorIds doorEntries).HasLatest assertion := by
  refine (supersession_acyclic_iff (afterEntries_run (by decide +kernel))).mpr ?_
  intro before entry after u heq _ transition htype
  have hmem : entry ∈ doorEntries := by
    rw [heq]
    simp
  have hother : ∀ entry ∈ doorEntries, entry.1.type ≠ .assertionSuperseded := by decide
  exact absurd htype (hother entry hmem)

end MemoryProjection
end Noema
