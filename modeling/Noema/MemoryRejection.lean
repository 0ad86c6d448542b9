import Noema.MemoryKnowledgeTime

/-!
# What a rejected event leaves

`apply` stores as it goes, and raises in the middle.  `attempt` is `apply` with the state
that a raising call leaves: the assertion, supersession and closure branches take their
record back if what it entails raises, and the others store after their last check.  The
event itself was put among the episodes before any check, and stays there.
-/
namespace Noema
namespace MemoryProjection

/-- What a call leaves, and what it answers or raises. -/
structure Attempt where
  after : MemoryProjection
  answer : Except PyError (List MemoryEvent)

/-- The state and the answer of a call that returns. -/
def Attempt.outcome (attempt : Attempt) : Applied :=
  attempt.answer.map fun derived => (attempt.after, derived)

variable (canon : CanonicalIds) (p : MemoryProjection)

/-- Checks that may raise, on a state that they only read. -/
def checking {α : Type} (checks : Except PyError α) (rest : α → Attempt) : Attempt :=
  match checks with
  | .ok a => rest a
  | .error error => ⟨p, .error error⟩

/-- `try: … except BaseException: rollback; raise`, once a record is stored. -/
def attemptDerived (stored : MemoryProjection) (rollback : MemoryProjection → MemoryProjection)
    (derived : Except PyError (List MemoryEvent)) : Attempt :=
  match derived with
  | .ok events => ⟨stored, .ok events⟩
  | .error error => ⟨rollback stored, .error error⟩

/-- `ASSERTION_RECORDED_EVENT`. -/
def attemptAssertion (event : MemoryEvent) (derivedSource : Option String) : Attempt :=
  p.checking (do
    let assertion ← SemanticAssertion.fromEvent canon event
    p.validateAssertionProvenance assertion
    let assertions ← once p.assertions assertion
      s!"conflicting assertion identity: {assertion.assertionId}"
    p.checkSupersedes assertion
    return (assertion, assertions)) fun (assertion, assertions) =>
  let stored := { p with assertions }
  attemptDerived stored
    (fun q => if (p.assertions.find assertion.assertionId).isNone then
      { q with assertions := q.assertions.pop assertion.assertionId } else q)
    (derive derivedSource fun source => stored.assertionEvents canon assertion event source)

/-- `EVIDENCE_LINKED_EVENT`. -/
def attemptEvidence (event : MemoryEvent) : Attempt :=
  p.checking (p.applyEvidence canon event) fun (stored, derived) => ⟨stored, .ok derived⟩

/-- `ASSERTION_SUPERSEDED_EVENT`. -/
def attemptSupersession (event : MemoryEvent) (derivedSource : Option String) : Attempt :=
  p.checking (do
    let transition ← AssertionSupersession.fromEvent canon event
    let prior ← p.requireAssertion transition.priorAssertionRef
    let new ← p.requireAssertion transition.newAssertionRef
    if prior.subject ≠ new.subject ∨ prior.predicate ≠ new.predicate then
      .error (.valueError "supersession must preserve the semantic key")
    else if new.supersedes.any fun priorId => priorId ≠ prior.assertionId then
      .error (.valueError "supersession conflicts with the new assertion record")
    else do
      let supersessions ← once p.supersessions transition
        s!"conflicting supersession identity: {transition.transitionId}"
      return (transition, supersessions)) fun (transition, supersessions) =>
  let stored := { p with supersessions }
  attemptDerived stored
    (fun q => if (p.supersessions.find transition.transitionId).isNone then
      { q with supersessions := q.supersessions.pop transition.transitionId } else q)
    (derive derivedSource fun source =>
      stored.newResolutionEvents canon transition.recordedAt event source "superseded")

/-- `VALIDITY_CLOSED_EVENT`. -/
def attemptClosure (event : MemoryEvent) (derivedSource : Option String) : Attempt :=
  p.checking (do
    let closure ← ValidityClosure.fromEvent canon event
    let assertion ← p.requireAssertion closure.assertionRef
    if closure.validTo.instant ≤ assertion.validFrom.instant then
      .error (.valueError "validity closure must follow assertion valid_from")
    else do
      let closures ← once p.closures closure
        s!"conflicting validity-closure identity: {closure.closureId}"
      return (closure, closures)) fun (closure, closures) =>
  let stored := { p with closures }
  attemptDerived stored
    (fun q => if (p.closures.find closure.closureId).isNone then
      { q with closures := q.closures.pop closure.closureId } else q)
    (derive derivedSource fun source =>
      stored.newResolutionEvents canon closure.recordedAt event source "validity_closed")

/-- `CONTRADICTION_DETECTED_EVENT`. -/
def attemptDetection (event : MemoryEvent) : Attempt :=
  p.checking (p.applyDetection canon event) fun (stored, derived) => ⟨stored, .ok derived⟩

/-- `CONTRADICTION_RESOLVED_EVENT`. -/
def attemptResolution (event : MemoryEvent) : Attempt :=
  p.checking (p.applyResolution event) fun (stored, derived) => ⟨stored, .ok derived⟩

/-- The branches of `apply` on a memory event that was not applied before. -/
def attemptMemory (event : MemoryEvent) (derivedSource : Option String) : Attempt :=
  match event.type with
  | .assertionRecorded => p.attemptAssertion canon event derivedSource
  | .evidenceLinked => p.attemptEvidence canon event
  | .assertionSuperseded => p.attemptSupersession canon event derivedSource
  | .validityClosed => p.attemptClosure canon event derivedSource
  | .contradictionDetected => p.attemptDetection canon event
  | .contradictionResolved => p.attemptResolution event
  | type => ⟨p, .error (.valueError s!"unsupported memory event type: {typeText type}")⟩

/-- `apply`, once the event is among the episodes. -/
def attemptRecords (event : MemoryEvent) (derivedSource : Option String) : Attempt :=
  if event.type.isMemory = false then ⟨p, .ok []⟩
  else
    match p.applied.find event.id with
    | some existing =>
      if existing ≠ event then
        ⟨p, .error (.valueError s!"conflicting memory event identity: {event.id}")⟩
      else ⟨p, .ok []⟩
    | none =>
      match p.attemptMemory canon event derivedSource with
      | ⟨after, .ok derived⟩ =>
        ⟨{ after with applied := after.applied.put event },
          .ok (derived.insertionSort fun a b => a.id ≤ b.id)⟩
      | ⟨after, .error error⟩ => ⟨after, .error error⟩

/-- `apply`, with the state that is left when it raises. -/
def attempt (event : MemoryEvent) (derivedSource : Option String) : Attempt :=
  p.checking (once p.episodes event s!"conflicting canonical event identity: {event.id}")
    fun episodes => { p with episodes }.attemptRecords canon event derivedSource

/-! ## The same answers as `apply` -/

variable {canon p}

theorem checking_outcome {α : Type} (checks : Except PyError α) (rest : α → Attempt) :
    (p.checking checks rest).outcome = checks >>= fun a => (rest a).outcome := by
  cases checks <;> rfl

theorem attemptDerived_outcome (stored : MemoryProjection)
    (rollback : MemoryProjection → MemoryProjection)
    (derived : Except PyError (List MemoryEvent)) :
    (attemptDerived stored rollback derived).outcome =
      derived >>= fun events => .ok (stored, events) := by
  cases derived <;> rfl

theorem attemptAssertion_outcome (event : MemoryEvent) (derivedSource : Option String) :
    (p.attemptAssertion canon event derivedSource).outcome =
      p.applyAssertion canon event derivedSource := by
  simp only [attemptAssertion, applyAssertion, checking_outcome, attemptDerived_outcome,
    bind_assoc, pure_bind]
  rfl

theorem attemptSupersession_outcome (event : MemoryEvent) (derivedSource : Option String) :
    (p.attemptSupersession canon event derivedSource).outcome =
      p.applySupersession canon event derivedSource := by
  simp only [attemptSupersession, applySupersession, checking_outcome, attemptDerived_outcome,
    bind_assoc]
  refine congrArg _ (funext fun transition => congrArg _ (funext fun prior =>
    congrArg _ (funext fun new => ?_)))
  split
  · rfl
  · split
    · rfl
    · simp only [bind_assoc, pure_bind]
      rfl

theorem attemptClosure_outcome (event : MemoryEvent) (derivedSource : Option String) :
    (p.attemptClosure canon event derivedSource).outcome =
      p.applyClosure canon event derivedSource := by
  simp only [attemptClosure, applyClosure, checking_outcome, attemptDerived_outcome, bind_assoc]
  refine congrArg _ (funext fun closure => congrArg _ (funext fun assertion => ?_))
  split
  · rfl
  · simp only [bind_assoc, pure_bind]
    rfl

/-- The branches that store after their last check. -/
theorem checking_self_outcome (applied : Applied) :
    (p.checking applied fun (stored, derived) => ⟨stored, .ok derived⟩).outcome = applied := by
  cases applied <;> rfl

theorem attemptMemory_outcome (event : MemoryEvent) (derivedSource : Option String) :
    (p.attemptMemory canon event derivedSource).outcome =
      p.applyMemory canon event derivedSource := by
  unfold attemptMemory applyMemory
  cases event.type with
  | assertionRecorded => exact attemptAssertion_outcome event derivedSource
  | evidenceLinked => exact checking_self_outcome _
  | assertionSuperseded => exact attemptSupersession_outcome event derivedSource
  | validityClosed => exact attemptClosure_outcome event derivedSource
  | contradictionDetected => exact checking_self_outcome _
  | contradictionResolved => exact checking_self_outcome _
  | memory | simulation | consumerCheckpointAdvanced | other => rfl

theorem attemptRecords_outcome (event : MemoryEvent) (derivedSource : Option String) :
    (p.attemptRecords canon event derivedSource).outcome =
      p.applyRecords canon event derivedSource := by
  unfold attemptRecords applyRecords
  split
  · rfl
  · cases p.applied.find event.id with
    | some existing =>
      dsimp only
      split <;> rfl
    | none =>
      rw [← attemptMemory_outcome]
      obtain ⟨after, answer⟩ := p.attemptMemory canon event derivedSource
      cases answer <;> rfl

theorem checking_rejected {α : Type} {checks : Except PyError α} {rest : α → Attempt}
    {error : PyError} (h : (p.checking checks rest).answer = .error error)
    (hrest : ∀ a, checks = .ok a → (rest a).answer = .error error → (rest a).after = p) :
    (p.checking checks rest).after = p := by
  cases checks with
  | error raised => rfl
  | ok a => exact hrest a rfl h

theorem attemptDerived_rejected {stored : MemoryProjection}
    {rollback : MemoryProjection → MemoryProjection} {derived : Except PyError (List MemoryEvent)}
    {error : PyError} (h : (attemptDerived stored rollback derived).answer = .error error) :
    (attemptDerived stored rollback derived).after = rollback stored := by
  cases derived with
  | ok events => cases h
  | error raised => rfl

/-- The branches that store after their last check have nothing to take back. -/
theorem checking_self_rejected {applied : Applied} {error : PyError}
    (h : (p.checking applied fun (stored, derived) => ⟨stored, .ok derived⟩).answer =
      .error error) :
    (p.checking applied fun (stored, derived) => ⟨stored, .ok derived⟩).after = p :=
  checking_rejected h fun _ _ h => (nomatch h)

/-- Popping a record that was new takes its storing back. -/
theorem rolledBack {α κ : Type} {key : α → κ} [DecidableEq κ] [DecidableEq α]
    {t t' : KeyedTable key} {r : α} (h : t.insertOnce r = some t')
    (with' : KeyedTable key → MemoryProjection) :
    (if (t.find (key r)).isNone then with' (t'.pop (key r)) else with' t') = with' t := by
  rw [← apply_ite with', KeyedTable.pop_insertOnce h]

theorem attemptAssertion_rejected {event : MemoryEvent} {derivedSource : Option String}
    {error : PyError} (h : (p.attemptAssertion canon event derivedSource).answer = .error error) :
    (p.attemptAssertion canon event derivedSource).after = p := by
  refine checking_rejected h ?_
  rintro ⟨assertion, assertions⟩ hchecks hderived
  obtain ⟨read, -, hchecks⟩ := bind_eq_ok hchecks
  obtain ⟨_, -, hchecks⟩ := bind_eq_ok hchecks
  obtain ⟨stored, hstored, hchecks⟩ := bind_eq_ok hchecks
  obtain ⟨_, -, hchecks⟩ := bind_eq_ok hchecks
  cases hchecks
  rw [attemptDerived_rejected hderived]
  exact rolledBack (once_ok hstored) fun assertions => { p with assertions }

theorem attemptSupersession_rejected {event : MemoryEvent} {derivedSource : Option String}
    {error : PyError} (h : (p.attemptSupersession canon event derivedSource).answer = .error error) :
    (p.attemptSupersession canon event derivedSource).after = p := by
  refine checking_rejected h ?_
  rintro ⟨transition, supersessions⟩ hchecks hderived
  obtain ⟨read, -, hchecks⟩ := bind_eq_ok hchecks
  obtain ⟨prior, -, hchecks⟩ := bind_eq_ok hchecks
  obtain ⟨new, -, hchecks⟩ := bind_eq_ok hchecks
  split at hchecks
  · cases hchecks
  · split at hchecks
    · cases hchecks
    · obtain ⟨stored, hstored, hchecks⟩ := bind_eq_ok hchecks
      cases hchecks
      rw [attemptDerived_rejected hderived]
      exact rolledBack (once_ok hstored) fun supersessions => { p with supersessions }

theorem attemptClosure_rejected {event : MemoryEvent} {derivedSource : Option String}
    {error : PyError} (h : (p.attemptClosure canon event derivedSource).answer = .error error) :
    (p.attemptClosure canon event derivedSource).after = p := by
  refine checking_rejected h ?_
  rintro ⟨closure, closures⟩ hchecks hderived
  obtain ⟨read, -, hchecks⟩ := bind_eq_ok hchecks
  obtain ⟨assertion, -, hchecks⟩ := bind_eq_ok hchecks
  split at hchecks
  · cases hchecks
  · obtain ⟨stored, hstored, hchecks⟩ := bind_eq_ok hchecks
    cases hchecks
    rw [attemptDerived_rejected hderived]
    exact rolledBack (once_ok hstored) fun closures => { p with closures }

/-- **A branch that raises leaves the records as they were.** -/
theorem attemptMemory_rejected {event : MemoryEvent} {derivedSource : Option String}
    {error : PyError} (h : (p.attemptMemory canon event derivedSource).answer = .error error) :
    (p.attemptMemory canon event derivedSource).after = p := by
  unfold attemptMemory at h ⊢
  cases htype : event.type with
  | assertionRecorded =>
    rw [htype] at h
    exact attemptAssertion_rejected h
  | evidenceLinked =>
    rw [htype] at h
    exact checking_self_rejected h
  | assertionSuperseded =>
    rw [htype] at h
    exact attemptSupersession_rejected h
  | validityClosed =>
    rw [htype] at h
    exact attemptClosure_rejected h
  | contradictionDetected =>
    rw [htype] at h
    exact checking_self_rejected h
  | contradictionResolved =>
    rw [htype] at h
    exact checking_self_rejected h
  | memory | simulation | consumerCheckpointAdvanced | other => rfl

theorem attemptRecords_rejected {event : MemoryEvent} {derivedSource : Option String}
    {error : PyError} (h : (p.attemptRecords canon event derivedSource).answer = .error error) :
    (p.attemptRecords canon event derivedSource).after = p := by
  unfold attemptRecords at h ⊢
  split at h
  · cases h
  · rename_i hmemory
    rw [if_neg hmemory]
    cases hfind : p.applied.find event.id with
    | some existing =>
      dsimp only
      split <;> rfl
    | none =>
      rw [hfind] at h
      dsimp only at h ⊢
      have hrejected : ∀ {raised}, (p.attemptMemory canon event derivedSource).answer =
          .error raised → (p.attemptMemory canon event derivedSource).after = p :=
        attemptMemory_rejected
      generalize p.attemptMemory canon event derivedSource = attempt at h hrejected
      obtain ⟨after, answer⟩ := attempt
      cases answer with
      | ok derived => cases h
      | error raised => exact hrejected rfl

/-- **A rejected event leaves all but the episodes, and leaves these exactly if it was among
them.** -/
theorem rejected_unchanged_iff (canon : CanonicalIds) (p : MemoryProjection) (event : MemoryEvent)
    (derivedSource : Option String) (error : PyError)
    (h : (p.attempt canon event derivedSource).answer = .error error) :
    (p.attempt canon event derivedSource).after =
        { p with episodes := (p.attempt canon event derivedSource).after.episodes } ∧
      ((p.attempt canon event derivedSource).after = p ↔
        (p.episodes.find event.id).isSome = true) := by
  unfold attempt at h ⊢
  cases honce : once p.episodes event s!"conflicting canonical event identity: {event.id}" with
  | error raised =>
    refine ⟨rfl, fun _ => ?_, fun _ => rfl⟩
    rw [Option.isSome_iff_ne_none]
    intro hnone
    obtain ⟨episodes, hstored⟩ :=
      Option.isSome_iff_exists.mp (KeyedTable.insertOnce_of_new (r := event) hnone)
    rw [once, hstored] at honce
    cases honce
  | ok episodes =>
    rw [honce] at h
    have hafter : (({ p with episodes } : MemoryProjection).attemptRecords canon event
        derivedSource).after = { p with episodes } := attemptRecords_rejected h
    dsimp only [checking]
    rw [hafter]
    refine ⟨rfl, ?_⟩
    rcases KeyedTable.insertOnce_cases (once_ok honce) with ⟨rfl, hfind⟩ | ⟨hnone, hrows⟩
    · rw [hfind]
      exact ⟨fun _ => rfl, fun _ => rfl⟩
    · rw [hnone]
      refine ⟨fun hsame => ?_, fun hknown => (nomatch hknown)⟩
      have hlength := congrArg (fun q => q.episodes.rows.length) hsame
      dsimp only at hlength
      rw [hrows, List.length_append, List.length_singleton] at hlength
      omega

/-! ### An example -/

/-- What the rejected closure of an unknown assertion leaves. -/
def afterClosure : MemoryProjection := (empty.attempt doorIds doorClosure none).after

/-- The closure is rejected, and can be cited as evidence from then on. -/
theorem doorClosure_citable :
    rebuild doorIds [] none = .ok empty ∧
      (empty.attempt doorIds doorClosure none).answer =
        .error (.valueError "memory transition references unknown assertion: assertion:open") ∧
      afterClosure ≠ empty ∧ (empty.resolveEvidenceRef "event:e4").toOption.isNone = true ∧
      (afterClosure.resolveEvidenceRef "event:e4").toOption.isSome = true := by
  have hrejected : (empty.attempt doorIds doorClosure none).answer =
      .error (.valueError "memory transition references unknown assertion: assertion:open") := by
    decide +kernel
  refine ⟨rfl, hrejected, ?_, by decide +kernel, by decide +kernel⟩
  intro hsame
  have hepisodes : afterClosure.episodes.rows ≠ [] := by decide +kernel
  exact hepisodes (congrArg (fun q => q.episodes.rows) hsame)

/-- Rejected again, the closure changes nothing more. -/
theorem doorClosure_again : (afterClosure.attempt doorIds doorClosure none).after = afterClosure :=
  (rejected_unchanged_iff doorIds afterClosure doorClosure none
    (.valueError "memory transition references unknown assertion: assertion:open")
    (by decide +kernel)).2.mpr (by decide +kernel)

end MemoryProjection
end Noema
