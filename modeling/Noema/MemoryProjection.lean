import Mathlib.Algebra.Order.Field.Rat
import Mathlib.Data.List.Sort
import Mathlib.Data.Prod.Lex
import Noema.MemoryModels

/-!
# The memory projection

`MemoryProjection` folds canonical events into immutable records: what was asserted,
linked, superseded, closed, found contradictory and resolved.  `apply` may also answer
the events that an input entails (`derived`), for the caller to store and to apply.
Queries are asked for a valid time and a knowledge time.
-/
namespace Noema

/-- What a provenance reference stands for. -/
structure EvidenceObject where
  reference : String
  sort : String
  value : MemoryEvent ⊕ SemanticAssertion
  epistemicType : Option EpistemicType

/-- `MemoryProjection`; the dictionaries keep their insertion order. -/
structure MemoryProjection where
  episodes : KeyedTable MemoryEvent.id
  assertions : KeyedTable SemanticAssertion.assertionId
  evidence : KeyedTable EvidenceLink.linkId
  supersessions : KeyedTable AssertionSupersession.transitionId
  closures : KeyedTable ValidityClosure.closureId
  contradictions : KeyedTable MemoryContradiction.contradictionId
  applied : KeyedTable MemoryEvent.id

/-- `value.partition(":")`. -/
def partitionColon (value : String) : String × Bool × String :=
  match value.toList.span (· ≠ ':') with
  | (before, []) => (String.ofList before, false, "")
  | (before, _ :: after) => (String.ofList before, true, String.ofList after)

namespace MemoryProjection

def empty : MemoryProjection := ⟨.empty, .empty, .empty, .empty, .empty, .empty, .empty⟩

variable (canon : CanonicalIds) (p : MemoryProjection)

/-! ## Provenance -/

/-- `_event_epistemic_type`. -/
def eventEpistemicType (event : MemoryEvent) : Except PyError (Option EpistemicType) :=
  match event.epistemicType with
  | none =>
    match event.type with
    | .simulation _ => .ok (some .simulated)
    | _ => .ok none
  | some value =>
    match EpistemicType.ofText? value with
    | some epistemicType => .ok (some epistemicType)
    | none => .error (.valueError s!"canonical event has invalid epistemic provenance: {event.id}")

/-- `resolve_evidence_ref`. -/
def resolveEvidenceRef (ref : String) : Except PyError EvidenceObject :=
  match partitionColon ref with
  | (sort, separator, identifier) =>
    if separator = false ∨ sort = "" ∨ identifier = "" then
      .error (.valueError "evidence refs require a non-empty namespace and identity")
    else if sort = "event" then
      match p.episodes.find identifier with
      | none => .error (.valueError s!"unknown canonical evidence event: {identifier}")
      | some event => do return ⟨ref, sort, .inl event, ← eventEpistemicType event⟩
    else if sort = "assertion" then
      match p.assertions.find ref with
      | none => .error (.valueError s!"unknown evidence assertion: {ref}")
      | some assertion => .ok ⟨ref, sort, .inr assertion, some assertion.epistemicType⟩
    else if sort = "simulation" then
      match p.episodes.find identifier with
      | none => .error (.valueError s!"unknown simulation artifact: {identifier}")
      | some event => do
        let epistemicType ← eventEpistemicType event
        if epistemicType ≠ some .simulated then
          .error (.valueError
            s!"simulation reference is not a registered simulation artifact: {identifier}")
        else return ⟨ref, sort, .inl event, epistemicType⟩
    else .error (.valueError s!"unsupported evidence reference namespace: {sort}")

/-- `_validate_assertion_provenance`. -/
def validateAssertionProvenance (assertion : SemanticAssertion) : Except PyError Unit := do
  let anchors ← (assertion.sourceRefs ++ assertion.derivationRefs).mapM p.resolveEvidenceRef
  if assertion.epistemicType = .observed ∧
      anchors.any (fun anchor => anchor.epistemicType = some .simulated) then
    .error (.valueError "simulated provenance cannot support an observed assertion")
  else return ()

/-- `_require_assertion`. -/
def requireAssertion (assertionId : String) : Except PyError SemanticAssertion :=
  match p.assertions.find assertionId with
  | some assertion => .ok assertion
  | none => .error (.valueError s!"memory transition references unknown assertion: {assertionId}")

/-! ## Validity -/

/-- The ends of an assertion's validity that are known at `knownAt`. -/
def boundaries (assertion : SemanticAssertion) (knownAt : Datetime) : List Int :=
  assertion.validTo.toList.map Datetime.instant ++
  (p.closures.rows.filter fun closure => closure.assertionRef = assertion.assertionId ∧
    closure.recordedAt.instant ≤ knownAt.instant).map (·.validTo.instant) ++
  (p.supersessions.rows.filter fun transition =>
    transition.priorAssertionRef = assertion.assertionId ∧
    transition.recordedAt.instant ≤ knownAt.instant).map (·.effectiveAt.instant) ++
  (p.assertions.rows.filter fun candidate => candidate.supersedes = some assertion.assertionId ∧
    candidate.recordedAt.instant ≤ knownAt.instant).map (·.validFrom.instant)

/-- `effective_valid_to`, as an instant. -/
def effectiveValidTo (assertion : SemanticAssertion) (knownAt : Datetime) : Option Int :=
  (p.boundaries assertion knownAt).min?

/-- `_intervals_overlap`. -/
def intervalsOverlap (left right : SemanticAssertion) (knownAt : Datetime) : Bool :=
  ((p.effectiveValidTo left knownAt).all fun leftTo => right.validFrom.instant < leftTo) &&
    (p.effectiveValidTo right knownAt).all fun rightTo => left.validFrom.instant < rightTo

/-- `_has_supersession`. -/
def hasSupersession (priorId newId : String) : Bool :=
  p.supersessions.rows.any fun transition =>
    transition.priorAssertionRef = priorId ∧ transition.newAssertionRef = newId

/-- `_directly_superseded`. -/
def directlySuperseded (leftId rightId : String) : Bool :=
  p.hasSupersession leftId rightId || p.hasSupersession rightId leftId

/-! ## Derived events -/

/-- The tests of `_new_contradiction_events` on another assertion. -/
def conflicts (assertion other : SemanticAssertion) : Bool :=
  other.assertionId ≠ assertion.assertionId &&
  (other.subject = assertion.subject ∧ other.predicate = assertion.predicate) &&
  other.value ≠ assertion.value &&
  !(assertion.supersedes = some other.assertionId ∨ other.supersedes = some assertion.assertionId) &&
  !p.directlySuperseded other.assertionId assertion.assertionId &&
  p.intervalsOverlap assertion other assertion.recordedAt

/-- `_new_contradiction_events`. -/
def newContradictionEvents (assertion : SemanticAssertion) (trigger : MemoryEvent)
    (source : String) : Except PyError (List MemoryEvent) := do
  let others := p.assertions.rows.filter fun other => p.conflicts assertion other
  let detected ← others.mapM fun other =>
    MemoryContradiction.detect canon (assertion.assertionId, other.assertionId) assertion.subject
      assertion.predicate assertion.recordedAt
  let new := detected.filter fun contradiction =>
    (p.contradictions.find contradiction.contradictionId).isNone
  return new.map fun contradiction => contradiction.detectionEvent source (some trigger.id)

/-- What `_new_resolution_events` makes of one unresolved contradiction. -/
def resolutionOf (contradiction : MemoryContradiction) (at' : Datetime) (trigger : MemoryEvent)
    (source reason : String) : Except PyError (Option MemoryEvent) := do
  let left ← p.requireAssertion contradiction.assertionRefs.1
  let right ← p.requireAssertion contradiction.assertionRefs.2
  if p.intervalsOverlap left right at' &&
      !p.directlySuperseded left.assertionId right.assertionId then return none
  let resolved ← contradiction.resolve at' reason
  return some (← resolved.resolutionEvent canon source (some trigger.id))

/-- `_new_resolution_events`. -/
def newResolutionEvents (at' : Datetime) (trigger : MemoryEvent) (source reason : String) :
    Except PyError (List MemoryEvent) := do
  let unresolved := p.contradictions.rows.filter fun contradiction =>
    contradiction.resolvedAt.isNone
  let events ← unresolved.mapM fun contradiction =>
    p.resolutionOf canon contradiction at' trigger source reason
  return events.reduceOption

/-! ## Applying an event -/

/-- Store a record, unless another one has its id. -/
def once {α κ : Type} {key : α → κ} [DecidableEq κ] [DecidableEq α] (t : KeyedTable key) (r : α)
    (conflict : String) : Except PyError (KeyedTable key) :=
  match t.insertOnce r with
  | some t => .ok t
  | none => .error (.valueError conflict)

/-- The state after a step, and the events it entails if they are asked for. -/
abbrev Applied := Except PyError (MemoryProjection × List MemoryEvent)

/-- The events entailed, for a caller that stores them. -/
def derive (derivedSource : Option String) (events : String → Except PyError (List MemoryEvent)) :
    Except PyError (List MemoryEvent) :=
  match derivedSource with
  | some source => events source
  | none => .ok []

/-- The supersession that an assertion states about itself, unless it is recorded. -/
def statedSupersession (assertion : SemanticAssertion) (trigger : MemoryEvent) (source : String) :
    Except PyError (List MemoryEvent) :=
  match assertion.supersedes with
  | none => .ok []
  | some priorId =>
    if p.hasSupersession priorId assertion.assertionId then .ok []
    else do
      let prior ← p.requireAssertion priorId
      let transition ← AssertionSupersession.create canon
        { priorAssertionRef := prior.assertionId, newAssertionRef := assertion.assertionId
          effectiveAt := assertion.validFrom, recordedAt := assertion.recordedAt }
      return [transition.toEvent source (some trigger.id)]

/-- An assertion may only supersede one of its semantic key. -/
def checkSupersedes (assertion : SemanticAssertion) : Except PyError Unit :=
  match assertion.supersedes with
  | none => .ok ()
  | some priorId => do
    let prior ← p.requireAssertion priorId
    if prior.subject ≠ assertion.subject ∨ prior.predicate ≠ assertion.predicate then
      .error (.valueError "an assertion may only supersede the same semantic key")
    else return ()

/-- What an assertion entails once it is recorded. -/
def assertionEvents (assertion : SemanticAssertion) (trigger : MemoryEvent) (source : String) :
    Except PyError (List MemoryEvent) := do
  let stated ← p.statedSupersession canon assertion trigger source
  let contradictions ← p.newContradictionEvents canon assertion trigger source
  return stated ++ contradictions

/-- `ASSERTION_RECORDED_EVENT`. -/
def applyAssertion (event : MemoryEvent) (derivedSource : Option String) : Applied := do
  let assertion ← SemanticAssertion.fromEvent canon event
  p.validateAssertionProvenance assertion
  let assertions ← once p.assertions assertion
    s!"conflicting assertion identity: {assertion.assertionId}"
  p.checkSupersedes assertion
  let p := { p with assertions }
  let derived ← derive derivedSource fun source => p.assertionEvents canon assertion event source
  return (p, derived)

/-- The relations by which evidence carries an assertion. -/
def carries : EvidenceRelation → Bool
  | .supports | .refines | .supersedes | .derivedFrom => true
  | .contradicts => false

/-- `EVIDENCE_LINKED_EVENT`. -/
def applyEvidence (event : MemoryEvent) : Applied := do
  let link ← EvidenceLink.fromEvent canon event
  let target ← p.requireAssertion link.assertionRef
  let object ← p.resolveEvidenceRef link.evidenceRef
  if object.epistemicType.any fun epistemicType => epistemicType ≠ link.evidenceType then
    .error (.valueError "evidence link provenance does not match its source")
  else if target.epistemicType = .observed ∧ link.evidenceType = .simulated ∧ carries link.relation
  then .error (.valueError "simulated evidence cannot support an observed assertion")
  else do
    let evidence ← once p.evidence link s!"conflicting evidence-link identity: {link.linkId}"
    return ({ p with evidence }, [])

/-- `ASSERTION_SUPERSEDED_EVENT`. -/
def applySupersession (event : MemoryEvent) (derivedSource : Option String) : Applied := do
  let transition ← AssertionSupersession.fromEvent canon event
  let prior ← p.requireAssertion transition.priorAssertionRef
  let new ← p.requireAssertion transition.newAssertionRef
  if prior.subject ≠ new.subject ∨ prior.predicate ≠ new.predicate then
    .error (.valueError "supersession must preserve the semantic key")
  else if new.supersedes.any fun priorId => priorId ≠ prior.assertionId then
    .error (.valueError "supersession conflicts with the new assertion record")
  else do
    let supersessions ← once p.supersessions transition
      s!"conflicting supersession identity: {transition.transitionId}"
    let p := { p with supersessions }
    let derived ← derive derivedSource fun source =>
      p.newResolutionEvents canon transition.recordedAt event source "superseded"
    return (p, derived)

/-- `VALIDITY_CLOSED_EVENT`. -/
def applyClosure (event : MemoryEvent) (derivedSource : Option String) : Applied := do
  let closure ← ValidityClosure.fromEvent canon event
  let assertion ← p.requireAssertion closure.assertionRef
  if closure.validTo.instant ≤ assertion.validFrom.instant then
    .error (.valueError "validity closure must follow assertion valid_from")
  else do
    let closures ← once p.closures closure
      s!"conflicting validity-closure identity: {closure.closureId}"
    let p := { p with closures }
    let derived ← derive derivedSource fun source =>
      p.newResolutionEvents canon closure.recordedAt event source "validity_closed"
    return (p, derived)

/-- `CONTRADICTION_DETECTED_EVENT`. -/
def applyDetection (event : MemoryEvent) : Applied := do
  let contradiction ← MemoryContradiction.fromDetection canon event
  let _ ← p.requireAssertion contradiction.assertionRefs.1
  let _ ← p.requireAssertion contradiction.assertionRefs.2
  let contradictions ← once p.contradictions contradiction
    s!"conflicting contradiction identity: {contradiction.contradictionId}"
  return ({ p with contradictions }, [])

/-- `CONTRADICTION_RESOLVED_EVENT`. -/
def applyResolution (event : MemoryEvent) : Applied :=
  match event.payload with
  | .resolution contradictionId resolvedAt reason =>
    match p.contradictions.find contradictionId with
    | none =>
      .error (.valueError s!"resolution references unknown contradiction: {contradictionId}")
    | some existing =>
      if event.timestamp ≠ resolvedAt.instant then
        .error (.valueError "contradiction resolution timestamp is inconsistent")
      else do
        let resolved ← existing.resolve resolvedAt reason
        if existing.resolvedAt.isSome ∧ existing ≠ resolved then
          .error (.valueError s!"conflicting contradiction resolution: {contradictionId}")
        else return ({ p with contradictions := p.contradictions.put resolved }, [])
  | payload => .error (payload.unreadable "contradiction_id")

/-- The text of an unknown memory event's type. -/
def typeText : MemoryEventType → String
  | .memory rest => s!"memory.{rest}"
  | _ => ""

/-- The branches of `apply` on a memory event that was not applied before. -/
def applyMemory (event : MemoryEvent) (derivedSource : Option String) : Applied :=
  match event.type with
  | .assertionRecorded => p.applyAssertion canon event derivedSource
  | .evidenceLinked => p.applyEvidence canon event
  | .assertionSuperseded => p.applySupersession canon event derivedSource
  | .validityClosed => p.applyClosure canon event derivedSource
  | .contradictionDetected => p.applyDetection canon event
  | .contradictionResolved => p.applyResolution event
  | type => .error (.valueError s!"unsupported memory event type: {typeText type}")

/-- `apply`, once the event is among the episodes; the derived events are sorted by
their ids. -/
def applyRecords (event : MemoryEvent) (derivedSource : Option String) : Applied :=
  if event.type.isMemory = false then .ok (p, [])
  else
    match p.applied.find event.id with
    | some existing =>
      if existing ≠ event then
        .error (.valueError s!"conflicting memory event identity: {event.id}")
      else .ok (p, [])
    | none => do
      let (p, derived) ← p.applyMemory canon event derivedSource
      return ({ p with applied := p.applied.put event },
        derived.insertionSort fun a b => a.id ≤ b.id)

/-- `apply`. -/
def apply (event : MemoryEvent) (derivedSource : Option String) : Applied := do
  let episodes ← once p.episodes event s!"conflicting canonical event identity: {event.id}"
  { p with episodes }.applyRecords canon event derivedSource

/-- The loop of `rebuild`, from any state. -/
def applyAll (p : MemoryProjection) : List MemoryEvent → Except PyError MemoryProjection
  | [] => .ok p
  | event :: events => do
    let (p, _) ← p.apply canon event none
    applyAll p events

/-- `rebuild`. -/
def rebuild (events : List MemoryEvent) (throughSequence : Option Nat) :
    Except PyError MemoryProjection :=
  empty.applyAll canon (events.filter fun event =>
    throughSequence.all fun through => event.sequence.getD 0 ≤ through)

/-! ## What an accepted event did -/

/-- What `apply` does to the records, once the event is in the episodes. -/
inductive Recorded (canon : CanonicalIds) (p : MemoryProjection) (event : MemoryEvent) :
    MemoryProjection → Prop
  | nothing (h : event.type.isMemory = false ∨ p.applied.find event.id = some event) :
      Recorded canon p event p
  | assertion {assertion assertions} (htype : event.type = .assertionRecorded)
      (hread : SemanticAssertion.fromEvent canon event = .ok assertion)
      (hstored : p.assertions.insertOnce assertion = some assertions)
      (hprior : ∀ priorId ∈ assertion.supersedes, ∃ prior,
        p.assertions.find priorId = some prior ∧ prior.subject = assertion.subject ∧
          prior.predicate = assertion.predicate) :
      Recorded canon p event { p with assertions, applied := p.applied.put event }
  | evidence {link evidence} (htype : event.type = .evidenceLinked)
      (hread : EvidenceLink.fromEvent canon event = .ok link)
      (hstored : p.evidence.insertOnce link = some evidence) :
      Recorded canon p event { p with evidence, applied := p.applied.put event }
  | supersession {transition prior new supersessions} (htype : event.type = .assertionSuperseded)
      (hread : AssertionSupersession.fromEvent canon event = .ok transition)
      (hprior : p.assertions.find transition.priorAssertionRef = some prior)
      (hnew : p.assertions.find transition.newAssertionRef = some new)
      (hstored : p.supersessions.insertOnce transition = some supersessions) :
      Recorded canon p event { p with supersessions, applied := p.applied.put event }
  | closure {closure assertion closures} (htype : event.type = .validityClosed)
      (hread : ValidityClosure.fromEvent canon event = .ok closure)
      (hassertion : p.assertions.find closure.assertionRef = some assertion)
      (hstored : p.closures.insertOnce closure = some closures) :
      Recorded canon p event { p with closures, applied := p.applied.put event }
  | detection {contradiction contradictions} (htype : event.type = .contradictionDetected)
      (hread : MemoryContradiction.fromDetection canon event = .ok contradiction)
      (hleft : (p.assertions.find contradiction.assertionRefs.1).isSome)
      (hright : (p.assertions.find contradiction.assertionRefs.2).isSome)
      (hstored : p.contradictions.insertOnce contradiction = some contradictions) :
      Recorded canon p event { p with contradictions, applied := p.applied.put event }
  | resolution {contradictionId resolvedAt reason existing resolved}
      (htype : event.type = .contradictionResolved)
      (hread : event.payload = .resolution contradictionId resolvedAt reason)
      (hfind : p.contradictions.find contradictionId = some existing)
      (htime : event.timestamp = resolvedAt.instant)
      (hresolve : existing.resolve resolvedAt reason = .ok resolved)
      (hsame : existing.resolvedAt.isSome = true → existing = resolved) :
      Recorded canon p event
        { p with contradictions := p.contradictions.put resolved, applied := p.applied.put event }

variable {canon p}

theorem once_ok {α κ : Type} {key : α → κ} [DecidableEq κ] [DecidableEq α] {t t' : KeyedTable key}
    {r : α} {conflict : String} (h : once t r conflict = .ok t') : t.insertOnce r = some t' := by
  unfold once at h
  split at h
  · rename_i hstored
    cases h
    exact hstored
  · cases h

theorem requireAssertion_ok {assertionId : String} {assertion : SemanticAssertion}
    (h : p.requireAssertion assertionId = .ok assertion) :
    p.assertions.find assertionId = some assertion := by
  unfold requireAssertion at h
  split at h
  · rename_i hfind
    cases h
    exact hfind
  · cases h

theorem checkSupersedes_ok {assertion : SemanticAssertion} {answer : Unit}
    (h : p.checkSupersedes assertion = .ok answer) :
    ∀ priorId ∈ assertion.supersedes, ∃ prior, p.assertions.find priorId = some prior ∧
      prior.subject = assertion.subject ∧ prior.predicate = assertion.predicate := by
  intro priorId hprior
  rw [checkSupersedes, Option.mem_def.mp hprior] at h
  obtain ⟨prior, hfind, h⟩ := bind_eq_ok h
  refine ⟨prior, requireAssertion_ok hfind, ?_⟩
  split at h
  · cases h
  · rename_i hkey
    simpa only [not_or, ne_eq, not_not] using hkey

theorem applyResolution_recorded {event : MemoryEvent} {p' : MemoryProjection}
    {derived : List MemoryEvent} (htype : event.type = .contradictionResolved)
    (h : p.applyResolution event = .ok (p', derived)) :
    Recorded canon p event { p' with applied := p'.applied.put event } := by
  unfold applyResolution at h
  split at h
  · rename_i hread
    split at h
    · cases h
    · rename_i hfind
      split at h
      · cases h
      · rename_i htime
        obtain ⟨resolved, hresolve, h⟩ := bind_eq_ok h
        split at h
        · cases h
        · rename_i hsame
          cases h
          refine .resolution htype hread hfind (not_not.mp htime) hresolve fun hsome => ?_
          by_contra hne
          exact hsame ⟨hsome, hne⟩
  · cases h

/-- `apply` on a new memory event records what the event says. -/
theorem applyMemory_recorded {event : MemoryEvent} {derivedSource : Option String}
    {p' : MemoryProjection} {derived : List MemoryEvent}
    (h : p.applyMemory canon event derivedSource = .ok (p', derived)) :
    Recorded canon p event { p' with applied := p'.applied.put event } := by
  unfold applyMemory at h
  split at h
  · rename_i htype
    obtain ⟨assertion, hread, h⟩ := bind_eq_ok h
    obtain ⟨_, -, h⟩ := bind_eq_ok h
    obtain ⟨assertions, hstored, h⟩ := bind_eq_ok h
    have hstored := once_ok hstored
    obtain ⟨_, hchecked, h⟩ := bind_eq_ok h
    obtain ⟨_, -, h⟩ := bind_eq_ok h
    cases h
    exact .assertion htype hread hstored (checkSupersedes_ok hchecked)
  · rename_i htype
    obtain ⟨link, hread, h⟩ := bind_eq_ok h
    obtain ⟨_, -, h⟩ := bind_eq_ok h
    obtain ⟨_, -, h⟩ := bind_eq_ok h
    split at h
    · cases h
    · split at h
      · cases h
      · obtain ⟨evidence, hstored, h⟩ := bind_eq_ok h
        cases h
        exact .evidence htype hread (once_ok hstored)
  · rename_i htype
    obtain ⟨transition, hread, h⟩ := bind_eq_ok h
    obtain ⟨prior, hprior, h⟩ := bind_eq_ok h
    obtain ⟨new, hnew, h⟩ := bind_eq_ok h
    split at h
    · cases h
    · split at h
      · cases h
      · obtain ⟨supersessions, hstored, h⟩ := bind_eq_ok h
        obtain ⟨_, -, h⟩ := bind_eq_ok h
        cases h
        exact .supersession htype hread (requireAssertion_ok hprior) (requireAssertion_ok hnew)
          (once_ok hstored)
  · rename_i htype
    obtain ⟨closure, hread, h⟩ := bind_eq_ok h
    obtain ⟨assertion, hassertion, h⟩ := bind_eq_ok h
    split at h
    · cases h
    · obtain ⟨closures, hstored, h⟩ := bind_eq_ok h
      obtain ⟨_, -, h⟩ := bind_eq_ok h
      cases h
      exact .closure htype hread (requireAssertion_ok hassertion) (once_ok hstored)
  · rename_i htype
    obtain ⟨contradiction, hread, h⟩ := bind_eq_ok h
    obtain ⟨left, hleft, h⟩ := bind_eq_ok h
    obtain ⟨right, hright, h⟩ := bind_eq_ok h
    obtain ⟨contradictions, hstored, h⟩ := bind_eq_ok h
    cases h
    exact .detection htype hread (Option.isSome_of_eq_some (requireAssertion_ok hleft))
      (Option.isSome_of_eq_some (requireAssertion_ok hright)) (once_ok hstored)
  · rename_i htype
    exact applyResolution_recorded htype h
  · cases h

/-- **An accepted event is in the episodes and did what `Recorded` says.** -/
theorem apply_recorded {event : MemoryEvent} {derivedSource : Option String}
    {p' : MemoryProjection} {derived : List MemoryEvent}
    (h : p.apply canon event derivedSource = .ok (p', derived)) :
    ∃ episodes, p.episodes.insertOnce event = some episodes ∧
      Recorded canon { p with episodes } event p' := by
  obtain ⟨episodes, hepisodes, h⟩ := bind_eq_ok h
  refine ⟨episodes, once_ok hepisodes, ?_⟩
  unfold applyRecords at h
  split at h
  · rename_i hmemory
    cases h
    exact .nothing (Or.inl hmemory)
  · split at h
    · rename_i existing hfind
      split at h
      · cases h
      · rename_i hsame
        cases h
        rw [not_not.mp hsame] at hfind
        exact .nothing (Or.inr hfind)
    · obtain ⟨⟨q, events⟩, hmemory, h⟩ := bind_eq_ok h
      cases h
      exact applyMemory_recorded hmemory

end MemoryProjection
end Noema
