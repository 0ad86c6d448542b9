import Mathlib.Tactic.SplitIfs
import Noema.Types

/-!
# The records of the cognitive memory

Assertions, evidence links, supersessions, validity closures and contradictions, and
the events that carry them.  An event's payload is given by what the record's reader
takes from it; a payload that the reader cannot convert is `malformed`.  Readers check
the record's id against its content, and the event's subject and timestamp against the
record.  The ids are digests of the content: `CanonicalIds`, of which nothing is
assumed.
-/
namespace Noema

inductive EpistemicType
  | observed
  | inferred
  | reported
  | assumed
  | simulated
deriving DecidableEq

/-- `EpistemicType(value)`. -/
def EpistemicType.ofText? : String → Option EpistemicType
  | "observed" => some .observed
  | "inferred" => some .inferred
  | "reported" => some .reported
  | "assumed" => some .assumed
  | "simulated" => some .simulated
  | _ => none

inductive AssertionStatus
  | active
  | hypothesis
deriving DecidableEq

inductive EvidenceRelation
  | supports
  | contradicts
  | refines
  | supersedes
  | derivedFrom
deriving DecidableEq

/-- `JSONScalar`; two scalars have the same `_value_key` if they are equal here. -/
inductive JSONScalar
  | null
  | bool (value : Bool)
  | int (value : Int)
  | float (value : PyFloat)
  | str (value : String)
deriving DecidableEq

/-- What an assertion says, and what its id is made of. -/
structure AssertionContent where
  subject : String
  predicate : String
  value : JSONScalar
  epistemicType : EpistemicType
  confidence : ℚ
  validFrom : Datetime
  validTo : Option Datetime
  recordedAt : Datetime
  freshUntil : Option Datetime
  sourceRefs : List String
  derivationRefs : List String
  supersedes : Option String
  status : AssertionStatus
  mutableWorld : Bool
deriving DecidableEq

/-- What the constructor checks. -/
structure AssertionContent.WellFormed (content : AssertionContent) : Prop where
  key : blank content.subject = false ∧ blank content.predicate = false
  value : ∀ value, content.value = .float value → ∃ q, value = .finite q
  confidence : 0 ≤ content.confidence ∧ content.confidence ≤ 1
  validity : ∀ validTo ∈ content.validTo, content.validFrom.instant < validTo.instant
  freshness : ∀ freshUntil ∈ content.freshUntil, content.recordedAt.instant < freshUntil.instant
  mutable : content.mutableWorld = true → content.freshUntil.isSome ∨ content.validTo.isSome
  refs : ∀ ref ∈ content.sourceRefs ++ content.derivationRefs, blank ref = false
  distinct : content.sourceRefs.Nodup ∧ content.derivationRefs.Nodup
  assumed : content.epistemicType = .assumed → content.derivationRefs = []
  sourced : content.epistemicType ≠ .assumed → content.sourceRefs ++ content.derivationRefs ≠ []
  observed : content.epistemicType = .observed →
    ∀ ref ∈ content.sourceRefs, ¬ "simulation:".toList <+: ref.toList
  inferred : content.epistemicType = .inferred → content.derivationRefs ≠ []

/-- `SemanticAssertion`. -/
structure SemanticAssertion extends AssertionContent where
  assertionId : String
  wellFormed : toAssertionContent.WellFormed
  assertionId_nonblank : blank assertionId = false
  supersedes_ne : ∀ prior ∈ supersedes, blank prior = false ∧ prior ≠ assertionId
deriving DecidableEq

structure EvidenceContent where
  evidenceRef : String
  assertionRef : String
  relation : EvidenceRelation
  strength : ℚ
  evidenceType : EpistemicType
  recordedAt : Datetime
deriving DecidableEq

/-- `EvidenceLink`. -/
structure EvidenceLink extends EvidenceContent where
  linkId : String
  nonblank : blank linkId = false ∧ blank evidenceRef = false ∧ blank assertionRef = false
  strength_mem : 0 ≤ strength ∧ strength ≤ 1
deriving DecidableEq

structure SupersessionContent where
  priorAssertionRef : String
  newAssertionRef : String
  effectiveAt : Datetime
  recordedAt : Datetime
deriving DecidableEq

structure AssertionSupersession extends SupersessionContent where
  transitionId : String
deriving DecidableEq

structure ClosureContent where
  assertionRef : String
  validTo : Datetime
  recordedAt : Datetime
deriving DecidableEq

structure ValidityClosure extends ClosureContent where
  closureId : String
deriving DecidableEq

structure MemoryContradiction where
  contradictionId : String
  assertionRefs : String × String
  subject : String
  predicate : String
  detectedAt : Datetime
  resolvedAt : Option Datetime := none
  resolutionReason : Option String := none
deriving DecidableEq

/-- What a resolution's id is made of. -/
structure ResolutionContent where
  contradictionId : String
  resolvedAt : Datetime
  reason : String
deriving DecidableEq

/-- `_canonical_id` on each kind of content. -/
structure CanonicalIds where
  assertion : AssertionContent → String
  evidence : EvidenceContent → String
  supersession : SupersessionContent → String
  closure : ClosureContent → String
  contradiction : String × String → String
  resolution : ResolutionContent → String

/-! ## Events -/

inductive MemoryEventType
  | assertionRecorded
  | evidenceLinked
  | assertionSuperseded
  | validityClosed
  | contradictionDetected
  | contradictionResolved
  /-- Any other type that begins with `memory.` -/
  | memory (rest : String)
  /-- A type that begins with `simulation.` -/
  | simulation (rest : String)
  | consumerCheckpointAdvanced
  | other (type : String)
deriving DecidableEq

/-- `event.type.startswith("memory.")`. -/
def MemoryEventType.isMemory : MemoryEventType → Bool
  | .simulation _ | .consumerCheckpointAdvanced | .other _ => false
  | _ => true

/-- The fields of a checkpoint's payload. -/
structure CheckpointPayload where
  consumerId : String
  lastCompletedSequence : Int
  observedHeadSequence : Int
  processingLag : Int
  epochId : Option String
deriving DecidableEq

inductive MemoryPayload
  | assertion (assertion : SemanticAssertion)
  | evidence (link : EvidenceLink)
  | supersession (transition : AssertionSupersession)
  | closure (closure : ValidityClosure)
  | detection (contradictionId : String) (assertionRefs : List String)
      (subject predicate : String) (detectedAt : Datetime)
  | resolution (contradictionId : String) (resolvedAt : Datetime) (reason : String)
  | checkpoint (payload : CheckpointPayload)
  | malformed (error : PyError)
  | unread (text : String)
deriving DecidableEq

/-- An event, as the memory reads it; `timestamp` is its instant and `epistemicType` the
entry of its metadata. -/
structure MemoryEvent where
  id : String
  type : MemoryEventType
  source : String
  subject : Option String
  timestamp : Int
  causationId : Option String := none
  payload : MemoryPayload
  epistemicType : Option String := none
  sequence : Option Nat := none
deriving DecidableEq

/-- What a reader raises on a payload of another shape: its first key is missing. -/
def MemoryPayload.unreadable (key : String) : MemoryPayload → PyError
  | .malformed error => error
  | _ => .keyError key

variable (canon : CanonicalIds)

/-- `SemanticAssertion.from_event`. -/
def SemanticAssertion.fromEvent (event : MemoryEvent) : Except PyError SemanticAssertion :=
  match event.payload with
  | .assertion assertion =>
    if assertion.assertionId ≠ canon.assertion assertion.toAssertionContent then
      .error (.valueError "assertion id does not match its immutable content")
    else if event.subject ≠ some assertion.subject then
      .error (.valueError "assertion event subject does not match its assertion")
    else if event.timestamp ≠ assertion.recordedAt.instant then
      .error (.valueError "assertion event timestamp does not match recorded_at")
    else .ok assertion
  | payload => .error (payload.unreadable "assertion_id")

/-- `EvidenceLink.from_event`. -/
def EvidenceLink.fromEvent (event : MemoryEvent) : Except PyError EvidenceLink :=
  match event.payload with
  | .evidence link =>
    if link.linkId ≠ canon.evidence link.toEvidenceContent then
      .error (.valueError "evidence link id does not match its immutable content")
    else if event.subject ≠ some link.assertionRef then
      .error (.valueError "evidence-link event subject does not match its assertion")
    else if event.timestamp ≠ link.recordedAt.instant then
      .error (.valueError "evidence-link timestamp does not match recorded_at")
    else .ok link
  | payload => .error (payload.unreadable "link_id")

variable {canon} in
theorem SemanticAssertion.fromEvent_time {event : MemoryEvent} {assertion : SemanticAssertion}
    (h : fromEvent canon event = .ok assertion) :
    assertion.recordedAt.instant = event.timestamp := by
  unfold fromEvent at h
  split at h
  · split_ifs at h with hid hsubject htime
    cases h
    exact (not_not.mp htime).symm
  · cases h

variable {canon} in
theorem EvidenceLink.fromEvent_time {event : MemoryEvent} {link : EvidenceLink}
    (h : fromEvent canon event = .ok link) :
    link.recordedAt.instant = event.timestamp := by
  unfold fromEvent at h
  split at h
  · split_ifs at h with hid hsubject htime
    cases h
    exact (not_not.mp htime).symm
  · cases h

/-- `AssertionSupersession.create`. -/
def AssertionSupersession.create (content : SupersessionContent) :
    Except PyError AssertionSupersession :=
  if blank content.priorAssertionRef || blank content.newAssertionRef then
    .error (.valueError "supersession assertion refs must be non-empty")
  else if content.priorAssertionRef = content.newAssertionRef then
    .error (.valueError "an assertion cannot supersede itself")
  else .ok ⟨content, canon.supersession content⟩

def AssertionSupersession.toEvent (transition : AssertionSupersession) (source : String)
    (causationId : Option String) : MemoryEvent :=
  { id := s!"memory-supersession:{transition.transitionId}"
    type := .assertionSuperseded
    source
    subject := some transition.priorAssertionRef
    timestamp := transition.recordedAt.instant
    causationId
    payload := .supersession transition }

/-- `AssertionSupersession.from_event`. -/
def AssertionSupersession.fromEvent (event : MemoryEvent) : Except PyError AssertionSupersession :=
  match event.payload with
  | .supersession stated => do
    let transition ← create canon stated.toSupersessionContent
    if stated.transitionId ≠ transition.transitionId then
      .error (.valueError "supersession id does not match its immutable content")
    else if event.subject ≠ some transition.priorAssertionRef then
      .error (.valueError "supersession event subject does not match prior assertion")
    else if event.timestamp ≠ transition.recordedAt.instant then
      .error (.valueError "supersession timestamp does not match recorded_at")
    else .ok transition
  | payload => .error (payload.unreadable "prior_assertion_ref")

variable {canon} in
theorem AssertionSupersession.fromEvent_time {event : MemoryEvent}
    {transition : AssertionSupersession} (h : fromEvent canon event = .ok transition) :
    transition.recordedAt.instant = event.timestamp := by
  unfold fromEvent at h
  split at h
  · obtain ⟨created, -, h⟩ := bind_eq_ok h
    split_ifs at h with hid hsubject htime
    cases h
    exact (not_not.mp htime).symm
  · cases h

/-- `ValidityClosure.create`. -/
def ValidityClosure.create (content : ClosureContent) : Except PyError ValidityClosure :=
  if blank content.assertionRef then
    .error (.valueError "validity closure assertion ref must be non-empty")
  else .ok ⟨content, canon.closure content⟩

/-- `ValidityClosure.from_event`. -/
def ValidityClosure.fromEvent (event : MemoryEvent) : Except PyError ValidityClosure :=
  match event.payload with
  | .closure stated => do
    let closure ← create canon stated.toClosureContent
    if stated.closureId ≠ closure.closureId then
      .error (.valueError "validity closure id does not match its immutable content")
    else if event.subject ≠ some closure.assertionRef then
      .error (.valueError "validity-closure subject does not match its assertion")
    else if event.timestamp ≠ closure.recordedAt.instant then
      .error (.valueError "validity-closure timestamp does not match recorded_at")
    else .ok closure
  | payload => .error (payload.unreadable "assertion_ref")

variable {canon} in
theorem ValidityClosure.fromEvent_time {event : MemoryEvent} {closure : ValidityClosure}
    (h : fromEvent canon event = .ok closure) :
    closure.recordedAt.instant = event.timestamp := by
  unfold fromEvent at h
  split at h
  · obtain ⟨created, -, h⟩ := bind_eq_ok h
    split_ifs at h with hid hsubject htime
    cases h
    exact (not_not.mp htime).symm
  · cases h

namespace MemoryContradiction

/-- `tuple(sorted(assertion_refs))`. -/
def sortRefs (refs : String × String) : String × String :=
  if refs.2 < refs.1 then (refs.2, refs.1) else refs

/-- `detect`. -/
def detect (assertionRefs : String × String) (subject predicate : String) (detectedAt : Datetime) :
    Except PyError MemoryContradiction :=
  let refs := sortRefs assertionRefs
  if refs.1 = refs.2 ∨ blank refs.1 ∨ blank refs.2 then
    .error (.valueError "a contradiction requires two distinct assertion refs")
  else if blank subject || blank predicate then
    .error (.valueError "contradiction subject and predicate must be non-empty")
  else
    .ok { contradictionId := canon.contradiction refs, assertionRefs := refs, subject, predicate
          detectedAt }

/-- `resolve`. -/
def resolve (contradiction : MemoryContradiction) (resolvedAt : Datetime) (reason : String) :
    Except PyError MemoryContradiction :=
  if resolvedAt.instant < contradiction.detectedAt.instant then
    .error (.valueError "a contradiction cannot resolve before detection")
  else if blank reason then
    .error (.valueError "contradiction resolution reason must be non-empty")
  else .ok { contradiction with resolvedAt := some resolvedAt, resolutionReason := some reason }

variable {canon} in
theorem detect_detectedAt {refs : String × String} {subject predicate : String}
    {detectedAt : Datetime} {contradiction : MemoryContradiction}
    (h : detect canon refs subject predicate detectedAt = .ok contradiction) :
    contradiction.detectedAt = detectedAt ∧ contradiction.resolvedAt = none := by
  unfold detect at h
  dsimp only at h
  split_ifs at h
  cases h
  exact ⟨rfl, rfl⟩

theorem resolve_ok {contradiction resolved : MemoryContradiction} {resolvedAt : Datetime}
    {reason : String} (h : contradiction.resolve resolvedAt reason = .ok resolved) :
    resolved = { contradiction with
      resolvedAt := some resolvedAt, resolutionReason := some reason } := by
  unfold resolve at h
  split_ifs at h
  cases h
  rfl

def detectionEvent (contradiction : MemoryContradiction) (source : String)
    (causationId : Option String) : MemoryEvent :=
  { id := s!"memory-contradiction-detected:{contradiction.contradictionId}"
    type := .contradictionDetected
    source
    subject := some contradiction.subject
    timestamp := contradiction.detectedAt.instant
    causationId
    payload := .detection contradiction.contradictionId
      [contradiction.assertionRefs.1, contradiction.assertionRefs.2] contradiction.subject
      contradiction.predicate contradiction.detectedAt }

/-- `resolution_event`. -/
def resolutionEvent (contradiction : MemoryContradiction) (source : String)
    (causationId : Option String) : Except PyError MemoryEvent :=
  match contradiction.resolvedAt, contradiction.resolutionReason with
  | some resolvedAt, some reason =>
    let digest := canon.resolution ⟨contradiction.contradictionId, resolvedAt, reason⟩
    .ok
      { id := s!"memory-contradiction-resolved:{digest}"
        type := .contradictionResolved
        source
        subject := some contradiction.contradictionId
        timestamp := resolvedAt.instant
        causationId
        payload := .resolution contradiction.contradictionId resolvedAt reason }
  | _, _ =>
    .error (.valueError "cannot create a resolution event for an unresolved contradiction")

/-- `MemoryProjection._contradiction_from_detection`. -/
def fromDetection (event : MemoryEvent) : Except PyError MemoryContradiction :=
  match event.subject with
  | none => .error (.valueError "contradiction event requires a subject")
  | some eventSubject =>
    match event.payload with
    | .detection contradictionId [left, right] subject predicate detectedAt =>
      if detectedAt.instant ≠ event.timestamp then
        .error (.valueError "contradiction detection timestamp is inconsistent")
      else do
        let contradiction ← detect canon (left, right) subject predicate detectedAt
        if eventSubject ≠ contradiction.subject then
          .error (.valueError "contradiction event subject is inconsistent")
        else if contradictionId ≠ contradiction.contradictionId then
          .error (.valueError "contradiction id does not match its assertions")
        else .ok contradiction
    | .detection _ _ _ _ _ =>
      .error (.valueError "contradiction event requires exactly two assertion refs")
    | payload => .error (payload.unreadable "assertion_refs")

variable {canon} in
theorem fromDetection_time {event : MemoryEvent} {contradiction : MemoryContradiction}
    (h : fromDetection canon event = .ok contradiction) :
    contradiction.detectedAt.instant = event.timestamp ∧
      contradiction.resolvedAt = none := by
  unfold fromDetection at h
  split at h
  · cases h
  · split at h
    · split at h
      · cases h
      · rename_i htime
        obtain ⟨detected, hdetect, h⟩ := bind_eq_ok h
        obtain ⟨hdetectedAt, hresolvedAt⟩ := detect_detectedAt hdetect
        split_ifs at h
        cases h
        exact ⟨by rw [hdetectedAt]; exact not_not.mp htime, hresolvedAt⟩
    · cases h
    · cases h

end MemoryContradiction
end Noema
