import Noema.MemoryQueries
import Noema.WakeModels

/-!
# Recording observations

On a wake the worker replays the log into a memory, and records each observation of a source:
its event, and an assertion that is valid from when it occurred, to the start of the one that
follows in memory, and that supersedes the one that precedes.  What it stores besides, and what
others store, only reaches its memory on the next wake.
-/
namespace Noema

/-! ## Assertions -/

/-- `math.isfinite(value)`, if the value is a float. -/
def JSONScalar.isFinite : JSONScalar → Bool
  | .float (.finite _) => true
  | .float _ => false
  | _ => true

/-- `SemanticAssertion.__post_init__`. -/
def AssertionContent.check (content : AssertionContent) (assertionId : String) :
    Except PyError Unit := do
  refuse (blank assertionId = true) "assertion id must be non-empty"
  refuse (blank content.subject = true ∨ blank content.predicate = true)
    "assertion subject and predicate must be non-empty"
  refuse (content.value.isFinite = false) "assertion value must be finite"
  refuse (¬(0 ≤ content.confidence ∧ content.confidence ≤ 1))
    "assertion confidence must be between zero and one"
  refuse (∃ validTo ∈ content.validTo, validTo.instant ≤ content.validFrom.instant)
    "valid_to must be later than valid_from"
  refuse (∃ freshUntil ∈ content.freshUntil, freshUntil.instant ≤ content.recordedAt.instant)
    "fresh_until must be later than recorded_at"
  refuse (content.mutableWorld = true ∧ content.freshUntil = none ∧ content.validTo = none)
    "mutable-world assertions require fresh_until or a closed validity interval"
  refuse (∃ ref ∈ content.sourceRefs ++ content.derivationRefs, blank ref = true)
    "assertion source and derivation refs must be non-empty"
  refuse (¬content.sourceRefs.Nodup) "assertion source refs must be unique"
  refuse (¬content.derivationRefs.Nodup) "assertion derivation refs must be unique"
  refuse (content.epistemicType = .assumed ∧ content.derivationRefs ≠ [])
    "assumptions cannot claim derivation evidence"
  refuse (content.epistemicType ≠ .assumed ∧ content.sourceRefs ++ content.derivationRefs = [])
    "non-assumed assertions require a source or derivation"
  refuse (content.epistemicType = .observed ∧
      ∃ ref ∈ content.sourceRefs, "simulation:".toList <+: ref.toList)
    "simulated evidence cannot be recorded as an observation"
  refuse (content.epistemicType = .inferred ∧ content.derivationRefs = [])
    "inferred assertions require explicit derivation refs"
  refuse (∃ prior ∈ content.supersedes, blank prior = true)
    "supersedes must be non-empty when supplied"
  refuse (content.supersedes = some assertionId) "an assertion cannot supersede itself"

/-- What the checks of an assertion leave. -/
theorem AssertionContent.check_ok {content : AssertionContent} {assertionId : String}
    (h : content.check assertionId = .ok ()) : content.WellFormed ∧ blank assertionId = false ∧
      ∀ prior ∈ content.supersedes, blank prior = false ∧ prior ≠ assertionId := by
  obtain ⟨_, hid, h⟩ := bind_eq_ok h
  obtain ⟨_, hkey, h⟩ := bind_eq_ok h
  obtain ⟨_, hvalue, h⟩ := bind_eq_ok h
  obtain ⟨_, hconfidence, h⟩ := bind_eq_ok h
  obtain ⟨_, hvalidity, h⟩ := bind_eq_ok h
  obtain ⟨_, hfreshness, h⟩ := bind_eq_ok h
  obtain ⟨_, hmutable, h⟩ := bind_eq_ok h
  obtain ⟨_, hrefs, h⟩ := bind_eq_ok h
  obtain ⟨_, hsources, h⟩ := bind_eq_ok h
  obtain ⟨_, hderivations, h⟩ := bind_eq_ok h
  obtain ⟨_, hassumed, h⟩ := bind_eq_ok h
  obtain ⟨_, hsourced, h⟩ := bind_eq_ok h
  obtain ⟨_, hobserved, h⟩ := bind_eq_ok h
  obtain ⟨_, hinferred, h⟩ := bind_eq_ok h
  obtain ⟨_, hprior, hself⟩ := bind_eq_ok h
  have hkey := refuse_ok hkey
  rw [not_or, Bool.not_eq_true, Bool.not_eq_true] at hkey
  have hrefs : ∀ ref ∈ content.sourceRefs ++ content.derivationRefs, blank ref = false :=
    fun ref href => Bool.not_eq_true _ ▸ fun hblank => refuse_ok hrefs ⟨ref, href, hblank⟩
  refine ⟨?_, Bool.not_eq_true _ ▸ refuse_ok hid, fun prior hmem => ⟨?_, ?_⟩⟩
  · exact
      { key := hkey
        value := by
          rintro value hfloat
          have hfinite := refuse_ok hvalue
          rw [hfloat] at hfinite
          cases value with
          | finite q => exact ⟨q, rfl⟩
          | infinity negative => exact absurd rfl hfinite
          | nan => exact absurd rfl hfinite
        confidence := not_not.mp (refuse_ok hconfidence)
        validity := fun validTo hmem => not_le.mp fun hle => refuse_ok hvalidity ⟨validTo, hmem, hle⟩
        freshness := fun freshUntil hmem =>
          not_le.mp fun hle => refuse_ok hfreshness ⟨freshUntil, hmem, hle⟩
        mutable := by
          intro hworld
          by_contra hnone
          rw [not_or, Bool.not_eq_true, Bool.not_eq_true, Option.isSome_eq_false_iff,
            Option.isSome_eq_false_iff, Option.isNone_iff_eq_none, Option.isNone_iff_eq_none]
            at hnone
          exact refuse_ok hmutable ⟨hworld, hnone⟩
        refs := hrefs
        distinct := ⟨not_not.mp (refuse_ok hsources), not_not.mp (refuse_ok hderivations)⟩
        assumed := fun htype => by_contra fun hne => refuse_ok hassumed ⟨htype, hne⟩
        sourced := fun htype hnil => refuse_ok hsourced ⟨htype, hnil⟩
        observed := fun htype ref href hprefix => refuse_ok hobserved ⟨htype, ref, href, hprefix⟩
        inferred := fun htype hnil => refuse_ok hinferred ⟨htype, hnil⟩ }
  · exact Bool.not_eq_true _ ▸ fun hblank => refuse_ok hprior ⟨prior, hmem, hblank⟩
  · rintro rfl
    exact refuse_ok hself hmem

namespace SemanticAssertion

/-- `SemanticAssertion.create`. -/
def create (canon : CanonicalIds) (content : AssertionContent) :
    Except PyError SemanticAssertion :=
  let assertionId := canon.assertion content
  checkedBy (content.check assertionId) fun checked =>
    ⟨content, assertionId, (AssertionContent.check_ok checked).1,
      (AssertionContent.check_ok checked).2.1, (AssertionContent.check_ok checked).2.2⟩

/-- `SemanticAssertion.to_event`. -/
def toEvent (assertion : SemanticAssertion) (source : String) : MemoryEvent :=
  { id := "memory-assertion:" ++ assertion.assertionId
    type := .assertionRecorded
    source
    subject := some assertion.subject
    timestamp := assertion.recordedAt.instant
    payload := .assertion assertion }

end SemanticAssertion

namespace Continuity

/-- `FakeObservation`; what a report reads of it is left out. -/
structure FakeObservation where
  cursor : String
  occurredAt : Datetime
  subject : String
  predicate : String
  value : JSONScalar
  confidence : ℚ
  texts : blank cursor = false ∧ blank subject = false ∧ blank predicate = false
  confidence_unit : 0 ≤ confidence ∧ confidence ≤ 1

/-- Append an event to the log, unless its id is taken: then the event that has it is returned. -/
def emit (log : List MemoryEvent) (event : MemoryEvent) : MemoryEvent × List MemoryEvent :=
  match log.find? fun stored => stored.id = event.id with
  | some existing => (existing, log)
  | none => ({ event with sequence := some (log.length + 1) },
      log ++ [{ event with sequence := some (log.length + 1) }])

/-- What the worker is made with.  A freshness horizon is a logarithm, and the payload of an
observation's event is not read by memory. -/
structure ContinuityWorker where
  canon : CanonicalIds
  source : String
  freshUntil : Datetime → ℚ → Except PyError Datetime
  payload : SourceState → FakeObservation → String

/-- The log, and what the worker holds in a wake. -/
structure Wake where
  log : List MemoryEvent
  memory : MemoryProjection
  wokeAt : Datetime
  epochEventId : String

namespace ContinuityWorker

variable (w : ContinuityWorker) (s : Wake)

/-- The event of `_record_observation`. -/
def observationEvent (state : SourceState) (observation : FakeObservation) : MemoryEvent :=
  { id := "fake-observation:" ++ (state.sourceId ++ ":" ++ observation.cursor)
    type := .other "external.source_observed"
    source := "fake:" ++ state.sourceId
    subject := some observation.subject
    timestamp := s.wokeAt.instant
    causationId := some s.epochEventId
    payload := .unread (w.payload state observation)
    epistemicType := some "observed" }

/-- The assertion that is made of an observation. -/
def observed (observation : FakeObservation) (sourceEvent : MemoryEvent)
    (neighbors : TemporalNeighbors) (freshUntil : Datetime) : AssertionContent where
  subject := observation.subject
  predicate := observation.predicate
  value := observation.value
  epistemicType := .observed
  confidence := observation.confidence
  validFrom := observation.occurredAt
  validTo := neighbors.successor.map (·.validFrom)
  recordedAt := s.wokeAt
  freshUntil := some freshUntil
  sourceRefs := ["event:" ++ sourceEvent.id]
  derivationRefs := []
  supersedes := match neighbors.predecessor with
    | some predecessor =>
      if neighbors.ambiguousAtValidTime then none else some predecessor.assertionId
    | none => none
  status := .active
  mutableWorld := true

/-- The beginning of `wake`: memory is rebuilt from the log. -/
def wake (wokeAt : Datetime) (epochEventId : String) : Except PyError Wake := do
  let cursorAfterReplay := (s.log.map fun event => event.sequence.getD 0).max?.getD 0
  let memory ← MemoryProjection.rebuild w.canon s.log (some cursorAfterReplay)
  return { log := s.log, memory, wokeAt, epochEventId }

/-- What `wake` records of an observation. -/
def record (state : SourceState) (observation : FakeObservation) : Except PyError Wake := do
  let (sourceEvent, log) := emit s.log (w.observationEvent s state observation)
  let (memory, _) ← s.memory.apply w.canon sourceEvent none
  let neighbors ← memory.temporalNeighbors observation.subject observation.predicate
    observation.occurredAt s.wokeAt
  let freshUntil ← w.freshUntil s.wokeAt state.changeHazard
  let assertion ← SemanticAssertion.create w.canon
    (observed s observation sourceEvent neighbors freshUntil)
  let (assertionEvent, log) := emit log (assertion.toEvent w.source)
  let (memory, _) ← memory.apply w.canon assertionEvent none
  return { s with log, memory }

end ContinuityWorker

end Continuity

end Noema
