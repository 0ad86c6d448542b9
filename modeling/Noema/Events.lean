import Mathlib.Tactic.SplitIfs
import Noema.Types

/-!
# Events and their schemas

A stored event keeps the schema version it was observed in.  A projection reads it
through `EventSchemaRegistry.normalize`, which upcasts it version by version to the
registry's current one and validates the result; any of these may raise.
-/
namespace Noema

/-- `Event`.  The constructor raises on a version that is not positive. -/
structure Event where
  type : String
  source : String
  payload : Payload
  subject : Option String
  id : String
  timestamp : Datetime
  correlationId : Option String
  causationId : Option String
  priority : Int
  sequence : Option Nat
  metadata : Payload
  schemaVersion : Nat
  schemaVersion_pos : 0 < schemaVersion

def Event.withSequence (event : Event) (sequence : Nat) : Event :=
  { event with sequence := some sequence }

@[simp] theorem Event.withSequence_id (event : Event) (sequence : Nat) :
    (event.withSequence sequence).id = event.id := rfl

@[simp] theorem Event.withSequence_sequence (event : Event) (sequence : Nat) :
    (event.withSequence sequence).sequence = some sequence := rfl

/-- The version of a type nobody registered. -/
def currentEventSchemaVersion : Nat := 1

/-- `EventSchemaRegistry`: the three dictionaries, as functions of their keys. -/
structure EventSchemaRegistry where
  current : String → Option Nat
  validators : String → Nat → Option (Event → Except PyError Unit)
  upcasters : String → Nat → Option (Event → Except PyError Event)

namespace EventSchemaRegistry

variable (schemas : EventSchemaRegistry)

def currentVersion (eventType : String) : Nat :=
  (schemas.current eventType).getD currentEventSchemaVersion

/-- One pass of the loop of `normalize`. -/
def upcastOnce (event : Event) : Except PyError Event :=
  match schemas.upcasters event.type event.schemaVersion with
  | none => .error (.valueError s!"missing upcaster for {event.type} v{event.schemaVersion}")
  | some upcaster => do
    let normalized ← upcaster event
    let expected := event.schemaVersion + 1
    if normalized.schemaVersion ≠ expected then
      .error (.valueError
        s!"upcaster for {event.type} v{event.schemaVersion} must produce v{expected}")
    else if normalized.id ≠ event.id ∨ normalized.sequence ≠ event.sequence then
      .error (.valueError "event upcasters must preserve id and sequence")
    else .ok normalized

/-- The loop of `normalize`.  Every pass raises the version by one or raises an
exception, so there are as many passes as versions to go. -/
def upcastBy : Nat → Event → Except PyError Event
  | 0, event => .ok event
  | passes + 1, event => do upcastBy passes (← schemas.upcastOnce event)

/-- The validator of the version reached, if one is registered. -/
def validate (event : Event) : Except PyError Unit :=
  match schemas.validators event.type event.schemaVersion with
  | some validator => validator event
  | none => .ok ()

/-- `normalize`.  The current version is that of the stored type, also when an
upcaster changes the type. -/
def normalize (event : Event) : Except PyError Event :=
  let current := schemas.currentVersion event.type
  if event.schemaVersion > current then
    .error (.valueError
      s!"unsupported future schema for {event.type}: v{event.schemaVersion} > v{current}")
  else do
    let normalized ← schemas.upcastBy (current - event.schemaVersion) event
    schemas.validate normalized
    return normalized

theorem upcastOnce_preserves {event normalized : Event}
    (h : schemas.upcastOnce event = .ok normalized) :
    normalized.id = event.id ∧ normalized.sequence = event.sequence := by
  unfold upcastOnce at h
  split at h
  · cases h
  · obtain ⟨next, -, h⟩ := bind_eq_ok h
    dsimp only at h
    split_ifs at h with hversion hkeep
    obtain rfl := Except.ok.inj h
    simpa only [not_or, ne_eq, not_not] using hkeep

theorem upcastBy_preserves {passes : Nat} {event normalized : Event}
    (h : schemas.upcastBy passes event = .ok normalized) :
    normalized.id = event.id ∧ normalized.sequence = event.sequence := by
  induction passes generalizing event with
  | zero => cases h; exact ⟨rfl, rfl⟩
  | succ passes ih =>
    obtain ⟨next, hone, h⟩ := bind_eq_ok h
    obtain ⟨hid, hseq⟩ := schemas.upcastOnce_preserves hone
    obtain ⟨hid', hseq'⟩ := ih h
    exact ⟨hid'.trans hid, hseq'.trans hseq⟩

/-- **Normalization keeps the identity and the place of an event.** -/
theorem normalize_preserves {event normalized : Event}
    (h : schemas.normalize event = .ok normalized) :
    normalized.id = event.id ∧ normalized.sequence = event.sequence := by
  dsimp only [normalize] at h
  split_ifs at h
  obtain ⟨next, hup, h⟩ := bind_eq_ok h
  obtain ⟨-, -, h⟩ := bind_eq_ok h
  obtain rfl := Except.ok.inj h
  exact schemas.upcastBy_preserves hup

end EventSchemaRegistry

end Noema
