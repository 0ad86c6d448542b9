import Noema.Events

/-!
# Where normalization ends

`normalize` brings an event to the current version of the type it was stored under, and
checks that every upcaster raises the version by one and keeps the id and the sequence.
The causal links, which upcasters are to preserve too, and the type are not checked.
An upcaster that drops a link loses it, and one that changes the type may end at a
version that is not the current one of the new type.
-/
namespace Noema
namespace EventSchemaRegistry

/-- A registry without schemas. -/
def empty : EventSchemaRegistry where
  current := fun _ => none
  validators := fun _ _ => none
  upcasters := fun _ _ => none

variable (schemas : EventSchemaRegistry)

/-- `EventSchemaRegistry.register`. -/
def register (eventType : String) (version : Nat)
    (validator : Option (Event → Except PyError Unit))
    (upcastToNext : Option (Event → Except PyError Event)) :
    Except PyError EventSchemaRegistry :=
  if eventType = "" then .error (.valueError "event_type must be non-empty")
  else if version = 0 then .error (.valueError "schema version must be positive")
  else if (schemas.validators eventType version).isSome ∨
      (schemas.upcasters eventType version).isSome then
    .error (.valueError s!"schema already registered: {eventType} v{version}")
  else .ok {
    current := fun t =>
      if t = eventType then some (max version ((schemas.current eventType).getD 0))
      else schemas.current t
    validators := fun t v =>
      if t = eventType ∧ v = version then validator else schemas.validators t v
    upcasters := fun t v =>
      if t = eventType ∧ v = version then upcastToNext else schemas.upcasters t v }

/-- What the upcasters registered along the way make of an event in so many passes,
with nothing checked. -/
def composed : Nat → Event → Option Event
  | 0, event => some event
  | passes + 1, event => do
    let upcaster ← schemas.upcasters event.type event.schemaVersion
    composed passes (← (upcaster event).toOption)

/-- The upcasters from the event's version to the current one of its type give back its
causal links, and a type with the same current version. -/
def UpcastersKeep (event : Event) : Prop :=
  ∀ last ∈ schemas.composed (schemas.currentVersion event.type - event.schemaVersion) event,
    last.correlationId = event.correlationId ∧ last.causationId = event.causationId ∧
      schemas.currentVersion last.type = schemas.currentVersion event.type

/-- **What a normalized event should be.** -/
structure Normal (event normalized : Event) : Prop where
  id : normalized.id = event.id
  sequence : normalized.sequence = event.sequence
  correlationId : normalized.correlationId = event.correlationId
  causationId : normalized.causationId = event.causationId
  current : normalized.schemaVersion = schemas.currentVersion normalized.type
  valid : ∀ validator ∈ schemas.validators normalized.type normalized.schemaVersion,
    validator normalized = .ok ()
  stable : schemas.normalize normalized = .ok normalized

variable {schemas} {event normalized : Event}

theorem upcastOnce_ok (h : schemas.upcastOnce event = .ok normalized) :
    ∃ upcaster, schemas.upcasters event.type event.schemaVersion = some upcaster ∧
      upcaster event = .ok normalized ∧
      normalized.schemaVersion = event.schemaVersion + 1 := by
  unfold upcastOnce at h
  split at h
  · cases h
  · rename_i upcaster hupcaster
    obtain ⟨next, hnext, h⟩ := bind_eq_ok h
    dsimp only at h
    split_ifs at h with hversion hkeep
    obtain rfl := Except.ok.inj h
    exact ⟨upcaster, hupcaster, hnext, not_not.mp hversion⟩

/-- The loop ends where the upcasters composed end, as many versions further. -/
theorem upcastBy_ok {passes : Nat} (h : schemas.upcastBy passes event = .ok normalized) :
    schemas.composed passes event = some normalized ∧
      normalized.schemaVersion = event.schemaVersion + passes := by
  induction passes generalizing event with
  | zero =>
    obtain rfl := Except.ok.inj h
    exact ⟨rfl, rfl⟩
  | succ passes ih =>
    obtain ⟨next, hone, h⟩ := bind_eq_ok h
    obtain ⟨upcaster, hupcaster, hnext, hversion⟩ := upcastOnce_ok hone
    obtain ⟨hcomposed, hlast⟩ := ih h
    refine ⟨?_, by omega⟩
    rw [composed, hupcaster]
    change (upcaster event).toOption.bind (schemas.composed passes) = _
    rw [hnext]
    exact hcomposed

/-- **Where `normalize` returns**: at what the upcasters composed give, in the version
that is current for the stored type, past the validator of its own type. -/
theorem normalize_ok (h : schemas.normalize event = .ok normalized) :
    schemas.composed (schemas.currentVersion event.type - event.schemaVersion) event =
        some normalized ∧
      normalized.schemaVersion = schemas.currentVersion event.type ∧
      schemas.validate normalized = .ok () := by
  dsimp only [normalize] at h
  split_ifs at h with hfuture
  obtain ⟨next, hup, h⟩ := bind_eq_ok h
  obtain ⟨_, hvalid, h⟩ := bind_eq_ok h
  obtain rfl := Except.ok.inj h
  obtain ⟨hcomposed, hversion⟩ := upcastBy_ok hup
  exact ⟨hcomposed, by omega, hvalid⟩

/-- An event in the current version of its type that its validator accepts is left as it is. -/
theorem normalize_of_current (hversion : event.schemaVersion = schemas.currentVersion event.type)
    (hvalid : schemas.validate event = .ok ()) : schemas.normalize event = .ok event := by
  dsimp only [normalize]
  rw [if_neg (by omega), ← hversion, Nat.sub_self]
  exact bind_of_ok hvalid _

theorem validator_of_validate (h : schemas.validate event = .ok ()) :
    ∀ validator ∈ schemas.validators event.type event.schemaVersion, validator event = .ok () := by
  intro validator hmem
  rw [validate, Option.mem_def.mp hmem] at h
  exact h

/-- **Normalization ends at the current schema exactly when the upcasters keep the causal
links and end in a type with the same current version.** -/
theorem normalize_normal_iff (h : schemas.normalize event = .ok normalized) :
    schemas.Normal event normalized ↔ schemas.UpcastersKeep event := by
  obtain ⟨hcomposed, hversion, hvalid⟩ := normalize_ok h
  constructor
  · intro hnormal last hlast
    obtain rfl := Option.some.inj (hcomposed.symm.trans (Option.mem_def.mp hlast))
    exact ⟨hnormal.correlationId, hnormal.causationId, hnormal.current.symm.trans hversion⟩
  · intro hkeep
    obtain ⟨hcorrelation, hcausation, htype⟩ := hkeep normalized hcomposed
    obtain ⟨hid, hsequence⟩ := schemas.normalize_preserves h
    have hcurrent := hversion.trans htype.symm
    exact ⟨hid, hsequence, hcorrelation, hcausation, hcurrent, validator_of_validate hvalid,
      normalize_of_current hcurrent hvalid⟩

/-! ### A cause that is dropped -/

/-- An upcaster that forgets which event caused this one. -/
def dropCause (event : Event) : Except PyError Event :=
  .ok { event with
    causationId := none
    schemaVersion := event.schemaVersion + 1
    schemaVersion_pos := Nat.succ_pos _ }

/-- Two versions of one type, with this upcaster between them. -/
def droppingCause : EventSchemaRegistry :=
  match (do (← empty.register "note" 1 none (some dropCause)).register "note" 2 none none) with
  | .ok schemas => schemas
  | .error _ => empty

/-- An answer to the event `asked`, in this version. -/
def answer (version : Nat) (h : 0 < version) : Event where
  type := "note"
  source := "app"
  payload := .empty
  subject := none
  id := "answer"
  timestamp := .utc 0
  correlationId := some "asked"
  causationId := some "asked"
  priority := 0
  sequence := some 7
  metadata := .empty
  schemaVersion := version
  schemaVersion_pos := h

/-- An answer of the version before, as it is read. -/
theorem normalize_normal_iff_answer :
    droppingCause.Normal (answer 1 Nat.one_pos)
        { answer 2 Nat.two_pos with causationId := none } ↔
      droppingCause.UpcastersKeep (answer 1 Nat.one_pos) :=
  normalize_normal_iff rfl

/-- It has lost its cause. -/
theorem normalize_drops_cause : ¬ ∀ (schemas : EventSchemaRegistry) (event normalized : Event),
    schemas.normalize event = .ok normalized → schemas.Normal event normalized := by
  intro h
  have hlost : droppingCause.normalize (answer 1 Nat.one_pos) =
      .ok { answer 2 Nat.two_pos with causationId := none } := rfl
  exact Option.some_ne_none _ (h _ _ _ hlost).causationId.symm

end EventSchemaRegistry
end Noema
