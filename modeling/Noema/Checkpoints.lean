import Noema.EventBus
import Noema.IntentPayloads
import Noema.Lib.Folding

/-!
# Consumer checkpoints

A consumer of the event log stores how far it got: the input whose outputs were complete,
and the head it had seen.  `ConsumerCheckpointProjection` folds the stored checkpoints and
raises as soon as one of the two goes back, for every reader of the log.
-/
namespace Noema

/-- What a checkpoint says, and what its event's id is made of. -/
structure CheckpointContent where
  consumerId : String
  lastCompletedSequence : Int
  observedHeadSequence : Int
  epochId : Option String
deriving DecidableEq

/-- `ConsumerCheckpoint.__post_init__`. -/
def CheckpointContent.check (content : CheckpointContent) (eventSequence : Option Nat) :
    Except PyError Unit := do
  refuse (blank content.consumerId = true) "consumer checkpoint requires a non-empty consumer id"
  refuse (content.lastCompletedSequence < 0) "consumer checkpoint sequence cannot be negative"
  refuse (content.observedHeadSequence < content.lastCompletedSequence)
    "observed event-log head cannot precede completed sequence"
  refuse (content.epochId.any blank = true)
    "consumer checkpoint epoch id must be non-empty when supplied"
  refuse (eventSequence = some 0) "checkpoint event sequence must be positive when supplied"

/-- `ConsumerCheckpoint`. -/
structure ConsumerCheckpoint extends CheckpointContent where
  eventSequence : Option Nat
  checked : toCheckpointContent.check eventSequence = .ok ()
deriving DecidableEq

/-- `processing_lag`. -/
def CheckpointContent.processingLag (content : CheckpointContent) : Int :=
  content.observedHeadSequence - content.lastCompletedSequence

/-- `ConsumerCheckpoint(..)`, before it is stored. -/
def ConsumerCheckpoint.create (content : CheckpointContent) : Except PyError ConsumerCheckpoint :=
  checkedBy (content.check none) fun checked => ⟨content, none, checked⟩

/-- `to_dict`. -/
def CheckpointContent.toDict (content : CheckpointContent) : Payload :=
  .ofList
    [("consumer_id", .str content.consumerId),
     ("last_completed_sequence", .int content.lastCompletedSequence),
     ("observed_head_sequence", .int content.observedHeadSequence),
     ("processing_lag", .int content.processingLag),
     ("epoch_id", match content.epochId with
       | some epochId => .str epochId
       | none => .null)]

/-- What the checkpoints run on: the conversions, and the digest of a checkpoint, which
tells the consumers apart. -/
structure CheckpointBuiltins extends IntentBuiltins where
  checkpointDigest : CheckpointContent → String
  digest_consumer : ∀ content other, checkpointDigest content = checkpointDigest other →
    content.consumerId = other.consumerId

section Reading

variable (b : CheckpointBuiltins)

/-- `to_event`. -/
def ConsumerCheckpoint.toEvent (checkpoint : ConsumerCheckpoint) (source : String)
    (timestamp : Datetime) (causationId : Option String) : Event where
  type := consumerCheckpointEvent
  source := source
  payload := checkpoint.toDict
  subject := some checkpoint.consumerId
  id := "consumer-checkpoint:" ++ b.checkpointDigest checkpoint.toCheckpointContent
  timestamp := timestamp
  correlationId := none
  causationId := causationId
  priority := 0
  sequence := none
  metadata := .empty
  schemaVersion := 1
  schemaVersion_pos := Nat.one_pos

/-- `str(payload["epoch_id"]) if payload.get("epoch_id") is not None else None`. -/
def epochIdOf (payload : Payload) : Except PyError (Option String) :=
  match payload.get "epoch_id" with
  | .null => .ok none
  | value => some <$> b.str value

/-- `from_event`. -/
def ConsumerCheckpoint.fromEvent (event : Event) : Except PyError ConsumerCheckpoint := do
  refuse (event.type ≠ consumerCheckpointEvent)
    s!"not a consumer checkpoint event: {event.type}"
  refuse (event.sequence = none) "consumer checkpoint must be restored from a canonical event"
  let consumerId ← itemText b.toBuiltins event.payload "consumer_id"
  let lastCompletedSequence ← itemInt b.toIntentBuiltins event.payload "last_completed_sequence"
  let observedHeadSequence ← itemInt b.toIntentBuiltins event.payload "observed_head_sequence"
  let epochId ← epochIdOf b event.payload
  let content : CheckpointContent :=
    { consumerId, lastCompletedSequence, observedHeadSequence, epochId }
  let checkpoint ← checkedBy (content.check event.sequence) fun checked =>
    (⟨content, event.sequence, checked⟩ : ConsumerCheckpoint)
  refuse (event.subject ≠ some consumerId)
    "consumer checkpoint subject does not match its consumer id"
  refuse ((← itemInt b.toIntentBuiltins event.payload "processing_lag") ≠ content.processingLag)
    "consumer checkpoint processing lag is inconsistent"
  return checkpoint

/-- `ConsumerCheckpointProjection`. -/
structure ConsumerCheckpointProjection where
  checkpoints : KeyedTable fun checkpoint : ConsumerCheckpoint => checkpoint.consumerId

namespace ConsumerCheckpointProjection

def empty : ConsumerCheckpointProjection := ⟨.empty⟩

def get (p : ConsumerCheckpointProjection) (consumerId : String) : Option ConsumerCheckpoint :=
  p.checkpoints.find consumerId

/-- `apply`, for its effect. -/
def apply (p : ConsumerCheckpointProjection) (event : Event) :
    Except PyError ConsumerCheckpointProjection :=
  if event.type ≠ consumerCheckpointEvent then .ok p
  else do
    let checkpoint ← ConsumerCheckpoint.fromEvent b event
    match p.get checkpoint.consumerId with
    | none => .ok ()
    | some current => do
      refuse (checkpoint.lastCompletedSequence < current.lastCompletedSequence)
        s!"consumer checkpoint regressed for {checkpoint.consumerId}: {checkpoint.lastCompletedSequence} < {current.lastCompletedSequence}"
      refuse (checkpoint.observedHeadSequence < current.observedHeadSequence)
        s!"consumer observed head regressed for {checkpoint.consumerId}: {checkpoint.observedHeadSequence} < {current.observedHeadSequence}"
    return ⟨p.checkpoints.put checkpoint⟩

/-- `rebuild`. -/
def rebuild (events : List Event) : Except PyError ConsumerCheckpointProjection :=
  Folding.run (apply b) empty events

end ConsumerCheckpointProjection

/-! ## Reading a checkpoint back -/

/-- A checkpoint is not behind another one. -/
def CheckpointContent.Follows (content current : CheckpointContent) : Prop :=
  current.lastCompletedSequence ≤ content.lastCompletedSequence ∧
    current.observedHeadSequence ≤ content.observedHeadSequence

theorem CheckpointContent.Follows.refl (content : CheckpointContent) : content.Follows content :=
  ⟨le_rfl, le_rfl⟩

theorem CheckpointContent.Follows.trans {a c d : CheckpointContent} (h : a.Follows c)
    (k : c.Follows d) : a.Follows d :=
  ⟨k.1.trans h.1, k.2.trans h.2⟩

/-- The sequence of a checkpoint's event. -/
def ConsumerCheckpoint.seq (checkpoint : ConsumerCheckpoint) : Nat :=
  checkpoint.eventSequence.getD 0

variable {b}

theorem CheckpointContent.check_some {content : CheckpointContent} {sequence : Option Nat}
    (h : content.check sequence = .ok ()) {stored : Nat} (hpos : 0 < stored) :
    content.check (some stored) = .ok () := by
  obtain ⟨_, hconsumer, h⟩ := bind_eq_ok h
  obtain ⟨_, hlast, h⟩ := bind_eq_ok h
  obtain ⟨_, hobserved, h⟩ := bind_eq_ok h
  obtain ⟨_, hepoch, -⟩ := bind_eq_ok h
  refine (bind_of_ok hconsumer _).trans ((bind_of_ok hlast _).trans ?_)
  refine (bind_of_ok hobserved _).trans ((bind_of_ok hepoch _).trans ?_)
  refine refuse_of fun hzero => ?_
  have := Option.some.inj hzero
  omega

theorem ConsumerCheckpoint.fromEvent_ok {event : Event} {checkpoint : ConsumerCheckpoint}
    (h : fromEvent b event = .ok checkpoint) :
    event.type = consumerCheckpointEvent ∧ checkpoint.seq = event.seq := by
  obtain ⟨_, htype, h⟩ := bind_eq_ok h
  obtain ⟨_, -, h⟩ := bind_eq_ok h
  obtain ⟨consumerId, -, h⟩ := bind_eq_ok h
  obtain ⟨last, -, h⟩ := bind_eq_ok h
  obtain ⟨observed, -, h⟩ := bind_eq_ok h
  obtain ⟨epochId, -, h⟩ := bind_eq_ok h
  obtain ⟨read, hread, h⟩ := bind_eq_ok h
  obtain ⟨_, rfl⟩ := checkedBy_ok hread
  obtain ⟨_, -, h⟩ := bind_eq_ok h
  obtain ⟨lag, -, h⟩ := bind_eq_ok h
  obtain ⟨_, -, h⟩ := bind_eq_ok h
  cases h
  exact ⟨not_not.mp (refuse_ok htype), rfl⟩

/-- The fields of a checkpoint, as they are read off its payload. -/
structure CheckpointContent.ReadBack (b : CheckpointBuiltins) (content : CheckpointContent) :
    Prop where
  consumerId : itemText b.toBuiltins content.toDict "consumer_id" = .ok content.consumerId
  last : itemInt b.toIntentBuiltins content.toDict "last_completed_sequence" =
    .ok content.lastCompletedSequence
  observed : itemInt b.toIntentBuiltins content.toDict "observed_head_sequence" =
    .ok content.observedHeadSequence
  lag : itemInt b.toIntentBuiltins content.toDict "processing_lag" = .ok content.processingLag
  epochId : epochIdOf b content.toDict = .ok content.epochId

theorem CheckpointContent.readBack (content : CheckpointContent) : content.ReadBack b where
  consumerId := by
    simp [itemText, Payload.item, toDict, Dict.get?_ofList, Builtins.str, bind, Except.bind]
  last := by
    simp [itemInt, Payload.item, toDict, Dict.get?_ofList, IntentBuiltins.int, bind, Except.bind]
  observed := by
    simp [itemInt, Payload.item, toDict, Dict.get?_ofList, IntentBuiltins.int, bind, Except.bind]
  lag := by
    simp [itemInt, Payload.item, toDict, Dict.get?_ofList, IntentBuiltins.int, bind, Except.bind]
  epochId := by
    cases h : content.epochId <;>
      simp [epochIdOf, Payload.get, toDict, Dict.get?_ofList, Builtins.str, h]

/-- A stored checkpoint is read back. -/
theorem ConsumerCheckpoint.fromEvent_toEvent (checkpoint : ConsumerCheckpoint) (source : String)
    (timestamp : Datetime) (causationId : Option String) {stored : Nat} (hpos : 0 < stored) :
    ∃ read, fromEvent b ((checkpoint.toEvent b source timestamp causationId).withSequence stored) =
      .ok read ∧ read.toCheckpointContent = checkpoint.toCheckpointContent := by
  have hcheck := CheckpointContent.check_some checkpoint.checked hpos
  have hread := checkpoint.toCheckpointContent.readBack (b := b)
  refine ⟨⟨_, some stored, hcheck⟩, ?_, rfl⟩
  refine (bind_of_ok (refuse_of (not_not.mpr rfl)) _).trans ?_
  refine (bind_of_ok (refuse_of (Option.some_ne_none stored)) _).trans ?_
  refine (bind_of_ok hread.consumerId _).trans ((bind_of_ok hread.last _).trans ?_)
  refine (bind_of_ok hread.observed _).trans ((bind_of_ok hread.epochId _).trans ?_)
  refine (bind_of_ok (checkedBy_of hcheck) _).trans ?_
  refine (bind_of_ok (refuse_of (not_not.mpr rfl)) _).trans ((bind_of_ok hread.lag _).trans ?_)
  exact bind_of_ok (refuse_of (not_not.mpr rfl)) _

/-! ## What the projection accepts -/

variable (b) in
/-- The checkpoints of a log, in its order. -/
def checkpointsOf (events : List Event) : List ConsumerCheckpoint :=
  events.filterMap fun event => (ConsumerCheckpoint.fromEvent b event).toOption

variable (b) in
/-- Every checkpoint event is readable, and no checkpoint is behind an earlier one of its
consumer. -/
structure NeverRegresses (events : List Event) : Prop where
  readable : ∀ event ∈ events, event.type = consumerCheckpointEvent →
    ∃ checkpoint, ConsumerCheckpoint.fromEvent b event = .ok checkpoint
  forward : (checkpointsOf b events).Pairwise fun earlier later =>
    earlier.consumerId = later.consumerId → later.Follows earlier.toCheckpointContent

theorem mem_checkpointsOf {events : List Event} {checkpoint : ConsumerCheckpoint} :
    checkpoint ∈ checkpointsOf b events ↔
      ∃ event ∈ events, ConsumerCheckpoint.fromEvent b event = .ok checkpoint := by
  simp only [checkpointsOf, List.mem_filterMap, toOption_eq_some]

theorem checkpointsOf_snoc (events : List Event) (event : Event) :
    checkpointsOf b (events ++ [event]) =
      checkpointsOf b events ++ (ConsumerCheckpoint.fromEvent b event).toOption.toList := by
  rw [checkpointsOf, List.filterMap_append]
  cases h : (ConsumerCheckpoint.fromEvent b event).toOption <;> simp [checkpointsOf, h]

theorem mem_checkpointsOf_snoc {events : List Event} {event : Event}
    {checkpoint : ConsumerCheckpoint} : checkpoint ∈ checkpointsOf b (events ++ [event]) ↔
      checkpoint ∈ checkpointsOf b events ∨ ConsumerCheckpoint.fromEvent b event = .ok checkpoint := by
  rw [checkpointsOf_snoc, List.mem_append, Option.mem_toList, toOption_eq_some]

/-- Another event's type is no checkpoint. -/
theorem toOption_fromEvent_of_type {event : Event} (h : event.type ≠ consumerCheckpointEvent) :
    (ConsumerCheckpoint.fromEvent b event).toOption = none := by
  cases hread : ConsumerCheckpoint.fromEvent b event with
  | error error => rfl
  | ok checkpoint => exact absurd (ConsumerCheckpoint.fromEvent_ok hread).1 h

theorem NeverRegresses.init {events : List Event} {event : Event}
    (h : NeverRegresses b (events ++ [event])) : NeverRegresses b events where
  readable := fun e he => h.readable e (List.mem_append_left _ he)
  forward := by
    have hforward := h.forward
    rw [checkpointsOf_snoc, List.pairwise_append] at hforward
    exact hforward.1

theorem neverRegresses_snoc_other {events : List Event} {event : Event}
    (htype : event.type ≠ consumerCheckpointEvent) :
    NeverRegresses b (events ++ [event]) ↔ NeverRegresses b events := by
  have hsame : checkpointsOf b (events ++ [event]) = checkpointsOf b events := by
    rw [checkpointsOf_snoc, toOption_fromEvent_of_type htype, Option.toList_none, List.append_nil]
  constructor
  · rintro ⟨hreadable, hforward⟩
    exact ⟨fun e he => hreadable e (List.mem_append_left _ he), hsame ▸ hforward⟩
  · rintro ⟨hreadable, hforward⟩
    refine ⟨fun e he hck => ?_, hsame ▸ hforward⟩
    rcases List.mem_append.mp he with he | he
    · exact hreadable e he hck
    · exact absurd (List.mem_singleton.mp he ▸ hck) htype

theorem neverRegresses_snoc {events : List Event} {event : Event} {checkpoint : ConsumerCheckpoint}
    (h : ConsumerCheckpoint.fromEvent b event = .ok checkpoint) :
    NeverRegresses b (events ++ [event]) ↔ NeverRegresses b events ∧
      ∀ earlier ∈ checkpointsOf b events, earlier.consumerId = checkpoint.consumerId →
        checkpoint.Follows earlier.toCheckpointContent := by
  have hsnoc : checkpointsOf b (events ++ [event]) = checkpointsOf b events ++ [checkpoint] := by
    rw [checkpointsOf_snoc, h]
    rfl
  constructor
  · rintro ⟨hreadable, hforward⟩
    rw [hsnoc, List.pairwise_append] at hforward
    obtain ⟨hforward, -, hlast⟩ := hforward
    exact ⟨⟨fun e he => hreadable e (List.mem_append_left _ he), hforward⟩,
      fun earlier hearlier => hlast earlier hearlier checkpoint (List.mem_singleton_self _)⟩
  · rintro ⟨⟨hreadable, hforward⟩, hlast⟩
    refine ⟨fun e he hck => ?_, ?_⟩
    · rcases List.mem_append.mp he with he | he
      · exact hreadable e he hck
      · exact ⟨checkpoint, List.mem_singleton.mp he ▸ h⟩
    · rw [hsnoc, List.pairwise_append]
      refine ⟨hforward, List.pairwise_singleton _ _, fun earlier hearlier later hlater => ?_⟩
      rw [List.mem_singleton.mp hlater]
      exact hlast earlier hearlier

namespace ConsumerCheckpointProjection

variable {p q : ConsumerCheckpointProjection}

/-- What the projection has for a consumer is a checkpoint of the log that is not behind any
other of the consumer. -/
structure Tracks (b : CheckpointBuiltins) (p : ConsumerCheckpointProjection)
    (events : List Event) : Prop where
  known : ∀ consumerId current, p.get consumerId = some current →
    current ∈ checkpointsOf b events ∧ current.consumerId = consumerId
  covers : ∀ checkpoint ∈ checkpointsOf b events, ∃ current,
    p.get checkpoint.consumerId = some current ∧ current.Follows checkpoint.toCheckpointContent

theorem apply_other {event : Event} (h : event.type ≠ consumerCheckpointEvent) :
    apply b p event = .ok p := if_pos h

theorem apply_ok_iff {event : Event} (h : event.type = consumerCheckpointEvent) :
    apply b p event = .ok q ↔ ∃ checkpoint, ConsumerCheckpoint.fromEvent b event = .ok checkpoint ∧
      (∀ current ∈ p.get checkpoint.consumerId, checkpoint.Follows current.toCheckpointContent) ∧
      q = ⟨p.checkpoints.put checkpoint⟩ := by
  unfold apply
  rw [if_neg (not_not.mpr h)]
  constructor
  · intro happly
    obtain ⟨checkpoint, hread, happly⟩ := bind_eq_ok happly
    refine ⟨checkpoint, hread, ?_⟩
    cases hcurrent : p.get checkpoint.consumerId with
    | none =>
      rw [hcurrent] at happly
      exact ⟨fun current hmem => (Option.not_mem_none current hmem).elim, (Except.ok.inj happly).symm⟩
    | some current =>
      rw [hcurrent] at happly
      obtain ⟨_, hlast, happly⟩ := bind_eq_ok happly
      obtain ⟨_, hobserved, happly⟩ := bind_eq_ok happly
      refine ⟨fun other hmem => ?_, (Except.ok.inj happly).symm⟩
      rw [← Option.some.inj hmem]
      exact ⟨not_lt.mp (refuse_ok hlast), not_lt.mp (refuse_ok hobserved)⟩
  · rintro ⟨checkpoint, hread, hfollows, rfl⟩
    refine (bind_of_ok hread _).trans ?_
    cases hcurrent : p.get checkpoint.consumerId with
    | none => rfl
    | some current =>
      obtain ⟨hlast, hobserved⟩ := hfollows current hcurrent
      exact (bind_of_ok (refuse_of (not_lt.mpr hlast)) _).trans
        (bind_of_ok (refuse_of (not_lt.mpr hobserved)) _)

theorem get_put (checkpoint : ConsumerCheckpoint) (consumerId : String) :
    (⟨p.checkpoints.put checkpoint⟩ : ConsumerCheckpointProjection).get consumerId =
      if checkpoint.consumerId = consumerId then some checkpoint else p.get consumerId :=
  KeyedTable.find_put consumerId

/-- **A log is accepted exactly if its checkpoints never go back.** -/
theorem rebuild_spec (events : List Event) :
    (∀ p, rebuild b events = .ok p → NeverRegresses b events ∧ Tracks b p events) ∧
      (NeverRegresses b events → ∃ p, rebuild b events = .ok p) := by
  induction events using List.reverseRecOn with
  | nil =>
    refine ⟨fun p h => ?_, fun _ => ⟨empty, rfl⟩⟩
    obtain rfl := Except.ok.inj h
    exact ⟨⟨fun _ he => (List.not_mem_nil he).elim, List.Pairwise.nil⟩,
      ⟨fun _ _ hget => (by cases hget), fun _ hmem => (List.not_mem_nil hmem).elim⟩⟩
  | append_singleton events event ih =>
    obtain ⟨haccepts, hrebuilds⟩ := ih
    by_cases htype : event.type = consumerCheckpointEvent
    · constructor
      · intro q h
        obtain ⟨p, hp, happly⟩ := Folding.run_snoc.mp h
        obtain ⟨checkpoint, hread, hfollows, rfl⟩ := (apply_ok_iff htype).mp happly
        obtain ⟨hnever, htracks⟩ := haccepts p hp
        have hahead : ∀ earlier ∈ checkpointsOf b events,
            earlier.consumerId = checkpoint.consumerId →
            checkpoint.Follows earlier.toCheckpointContent := fun earlier hmem hsame => by
          obtain ⟨current, hcurrent, hcovers⟩ := htracks.covers earlier hmem
          exact (hfollows current (hsame ▸ hcurrent)).trans hcovers
        refine ⟨(neverRegresses_snoc hread).mpr ⟨hnever, hahead⟩, ⟨?_, ?_⟩⟩
        · intro consumerId current hget
          rw [get_put] at hget
          rw [checkpointsOf_snoc, hread]
          split_ifs at hget with hsame
          · obtain rfl := Option.some.inj hget
            exact ⟨List.mem_append_right _ (List.mem_singleton_self _), hsame⟩
          · obtain ⟨hmem, hid⟩ := htracks.known consumerId current hget
            exact ⟨List.mem_append_left _ hmem, hid⟩
        · intro other hother
          rw [checkpointsOf_snoc, hread] at hother
          rw [get_put]
          rcases List.mem_append.mp hother with hother | hother
          · split_ifs with hsame
            · exact ⟨checkpoint, rfl, hahead other hother hsame.symm⟩
            · exact htracks.covers other hother
          · rw [List.mem_singleton.mp hother, if_pos rfl]
            exact ⟨checkpoint, rfl, .refl _⟩
      · intro h
        obtain ⟨checkpoint, hread⟩ := h.readable event (by simp) htype
        obtain ⟨hnever, hahead⟩ := (neverRegresses_snoc hread).mp h
        obtain ⟨p, hp⟩ := hrebuilds hnever
        refine ⟨_, Folding.run_snoc.mpr ⟨p, hp, (apply_ok_iff htype).mpr
          ⟨checkpoint, hread, fun current hcurrent => ?_, rfl⟩⟩⟩
        obtain ⟨hmem, hid⟩ := (haccepts p hp).2.known _ current hcurrent
        exact hahead current hmem hid
    · have hsame : checkpointsOf b (events ++ [event]) = checkpointsOf b events := by
        rw [checkpointsOf_snoc, toOption_fromEvent_of_type htype, Option.toList_none,
          List.append_nil]
      constructor
      · intro q h
        obtain ⟨p, hp, happly⟩ := Folding.run_snoc.mp h
        obtain rfl := Except.ok.inj ((apply_other htype).symm.trans happly)
        obtain ⟨hnever, htracks⟩ := haccepts p hp
        exact ⟨(neverRegresses_snoc_other htype).mpr hnever,
          ⟨hsame ▸ htracks.known, hsame ▸ htracks.covers⟩⟩
      · intro h
        obtain ⟨p, hp⟩ := hrebuilds ((neverRegresses_snoc_other htype).mp h)
        exact ⟨p, Folding.run_snoc.mpr ⟨p, hp, apply_other htype⟩⟩

theorem rebuild_iff {events : List Event} :
    (∃ p, rebuild b events = .ok p) ↔ NeverRegresses b events :=
  ⟨fun ⟨p, hp⟩ => ((rebuild_spec events).1 p hp).1, (rebuild_spec events).2⟩

end ConsumerCheckpointProjection

end Reading

end Noema
