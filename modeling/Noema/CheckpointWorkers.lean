import Noema.Checkpoints

/-!
# Workers that store checkpoints

Any number of workers of seven kinds on one event log, in any number of processes.  What a
worker's `_advance_checkpoint` reads, compares and appends is as in the code; the rest of
its work is the environment's: which stored event it completed, what it appended besides,
and when a call raises or a process dies.  Between a read and the append other writers may
append, except where the append names the head it expects.

The memory projector and the shadow worker compare a checkpoint with the one they remember,
three kinds compare it with the log under a lock of their own, the continuity worker with
nothing, and the attention worker appends it only at the head it read.
-/
namespace Noema

inductive ConsumerKind
  | memory
  | shadow
  | continuity
  | endogenous
  | reconsideration
  | discovery
  | attention
deriving DecidableEq, Repr

/-- A worker's configuration. -/
structure Consumer where
  kind : ConsumerKind
  consumerId : String
  source : String

/-- A checkpoint that a worker is about to append.  `since` is the sequence up to which the
worker has seen the log's checkpoints. -/
structure PendingCheckpoint where
  checkpoint : ConsumerCheckpoint
  timestamp : Datetime
  causationId : Option String
  expectedHead : Option Nat
  since : Nat

/-- What a worker has at hand: the checkpoint it remembers in `self._checkpoint` and the
sequence it is from, the one a running call found in the log and the head it read, and the
one it is about to append. -/
structure ConsumerState where
  remembered : Option ConsumerCheckpoint
  rememberedAt : Nat
  found : Option (Option ConsumerCheckpoint × Nat)
  pending : Option PendingCheckpoint

def ConsumerState.fresh : ConsumerState := ⟨none, 0, none, none⟩

/-- A running call ends, with or without an exception. -/
def ConsumerState.ended (worker : ConsumerState) : ConsumerState :=
  { worker with found := none, pending := none }

/-- A call of `_advance_checkpoint`: whose, and with which values of the caller.  `sequence` is
that of the event whose processing is complete. -/
inductive CheckpointCall
  /-- `MemoryProjector._process_event`; `observedHead` was read before it projected. -/
  | projected (sequence observedHead : Nat)
  /-- `AutonomicShadowWorker.start`, where the log has no checkpoint. -/
  | bootstrapped (bootstrapHead : Nat)
  /-- `AutonomicShadowWorker.start`, where the checkpoint names no epoch. -/
  | pinned (epochId : String)
  /-- `AutonomicShadowWorker.rotate_epoch`. -/
  | rotated (epochId : String)
  /-- `AutonomicShadowWorker._process_trigger`; `observedHead` was read before it evaluated. -/
  | triggered (sequence observedHead : Nat) (epochId : String)
  /-- `ContinuityWorker.wake`. -/
  | woke (epochId : String)
  /-- An input of the endogenous, the reconsideration or the discovery worker. -/
  | completed (sequence : Nat) (epochId : Option String)
  /-- `DeliberativeAttentionWorker.process_available`. -/
  | disposed (sequence : Nat) (epochId : Option String)

/-! ## The checkpoint a call makes -/

/-- `MemoryProjector._advance_checkpoint`, up to its append. -/
def projectedCheckpoint (consumerId : String) (current : Option ConsumerCheckpoint)
    (completedSequence observedHeadSequence : Int) : Except PyError ConsumerCheckpoint := do
  refuse (current.any fun c => completedSequence < c.lastCompletedSequence)
    "memory projector checkpoint cannot regress"
  let observedHeadSequence := match current with
    | some c => max observedHeadSequence c.observedHeadSequence
    | none => observedHeadSequence
  ConsumerCheckpoint.create ⟨consumerId, completedSequence, observedHeadSequence, none⟩

/-- `AutonomicShadowWorker._advance_checkpoint`, up to its append. -/
def shadowCheckpoint (consumerId : String) (current : Option ConsumerCheckpoint)
    (completedSequence observedHeadSequence : Int) (epochId : Option String) :
    Except PyError ConsumerCheckpoint := do
  match current with
  | none => .ok ()
  | some c => do
    refuse (completedSequence < c.lastCompletedSequence)
      s!"consumer checkpoint cannot regress: {completedSequence} < {c.lastCompletedSequence}"
    refuse (observedHeadSequence < c.observedHeadSequence)
      s!"consumer observed head cannot regress: {observedHeadSequence} < {c.observedHeadSequence}"
  ConsumerCheckpoint.create ⟨consumerId, completedSequence, observedHeadSequence, epochId⟩

/-- `ContinuityWorker._advance_checkpoint`, up to its append. -/
def continuityCheckpoint (consumerId : String) (completedSequence : Int) (epochId : String) :
    Except PyError ConsumerCheckpoint :=
  ConsumerCheckpoint.create ⟨consumerId, completedSequence, completedSequence, some epochId⟩

/-- The `_advance_checkpoint` of the endogenous, the reconsideration and the discovery
worker, up to its append; it stores nothing if the log's checkpoint is as far. -/
def completedCheckpoint (consumerId : String) (current : Option ConsumerCheckpoint)
    (completedSequence latestSequence : Int) (epochId : Option String) :
    Except PyError (Option ConsumerCheckpoint) :=
  if current.any fun c => completedSequence ≤ c.lastCompletedSequence then .ok none
  else
    let observed := match current with
      | some c => c.observedHeadSequence
      | none => 0
    some <$> ConsumerCheckpoint.create
      ⟨consumerId, completedSequence, max (max latestSequence completedSequence) observed, epochId⟩

/-- `DeliberativeAttentionWorker._advance_checkpoint`, up to its conditional append. -/
def disposedCheckpoint (consumerId : String) (current : Option ConsumerCheckpoint)
    (completedSequence observedHead : Int) (epochId : Option String) :
    Except PyError (Option ConsumerCheckpoint) :=
  if current.any fun c => completedSequence ≤ c.lastCompletedSequence then .ok none
  else some <$> ConsumerCheckpoint.create ⟨consumerId, completedSequence, observedHead, epochId⟩

/-! ## The machine -/

structure CheckpointSystem where
  log : EventLog
  workers : Nat → ConsumerState

namespace CheckpointSystem

def start : CheckpointSystem := ⟨.empty, fun _ => .fresh⟩

inductive Label
  /-- Another event is appended: by another writer, or by a worker as an output. -/
  | other (event : Event) (answer : StoreAnswer)
  /-- A worker reads the log and folds its checkpoints. -/
  | read (worker : Nat)
  /-- A worker's call comes to the checkpoint it will append. -/
  | advance (worker : Nat) (call : CheckpointCall) (timestamp : Datetime)
    (causationId : Option String)
  /-- A worker appends it; `returned` tells if the emit came back from the commit. -/
  | store (worker : Nat) (answer : StoreAnswer) (returned : Bool)
  /-- A shadow worker has started. -/
  | started (worker : Nat)
  /-- A call raises before it appends. -/
  | fail (worker : Nat)
  /-- A worker is built anew. -/
  | crash (worker : Nat)

section Steps

variable (b : CheckpointBuiltins) (consumers : Nat → Consumer) (s : CheckpointSystem)

def withWorker (index : Nat) (worker : ConsumerState) : CheckpointSystem :=
  { s with workers := Function.update s.workers index worker }

/-- A sequence of the log. -/
def stored (sequence : Nat) : Prop := ∃ event ∈ s.log.events, event.seq = sequence

instance (sequence : Nat) : Decidable (s.stored sequence) :=
  inferInstanceAs (Decidable (∃ event ∈ s.log.events, event.seq = sequence))

/-- A subscriber processes an event of the log: no checkpoint, and none it is past. -/
def processes (worker : ConsumerState) (sequence : Nat) : Prop :=
  (∃ event ∈ s.log.events, event.seq = sequence ∧ event.type ≠ consumerCheckpointEvent) ∧
    ∀ checkpoint ∈ worker.remembered, checkpoint.lastCompletedSequence < sequence

instance (worker : ConsumerState) (sequence : Nat) : Decidable (s.processes worker sequence) :=
  inferInstanceAs (Decidable (_ ∧ _))

/-- What a call comes to: the checkpoint or nothing, the sequence up to which the worker has
seen the log's checkpoints, and the head it expects. -/
abbrev Attempt := Except PyError (Option ConsumerCheckpoint) × Nat × Option Nat

section Attempts

variable (consumerId : String) (worker : ConsumerState)

def memoryAttempt : CheckpointCall → Option Attempt
  | .projected sequence observedHead =>
    if s.processes worker sequence ∧ observedHead ≤ s.log.latestSequence then
      some (some <$> projectedCheckpoint consumerId worker.remembered sequence
        (max (max observedHead s.log.latestSequence) sequence), worker.rememberedAt, none)
    else none
  | _ => none

def shadowAttempt : CheckpointCall → Option Attempt
  | .bootstrapped bootstrapHead =>
    match worker.found with
    | some (none, readAt) =>
      if bootstrapHead ≤ s.log.latestSequence then
        some (some <$> shadowCheckpoint consumerId worker.remembered bootstrapHead bootstrapHead
          none, readAt, none)
      else none
    | _ => none
  | .pinned epochId =>
    match worker.found with
    | some (some checkpoint, readAt) =>
      if checkpoint.epochId = none then
        some (some <$> shadowCheckpoint consumerId worker.remembered
          checkpoint.lastCompletedSequence
          (max checkpoint.observedHeadSequence s.log.latestSequence) (some epochId), readAt, none)
      else none
    | _ => none
  | .rotated epochId =>
    match worker.remembered with
    | some checkpoint =>
      some (some <$> shadowCheckpoint consumerId worker.remembered
        checkpoint.lastCompletedSequence s.log.latestSequence (some epochId),
        worker.rememberedAt, none)
    | none => none
  | .triggered sequence observedHead epochId =>
    if s.processes worker sequence ∧ observedHead ≤ s.log.latestSequence then
      some (some <$> shadowCheckpoint consumerId worker.remembered sequence
        (max observedHead sequence : Nat) (some epochId), worker.rememberedAt, none)
    else none
  | _ => none

def continuityAttempt : CheckpointCall → Option Attempt
  | .woke epochId =>
    some (some <$> continuityCheckpoint consumerId s.log.latestSequence epochId,
      s.log.latestSequence, none)
  | _ => none

/-- Of the endogenous, the reconsideration and the discovery worker. -/
def completedAttempt : CheckpointCall → Option Attempt
  | .completed sequence epochId =>
    match worker.found with
    | some (current, readAt) =>
      if s.stored sequence then
        some (completedCheckpoint consumerId current sequence s.log.latestSequence epochId,
          readAt, none)
      else none
    | none => none
  | _ => none

def attentionAttempt : CheckpointCall → Option Attempt
  | .disposed sequence epochId =>
    match worker.found with
    | some (current, readAt) =>
      if s.stored sequence ∧ sequence ≤ readAt then
        some (disposedCheckpoint consumerId current sequence readAt epochId, readAt, some readAt)
      else none
    | none => none
  | _ => none

end Attempts

/-- A worker's call in a state; `none` if the worker makes no such call there. -/
def attempt (consumer : Consumer) (worker : ConsumerState) (call : CheckpointCall) :
    Option Attempt :=
  match consumer.kind with
  | .memory => s.memoryAttempt consumer.consumerId worker call
  | .shadow => s.shadowAttempt consumer.consumerId worker call
  | .continuity => s.continuityAttempt consumer.consumerId call
  | .endogenous | .reconsideration | .discovery =>
    s.completedAttempt consumer.consumerId worker call
  | .attention => s.attentionAttempt consumer.consumerId worker call

/-- The kinds that keep their checkpoint in `self._checkpoint`. -/
def remembers (kind : ConsumerKind) : Bool := kind = .memory || kind = .shadow

/-- The append of a pending checkpoint. -/
def emitPending (source : String) (pending : PendingCheckpoint) (answer : StoreAnswer) :
    EventLog × Except PyError Event :=
  let event := pending.checkpoint.toEvent b source pending.timestamp pending.causationId
  match pending.expectedHead with
  | none => s.log.append event answer
  | some head => s.log.appendIfHead event head answer

/-- A worker whose emit returned a stored event: the checkpoint is read back from it. -/
def acknowledged (kind : ConsumerKind) (worker : ConsumerState) (event : Event) : ConsumerState :=
  match ConsumerCheckpoint.fromEvent b event with
  | .error _ => worker.ended
  | .ok checkpoint =>
    if remembers kind = true then
      { remembered := some checkpoint, rememberedAt := event.seq, pending := none
        found := worker.found.map fun _ => (some checkpoint, event.seq) }
    else worker.ended

/-- A worker that reads the log.  The memory projector remembers what it finds. -/
def afterRead (consumer : Consumer) (worker : ConsumerState) : ConsumerState :=
  match ConsumerCheckpointProjection.rebuild b s.log.events with
  | .error _ => worker.ended
  | .ok p =>
    let current := p.get consumer.consumerId
    if consumer.kind = .memory then
      { remembered := current, rememberedAt := s.log.latestSequence, found := none, pending := none }
    else { worker with found := some (current, s.log.latestSequence), pending := none }

def step : Label → Option CheckpointSystem
  | .other event answer =>
    if event.type = consumerCheckpointEvent then none
    else some { s with log := (s.log.append event answer).1 }
  | .read index => some (s.withWorker index (s.afterRead b (consumers index) (s.workers index)))
  | .advance index call timestamp causationId =>
    match (s.workers index).pending, s.attempt (consumers index) (s.workers index) call with
    | none, some (.ok (some checkpoint), since, expectedHead) =>
      some (s.withWorker index { s.workers index with
        pending := some { checkpoint, timestamp, causationId, expectedHead, since } })
    | none, some _ => some (s.withWorker index (s.workers index).ended)
    | _, _ => none
  | .store index answer returned =>
    match (s.workers index).pending with
    | none => none
    | some pending =>
      let (log, result) := s.emitPending b (consumers index).source pending answer
      let worker := match returned, result with
        | true, .ok event => acknowledged b (consumers index).kind (s.workers index) event
        | _, _ => (s.workers index).ended
      some { s.withWorker index worker with log }
  | .started index =>
    match (consumers index).kind, (s.workers index).found with
    | .shadow, some (some checkpoint, readAt) =>
      some (s.withWorker index { remembered := some checkpoint, rememberedAt := readAt
                                 found := none, pending := none })
    | _, _ => none
  | .fail index => some (s.withWorker index (s.workers index).ended)
  | .crash index => some (s.withWorker index .fresh)

end Steps

end CheckpointSystem

end Noema
