import Noema.RuleRegistry
import Noema.Lib.Machine

/-!
# The epochs of the shadow worker

A worker pins the rules of its registry in an epoch: it stores the ruleset, then the epoch,
and then checkpoints that name the epoch.  A restarted worker rebuilds its registry from the
log, finds the epoch of its checkpoint there and the refs of its ruleset, and takes the rules
from the registry, up to the cursor of the epoch.

`ShadowSystem` runs any number of such workers over one log, with whatever else is stored by
others.  A worker moves from one call on the kernel to the next; a call may raise, also after
its event was stored, and a worker may be gone at any moment.  `opened` remembers each epoch
as it was opened.
-/
namespace Noema

open Machine

/-- What `stable_id` digests for an epoch. -/
structure EpochIdentity where
  rulesetDigest : String
  startedAt : String
  eventLogCursor : Nat
deriving DecidableEq

/-- The payload of a materialized ruleset. -/
structure RulesetContent where
  snapshotId : String
  digest : String
  ruleRefs : List String
deriving DecidableEq

/-- The digests of the shadow worker, without their prefixes: of rules, whole
(`rulesetDigest`) and as in the snapshot id (`rulesetName`), of epochs, and of the events of
both.  They tell apart what they are made of. -/
structure ShadowBuiltins extends RuleBuiltins where
  rulesetDigest : List AutonomicRule → String
  rulesetName : List AutonomicRule → String
  epochDigest : EpochIdentity → String
  rulesetEventDigest : RulesetContent → String
  epochEventDigest : String → String
  rulesetDigest_refs : ∀ rules others, rulesetDigest rules = rulesetDigest others →
    rules.map AutonomicRule.ref = others.map AutonomicRule.ref
  rulesetName_refs : ∀ rules others, rulesetName rules = rulesetName others →
    rules.map AutonomicRule.ref = others.map AutonomicRule.ref
  epochDigest_injective : Function.Injective epochDigest
  rulesetEventDigest_injective : Function.Injective rulesetEventDigest
  epochEventDigest_injective : Function.Injective epochEventDigest
  eventDigests_apart : ∀ content epochId, rulesetEventDigest content ≠ epochEventDigest epochId

variable (b : ShadowBuiltins)

/-- A reading of the clock, whose ISO text is read back. -/
abbrev ClockReading :=
  { time : Datetime // b.parseDatetime (.str (b.isoformat time)) = .ok (some time) }

def rulesetMaterialized : String := "rule.ruleset_materialized"

def evaluationEpochStarted : String := "rule.evaluation_epoch_started"

/-! ## Rulesets and epochs as events -/

namespace RulesetSnapshot

/-- `snapshot_id`. -/
def snapshotId (ruleset : RulesetSnapshot) : String := "ruleset:" ++ b.rulesetName ruleset.rules

/-- `digest`. -/
def digest (ruleset : RulesetSnapshot) : String := b.rulesetDigest ruleset.rules

/-- `rule_refs`. -/
def ruleRefs (ruleset : RulesetSnapshot) : List String := ruleset.rules.map AutonomicRule.ref

def content (ruleset : RulesetSnapshot) : RulesetContent :=
  ⟨ruleset.snapshotId b, ruleset.digest b, ruleset.ruleRefs⟩

end RulesetSnapshot

/-- `to_dict`. -/
def RulesetContent.toDict (content : RulesetContent) : Payload :=
  .ofList
    [("snapshot_id", .str content.snapshotId),
     ("digest", .str content.digest),
     ("rule_refs", .list (content.ruleRefs.map .str))]

/-- The id of a ruleset's event. -/
def rulesetEventId (content : RulesetContent) : String := "event:" ++ b.rulesetEventDigest content

/-- `to_event`. -/
def RulesetSnapshot.toEvent (ruleset : RulesetSnapshot) (source : String) (timestamp : Datetime) :
    Event where
  type := rulesetMaterialized
  source := source
  payload := (ruleset.content b).toDict
  subject := some (ruleset.snapshotId b)
  id := rulesetEventId b (ruleset.content b)
  timestamp := timestamp
  correlationId := none
  causationId := none
  priority := 0
  sequence := none
  metadata := .empty
  schemaVersion := 1
  schemaVersion_pos := Nat.one_pos

namespace EvaluationEpoch

/-- The id of an epoch. -/
def idOf (identity : EpochIdentity) : String := "evaluation-epoch:" ++ b.epochDigest identity

def identity (ruleset : RulesetSnapshot) (startedAt : Datetime) (cursor : Nat) : EpochIdentity :=
  ⟨ruleset.digest b, b.isoformat startedAt, cursor⟩

/-- `EvaluationEpoch.open`. -/
def opening (ruleset : RulesetSnapshot) (startedAt : Datetime) (cursor : Nat) : EvaluationEpoch where
  epochId := idOf b (identity b ruleset startedAt cursor)
  ruleset := ruleset
  startedAt := startedAt
  eventLogCursor := cursor

/-- `to_dict`. -/
def toDict (epoch : EvaluationEpoch) : Payload :=
  .ofList
    [("epoch_id", .str epoch.epochId),
     ("ruleset_id", .str (epoch.ruleset.snapshotId b)),
     ("ruleset_digest", .str (epoch.ruleset.digest b)),
     ("started_at", .str (b.isoformat epoch.startedAt)),
     ("event_log_cursor", .int epoch.eventLogCursor)]

/-- The id of an epoch's event. -/
def eventId (epochId : String) : String := "event:" ++ b.epochEventDigest epochId

/-- `to_event`. -/
def toEvent (epoch : EvaluationEpoch) (source : String) : Event where
  type := evaluationEpochStarted
  source := source
  payload := epoch.toDict b
  subject := some epoch.epochId
  id := eventId b epoch.epochId
  timestamp := epoch.startedAt
  correlationId := none
  causationId := none
  priority := 0
  sequence := none
  metadata := .empty
  schemaVersion := 1
  schemaVersion_pos := Nat.one_pos

end EvaluationEpoch

/-- An event that starts the epoch of an id. -/
def startsEpoch (epochId : String) (event : Event) : Bool :=
  event.type = evaluationEpochStarted && (event.payload.get "epoch_id").equalsText epochId

/-- An event that materializes the ruleset of an id. -/
def materializes (rulesetId : String) (event : Event) : Bool :=
  event.type = rulesetMaterialized && event.subject = some rulesetId

/-! ## The worker -/

/-- `_new_epoch`. -/
def newEpoch (registry : RuleRegistry) (cursor : Int) (clock : ClockReading b) :
    Except PyError EvaluationEpoch := do
  let ruleset ← registry.snapshot cursor none
  return .opening b ruleset clock.1 cursor.toNat

/-- The last event of a history that passes a test. -/
def lastEvent (history : List Event) (test : Event → Bool) (message : String) :
    Except PyError Event :=
  match history.reverse.find? test with
  | some event => .ok event
  | none => .error (.valueError message)

/-- `_restore_epoch`. -/
def restoreEpoch (registry : RuleRegistry) (history : List Event) (epochId : String) :
    Except PyError EvaluationEpoch := do
  let epochEvent ← lastEvent history (startsEpoch epochId)
    s!"checkpoint references an unknown evaluation epoch: {epochId}"
  let rulesetId ← itemText b.toBuiltins epochEvent.payload "ruleset_id"
  let rulesetEvent ← lastEvent history (materializes rulesetId)
    s!"evaluation epoch references an unknown ruleset: {rulesetId}"
  let cursor ← itemInt b.toIntentBuiltins epochEvent.payload "event_log_cursor"
  let refs ← (← (← rulesetEvent.payload.item "rule_refs").iterate).mapM b.str
  let ruleset ← registry.snapshot cursor (some refs)
  let digest ← itemText b.toBuiltins epochEvent.payload "ruleset_digest"
  refuse (ruleset.snapshotId b ≠ rulesetId ∨ ruleset.digest b ≠ digest)
    "restored ruleset does not match the checkpointed evaluation epoch"
  match ← b.parseDatetime (.str (← itemText b.toBuiltins epochEvent.payload "started_at")) with
  | none => .error (.valueError s!"evaluation epoch has no start time: {epochId}")
  | some startedAt => return ⟨epochId, ruleset, startedAt, cursor.toNat⟩

/-- Where a worker is: before a call on the kernel, or between two of them. -/
inductive ShadowPhase
  | down
  /-- `start` has read the head. -/
  | booting (bootstrapHead : Nat)
  /-- `start` found no checkpoint in the history and makes the first one. -/
  | fresh (history : List Event) (registry : RuleRegistry) (bootstrapHead : Nat)
  /-- `_persist_epoch`, before the ruleset is stored; `previous` is the epoch in use. -/
  | materializing (epoch : EvaluationEpoch) (previous : Option EvaluationEpoch)
  /-- `_persist_epoch`, before the epoch is stored. -/
  | announcing (epoch : EvaluationEpoch) (previous : Option EvaluationEpoch)
  /-- The epoch in use is stored; from here on the worker stores checkpoints. -/
  | running (epoch : EvaluationEpoch)

structure ShadowWorker where
  consumerId : String
  source : String
  phase : ShadowPhase

/-- What an exception leaves: `start` cleans up, `rotate_epoch` keeps the epoch in use. -/
def ShadowPhase.afterError : ShadowPhase → ShadowPhase
  | materializing _ (some previous) | announcing _ (some previous) => running previous
  | running epoch => running epoch
  | _ => down

/-- What a worker does next, with what it is given from outside: readings of the clock, the
sequences that the store skips, and whether a call raises after it stored its event. -/
inductive ShadowMove
  | boot
  | load (clock : ClockReading b)
  | checkpointFirst (timestamp : Datetime) (gap : Nat) (raises : Bool) (clock : ClockReading b)
  | materialize (gap : Nat) (raises : Bool)
  | announce (gap : Nat) (raises : Bool)
  | advance (completed observed : Int) (timestamp : Datetime) (causationId : Option String)
      (gap : Nat)
  | rotate (clock : ClockReading b)
  | fail
  | crash

/-- What a move leaves. -/
structure ShadowEffect where
  log : EventLog
  phase : ShadowPhase
  opened : List EvaluationEpoch

namespace ShadowWorker

variable {b}

/-- `start`, once it has a checkpoint: a new epoch, or the one that the checkpoint names. -/
def resume (history : List Event) (registry : RuleRegistry) (checkpoint : ConsumerCheckpoint)
    (clock : ClockReading b) : Except PyError (ShadowPhase × List EvaluationEpoch) :=
  match checkpoint.epochId with
  | none => do
    let epoch ← newEpoch b registry checkpoint.lastCompletedSequence clock
    return (.materializing epoch none, [epoch])
  | some epochId => do
    let epoch ← restoreEpoch b registry history epochId
    return (.running epoch, [])

/-- The answer of a computation of `start`, or its failure. -/
def settled (log : EventLog) : Except PyError (ShadowPhase × List EvaluationEpoch) → ShadowEffect
  | .ok (phase, opened) => ⟨log, phase, opened⟩
  | .error _ => ⟨log, .down, []⟩

/-- `start`, with the history it reads. -/
def load (w : ShadowWorker) (log : EventLog) (bootstrapHead : Nat) (clock : ClockReading b) :
    Except PyError (ShadowPhase × List EvaluationEpoch) := do
  let registry ← RuleRegistry.rebuild b.toRuleBuiltins log.events
  let checkpoints ← ConsumerCheckpointProjection.rebuild b.toCheckpointBuiltins log.events
  match checkpoints.get w.consumerId with
  | none => return (.fresh log.events registry bootstrapHead, [])
  | some checkpoint => resume log.events registry checkpoint clock

/-- `rotate_epoch`, with the history it reads; the cursor is the last sequence of it. -/
def rotate (log : EventLog) (clock : ClockReading b) : Except PyError EvaluationEpoch := do
  let registry ← RuleRegistry.rebuild b.toRuleBuiltins log.events
  newEpoch b registry log.latestSequence clock

/-- The event of a checkpoint, if its constructor accepts it. -/
def checkpointEvent (w : ShadowWorker) (b : ShadowBuiltins) (completed observed : Int)
    (epochId : Option String) (timestamp : Datetime) (causationId : Option String) :
    Except PyError Event := do
  let checkpoint ← ConsumerCheckpoint.create ⟨w.consumerId, completed, observed, epochId⟩
  return checkpoint.toEvent b.toCheckpointBuiltins w.source timestamp causationId

def move (w : ShadowWorker) (log : EventLog) (m : ShadowMove b) : Option ShadowEffect :=
  match m, w.phase with
  | .boot, .down => some ⟨log, .booting log.latestSequence, []⟩
  | .load clock, .booting bootstrapHead => some (settled log (w.load log bootstrapHead clock))
  | .checkpointFirst timestamp gap raises clock, .fresh history registry bootstrapHead =>
    match w.checkpointEvent b bootstrapHead bootstrapHead none timestamp none with
    | .error _ => some ⟨log, .down, []⟩
    | .ok event =>
      let (log, stored) := log.append event (.takes gap)
      if raises then some ⟨log, .down, []⟩
      else some (settled log (do
        let checkpoint ← ConsumerCheckpoint.fromEvent b.toCheckpointBuiltins (← stored)
        resume history registry checkpoint clock))
  | .materialize gap raises, .materializing epoch previous =>
    let (log, _) := log.append (epoch.ruleset.toEvent b w.source epoch.startedAt) (.takes gap)
    some ⟨log, if raises then w.phase.afterError else .announcing epoch previous, []⟩
  | .announce gap raises, .announcing epoch _ =>
    let (log, _) := log.append (epoch.toEvent b w.source) (.takes gap)
    some ⟨log, if raises then w.phase.afterError else .running epoch, []⟩
  | .advance completed observed timestamp causationId gap, .running epoch =>
    match w.checkpointEvent b completed observed (some epoch.epochId) timestamp causationId with
    | .error _ => some ⟨log, w.phase, []⟩
    | .ok event => some ⟨(log.append event (.takes gap)).1, w.phase, []⟩
  | .rotate clock, .running previous =>
    match rotate log clock with
    | .error _ => some ⟨log, w.phase, []⟩
    | .ok epoch => some ⟨log, .materializing epoch (some previous), [epoch]⟩
  | .fail, phase => some ⟨log, phase.afterError, []⟩
  | .crash, _ => some ⟨log, .down, []⟩
  | _, _ => none

end ShadowWorker

/-- Workers over one log, and the epochs that they opened. -/
structure ShadowSystem where
  log : EventLog
  workers : List ShadowWorker
  opened : List EvaluationEpoch

/-- A move of a worker, or an event that someone else stores. -/
inductive ShadowAction
  | worker (index : Nat) (move : ShadowMove b)
  | outside (event : Event) (gap : Nat)

namespace ShadowSystem

/-- Workers that have not been started, over an empty log. -/
def start (workers : List (String × String)) : ShadowSystem :=
  ⟨.empty, workers.map fun worker => ⟨worker.1, worker.2, .down⟩, []⟩

variable {b}

def step (s : ShadowSystem) : ShadowAction b → Option ShadowSystem
  | .worker index move =>
    s.workers[index]?.bind fun w =>
      (w.move s.log move).map fun effect =>
        ⟨effect.log, s.workers.set index { w with phase := effect.phase },
          s.opened ++ effect.opened⟩
  | .outside event gap => some { s with log := (s.log.append event (.takes gap)).1 }

end ShadowSystem

end Noema
