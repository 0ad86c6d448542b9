import Noema.Kernel

/-!
# The kernel as concurrent tasks

The tasks of one kernel — `start`, `emit`, `emit_if_head` and `ingest` calls — run
between each other's awaits, over a store to which other runtimes append at any
time.  A task is its request and the await it has reached (`Pc`); a step either
lets one task run to its next await, or is something the environment does: a new
call, a remote append, a cancellation.

A read of the store and the resumption of its awaiter are two steps, and so are
the begin and the commit of an append's transaction, which runs in a thread of its
own: cancelling the awaiter releases the emit lock while the thread goes on
(`detached`).  Sequences are handed out by the store, above every event visible
when the transaction begins.

`before`, `startHistory`, `applied`, `remote` and `own` are history variables; no
step reads them.
-/
namespace Noema
open Kernel

/-- A call on the kernel. -/
inductive Request
  | start
  | emit (event : Event)
  | emitIfHead (event : Event) (expectedHeadSequence : Int)
  | ingest (event : Event)

/-- The await a task has reached. -/
inductive Pc
  /-- Created, not run yet. -/
  | called
  /-- `start`: `store.read()`, before and after it was answered. -/
  | reading
  | installing (history : EventLog)
  /-- `start`: `store.latest_sequence()`. -/
  | heading
  | headed (head : Nat)
  /-- The emit lock. -/
  | waiting
  /-- The store's append: submitted, in its transaction, answered. -/
  | storing
  | inserting (floor : Nat)
  | stored (stored : Event) (own : Bool)
  /-- A late arrival's `store.read()`. -/
  | rereading (stored : Event)
  | reinstalling (stored : Event) (history : EventLog)
  /-- `bus.publish`; `echo` says that the event goes out to the broker. -/
  | publishing (stored projected : Event) (echo : Bool)
  | returned (stored : Option Event)
  | raised (error : PyError)
  /-- Cancelled while its append was in a thread. -/
  | detached
  | detachedInserting (floor : Nat)
  | cancelled

structure Task where
  request : Request
  pc : Pc

/-- What the tasks share of the kernel and its store. -/
structure Shared where
  log : EventLog
  situation : Situation
  pendingBrokerEchoes : List String
  started : Bool
  published : List Event
  /-- The log when the first start began to run. -/
  before : Option EventLog
  /-- What the start-up rebuilds contained. -/
  startHistory : List Event
  /-- The events in the projection, in its order. -/
  applied : List Event
  /-- The events other runtimes appended, and those this one did. -/
  remote : List Event
  own : List Event

structure Runtime extends Shared where
  startupSequence : Nat
  /-- The task that holds the emit lock. -/
  emitLock : Option Nat
  /-- The task whose thread has a transaction open on the connection. -/
  transaction : Option Nat
  tasks : List Task

/-- `remote` is an append of another runtime that becomes visible, `resume` lets a
task run to its next await; `now` and `insert` are the clock reading and the
database's answer it may need. -/
inductive RuntimeLabel
  | call (request : Request)
  | remote (event : Event) (sequence : Nat)
  | resume (task : Nat) (now : Datetime) (insert : Except PyError Nat)
  | cancel (task : Nat)

def Request.event : Request → Option Event
  | .start => none
  | .emit event | .emitIfHead event _ | .ingest event => some event

def Request.distribute : Request → Bool
  | .emit _ | .emitIfHead _ _ => true
  | .start | .ingest _ => false

def Request.expectedHeadSequence : Request → Option Int
  | .emitIfHead _ expected => some expected
  | _ => none

namespace Runtime

variable (cfg : Config)

/-- A kernel just created over a store. -/
def create (log : EventLog) (now : Datetime) : Runtime :=
  { log, situation := .cleared now, startupSequence := 0, pendingBrokerEchoes := [],
    started := false, emitLock := none, transaction := none, tasks := [], published := [],
    before := none, startHistory := [], applied := [], remote := [], own := [] }

/-- Move a task to another await. -/
def goto (s : Runtime) (i : Nat) (task : Task) (pc : Pc) : Runtime :=
  { s with tasks := s.tasks.set i { task with pc } }

/-- Leave `async with self._emit_lock`, by a return or an exception. -/
def leave (s : Runtime) (i : Nat) (task : Task) (pc : Pc) : Runtime :=
  { s.goto i task pc with emitLock := none }

/-- The head of `_commit` and of `start`. -/
def call (s : Runtime) (i : Nat) (task : Task) : Runtime :=
  if s.started then
    s.goto i task (match task.request with | .start => .returned none | _ => .waiting)
  else { s.goto i task .reading with before := s.before.or (some s.log) }

/-- `start` with the history it read. -/
def install (s : Runtime) (i : Nat) (task : Task) (history : EventLog) (now : Datetime) :
    Runtime :=
  match cfg.rebuild now history.events with
  | (situation, some error) => { s.goto i task (.raised error) with situation }
  | (situation, none) =>
    { s.goto i task .heading with
      situation
      startHistory := s.startHistory ++ history.events
      applied := history.events }

/-- The end of `start`. -/
def finishStart (s : Runtime) (i : Nat) (task : Task) (head : Nat) : Runtime :=
  { s.goto i task (match task.request with | .start => .returned none | _ => .waiting) with
    startupSequence := head
    started := true }

/-- What a second transaction on the connection raises. -/
def nestedTransaction : PyError := .other "cannot start a transaction within a transaction"

/-- The append's thread begins its transaction. -/
def begin (s : Runtime) (i : Nat) (task : Task) : Runtime :=
  if task.request.expectedHeadSequence.any (fun expected => expected < 0) then
    s.leave i task
      (.raised (.valueError "expected event head sequence cannot be negative"))
  else
    match s.transaction with
    | some _ => s.leave i task (.raised nestedTransaction)
    | none => { s.goto i task (.inserting s.log.latestSequence) with transaction := some i }

/-- The commit of the append's transaction: an existing event, a refusal, or the
event stored under the sequence that the database hands out. -/
def insertRow (log : EventLog) (event : Event) (expectedHeadSequence : Option Int) (floor : Nat)
    (insert : Except PyError Nat) : Option (EventLog × Except PyError (Event × Bool)) :=
  match h : log.byId event.id with
  | some existing => some (log, .ok (existing, false))
  | none =>
    match expectedHeadSequence, insert with
    | some expected, insert =>
      if (log.latestSequence : Int) ≠ expected then
        some (log, .error (.concurrentAppendError expected log.latestSequence))
      else storeRow h insert
    | none, insert => storeRow h insert
where
  storeRow (h : log.byId event.id = none) :
      Except PyError Nat → Option (EventLog × Except PyError (Event × Bool))
    | .error error => some (log, .error error)
    | .ok sequence =>
      if hfree : floor < sequence ∧ ∀ other ∈ log.events, other.seq ≠ sequence then
        some (log.insert event sequence h (by omega) hfree.2,
          .ok (event.withSequence sequence, true))
      else none

/-- The awaiter of an append resumes. -/
def resumeStored (s : Runtime) (i : Nat) (task : Task) (stored : Event) : Runtime :=
  match classify s.situation.version s.startupSequence s.pendingBrokerEchoes
      task.request.distribute stored with
  | .reEmission | .startupHistory => s.leave i task (.returned (some stored))
  | .brokerEcho =>
    { s.leave i task (.returned (some stored)) with
      pendingBrokerEchoes := s.pendingBrokerEchoes.filter fun id => id ≠ stored.id }
  | .lateArrival => s.goto i task (.rereading stored)
  | .newHead =>
    match cfg.schemas.normalize stored with
    | .error error => s.leave i task (.raised error)
    | .ok projected =>
      match cfg.apply s.situation projected with
      | (situation, some error) => { s.leave i task (.raised error) with situation }
      | (situation, none) =>
        { s.goto i task (.publishing stored projected task.request.distribute) with
          situation
          applied := s.applied ++ [stored] }

/-- A late arrival is rebuilt with the history it read. -/
def reinstall (s : Runtime) (i : Nat) (task : Task) (stored : Event) (history : EventLog)
    (now : Datetime) : Runtime :=
  match cfg.rebuild now history.events with
  | (situation, some error) => { s.leave i task (.raised error) with situation }
  | (situation, none) =>
    match cfg.schemas.normalize stored with
    | .error error =>
      { s.leave i task (.raised error) with situation, applied := history.events }
    | .ok projected =>
      { s.goto i task (.publishing stored projected false) with
        situation
        applied := history.events }

/-- The event is on the queues of its subscribers. -/
def finishPublish (s : Runtime) (i : Nat) (task : Task) (stored projected : Event) (echo : Bool) :
    Runtime :=
  { s.leave i task (.returned (some stored)) with
    published := s.published ++ [projected]
    pendingBrokerEchoes := if echo then stored.id :: s.pendingBrokerEchoes
      else s.pendingBrokerEchoes }

/-- The thread of an append commits: `done` is where its task goes on. -/
def commitRow (s : Runtime) (task : Task) (floor : Nat) (insert : Except PyError Nat)
    (done : Runtime → Except PyError (Event × Bool) → Runtime) : Option Runtime := do
  let event ← task.request.event
  let (log, answer) ← insertRow s.log event task.request.expectedHeadSequence floor insert
  let own := match answer with
    | .ok (stored, true) => s.own ++ [stored]
    | _ => s.own
  return done { s with log, own, transaction := none } answer

/-- Task `i` runs to its next await. -/
def resume (s : Runtime) (i : Nat) (task : Task) (now : Datetime) (insert : Except PyError Nat) :
    Option Runtime :=
  match task.pc with
  | .called => some (s.call i task)
  | .reading => some (s.goto i task (.installing s.log))
  | .installing history => some (s.install cfg i task history now)
  | .heading => some (s.goto i task (.headed s.log.latestSequence))
  | .headed head => some (s.finishStart i task head)
  | .waiting =>
    match s.emitLock with
    | some _ => none
    | none => some { s.goto i task .storing with emitLock := some i }
  | .storing => some (s.begin i task)
  | .inserting floor =>
    s.commitRow task floor insert fun s answer =>
      match answer with
      | .ok (stored, own) => s.goto i task (.stored stored own)
      | .error error => s.leave i task (.raised error)
  | .stored stored _ => some (s.resumeStored cfg i task stored)
  | .rereading stored => some (s.goto i task (.reinstalling stored s.log))
  | .reinstalling stored history => some (s.reinstall cfg i task stored history now)
  | .publishing stored projected echo => some (s.finishPublish i task stored projected echo)
  | .detached =>
    match s.transaction with
    | some _ => some (s.goto i task .cancelled)
    | none =>
      some { s.goto i task (.detachedInserting s.log.latestSequence) with transaction := some i }
  | .detachedInserting floor =>
    s.commitRow task floor insert fun s _ => s.goto i task .cancelled
  | .returned _ | .raised _ | .cancelled => none

/-- Task `i` is cancelled at the await it has reached. -/
def cancel (s : Runtime) (i : Nat) (task : Task) : Option Runtime :=
  match task.pc with
  | .called | .reading | .installing _ | .heading | .headed _ | .waiting =>
    some (s.goto i task .cancelled)
  | .storing => some (s.leave i task .detached)
  | .inserting floor => some (s.leave i task (.detachedInserting floor))
  | .stored _ _ | .rereading _ | .reinstalling _ _ | .publishing _ _ _ =>
    some (s.leave i task .cancelled)
  | .returned _ | .raised _ | .detached | .detachedInserting _ | .cancelled => none

/-- Another runtime's append becomes visible. -/
def remoteAppend (s : Runtime) (event : Event) (sequence : Nat) : Option Runtime :=
  match h : s.log.byId event.id with
  | some _ => none
  | none =>
    if hfree : 0 < sequence ∧ ∀ other ∈ s.log.events, other.seq ≠ sequence then
      some { s with
        log := s.log.insert event sequence h hfree.1 hfree.2
        remote := s.remote ++ [event.withSequence sequence] }
    else none

/-- The kernel, its store and their environment. -/
def step (s : Runtime) : RuntimeLabel → Option Runtime
  | .call request => some { s with tasks := s.tasks ++ [⟨request, .called⟩] }
  | .remote event sequence => s.remoteAppend event sequence
  | .resume i now insert => do s.resume cfg i (← s.tasks[i]?) now insert
  | .cancel i => do s.cancel i (← s.tasks[i]?)

end Runtime
end Noema
