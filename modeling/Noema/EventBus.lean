import Mathlib.Logic.Function.Basic
import Noema.EventStore
import Noema.Lib.AsyncQueue
import Noema.Lib.Machine

/-!
# The event bus under the emit lock

One kernel, its bus and the tasks that emit: the subscriptions' workers with the
handlers they run, the workers of the agents among them, and callers from outside.
An emit takes the emit lock, appends its event and puts it on the queue of every
matching subscription, one after the other, before it lets the lock go.  A put on
a full queue waits, so it waits with the lock.

`asyncio.Lock` is first come, first served: `emitLock` lists the tasks that asked
for it, and the first of them holds it.  The subscribers are those of a kernel
that runs: projectors have caught up and agents have recovered.  What the schemas
and the projection make of an event, which events a handler emits and how many,
and which tasks an agent's cycle gathers, is up to the environment; gathered tasks
are callers.
-/
namespace Noema
open AsyncQueue

/-- What an agent's configuration says about its queue.  `material` are the types
`_material` lets through. -/
structure AgentQueueConfig where
  material : String → Bool
  queueSize : Int
  workers : Nat
  workers_pos : 0 < workers
  processedEventCache : Int

/-- A handler on the bus.  An observer does not emit. -/
inductive Handler
  | observer
  | detectorEngine (engineId : String)
  | memoryProjector
  | agent (config : AgentQueueConfig)

/-- A subscription: the event types its pattern matches, and its handler. -/
structure Subscriber where
  pattern : String → Bool
  handler : Handler

/-- `AsyncEventBus(queue_size)` and who subscribed to it. -/
structure BusConfig where
  queueSize : Int
  subscribers : List Subscriber

/-- `CONSUMER_CHECKPOINT_EVENT`. -/
def consumerCheckpointEvent : String := "runtime.consumer_checkpoint_advanced"

inductive TaskId
  | caller (number : Nat)
  | subscription (index : Nat)
  | worker (index number : Nat)
deriving DecidableEq

/-- The await a task has reached.  `handled` is the event an emit is made for. -/
inductive BusPc
  | created
  /-- The worker of a queue, in `queue.get()`. -/
  | idle
  /-- The handler was called with the event. -/
  | delivered (event : Event)
  /-- Between the emits of a handler; `last` is what the last one returned. -/
  | handling (event : Event) (last : Option Event)
  /-- `_on_event` of an agent, in `_queue.put`. -/
  | enqueueing (event : Event)
  /-- `_handle_trigger`, in `asyncio.gather`. -/
  | gathering (event : Event) (callers : List Nat)
  /-- `_commit`: asked for the lock, and with it at the store. -/
  | emitting (handled : Option Event) (output : Event)
  /-- `bus.publish`: the subscriptions that still have to take the event. -/
  | publishing (handled : Option Event) (stored projected : Event) (rest : List Nat)
  | done

/-- A subscription's queue and what its handler keeps: an agent's queue and the ids
it has seen, or a projector's processed ids and its checkpoint. -/
structure Channel where
  queue : List Event
  agentQueue : List Event
  seen : List String
  completed : Option Nat

structure EventBus where
  log : EventLog
  emitLock : List TaskId
  channel : Nat → Channel
  pc : TaskId → BusPc

inductive BusLabel
  | call (number : Nat) (event : Event)
  | get (task : TaskId)
  | begin (index : Nat)
  | put (index : Nat)
  | emit (task : TaskId) (output : Event)
  | gather (index number : Nat) (callers : List Nat)
  | joined (index number : Nat)
  | finish (task : TaskId)
  /-- `projected` is `none` for a commit that returns a known event without projecting it. -/
  | commit (task : TaskId) (answer : StoreAnswer) (projected : Option (Except PyError Event))
  | publish (task : TaskId)

namespace BusConfig

variable (cfg : BusConfig)

def handler (index : Nat) : Handler :=
  match cfg.subscribers[index]? with
  | some subscriber => subscriber.handler
  | none => .observer

/-- Whether a subscription's pattern matches the type. -/
def matching (index : Nat) (type : String) : Bool :=
  match cfg.subscribers[index]? with
  | some subscriber => subscriber.pattern type
  | none => false

/-- The matching subscriptions, in the order they subscribed. -/
def recipients (event : Event) : List Nat :=
  (List.range cfg.subscribers.length).filter fun index => cfg.matching index event.type

end BusConfig

namespace EventBus

variable (cfg : BusConfig)

def create (log : EventLog) : EventBus :=
  { log, emitLock := [], channel := fun _ => ⟨[], [], [], none⟩
    pc := fun task => match task with | .caller _ => .created | _ => .idle }

/-- Move a task to another await. -/
def goto (s : EventBus) (task : TaskId) (pc : BusPc) : EventBus :=
  { s with pc := Function.update s.pc task pc }

def setChannel (s : EventBus) (index : Nat) (channel : Channel) : EventBus :=
  { s with channel := Function.update s.channel index channel }

@[simp] theorem goto_pc_self {s : EventBus} {task : TaskId} {pc : BusPc} :
    (s.goto task pc).pc task = pc :=
  Function.update_self ..

theorem goto_pc_of_ne {s : EventBus} {task other : TaskId} {pc : BusPc} (h : other ≠ task) :
    (s.goto task pc).pc other = s.pc other :=
  Function.update_of_ne h ..

@[simp] theorem goto_channel {s : EventBus} {task : TaskId} {pc : BusPc} :
    (s.goto task pc).channel = s.channel := rfl

@[simp] theorem setChannel_channel_self {s : EventBus} {index : Nat} {channel : Channel} :
    (s.setChannel index channel).channel index = channel :=
  Function.update_self ..

theorem setChannel_channel_of_ne {s : EventBus} {index other : Nat} {channel : Channel}
    (h : other ≠ index) : (s.setChannel index channel).channel other = s.channel other :=
  Function.update_of_ne h ..

/-- The task asks for the emit lock. -/
def request (s : EventBus) (task : TaskId) (handled : Option Event) (output : Event) : EventBus :=
  { s.goto task (.emitting handled output) with emitLock := s.emitLock ++ [task] }

/-- The holder of the emit lock lets it go. -/
def release (s : EventBus) : EventBus := { s with emitLock := s.emitLock.tail }

/-- An emit returns. -/
def emitted (s : EventBus) (task : TaskId) (handled : Option Event) (stored : Event) : EventBus :=
  s.goto task (match handled with
    | some event => .handling event (some stored)
    | none => .done)

/-- `_recover_projection`: forget the processed ids and go back to the last durable
checkpoint, which is the one of this event if the store kept it. -/
def recoverProjection (s : EventBus) (index : Nat) (event : Event) (kept : Option Event) :
    EventBus :=
  let channel := s.channel index
  let durable := kept.any fun stored => stored.type = consumerCheckpointEvent
  s.setChannel index { channel with
    seen := []
    completed := if durable then some event.seq else channel.completed }

/-- An emit raises; `kept` is what the store kept of it.  The bus isolates the
failure of a handler, and an agent's worker goes on to emit `agent.cycle_failed`. -/
def failed (s : EventBus) (task : TaskId) (handled kept : Option Event) : EventBus :=
  match task, handled with
  | .subscription index, some event =>
    match cfg.handler index with
    | .memoryProjector => (s.recoverProjection index event kept).goto task .idle
    | _ => s.goto task .idle
  | .worker _ _, some event => s.goto task (.handling event none)
  | _, _ => s.goto task .done

/-- A caller's `emit`. -/
def call (s : EventBus) (number : Nat) (event : Event) : Option EventBus :=
  match s.pc (.caller number) with
  | .created => some (s.request (.caller number) none event)
  | _ => none

/-- The worker of a queue takes the next event. -/
def get (s : EventBus) (task : TaskId) : Option EventBus :=
  match task, s.pc task with
  | .subscription index, .idle =>
    match (s.channel index).queue with
    | event :: queue =>
      some ((s.setChannel index { s.channel index with queue }).goto task (.delivered event))
    | [] => none
  | .worker index number, .idle =>
    match cfg.handler index, (s.channel index).agentQueue with
    | .agent config, trigger :: agentQueue =>
      if number < config.workers then
        some ((s.setChannel index { s.channel index with agentQueue }).goto task
          (.handling trigger none))
      else none
    | _, _ => none
  | _, _ => none

/-- The ids an agent remembers after one more; `none` when `popleft` raises. -/
def remember (cache : Int) (seen : List String) (id : String) : Option (List String) :=
  if cache < 0 then none else some ((id :: seen).take cache.toNat)

/-- A handler runs to its first await: `_on_event` of the detectors and of the
agent, `_handle_event` of the projector. -/
def react (s : EventBus) (index : Nat) (event : Event) : Handler → EventBus
  | .observer => s.goto (.subscription index) .idle
  | .detectorEngine engineId =>
    if event.source = engineId ∨ "signal.".isPrefixOf event.type then
      s.goto (.subscription index) .idle
    else s.goto (.subscription index) (.handling event none)
  | .memoryProjector =>
    let channel := s.channel index
    if event.id ∈ channel.seen then s.goto (.subscription index) .idle
    else
      let s := s.setChannel index { channel with seen := event.id :: channel.seen }
      if event.type = consumerCheckpointEvent
          ∨ channel.completed.any (fun completed => event.seq ≤ completed) then
        s.goto (.subscription index) .idle
      else s.goto (.subscription index) (.handling event none)
  | .agent config =>
    let channel := s.channel index
    if config.material event.type = false ∨ event.id ∈ channel.seen then
      s.goto (.subscription index) .idle
    else
      match remember config.processedEventCache channel.seen event.id with
      | none =>
        (s.setChannel index { channel with seen := [] }).goto (.subscription index) .idle
      | some seen =>
        (s.setChannel index { channel with seen }).goto (.subscription index) (.enqueueing event)

def begin (s : EventBus) (index : Nat) : Option EventBus :=
  match s.pc (.subscription index) with
  | .delivered event => some (s.react index event (cfg.handler index))
  | _ => none

/-- The end of `_on_event` of an agent: its queue has space. -/
def put (s : EventBus) (index : Nat) : Option EventBus :=
  let channel := s.channel index
  match s.pc (.subscription index), cfg.handler index with
  | .enqueueing event, .agent config =>
    if Full config.queueSize channel.agentQueue then none
    else
      some ((s.setChannel index
        { channel with agentQueue := putPriority Event.priority event channel.agentQueue }).goto
          (.subscription index) .idle)
  | _, _ => none

/-- A handler calls `emit`. -/
def emit (s : EventBus) (task : TaskId) (output : Event) : Option EventBus :=
  match s.pc task with
  | .handling event _ => some (s.request task (some event) output)
  | _ => none

/-- A cycle of an agent waits for the tasks it spawned. -/
def gather (s : EventBus) (index number : Nat) (callers : List Nat) : Option EventBus :=
  match s.pc (.worker index number) with
  | .handling event _ => some (s.goto (.worker index number) (.gathering event callers))
  | _ => none

def finished : BusPc → Bool
  | .done => true
  | _ => false

def joined (s : EventBus) (index number : Nat) : Option EventBus :=
  match s.pc (.worker index number) with
  | .gathering event callers =>
    if callers.all fun number => finished (s.pc (.caller number)) then
      some (s.goto (.worker index number) (.handling event none))
    else none
  | _ => none

/-- A handler returns; that of the projector does once its checkpoint is stored. -/
def finish (s : EventBus) (task : TaskId) : Option EventBus :=
  match s.pc task, task with
  | .handling event last, .subscription index =>
    match cfg.handler index with
    | .memoryProjector =>
      if last.any fun stored => stored.type = consumerCheckpointEvent then
        some ((s.setChannel index { s.channel index with completed := some event.seq }).goto task
          .idle)
      else none
    | _ => some (s.goto task .idle)
  | .handling _ _, .worker _ _ => some (s.goto task .idle)
  | _, _ => none

/-- The holder of the emit lock appends its event, which goes on to the bus as it is
projected, with its id and sequence. -/
def commit (s : EventBus) (task : TaskId) (answer : StoreAnswer)
    (projected : Option (Except PyError Event)) : Option EventBus :=
  match s.emitLock.head?, s.pc task with
  | some holder, .emitting handled output =>
    if holder = task then
      match s.log.append output answer, projected with
      | (_, .error _), _ => some (s.release.failed cfg task handled none)
      | (_, .ok stored), none =>
        if (s.log.byId output.id).isSome then some (s.release.emitted task handled stored)
        else none
      | (log, .ok stored), some (.error _) =>
        some (failed cfg { s.release with log } task handled (some stored))
      | (log, .ok stored), some (.ok projected) =>
        if projected.id = stored.id ∧ projected.sequence = stored.sequence then
          some ({ s with log }.goto task
            (.publishing handled stored projected (cfg.recipients projected)))
        else none
    else none
  | _, _ => none

/-- `publish` puts the event on the next queue if it has space, and returns after the last. -/
def publish (s : EventBus) (task : TaskId) : Option EventBus :=
  match s.pc task with
  | .publishing handled stored projected (index :: rest) =>
    let channel := s.channel index
    if Full cfg.queueSize channel.queue then none
    else
      some ((s.setChannel index { channel with queue := channel.queue ++ [projected] }).goto task
        (.publishing handled stored projected rest))
  | .publishing handled stored _ [] => some (s.release.emitted task handled stored)
  | _ => none

def step (s : EventBus) : BusLabel → Option EventBus
  | .call number event => s.call number event
  | .get task => s.get cfg task
  | .begin index => s.begin cfg index
  | .put index => s.put cfg index
  | .emit task output => s.emit task output
  | .gather index number callers => s.gather index number callers
  | .joined index number => s.joined index number
  | .finish task => s.finish cfg task
  | .commit task answer projected => s.commit cfg task answer projected
  | .publish task => s.publish cfg task

end EventBus
end Noema
