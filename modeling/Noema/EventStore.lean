import Noema.Events
import Noema.Lib.OrderedLog

/-!
# The event stores

`InMemoryEventStore`, `SQLiteEventStore` and `PostgresEventStore` keep the same
thing: events under distinct ids, read in the order of their sequences.  An append
of a known id returns the stored event.  A new event gets a sequence above all
stored ones; `gap` counts the numbers a database sequence skipped, and is zero in
the first two stores.
-/
namespace Noema

/-- The sequence of a stored event. -/
def Event.seq (event : Event) : Nat := event.sequence.getD 0

@[simp] theorem Event.withSequence_seq (event : Event) (sequence : Nat) :
    (event.withSequence sequence).seq = sequence := rfl

/-- The stored events, in the order of their sequences. -/
structure EventLog where
  log : OrderedLog Event.seq
  sequenced : ∀ event ∈ log.entries, event.sequence = some event.seq ∧ 0 < event.seq
  distinct : (log.entries.map Event.id).Nodup

/-- What a store does with an `INSERT`: it takes the event, or it raises and stores nothing. -/
inductive StoreAnswer
  | takes (gap : Nat)
  | fails (error : PyError)

namespace EventLog

def empty : EventLog := ⟨.empty, by simp [OrderedLog.empty], by simp [OrderedLog.empty]⟩

/-- `read()`. -/
def events (log : EventLog) : List Event := log.log.entries

/-- `latest_sequence()`. -/
def latestSequence (log : EventLog) : Nat := log.log.latest

/-- The event stored under an id. -/
def byId (log : EventLog) (id : String) : Option Event := log.events.find? fun e => e.id = id

theorem id_of_byId {log : EventLog} {id : String} {event : Event} (h : log.byId id = some event) :
    event ∈ log.events ∧ event.id = id :=
  ⟨List.mem_of_find?_eq_some h, by simpa using List.find?_some h⟩

theorem not_mem_of_byId {log : EventLog} {id : String} (h : log.byId id = none) :
    ∀ event ∈ log.events, event.id ≠ id := by
  intro event hmem hid
  exact List.find?_eq_none.mp h event hmem (by simpa using hid)

/-- A stored event is known by its id, and by its sequence. -/
theorem eq_of_id {log : EventLog} {a b : Event} (ha : a ∈ log.events) (hb : b ∈ log.events)
    (h : a.id = b.id) : a = b :=
  List.inj_on_of_nodup_map log.distinct ha hb h

theorem eq_of_seq {log : EventLog} {a b : Event} (ha : a ∈ log.events) (hb : b ∈ log.events)
    (h : a.seq = b.seq) : a = b :=
  OrderedLog.eq_of_rank ha hb h

/-- Store an event of a new id under an unused sequence. -/
def insert (log : EventLog) (event : Event) (sequence : Nat) (hid : log.byId event.id = none)
    (hpos : 0 < sequence) (hfree : ∀ other ∈ log.events, other.seq ≠ sequence) : EventLog where
  log := log.log.insert (event.withSequence sequence) hfree
  sequenced := by
    intro other hother
    rcases OrderedLog.mem_insert.mp hother with rfl | hother
    · exact ⟨rfl, hpos⟩
    · exact log.sequenced other hother
  distinct := by
    have hperm := (OrderedLog.insert_perm log.log (event.withSequence sequence) hfree).map Event.id
    refine hperm.nodup_iff.mpr (List.nodup_cons.mpr ⟨?_, log.distinct⟩)
    intro hmem
    obtain ⟨other, hother, heq⟩ := List.mem_map.mp hmem
    exact not_mem_of_byId hid other hother heq

theorem mem_insert {log : EventLog} {event : Event} {sequence : Nat}
    (hid : log.byId event.id = none) (hpos : 0 < sequence)
    (hfree : ∀ other ∈ log.events, other.seq ≠ sequence) {other : Event} :
    other ∈ (log.insert event sequence hid hpos hfree).events ↔
      other = event.withSequence sequence ∨ other ∈ log.events :=
  OrderedLog.mem_insert (h := hfree)

theorem seq_le_latest {log : EventLog} {event : Event} (h : event ∈ log.events) :
    event.seq ≤ log.latestSequence :=
  OrderedLog.rank_le_latest h

theorem seq_lt_next (log : EventLog) (gap : Nat) :
    ∀ event ∈ log.events, event.seq < log.latestSequence + gap + 1 := by
  intro event h
  have := seq_le_latest h
  omega

/-- The event a store makes of one it takes. -/
def nextStored (log : EventLog) (event : Event) (gap : Nat) : Event :=
  event.withSequence (log.latestSequence + gap + 1)

/-- `append`. -/
def append (log : EventLog) (event : Event) : StoreAnswer → EventLog × Except PyError Event
  | .fails error => (log, .error error)
  | .takes gap =>
    match h : log.byId event.id with
    | some existing => (log, .ok existing)
    | none =>
      (log.insert event (log.latestSequence + gap + 1) h (Nat.succ_pos _)
        (fun other hother => Nat.ne_of_lt (log.seq_lt_next gap other hother)),
      .ok (log.nextStored event gap))

/-- `append_if_head`. -/
def appendIfHead (log : EventLog) (event : Event) (expectedHeadSequence : Int)
    (answer : StoreAnswer) : EventLog × Except PyError Event :=
  if expectedHeadSequence < 0 then
    (log, .error (.valueError "expected event head sequence cannot be negative"))
  else if (log.byId event.id).isNone ∧ (log.latestSequence : Int) ≠ expectedHeadSequence then
    (log, .error (.concurrentAppendError expectedHeadSequence log.latestSequence))
  else log.append event answer

/-- What a call on the store did: nothing, or it added one event at the end. -/
inductive Appended (log : EventLog) (event : Event) : EventLog → Except PyError Event → Prop
  | refused {error} : Appended log event log (.error error)
  | known {existing} (h : log.byId event.id = some existing) : Appended log event log (.ok existing)
  | added {log' gap} (h : log.byId event.id = none)
      (hevents : log'.events = log.events ++ [log.nextStored event gap])
      (hlatest : log'.latestSequence = (log.nextStored event gap).seq) :
      Appended log event log' (.ok (log.nextStored event gap))

theorem append_appended (log : EventLog) (event : Event) (answer : StoreAnswer) :
    Appended log event (log.append event answer).1 (log.append event answer).2 := by
  cases answer with
  | fails error => exact .refused
  | takes gap =>
    simp only [append]
    split
    · rename_i existing h
      exact .known h
    · rename_i h
      have hfree := fun other hother => Nat.ne_of_lt (log.seq_lt_next gap other hother)
      exact .added h (OrderedLog.insert_above (h := hfree) (log.seq_lt_next gap))
        (OrderedLog.latest_insert_above (h := hfree) (log.seq_lt_next gap))

theorem appendIfHead_appended (log : EventLog) (event : Event) (expected : Int)
    (answer : StoreAnswer) :
    Appended log event (log.appendIfHead event expected answer).1
      (log.appendIfHead event expected answer).2 := by
  unfold appendIfHead
  split
  · exact .refused
  · split
    · exact .refused
    · exact log.append_appended event answer

end EventLog

end Noema
