import Mathlib.Algebra.Group.Int.Defs
import Noema.EventStore
import Noema.JsonText

/-!
# The in-memory store and the SQLite store

`InMemoryEventStore` keeps a list of events and a dictionary of their ids;
`SQLiteEventStore` keeps rows, and makes events of them when they are read.  A call on
either is modelled with everything the code checks: the numbers that the database driver
refuses, the payloads that `json.dumps` refuses, the filter and the limit as each store
understands them.  The two stores answer a sequence of calls alike exactly when every
call is one of those that both understand (`results_eq_iff`): an empty filter of types
selects nothing in memory and everything in SQL, a negative limit drops events in memory
and none in SQL, a number over 64 bits is refused by the driver only, and an event with
the empty id comes back from a row under a new one.
-/
namespace Noema

/-- An event as its constructor accepts it. -/
structure ConstructedEvent where
  event : Event
  type_nonblank : blank event.type = false
  source_nonblank : blank event.source = false

/-- What `str(uuid4())` returns. -/
abbrev Uuid4 := { text : String // text ≠ "" }

/-- A call on an event store. -/
inductive StoreCall
  | append (event : ConstructedEvent)
  | appendIfHead (event : ConstructedEvent) (expectedHeadSequence : Int)
  | read (afterSequence : Int) (limit : Option Int) (types : Option (List String))
  | latestSequence

/-- What a call returns. -/
inductive StoreResult
  | event (event : Event)
  | events (events : List Event)
  | sequence (latest : Nat)

/-- `InMemoryEventStore`. -/
structure InMemoryEventStore where
  events : List Event
  byId : Dict Event

/-- `events[:limit]`. -/
def sliceTo {α : Type} (items : List α) (limit : Int) : List α :=
  items.take (if 0 ≤ limit then limit.toNat else items.length - limit.natAbs)

namespace InMemoryEventStore

def empty : InMemoryEventStore := ⟨[], .empty⟩

/-- `_append_locked`. -/
def appendLocked (store : InMemoryEventStore) (event : Event) : InMemoryEventStore × Event :=
  match store.byId.get? event.id with
  | some existing => (store, existing)
  | none =>
    let stored := event.withSequence (store.events.length + 1)
    (⟨store.events ++ [stored], store.byId.put (event.id, stored)⟩, stored)

/-- `append_if_head`. -/
def appendIfHead (store : InMemoryEventStore) (event : Event) (expectedHeadSequence : Int) :
    InMemoryEventStore × Except PyError Event :=
  if expectedHeadSequence < 0 then
    (store, .error (.valueError "expected event head sequence cannot be negative"))
  else
    match store.byId.get? event.id with
    | some existing => (store, .ok existing)
    | none =>
      let actualHeadSequence := store.events.length
      if (actualHeadSequence : Int) ≠ expectedHeadSequence then
        (store, .error (.concurrentAppendError expectedHeadSequence actualHeadSequence))
      else
        let (store, stored) := store.appendLocked event
        (store, .ok stored)

/-- `read`. -/
def read (store : InMemoryEventStore) (afterSequence : Int) (limit : Option Int)
    (types : Option (List String)) : List Event :=
  let events := store.events.filter fun event =>
    (afterSequence < event.seq) && types.all fun types => types.contains event.type
  match limit with
  | none => events
  | some limit => sliceTo events limit

def call (store : InMemoryEventStore) :
    StoreCall → InMemoryEventStore × Except PyError StoreResult
  | .append event =>
    let (store, stored) := store.appendLocked event.event
    (store, .ok (.event stored))
  | .appendIfHead event expectedHeadSequence =>
    let (store, answer) := store.appendIfHead event.event expectedHeadSequence
    (store, answer.map .event)
  | .read afterSequence limit types => (store, .ok (.events (store.read afterSequence limit types)))
  | .latestSequence => (store, .ok (.sequence store.events.length))

/-- The answers to a sequence of calls. -/
def results (store : InMemoryEventStore) : List StoreCall → List (Except PyError StoreResult)
  | [] => []
  | call :: calls => (store.call call).2 :: (store.call call).1.results calls

end InMemoryEventStore

/-- A row of the table `events`.  The timestamp is kept as the time its text spells. -/
structure EventRow where
  sequence : Nat
  eventId : String
  eventType : String
  source : String
  subject : Option String
  timestamp : Datetime
  correlationId : Option String
  causationId : Option String
  priority : Int
  payloadJson : JsonText
  metadataJson : JsonText
  schemaVersion : Nat

/-- The integers that the driver binds. -/
def fits64 (value : Int) : Bool := -2 ^ 63 ≤ value && value < 2 ^ 63

/-- Bind an integer. -/
def bindInt (value : Int) : Except PyError Int :=
  if fits64 value then .ok value else .error .overflowError

/-- The table `events`, in the order of its primary key. -/
structure SQLiteEventStore where
  rows : List EventRow

namespace SQLiteEventStore

def empty : SQLiteEventStore := ⟨[]⟩

variable (b : Builtins)

/-- `_row_to_event`; an empty id gives way to a new one. -/
def rowToEvent (uuid : Uuid4) (row : EventRow) : Except PyError Event := do
  let id := if row.eventId = "" then uuid.val else row.eventId
  let payload ← b.dict (jsonLoads row.payloadJson)
  let metadata ← b.dict (jsonLoads row.metadataJson)
  if blank row.eventType then .error (.valueError "event type must be non-empty")
  else if blank row.source then .error (.valueError "event source must be non-empty")
  else if h : 0 < row.schemaVersion then
    .ok {
      type := row.eventType, source := row.source, payload, subject := row.subject, id
      timestamp := row.timestamp, correlationId := row.correlationId
      causationId := row.causationId, priority := row.priority, sequence := some row.sequence
      metadata, schemaVersion := row.schemaVersion, schemaVersion_pos := h }
  else .error (.valueError "event schema_version must be positive")

/-- `COALESCE(MAX(sequence), 0)`. -/
def latestSequence (store : SQLiteEventStore) : Nat :=
  (store.rows.map EventRow.sequence).foldr max 0

/-- The parameters of the `INSERT`, bound to a row of the next sequence. -/
def insertedRow (store : SQLiteEventStore) (event : Event) : Except PyError EventRow := do
  let payloadJson ← jsonDumps event.payload.value
  let metadataJson ← jsonDumps event.metadata.value
  let priority ← bindInt event.priority
  let _ ← bindInt event.schemaVersion
  return {
    sequence := store.latestSequence + 1, eventId := event.id, eventType := event.type
    source := event.source, subject := event.subject, timestamp := event.timestamp
    correlationId := event.correlationId, causationId := event.causationId, priority
    payloadJson, metadataJson, schemaVersion := event.schemaVersion }

/-- `_append_sync`, without an outbox topic.  What raises is rolled back. -/
def appendSync (store : SQLiteEventStore) (uuid : Uuid4) (event : Event)
    (expectedHeadSequence : Option Int) : SQLiteEventStore × Except PyError Event :=
  match store.rows.find? fun row => row.eventId = event.id with
  | some existing => (store, rowToEvent b uuid existing)
  | none =>
    let actualHeadSequence := store.latestSequence
    if ∃ expected ∈ expectedHeadSequence, (actualHeadSequence : Int) ≠ expected then
      (store, .error (.concurrentAppendError (expectedHeadSequence.getD 0) actualHeadSequence))
    else
      match store.insertedRow event with
      | .ok row => (⟨store.rows ++ [row]⟩, .ok (event.withSequence row.sequence))
      | .error error => (store, .error error)

/-- `append_if_head`. -/
def appendIfHead (store : SQLiteEventStore) (uuid : Uuid4) (event : Event)
    (expectedHeadSequence : Int) : SQLiteEventStore × Except PyError Event :=
  if expectedHeadSequence < 0 then
    (store, .error (.valueError "expected event head sequence cannot be negative"))
  else store.appendSync b uuid event (some expectedHeadSequence)

/-- `LIMIT ?`; a negative limit is none. -/
def limited {α : Type} (limit : Option Int) (rows : List α) : List α :=
  limit.elim rows fun limit => if limit < 0 then rows else rows.take limit.toNat

/-- `SELECT * FROM events WHERE sequence > ? … ORDER BY sequence ASC LIMIT ?`: an empty
filter adds no clause. -/
def select (store : SQLiteEventStore) (afterSequence : Int) (limit : Option Int)
    (types : List String) : List EventRow :=
  let rows := store.rows.filter fun row =>
    (afterSequence < row.sequence) && (types.isEmpty || types.contains row.eventType)
  limited limit (rows.mergeSort fun a c => a.sequence ≤ c.sequence)

/-- `_read_sync`. -/
def readSync (store : SQLiteEventStore) (uuids : Nat → Uuid4) (afterSequence : Int)
    (limit : Option Int) (types : Option (List String)) : Except PyError (List Event) := do
  let afterSequence ← bindInt afterSequence
  let limit ← limit.mapM bindInt
  (store.select afterSequence limit (types.getD [])).zipIdx.mapM fun (row, index) =>
    rowToEvent b (uuids index) row

/-- A call, with the ids that `uuid4` would return meanwhile. -/
def call (store : SQLiteEventStore) (uuids : Nat → Uuid4) :
    StoreCall → SQLiteEventStore × Except PyError StoreResult
  | .append event =>
    let (store, answer) := store.appendSync b (uuids 0) event.event none
    (store, answer.map .event)
  | .appendIfHead event expectedHeadSequence =>
    let (store, answer) := store.appendIfHead b (uuids 0) event.event expectedHeadSequence
    (store, answer.map .event)
  | .read afterSequence limit types =>
    (store, (store.readSync b uuids afterSequence limit types).map .events)
  | .latestSequence => (store, .ok (.sequence store.latestSequence))

/-- The answers to a sequence of calls. -/
def results (store : SQLiteEventStore) (uuids : Nat → Nat → Uuid4) :
    List StoreCall → List (Except PyError StoreResult)
  | [] => []
  | call :: calls =>
    (store.call b (uuids 0) call).2 ::
      (store.call b (uuids 0) call).1.results (fun index => uuids (index + 1)) calls

end SQLiteEventStore

/-- An event with the keys of its payloads in order. -/
def Event.sortKeys (event : Event) : Event :=
  { event with payload := event.payload.sortKeys, metadata := event.metadata.sortKeys }

/-- A result up to the order of dictionary keys, which `==` does not see. -/
def StoreResult.sortKeys : StoreResult → StoreResult
  | .event stored => .event stored.sortKeys
  | .events stored => .events (stored.map Event.sortKeys)
  | .sequence latest => .sequence latest

/-- An answer as `==` sees it. -/
def compared (answer : Except PyError StoreResult) : Except PyError StoreResult :=
  answer.map StoreResult.sortKeys

/-- The row of a new event can be written. -/
def Event.Writable (event : Event) : Prop :=
  event.payload.value.printable ∧ event.metadata.value.printable ∧
    fits64 event.priority ∧ fits64 event.schemaVersion

namespace InMemoryEventStore

/-- A new event can be written, and a known one does not have the empty id. -/
def Appendable (store : InMemoryEventStore) (event : Event) : Prop :=
  match store.byId.get? event.id with
  | some _ => event.id ≠ ""
  | none => event.Writable

/-- The stored events after a cursor with one of some types; no type means any. -/
def matching (store : InMemoryEventStore) (afterSequence : Int) (types : List String) :
    List Event :=
  store.events.filter fun event =>
    (afterSequence < event.seq) && (types.isEmpty || types.contains event.type)

/-- The first items, up to a limit. -/
def upTo {α : Type} (limit : Option Int) (items : List α) : List α :=
  limit.elim items fun limit => items.take limit.toNat

/-- **A call that both stores understand alike.**  An append is refused by both or
reaches an event that a row can hold.  A read passes numbers within 64 bits; with an
empty filter or a negative limit it finds nothing or asks for nothing; and it returns no
event with the empty id. -/
def Understood (store : InMemoryEventStore) : StoreCall → Prop
  | .append event => store.Appendable event.event
  | .appendIfHead event expected =>
    expected < 0 ∨
      (store.byId.get? event.event.id = none ∧ (store.events.length : Int) ≠ expected) ∨
      store.Appendable event.event
  | .read afterSequence limit types =>
    fits64 afterSequence ∧ (∀ bound ∈ limit, fits64 bound) ∧
      ((types = some [] ∨ ∃ bound ∈ limit, bound < 0) →
        store.matching afterSequence (types.getD []) = [] ∨ limit = some 0) ∧
      ∀ event ∈ upTo limit (store.matching afterSequence (types.getD [])), event.id ≠ ""
  | .latestSequence => True

/-- Each of a sequence of calls is understood when its turn comes. -/
def Understands (store : InMemoryEventStore) : List StoreCall → Prop
  | [] => True
  | call :: calls => store.Understood call ∧ (store.call call).1.Understands calls

end InMemoryEventStore

/-- The row of a stored event. -/
def rowOf (event : Event) : EventRow where
  sequence := event.seq
  eventId := event.id
  eventType := event.type
  source := event.source
  subject := event.subject
  timestamp := event.timestamp
  correlationId := event.correlationId
  causationId := event.causationId
  priority := event.priority
  payloadJson := ⟨event.payload.value.sortKeys⟩
  metadataJson := ⟨event.metadata.value.sortKeys⟩
  schemaVersion := event.schemaVersion

/-- An event read back from its row. -/
def restored (uuid : Uuid4) (event : Event) : Event :=
  { event.sortKeys with id := if event.id = "" then uuid.val else event.id }

/-- **The rows of one store are those of the events in the other.** -/
structure Mirrors (memory : InMemoryEventStore) (sqlite : SQLiteEventStore) : Prop where
  sequenced : memory.events.map Event.sequence =
    (List.range' 1 memory.events.length).map some
  byId : ∀ id, memory.byId.get? id = memory.events.find? fun event => event.id = id
  constructed : ∀ event ∈ memory.events, blank event.type = false ∧ blank event.source = false
  rows : sqlite.rows = memory.events.map rowOf

variable {memory : InMemoryEventStore} {sqlite : SQLiteEventStore} {b : Builtins}

theorem mirrors_empty : Mirrors .empty .empty :=
  ⟨rfl, fun _ => rfl, fun _ hmem => (nomatch hmem), rfl⟩

theorem sortKeys_restored {uuid : Uuid4} {event : Event} :
    (restored uuid event).sortKeys = event.sortKeys ↔ event.id ≠ "" := by
  constructor
  · intro h hid
    have hids : (if event.id = "" then uuid.val else event.id) = event.id :=
      congrArg Event.id h
    rw [if_pos hid, hid] at hids
    exact uuid.property hids
  · intro hid
    simp [restored, Event.sortKeys, hid]

theorem rowToEvent_rowOf {event : Event} (htype : blank event.type = false)
    (hsource : blank event.source = false) {sequence : Nat}
    (hsequence : event.sequence = some sequence) (uuid : Uuid4) :
    SQLiteEventStore.rowToEvent b uuid (rowOf event) = .ok (restored uuid event) := by
  have hseq : some event.seq = event.sequence := by rw [Event.seq, hsequence]; rfl
  unfold SQLiteEventStore.rowToEvent
  simp only [rowOf, Payload.dict_loads, ok_bind, htype, hsource, Bool.false_eq_true, if_false,
    dif_pos event.schemaVersion_pos, restored, Event.sortKeys, hseq]
  rfl

namespace Mirrors

/-- A dictionary entry is an event of the list. -/
theorem mem_of_byId (h : Mirrors memory sqlite) {id : String} {event : Event}
    (hfind : memory.byId.get? id = some event) : event ∈ memory.events ∧ event.id = id := by
  rw [h.byId] at hfind
  exact ⟨List.mem_of_find?_eq_some hfind, by simpa using List.find?_some hfind⟩

theorem sequence_of_mem (h : Mirrors memory sqlite) {event : Event}
    (hmem : event ∈ memory.events) : event.sequence = some event.seq := by
  have hseq := List.mem_map_of_mem (f := Event.sequence) hmem
  rw [h.sequenced] at hseq
  obtain ⟨sequence, -, heq⟩ := List.mem_map.mp hseq
  rw [Event.seq, ← heq]
  rfl

theorem seqs (h : Mirrors memory sqlite) :
    memory.events.map Event.seq = List.range' 1 memory.events.length := by
  have hseqs := congrArg (List.map fun sequence : Option Nat => sequence.getD 0) h.sequenced
  rw [List.map_map, List.map_map] at hseqs
  refine hseqs.trans ?_
  exact List.map_id' _

/-- The row under an id. -/
theorem row_find (h : Mirrors memory sqlite) (id : String) :
    (sqlite.rows.find? fun row => row.eventId = id) = (memory.byId.get? id).map rowOf := by
  rw [h.rows, h.byId, List.find?_map]
  rfl

theorem latest (h : Mirrors memory sqlite) : sqlite.latestSequence = memory.events.length := by
  have hmax : ∀ count base, (List.range' 1 count).foldr max base = max count base := by
    intro count
    induction count with
    | zero => intro base; simp
    | succ count ih =>
      intro base
      rw [List.range'_concat, List.foldr_append, ih]
      simp only [List.foldr_cons, List.foldr_nil]
      omega
  rw [SQLiteEventStore.latestSequence, h.rows, List.map_map]
  show (memory.events.map Event.seq).foldr max 0 = _
  rw [h.seqs, hmax, Nat.max_zero]

/-- What a row gives back of a stored event. -/
theorem rowToEvent (h : Mirrors memory sqlite) {event : Event} (hmem : event ∈ memory.events)
    (uuid : Uuid4) :
    SQLiteEventStore.rowToEvent b uuid (rowOf event) = .ok (restored uuid event) :=
  rowToEvent_rowOf (h.constructed event hmem).1 (h.constructed event hmem).2
    (h.sequence_of_mem hmem) uuid

/-- A writable event gets the same sequence in both stores. -/
theorem appended (h : Mirrors memory sqlite) {event : ConstructedEvent}
    (hnew : memory.byId.get? event.event.id = none) :
    Mirrors (memory.appendLocked event.event).1
      ⟨sqlite.rows ++ [rowOf (event.event.withSequence (memory.events.length + 1))]⟩ := by
  have hmade : (memory.appendLocked event.event).1 =
      ⟨memory.events ++ [event.event.withSequence (memory.events.length + 1)],
        memory.byId.put (event.event.id,
          event.event.withSequence (memory.events.length + 1))⟩ := by
    simp only [InMemoryEventStore.appendLocked, hnew]
  rw [hmade]
  refine ⟨?_, fun id => ?_, fun other hother => ?_, ?_⟩
  · dsimp only
    rw [List.map_append, h.sequenced, List.length_append, List.length_singleton,
      List.range'_concat, List.map_append]
    simp [Nat.add_comm]
  · dsimp only
    rw [Dict.get?_put, List.find?_append, ← h.byId]
    by_cases hid : event.event.id = id
    · rw [if_pos hid, ← hid, hnew, Option.none_or, List.find?_cons_of_pos (by simp)]
    · rw [if_neg hid, List.find?_cons_of_neg (by simp [hid]), List.find?_nil, Option.or_none]
  · rcases List.mem_append.mp hother with hold | hnew
    · exact h.constructed other hold
    · rw [List.mem_singleton.mp hnew]
      exact ⟨event.type_nonblank, event.source_nonblank⟩
  · dsimp only
    rw [h.rows, List.map_append]
    rfl

/-- **The event log that the kernel runs on is the in-memory store**, with no sequence
skipped. -/
theorem append_log (h : Mirrors memory sqlite) {log : EventLog}
    (hlog : log.events = memory.events) (event : Event) :
    (log.append event (.takes 0)).1.events = (memory.appendLocked event).1.events ∧
      (log.append event (.takes 0)).2 = .ok (memory.appendLocked event).2 := by
  have hbyId : log.byId event.id = memory.byId.get? event.id := by
    rw [h.byId, EventLog.byId, hlog]
  have hlatest : log.latestSequence = memory.events.length := by
    rw [EventLog.latestSequence, OrderedLog.latest, ← List.getLast?_map]
    show ((log.events.map Event.seq).getLast?).getD 0 = _
    rw [hlog, h.seqs]
    cases memory.events.length with
    | zero => rfl
    | succ count => simp [List.range'_concat, Nat.add_comm]
  simp only [EventLog.append, InMemoryEventStore.appendLocked]
  split
  · rename_i existing hfind
    rw [hbyId.symm.trans hfind]
    exact ⟨hlog, rfl⟩
  · rename_i hfind
    rw [hbyId.symm.trans hfind]
    have hfree := fun other hother => Nat.ne_of_lt (log.seq_lt_next 0 other hother)
    refine ⟨(OrderedLog.insert_above (h := hfree) (log.seq_lt_next 0)).trans ?_, ?_⟩
    · show log.events ++ [_] = _
      rw [hlog, hlatest]
    · show Except.ok (event.withSequence (log.latestSequence + 0 + 1)) = _
      rw [hlatest]

end Mirrors

theorem bindInt_ok {value : Int} (h : fits64 value) : bindInt value = .ok value := if_pos h

theorem fits_of_bindInt {value bound : Int} (h : bindInt value = .ok bound) : fits64 value := by
  unfold bindInt at h
  split at h
  · assumption
  · cases h

/-- A row is inserted exactly when it can be written. -/
theorem insertedRow_of_writable (h : Mirrors memory sqlite) {event : Event}
    (hwritable : event.Writable) :
    sqlite.insertedRow event =
      .ok (rowOf (event.withSequence (memory.events.length + 1))) := by
  obtain ⟨hpayload, hmetadata, hpriority, hversion⟩ := hwritable
  simp only [SQLiteEventStore.insertedRow, jsonDumps, hpayload, hmetadata, if_true,
    bindInt_ok hpriority, bindInt_ok hversion, h.latest]
  rfl

theorem insertedRow_of_not_writable (sqlite : SQLiteEventStore) {event : Event} (hwritable : ¬ event.Writable) :
    ∃ error, sqlite.insertedRow event = .error error := by
  cases hrow : sqlite.insertedRow event with
  | error error => exact ⟨error, rfl⟩
  | ok row =>
    exfalso
    unfold SQLiteEventStore.insertedRow at hrow
    obtain ⟨payload, hpayload, hrow⟩ := bind_eq_ok hrow
    obtain ⟨metadata, hmetadata, hrow⟩ := bind_eq_ok hrow
    obtain ⟨priority, hpriority, hrow⟩ := bind_eq_ok hrow
    obtain ⟨version, hversion, hrow⟩ := bind_eq_ok hrow
    exact hwritable ⟨printable_of_dumps hpayload, printable_of_dumps hmetadata,
      fits_of_bindInt hpriority, fits_of_bindInt hversion⟩

section Appends

variable {event : Event} {expected : Option Int} {uuid : Uuid4}

theorem appendSync_known (h : Mirrors memory sqlite) {existing : Event}
    (hknown : memory.byId.get? event.id = some existing) :
    sqlite.appendSync b uuid event expected = (sqlite, .ok (restored uuid existing)) := by
  have hrow := h.row_find event.id
  rw [hknown, Option.map_some] at hrow
  rw [SQLiteEventStore.appendSync, hrow]
  exact congrArg _ (h.rowToEvent (h.mem_of_byId hknown).1 uuid)

theorem appendSync_behind (h : Mirrors memory sqlite) (hnew : memory.byId.get? event.id = none)
    (hhead : ∃ head ∈ expected, (memory.events.length : Int) ≠ head) :
    sqlite.appendSync b uuid event expected =
      (sqlite, .error (.concurrentAppendError (expected.getD 0) memory.events.length)) := by
  have hrow := h.row_find event.id
  rw [hnew, Option.map_none] at hrow
  rw [SQLiteEventStore.appendSync, hrow]
  dsimp only
  rw [h.latest, if_pos hhead]

/-- At the expected head the insert decides. -/
theorem appendSync_insert (h : Mirrors memory sqlite) (hnew : memory.byId.get? event.id = none)
    (hhead : ¬ ∃ head ∈ expected, (memory.events.length : Int) ≠ head) :
    sqlite.appendSync b uuid event expected =
      match sqlite.insertedRow event with
      | .ok row => (⟨sqlite.rows ++ [row]⟩, .ok (event.withSequence row.sequence))
      | .error error => (sqlite, .error error) := by
  have hrow := h.row_find event.id
  rw [hnew, Option.map_none] at hrow
  rw [SQLiteEventStore.appendSync, hrow]
  dsimp only
  rw [h.latest, if_neg hhead]

end Appends

theorem appendLocked_known {event existing : Event}
    (hknown : memory.byId.get? event.id = some existing) :
    memory.appendLocked event = (memory, existing) := by
  simp only [InMemoryEventStore.appendLocked, hknown]

theorem appendLocked_new {event : Event} (hnew : memory.byId.get? event.id = none) :
    (memory.appendLocked event).2 = event.withSequence (memory.events.length + 1) := by
  simp only [InMemoryEventStore.appendLocked, hnew]

/-- Two answers of appends are compared by their events. -/
theorem compared_event {event other : Event} :
    compared ((Except.ok event).map .event) = compared ((Except.ok other).map .event) ↔
      event.sortKeys = other.sortKeys := by
  simp [compared, Except.map, StoreResult.sortKeys]

theorem compared_ok_error {event : Event} {error : PyError} :
    ¬ compared ((Except.ok event).map .event) = compared ((Except.error error).map .event) := by
  simp [compared, Except.map]

/-- What the two stores do with an append at the expected head. -/
theorem append_agrees (h : Mirrors memory sqlite) (event : ConstructedEvent) (uuid : Uuid4)
    {expected : Option Int} (hhead : memory.byId.get? event.event.id = none →
      ¬ ∃ head ∈ expected, (memory.events.length : Int) ≠ head) :
    (compared ((Except.ok (memory.appendLocked event.event).2).map .event) =
        compared ((sqlite.appendSync b uuid event.event expected).2.map .event) ↔
      memory.Appendable event.event) ∧
    (memory.Appendable event.event → Mirrors (memory.appendLocked event.event).1
      (sqlite.appendSync b uuid event.event expected).1) := by
  cases hfind : memory.byId.get? event.event.id with
  | some existing =>
    have hid := (h.mem_of_byId hfind).2
    rw [appendLocked_known hfind, appendSync_known h hfind]
    simp only [InMemoryEventStore.Appendable, hfind]
    refine ⟨?_, fun _ => h⟩
    rw [compared_event, eq_comm, sortKeys_restored, hid]
  | none =>
    rw [appendSync_insert h hfind (hhead hfind), appendLocked_new hfind]
    simp only [InMemoryEventStore.Appendable, hfind]
    by_cases hwritable : event.event.Writable
    · rw [insertedRow_of_writable h hwritable]
      exact ⟨iff_of_true rfl hwritable, fun _ => h.appended hfind⟩
    · obtain ⟨error, herror⟩ := insertedRow_of_not_writable sqlite hwritable
      rw [herror]
      exact ⟨iff_of_false compared_ok_error hwritable, fun hnot => absurd hnot hwritable⟩

/-- **One call.**  The answers agree exactly when the call is understood, and then the
stores go on alike. -/
def Agrees (b : Builtins) (uuids : Nat → Uuid4) (memory : InMemoryEventStore)
    (sqlite : SQLiteEventStore) (call : StoreCall) : Prop :=
  (compared (memory.call call).2 = compared (sqlite.call b uuids call).2 ↔
      memory.Understood call) ∧
    (memory.Understood call → Mirrors (memory.call call).1 (sqlite.call b uuids call).1)

theorem agrees_append (h : Mirrors memory sqlite) (uuids : Nat → Uuid4)
    (event : ConstructedEvent) : Agrees b uuids memory sqlite (.append event) :=
  append_agrees h event (uuids 0) fun _ ⟨_, hnone, _⟩ => nomatch hnone

theorem agrees_appendIfHead (h : Mirrors memory sqlite) (uuids : Nat → Uuid4)
    (event : ConstructedEvent) (expected : Int) :
    Agrees b uuids memory sqlite (.appendIfHead event expected) := by
  unfold Agrees
  by_cases hneg : expected < 0
  · simp only [InMemoryEventStore.call, SQLiteEventStore.call, InMemoryEventStore.appendIfHead,
      SQLiteEventStore.appendIfHead, if_pos hneg, InMemoryEventStore.Understood]
    exact ⟨iff_of_true trivial (Or.inl hneg), fun _ => h⟩
  by_cases hbehind : memory.byId.get? event.event.id = none ∧
      (memory.events.length : Int) ≠ expected
  · have hmemory : memory.appendIfHead event.event expected =
        (memory, .error (.concurrentAppendError expected memory.events.length)) := by
      simp only [InMemoryEventStore.appendIfHead, if_neg hneg, hbehind.1]
      exact if_pos hbehind.2
    have hsqlite : sqlite.appendIfHead b (uuids 0) event.event expected =
        (sqlite, .error (.concurrentAppendError expected memory.events.length)) := by
      rw [SQLiteEventStore.appendIfHead, if_neg hneg]
      exact appendSync_behind h hbehind.1 ⟨expected, rfl, hbehind.2⟩
    simp only [InMemoryEventStore.call, SQLiteEventStore.call, hmemory, hsqlite]
    exact ⟨iff_of_true trivial (Or.inr (Or.inl hbehind)), fun _ => h⟩
  · have hhead : memory.byId.get? event.event.id = none →
        ¬ ∃ head ∈ some expected, (memory.events.length : Int) ≠ head := by
      rintro hnew ⟨head, hsome, hne⟩
      obtain rfl := Option.some.inj hsome
      exact hbehind ⟨hnew, hne⟩
    have hmemory : memory.appendIfHead event.event expected =
        ((memory.appendLocked event.event).1, .ok (memory.appendLocked event.event).2) := by
      cases hfind : memory.byId.get? event.event.id with
      | some existing =>
        simp only [InMemoryEventStore.appendIfHead, if_neg hneg, hfind, appendLocked_known hfind]
      | none =>
        have heq : ¬ (memory.events.length : Int) ≠ expected := fun hne => hbehind ⟨hfind, hne⟩
        simp only [InMemoryEventStore.appendIfHead, if_neg hneg, hfind, if_neg heq]
    have hunderstood : memory.Understood (.appendIfHead event expected) ↔
        memory.Appendable event.event := by
      refine ⟨?_, fun happendable => Or.inr (Or.inr happendable)⟩
      rintro (hneg' | hbehind' | happendable)
      · exact absurd hneg' hneg
      · exact absurd hbehind' hbehind
      · exact happendable
    rw [hunderstood]
    simp only [InMemoryEventStore.call, SQLiteEventStore.call, hmemory,
      SQLiteEventStore.appendIfHead, if_neg hneg]
    exact append_agrees h event (uuids 0) hhead

section Reads

variable {afterSequence : Int} {limit : Option Int} {types : Option (List String)}

theorem limited_map {α β : Type} (f : α → β) (items : List α) :
    SQLiteEventStore.limited limit (items.map f) =
      (SQLiteEventStore.limited limit items).map f := by
  cases limit with
  | none => rfl
  | some bound =>
    simp only [SQLiteEventStore.limited, Option.elim_some]
    split
    · rfl
    · rw [List.map_take]

theorem mem_of_limited {α : Type} {items : List α} {item : α}
    (h : item ∈ SQLiteEventStore.limited limit items) : item ∈ items := by
  cases limit with
  | none => exact h
  | some bound =>
    simp only [SQLiteEventStore.limited, Option.elim_some] at h
    split at h
    · exact h
    · exact List.mem_of_mem_take h

/-- What the `SELECT` finds are the rows of the matching events. -/
theorem select_rows (h : Mirrors memory sqlite) (names : List String) :
    sqlite.select afterSequence limit names =
      (SQLiteEventStore.limited limit (memory.matching afterSequence names)).map rowOf := by
  have hfilter : (sqlite.rows.filter fun row => decide (afterSequence < row.sequence) &&
      (names.isEmpty || names.contains row.eventType)) =
      (memory.matching afterSequence names).map rowOf := by
    rw [h.rows, List.filter_map]
    rfl
  have hordered : ((memory.matching afterSequence names).map rowOf).Pairwise
      fun a c => decide (a.sequence ≤ c.sequence) = true := by
    have hseqs : memory.events.Pairwise fun a c => a.seq < c.seq := by
      refine List.pairwise_map.mp ?_
      rw [h.seqs]
      exact List.pairwise_lt_range'
    refine List.pairwise_map.mpr ((hseqs.sublist List.filter_sublist).imp fun hlt => ?_)
    rw [decide_eq_true_iff]
    exact hlt.le
  rw [SQLiteEventStore.select, hfilter, List.mergeSort_of_pairwise hordered, limited_map]

/-- Events read back one after another, each row with its own new id at hand. -/
def restoredFrom (uuids : Nat → Uuid4) : Nat → List Event → List Event
  | _, [] => []
  | index, event :: events => restored (uuids index) event :: restoredFrom uuids (index + 1) events

theorem mapM_rows (h : Mirrors memory sqlite) (uuids : Nat → Uuid4) {events : List Event}
    (hmem : ∀ event ∈ events, event ∈ memory.events) (index : Nat) :
    (((events.map rowOf).zipIdx index).mapM fun entry =>
      SQLiteEventStore.rowToEvent b (uuids entry.2) entry.1) =
      .ok (restoredFrom uuids index events) := by
  induction events generalizing index with
  | nil => rfl
  | cons event events ih =>
    rw [List.map_cons, List.zipIdx_cons, List.mapM_cons,
      bind_of_ok (h.rowToEvent (hmem event List.mem_cons_self) (uuids index)),
      bind_of_ok (ih (fun other hother => hmem other (List.mem_cons_of_mem _ hother)) (index + 1))]
    rfl

/-- Nothing is lost but empty ids. -/
theorem sortKeys_restoredFrom (uuids : Nat → Uuid4) (events : List Event) (index : Nat) :
    (restoredFrom uuids index events).map Event.sortKeys = events.map Event.sortKeys ↔
      ∀ event ∈ events, event.id ≠ "" := by
  induction events generalizing index with
  | nil => simp [restoredFrom]
  | cons event events ih =>
    rw [restoredFrom, List.map_cons, List.map_cons, List.cons_eq_cons, sortKeys_restored, ih,
      List.forall_mem_cons]

theorem length_restoredFrom (uuids : Nat → Uuid4) (events : List Event) (index : Nat) :
    (restoredFrom uuids index events).length = events.length := by
  induction events generalizing index with
  | nil => rfl
  | cons event events ih => rw [restoredFrom, List.length_cons, ih, List.length_cons]

/-- Nothing is selected, or nothing is asked for. -/
abbrev NothingRead (memory : InMemoryEventStore) (afterSequence : Int) (limit : Option Int)
    (types : Option (List String)) : Prop :=
  memory.matching afterSequence (types.getD []) = [] ∨ limit = some 0

/-- In memory the empty filter selects nothing. -/
theorem read_empty_filter : memory.read afterSequence limit (some []) = [] := by
  unfold InMemoryEventStore.read
  cases limit with
  | none => simp
  | some bound => simp [sliceTo]

/-- Any other filter selects the matching events. -/
theorem read_matching (htypes : types ≠ some []) :
    memory.read afterSequence limit types =
      limit.elim (memory.matching afterSequence (types.getD []))
        (sliceTo (memory.matching afterSequence (types.getD []))) := by
  have hfilter : (memory.events.filter fun event => decide (afterSequence < event.seq) &&
      types.all fun types => types.contains event.type) =
      memory.matching afterSequence (types.getD []) := by
    refine List.filter_congr fun event _ => ?_
    match types with
    | none => rfl
    | some [] => exact absurd rfl htypes
    | some (first :: rest) => rfl
  unfold InMemoryEventStore.read
  rw [hfilter]
  cases limit <;> rfl

/-- The list slice and the `LIMIT` agree unless the limit is negative. -/
theorem sliceTo_limited {α : Type} (items : List α) {bound : Int}
    (h : bound < 0 → items = []) :
    sliceTo items bound = SQLiteEventStore.limited (some bound) items ∧
      InMemoryEventStore.upTo (some bound) items = SQLiteEventStore.limited (some bound) items := by
  by_cases hneg : bound < 0
  · rw [h hneg]
    simp [sliceTo, SQLiteEventStore.limited, InMemoryEventStore.upTo]
  · simp only [sliceTo, SQLiteEventStore.limited, InMemoryEventStore.upTo, Option.elim_some,
      if_neg hneg, if_pos (not_lt.mp hneg), and_self]

/-- A negative limit drops an event in memory and none in SQL. -/
theorem sliceTo_ne_limited {α : Type} {items : List α} (hitems : items ≠ []) {bound : Int}
    (hneg : bound < 0) :
    (sliceTo items bound).length ≠ (SQLiteEventStore.limited (some bound) items).length := by
  have hlength := List.length_pos_of_ne_nil hitems
  simp only [sliceTo, SQLiteEventStore.limited, Option.elim_some, if_pos hneg,
    if_neg (not_le.mpr hneg), List.length_take]
  omega

theorem limited_ne_nil {α : Type} {items : List α} (hitems : items ≠ [])
    (hlimit : limit ≠ some 0) : SQLiteEventStore.limited limit items ≠ [] := by
  cases limit with
  | none => exact hitems
  | some bound =>
    simp only [SQLiteEventStore.limited, Option.elim_some]
    split
    · exact hitems
    · rename_i hneg
      have hbound : bound ≠ 0 := fun hzero => hlimit (by rw [hzero])
      have hlength := List.length_pos_of_ne_nil hitems
      refine List.ne_nil_of_length_pos ?_
      rw [List.length_take]
      omega

/-- What the two reads select is the same, or of different length. -/
theorem read_limited (memory : InMemoryEventStore) (afterSequence : Int) (limit : Option Int)
    (types : Option (List String)) :
    (((types = some [] ∨ ∃ bound ∈ limit, bound < 0) →
        NothingRead memory afterSequence limit types) →
      memory.read afterSequence limit types = SQLiteEventStore.limited limit
          (memory.matching afterSequence (types.getD [])) ∧
        InMemoryEventStore.upTo limit (memory.matching afterSequence (types.getD [])) =
          SQLiteEventStore.limited limit (memory.matching afterSequence (types.getD []))) ∧
    (¬ ((types = some [] ∨ ∃ bound ∈ limit, bound < 0) →
        NothingRead memory afterSequence limit types) →
      (memory.read afterSequence limit types).length ≠ (SQLiteEventStore.limited limit
          (memory.matching afterSequence (types.getD []))).length) := by
  by_cases htypes : types = some []
  · subst htypes
    rw [read_empty_filter]
    refine ⟨fun hnothing => ?_, fun hsome hempty => ?_⟩
    · rcases hnothing (Or.inl rfl) with hnone | rfl
      · rw [hnone]
        cases limit <;> simp [SQLiteEventStore.limited, InMemoryEventStore.upTo]
      · simp [SQLiteEventStore.limited, InMemoryEventStore.upTo]
    · refine hsome fun _ => ?_
      by_contra hread
      obtain ⟨hitems, hlimit⟩ := not_or.mp hread
      exact limited_ne_nil hitems hlimit (List.eq_nil_of_length_eq_zero hempty.symm)
  · rw [read_matching htypes]
    cases limit with
    | none =>
      refine ⟨fun _ => ⟨rfl, rfl⟩, fun hnot => absurd (fun hor => ?_) hnot⟩
      rcases hor with hempty | ⟨bound, hnone, -⟩
      · exact absurd hempty htypes
      · cases hnone
    | some bound =>
      refine ⟨fun hnothing => sliceTo_limited _ fun hneg => ?_, fun hnot => ?_⟩
      · rcases hnothing (Or.inr ⟨bound, rfl, hneg⟩) with hnone | hzero
        · exact hnone
        · obtain rfl := Option.some.inj hzero
          exact absurd hneg (lt_irrefl 0)
      · obtain ⟨hor, hread⟩ := Classical.not_imp.mp hnot
        obtain ⟨hitems, -⟩ := not_or.mp hread
        rcases hor with hempty | ⟨other, hother, hneg⟩
        · exact absurd hempty htypes
        · obtain rfl := Option.some.inj hother
          exact sliceTo_ne_limited hitems hneg

end Reads

theorem bindInt_error {value : Int} (h : ¬ fits64 value) :
    bindInt value = .error .overflowError := if_neg h

theorem agrees_read (h : Mirrors memory sqlite) (uuids : Nat → Uuid4) (afterSequence : Int)
    (limit : Option Int) (types : Option (List String)) :
    Agrees b uuids memory sqlite (.read afterSequence limit types) := by
  refine ⟨?_, fun _ => h⟩
  dsimp only [InMemoryEventStore.call, SQLiteEventStore.call, InMemoryEventStore.Understood]
  by_cases hafter : fits64 afterSequence
  swap
  · rw [SQLiteEventStore.readSync, bindInt_error hafter]
    exact iff_of_false (fun heq => nomatch heq) fun hall => hafter hall.1
  by_cases hlimit : ∀ bound ∈ limit, fits64 bound
  swap
  · rw [SQLiteEventStore.readSync, bindInt_ok hafter, ok_bind]
    cases limit with
    | none => exact absurd (fun _ hnone => nomatch hnone) hlimit
    | some bound =>
      have hbound : ¬ fits64 bound := fun hfits => hlimit fun other hother => by
        rw [← Option.some.inj hother]
        exact hfits
      rw [Option.mapM_some, bindInt_error hbound]
      exact iff_of_false (fun heq => nomatch heq) fun hall => hlimit hall.2.1
  -- Both reads return; they are compared by what they select.
  have hbound : limit.mapM bindInt = .ok limit := by
    cases limit with
    | none => rfl
    | some bound =>
      rw [Option.mapM_some, bindInt_ok (hlimit bound rfl)]
      rfl
  have hselected : ∀ event ∈ SQLiteEventStore.limited limit
      (memory.matching afterSequence (types.getD [])), event ∈ memory.events :=
    fun event hmem => List.mem_of_mem_filter (mem_of_limited hmem)
  have hread : sqlite.readSync b uuids afterSequence limit types =
      .ok (restoredFrom uuids 0 (SQLiteEventStore.limited limit
        (memory.matching afterSequence (types.getD [])))) := by
    rw [SQLiteEventStore.readSync, bindInt_ok hafter, ok_bind, hbound, ok_bind, select_rows h]
    exact mapM_rows h uuids hselected 0
  have hcompared : ∀ events others : List Event,
      compared (.ok (.events events)) = compared ((Except.ok others).map .events) ↔
        events.map Event.sortKeys = others.map Event.sortKeys := by
    intro events others
    simp [compared, Except.map, StoreResult.sortKeys]
  obtain ⟨hsame, hother⟩ := read_limited memory afterSequence limit types
  rw [hread, hcompared]
  by_cases hclause : (types = some [] ∨ ∃ bound ∈ limit, bound < 0) →
      NothingRead memory afterSequence limit types
  · obtain ⟨hmemory, hupTo⟩ := hsame hclause
    rw [hmemory, hupTo, eq_comm, sortKeys_restoredFrom]
    exact ⟨fun hids => ⟨hafter, hlimit, hclause, hids⟩, fun hall => hall.2.2.2⟩
  · refine iff_of_false (fun heq => hother hclause ?_) fun hall => hclause hall.2.2.1
    have hlengths := congrArg List.length heq
    rwa [List.length_map, List.length_map, length_restoredFrom] at hlengths

/-- **Every call.** -/
theorem agrees (h : Mirrors memory sqlite) (uuids : Nat → Uuid4) (call : StoreCall) :
    Agrees b uuids memory sqlite call := by
  cases call with
  | append event => exact agrees_append h uuids event
  | appendIfHead event expected => exact agrees_appendIfHead h uuids event expected
  | read afterSequence limit types => exact agrees_read h uuids afterSequence limit types
  | latestSequence =>
    refine ⟨iff_of_true ?_ trivial, fun _ => h⟩
    dsimp only [InMemoryEventStore.call, SQLiteEventStore.call]
    rw [h.latest]

theorem results_eq_of_mirrors (h : Mirrors memory sqlite) (uuids : Nat → Nat → Uuid4)
    (calls : List StoreCall) :
    (memory.results calls).map compared = (sqlite.results b uuids calls).map compared ↔
      memory.Understands calls := by
  induction calls generalizing memory sqlite uuids with
  | nil => exact iff_of_true rfl trivial
  | cons call calls ih =>
    obtain ⟨hanswer, hnext⟩ := agrees (b := b) h (uuids 0) call
    rw [InMemoryEventStore.results, SQLiteEventStore.results, List.map_cons, List.map_cons,
      List.cons_eq_cons, InMemoryEventStore.Understands, hanswer]
    refine and_congr_right fun hunderstood => ?_
    exact ih (hnext hunderstood) fun index => uuids (index + 1)

/-- An event is stored and read back through the empty filter. -/
def emptyFilter : List StoreCall :=
  [.append ⟨{
      type := "external.note", source := "gateway", payload := .empty, subject := none, id := "e1"
      timestamp := .utc 0, correlationId := none, causationId := none, priority := 0
      sequence := none, metadata := .empty, schemaVersion := 1, schemaVersion_pos := Nat.one_pos },
      by decide, by decide⟩,
    .read 0 none (some [])]

/-- Builtins for a run that converts nothing. -/
def noConversions : Builtins :=
  ⟨fun _ => .error .typeError, fun _ => .error .typeError, fun _ => .error .typeError,
    fun _ => .error .typeError, fun _ _ => .error .typeError, fun _ => .error .typeError⟩

end Noema
