import Noema.Types

/-!
# The outbox and inbox tables of the delivery stores

`SQLiteEventStore` and `PostgresEventStore` keep one row per committed event that
still has to reach the broker (`outbox`) and one row per message a consumer has
received (`inbox`).  Workers claim a row under an expiring lease, each claim draws
the row's next fencing token, and a completion or retry names the token it was
given.  Every operation below is one database transaction.

The two backends run the same statements; where they differ an argument says so.
`due` is `available_at <= now` as the backend compares it (`timestamptz` in
PostgreSQL, ISO text in SQLite), and `locked` are the rows that `FOR UPDATE SKIP
LOCKED` passes over (none in SQLite).  Instants are UTC, in microseconds; only
`available_at` of a retry comes from the caller and keeps its own offset.
-/
namespace Noema

/-- A row of the table `outbox`. -/
structure OutboxRow where
  id : Nat
  eventId : String
  topic : String
  eventJson : String
  attempts : Nat
  availableAt : Datetime
  leaseOwner : Option String
  leaseUntil : Option Int
  fencingToken : Nat
  lastError : Option String
  createdAt : Int
  publishedAt : Option Int
deriving DecidableEq, Repr

/-- What a claim hands to the publisher. -/
structure OutboxRecord where
  id : Nat
  eventJson : String
  topic : String
  attempts : Nat
  fencingToken : Nat
deriving DecidableEq, Repr

inductive InboxStatus
  | pending
  | processing
  | completed
deriving DecidableEq, Repr

/-- A row of the table `inbox`; its primary key is `(message_id, consumer_id)`. -/
structure InboxRow where
  messageId : String
  consumerId : String
  status : InboxStatus
  attempts : Nat
  availableAt : Datetime
  leaseUntil : Option Int
  fencingToken : Nat
  lastError : Option String
  receivedAt : Int
  completedAt : Option Int
deriving DecidableEq, Repr

def InboxRow.key (row : InboxRow) : String × String := (row.messageId, row.consumerId)

/-- The answer to `claim_inbox`. -/
inductive InboxClaim
  | acquired (fencingToken : Nat)
  | completed
  | busy
deriving DecidableEq, Repr

/-- The two tables. -/
structure DeliveryTables where
  outbox : KeyedTable OutboxRow.id
  inbox : KeyedTable InboxRow.key

namespace DeliveryTables

/-- Empty tables. -/
def initial : DeliveryTables := ⟨.empty, .empty⟩

/-- `lease_until IS NULL OR lease_until <= now`. -/
def leaseOver (leaseUntil : Option Int) (now : Int) : Bool :=
  match leaseUntil with
  | none => true
  | some u => u ≤ now

/-! ## The outbox -/

/-- `AUTOINCREMENT`: above every id in the table. -/
def nextOutboxId (db : DeliveryTables) : Nat := (db.outbox.rows.map OutboxRow.id).foldr max 0 + 1

theorem nextOutboxId_fresh (db : DeliveryTables) :
    db.nextOutboxId ∉ db.outbox.rows.map OutboxRow.id := by
  suffices h : ∀ l : List Nat, ∀ n ∈ l, n ≤ l.foldr max 0 by
    intro hmem
    have := h _ _ hmem
    unfold nextOutboxId at this
    omega
  intro l
  induction l with
  | nil => simp
  | cons a l ih =>
    intro n hn
    rcases List.mem_cons.mp hn with rfl | hn
    · exact Nat.le_max_left _ _
    · exact Nat.le_trans (ih n hn) (Nat.le_max_right _ _)

/-- The outbox half of `append_with_outbox`: `INSERT … ON CONFLICT(event_id) DO NOTHING`. -/
def enqueueOutbox (db : DeliveryTables) (now : Int) (eventId topic eventJson : String) :
    DeliveryTables :=
  if db.outbox.rows.any (fun row => row.eventId = eventId) then db
  else { db with
    outbox := db.outbox.insert
      { id := db.nextOutboxId, eventId, topic, eventJson, attempts := 0,
        availableAt := .utc now, leaseOwner := none, leaseUntil := none, fencingToken := 0,
        lastError := none, createdAt := now, publishedAt := none }
      db.nextOutboxId_fresh }

/-- The `WHERE` clause of the claim. -/
def claimable (due : Datetime → Int → Bool) (now : Int) (row : OutboxRow) : Bool :=
  row.publishedAt.isNone && due row.availableAt now && leaseOver row.leaseUntil now

/-- `LIMIT`; SQLite reads a negative limit as no limit. -/
def limitRows (limit : Int) (rows : List OutboxRow) : List OutboxRow :=
  if limit < 0 then rows else rows.take limit.toNat

/-- The rows a claim selects. -/
def selected (db : DeliveryTables) (due : Datetime → Int → Bool) (now limit : Int)
    (locked : List Nat) : List OutboxRow :=
  limitRows limit (db.outbox.rows.filter fun row => claimable due now row && row.id ∉ locked)

/-- The row as the claim's `UPDATE` leaves it. -/
def leaseRow (row : OutboxRow) (workerId : String) (leaseUntil : Int) : OutboxRow :=
  { row with
    leaseOwner := some workerId
    leaseUntil := some leaseUntil
    fencingToken := row.fencingToken + 1
    attempts := row.attempts + 1 }

/-- The record made of a row that was just leased. -/
def recordOf (row : OutboxRow) : OutboxRecord :=
  { id := row.id, eventJson := row.eventJson, topic := row.topic, attempts := row.attempts,
    fencingToken := row.fencingToken }

/-- `claim_outbox`. -/
def claimOutbox (db : DeliveryTables) (due : Datetime → Int → Bool) (now : Int)
    (workerId : String) (limit leaseSeconds : Int) (locked : List Nat) :
    DeliveryTables × List OutboxRecord :=
  let rows := db.selected due now limit locked
  let leaseUntil := now + leaseSeconds
  ({ db with
      outbox := db.outbox.update
        (fun row => if row.id ∈ rows.map OutboxRow.id then leaseRow row workerId leaseUntil else row)
        (fun row => by split <;> rfl) },
    rows.map fun row => recordOf (leaseRow row workerId leaseUntil))

/-- `fencing_token = ? AND published_at IS NULL`. -/
def outboxHit (fencingToken : Nat) (row : OutboxRow) : Bool :=
  row.fencingToken = fencingToken && row.publishedAt.isNone

/-- An `UPDATE outbox … WHERE id = ? AND fencing_token = ? AND published_at IS NULL`
and whether its row count is one. -/
def updateOutbox (db : DeliveryTables) (id fencingToken : Nat) (f : OutboxRow → OutboxRow)
    (hf : ∀ row, (f row).id = row.id) : DeliveryTables × Bool :=
  let updated := db.outbox.updateWhere id (outboxHit fencingToken) f hf
  ({ db with outbox := updated.1 }, updated.2)

/-- `complete_outbox`. -/
def completeOutbox (db : DeliveryTables) (now : Int) (id fencingToken : Nat) :
    DeliveryTables × Bool :=
  db.updateOutbox id fencingToken
    (fun row => { row with publishedAt := some now, leaseOwner := none, leaseUntil := none })
    (fun _ => rfl)

/-- `retry_outbox`. -/
def retryOutbox (db : DeliveryTables) (id fencingToken : Nat) (error : String)
    (availableAt : Datetime) : DeliveryTables × Bool :=
  db.updateOutbox id fencingToken
    (fun row => { row with
      availableAt := availableAt, lastError := some error, leaseOwner := none, leaseUntil := none })
    (fun _ => rfl)

/-! ## The inbox -/

/-- The row a first claim inserts. -/
def newInboxRow (now : Int) (messageId consumerId : String) (leaseUntil : Int) : InboxRow :=
  { messageId, consumerId, status := .processing, attempts := 1, availableAt := .utc now,
    leaseUntil := some leaseUntil, fencingToken := 1, lastError := none, receivedAt := now,
    completedAt := none }

/-- The row as a later claim's `UPDATE` leaves it. -/
def leaseInboxRow (row : InboxRow) (leaseUntil : Int) : InboxRow :=
  { row with
    status := .processing
    attempts := row.attempts + 1
    leaseUntil := some leaseUntil
    fencingToken := row.fencingToken + 1 }

/-- `claim_inbox`.  SQLite inserts a missing row already claimed; PostgreSQL first
materializes it as pending with token zero, due at once, and then claims it in the
same transaction, which leaves the same row. -/
def claimInbox (db : DeliveryTables) (now : Int) (messageId consumerId : String)
    (leaseSeconds : Int) : DeliveryTables × InboxClaim :=
  let leaseUntil := now + leaseSeconds
  match h : db.inbox.find (messageId, consumerId) with
  | none =>
    ({ db with
        inbox := db.inbox.insert (newInboxRow now messageId consumerId leaseUntil)
          (KeyedTable.not_mem_keys_of_find h) },
      .acquired 1)
  | some row =>
    if row.status = .completed then (db, .completed)
    else if row.availableAt.instant > now || !leaseOver row.leaseUntil now then (db, .busy)
    else
      ({ db with
          inbox := db.inbox.update
            (fun row => if row.key = (messageId, consumerId) then leaseInboxRow row leaseUntil
              else row)
            (fun row => by split <;> rfl) },
        .acquired (row.fencingToken + 1))

/-- `fencing_token = ? AND status = 'processing'`. -/
def inboxHit (fencingToken : Nat) (row : InboxRow) : Bool :=
  row.fencingToken = fencingToken && row.status = .processing

/-- An `UPDATE inbox … WHERE message_id = ? AND consumer_id = ? AND fencing_token = ?
AND status = 'processing'` and whether its row count is one. -/
def updateInbox (db : DeliveryTables) (messageId consumerId : String) (fencingToken : Nat)
    (f : InboxRow → InboxRow) (hf : ∀ row, (f row).key = row.key) : DeliveryTables × Bool :=
  let updated := db.inbox.updateWhere (messageId, consumerId) (inboxHit fencingToken) f hf
  ({ db with inbox := updated.1 }, updated.2)

/-- `complete_inbox`. -/
def completeInbox (db : DeliveryTables) (now : Int) (messageId consumerId : String)
    (fencingToken : Nat) : DeliveryTables × Bool :=
  db.updateInbox messageId consumerId fencingToken
    (fun row => { row with status := .completed, completedAt := some now, leaseUntil := none })
    (fun _ => rfl)

/-- `retry_inbox`. -/
def retryInbox (db : DeliveryTables) (messageId consumerId : String) (fencingToken : Nat)
    (error : String) (availableAt : Datetime) : DeliveryTables × Bool :=
  db.updateInbox messageId consumerId fencingToken
    (fun row => { row with
      status := .pending, availableAt := availableAt, lastError := some error, leaseUntil := none })
    (fun _ => rfl)

end DeliveryTables

end Noema
