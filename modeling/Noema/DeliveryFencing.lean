import Mathlib.Data.List.Induction
import Mathlib.Data.Int.Order.Basic
import Noema.DeliveryStore
import Noema.Lib.FencedLease

/-!
# Fencing of the outbox and the inbox

A session is any sequence of delivery calls, by any workers, each one a transaction
made at its own clock reading.  Seen from one row — an outbox row, or a (message,
consumer) pair of the inbox — a session is a path of fenced-lease facts
(`session_path`), so what `FencedLease` proves of such paths holds of the store.
Ids and tokens count from zero; a negative number names no row.

One call escapes the intended reading.  An outbox row starts with the column
default `fencing_token = 0`, and `complete_outbox` and `retry_outbox` compare only
the token and `published_at`; the inbox statements also ask for `status =
'processing'`.  So token zero completes a row that nobody has claimed.  The store
is fenced exactly on the sessions without such a call (`fenced_iff_noBlankToken`).
-/
namespace Noema
open FencedLease

/-- A call on a delivery store, with the clock reading it makes. -/
inductive DeliveryCall
  | appendWithOutbox (now : Int) (eventId topic eventJson : String)
  | claimOutbox (now : Int) (workerId : String) (limit leaseSeconds : Int) (locked : List Nat)
  | completeOutbox (now : Int) (id fencingToken : Nat)
  | retryOutbox (now : Int) (id fencingToken : Nat) (error : String) (availableAt : Datetime)
  | claimInbox (now : Int) (messageId consumerId : String) (leaseSeconds : Int)
  | completeInbox (now : Int) (messageId consumerId : String) (fencingToken : Nat)
  | retryInbox (now : Int) (messageId consumerId : String) (fencingToken : Nat) (error : String)
      (availableAt : Datetime)

/-- What the call returns. -/
inductive DeliveryReply
  | appended
  | records (records : List OutboxRecord)
  | claim (claim : InboxClaim)
  | updated (won : Bool)
deriving DecidableEq

/-- One row of the delivery tables. -/
inductive RowKey
  | outbox (id : Nat)
  | inbox (messageId consumerId : String)
deriving DecidableEq

namespace DeliveryCall

def now : DeliveryCall → Int
  | appendWithOutbox now .. | claimOutbox now .. | completeOutbox now .. | retryOutbox now ..
  | claimInbox now .. | completeInbox now .. | retryInbox now .. => now

/-- The call is a completion or a retry of the row `key` that carries `token`. -/
inductive Presents : DeliveryCall → RowKey → Nat → Prop
  | completeOutbox {now id token} : Presents (.completeOutbox now id token) (.outbox id) token
  | retryOutbox {now id token error at'} :
      Presents (.retryOutbox now id token error at') (.outbox id) token
  | completeInbox {now m c token} : Presents (.completeInbox now m c token) (.inbox m c) token
  | retryInbox {now m c token error at'} :
      Presents (.retryInbox now m c token error at') (.inbox m c) token

end DeliveryCall

namespace DeliveryTables

variable (due : Datetime → Int → Bool)

/-- One call as a transaction on the tables. -/
def perform (db : DeliveryTables) : DeliveryCall → DeliveryTables × DeliveryReply
  | .appendWithOutbox now eventId topic eventJson =>
    (db.enqueueOutbox now eventId topic eventJson, .appended)
  | .claimOutbox now workerId limit leaseSeconds locked =>
    let claimed := db.claimOutbox due now workerId limit leaseSeconds locked
    (claimed.1, .records claimed.2)
  | .completeOutbox now id token =>
    let completed := db.completeOutbox now id token
    (completed.1, .updated completed.2)
  | .retryOutbox _ id token error availableAt =>
    let retried := db.retryOutbox id token error availableAt
    (retried.1, .updated retried.2)
  | .claimInbox now messageId consumerId leaseSeconds =>
    let claimed := db.claimInbox now messageId consumerId leaseSeconds
    (claimed.1, .claim claimed.2)
  | .completeInbox now messageId consumerId token =>
    let completed := db.completeInbox now messageId consumerId token
    (completed.1, .updated completed.2)
  | .retryInbox _ messageId consumerId token error availableAt =>
    let retried := db.retryInbox messageId consumerId token error availableAt
    (retried.1, .updated retried.2)

/-- The tables after a session and what its calls returned. -/
def session (calls : List DeliveryCall) : DeliveryTables × List (DeliveryCall × DeliveryReply) :=
  calls.foldl (fun s call =>
    let answer := s.1.perform due call
    (answer.1, s.2 ++ [(call, answer.2)])) (initial, [])

theorem session_snoc (calls : List DeliveryCall) (call : DeliveryCall) :
    session due (calls ++ [call]) =
      (((session due calls).1.perform due call).1,
        (session due calls).2 ++ [(call, ((session due calls).1.perform due call).2)]) := by
  rw [session, List.foldl_append]; rfl

/-! ## One row, as a fenced lease -/

/-- The stored row, whichever table it is in. -/
def rowAt (db : DeliveryTables) : RowKey → Option OutboxRow × Option InboxRow
  | .outbox id => (db.outbox.find id, none)
  | .inbox messageId consumerId => (none, db.inbox.find (messageId, consumerId))

/-- The lease an outbox row carries; a row that does not exist yet carries none. -/
def outboxLease : Option OutboxRow → Lease Int
  | none => fresh
  | some row => ⟨row.fencingToken, row.leaseUntil, row.publishedAt.isSome⟩

/-- The lease an inbox row carries. -/
def inboxLease : Option InboxRow → Lease Int
  | none => fresh
  | some row => ⟨row.fencingToken, row.leaseUntil, row.status = .completed⟩

/-- The row `key` as a fenced lease. -/
def leaseOf (db : DeliveryTables) : RowKey → Lease Int
  | .outbox id => outboxLease (db.outbox.find id)
  | .inbox messageId consumerId => inboxLease (db.inbox.find (messageId, consumerId))

/-- The grant of the row `key` among the records a claim returned. -/
def grantOf (now leaseSeconds : Int) (records : List OutboxRecord) : RowKey → Option (Fact Int)
  | .outbox id => (records.find? fun record => record.id = id).map fun record =>
      .granted record.fencingToken now (now + leaseSeconds)
  | .inbox _ _ => none

/-- What a call that got this reply did to the row `key`. -/
def factOf (key : RowKey) : DeliveryCall → DeliveryReply → Option (Fact Int)
  | .claimOutbox now _ _ leaseSeconds _, .records records => grantOf now leaseSeconds records key
  | .completeOutbox _ id token, .updated won =>
    if key = .outbox id ∧ won = true then some (.completed token) else none
  | .retryOutbox _ id token _ _, .updated won =>
    if key = .outbox id ∧ won = true then some (.released token) else none
  | .claimInbox now m c leaseSeconds, .claim (.acquired token) =>
    if key = .inbox m c then some (.granted token now (now + leaseSeconds)) else none
  | .completeInbox _ m c token, .updated won =>
    if key = .inbox m c ∧ won = true then some (.completed token) else none
  | .retryInbox _ m c token _ _, .updated won =>
    if key = .inbox m c ∧ won = true then some (.released token) else none
  | _, _ => none

/-- The facts a history records about the row `key`. -/
def facts (key : RowKey) (history : List (DeliveryCall × DeliveryReply)) : List (Fact Int) :=
  history.filterMap fun entry => factOf key entry.1 entry.2

theorem factOf_since {key : RowKey} {call : DeliveryCall} {reply : DeliveryReply} {token : Nat}
    {since till : Int} (h : factOf key call reply = some (.granted token since till)) :
    since = call.now := by
  unfold factOf at h
  split at h
  · unfold grantOf at h
    split at h
    · obtain ⟨record, -, hrec⟩ := Option.map_eq_some_iff.mp h
      cases hrec; rfl
    · cases h
  all_goals first
    | (split at h <;> cases h; done)
    | (split at h <;> cases h; rfl)
    | cases h

/-! ## What each operation does to a row -/

section Operations
variable {db : DeliveryTables}

theorem limitRows_subset {limit : Int} {rows : List OutboxRow} {row : OutboxRow}
    (h : row ∈ limitRows limit rows) : row ∈ rows := by
  unfold limitRows at h
  split at h
  · exact h
  · exact List.mem_of_mem_take h

/-- A selected row is a stored row that passes the claim's `WHERE` clause. -/
theorem of_mem_selected {now limit : Int} {locked : List Nat} {row : OutboxRow}
    (h : row ∈ db.selected due now limit locked) :
    db.outbox.find row.id = some row ∧ claimable due now row = true := by
  obtain ⟨hmem, hsel⟩ := List.mem_filter.mp (limitRows_subset h)
  rw [Bool.and_eq_true] at hsel
  exact ⟨KeyedTable.find_of_mem hmem, hsel.1⟩

/-- The row `id` after a claim: leased if it was selected, otherwise as before. -/
theorem claimOutbox_find (now : Int) (workerId : String) (limit leaseSeconds : Int)
    (locked : List Nat) (id : Nat) :
    (db.claimOutbox due now workerId limit leaseSeconds locked).1.outbox.find id =
      (db.outbox.find id).map fun row =>
        if id ∈ (db.selected due now limit locked).map OutboxRow.id then
          leaseRow row workerId (now + leaseSeconds) else row := by
  rw [claimOutbox, KeyedTable.find_update]
  refine Option.map_congr fun row hrow => ?_
  rw [KeyedTable.find_key hrow]

/-- **A claim either grants the row `id` or leaves it alone**, and the records it
returns say which. -/
theorem claimOutbox_row (db : DeliveryTables) (now : Int) (workerId : String) (limit leaseSeconds : Int)
    (locked : List Nat) (id : Nat) :
    let claimed := db.claimOutbox due now workerId limit leaseSeconds locked
    (claimed.2.find? (fun record => record.id = id) = none ∧
      claimed.1.outbox.find id = db.outbox.find id) ∨
    ∃ row, db.outbox.find id = some row ∧ claimable due now row = true ∧
      claimed.2.find? (fun record => record.id = id) =
        some (recordOf (leaseRow row workerId (now + leaseSeconds))) ∧
      claimed.1.outbox.find id = some (leaseRow row workerId (now + leaseSeconds)) := by
  intro claimed
  have hrecords : claimed.2.find? (fun record => record.id = id) =
      ((db.selected due now limit locked).find? fun row => row.id = id).map fun row =>
        recordOf (leaseRow row workerId (now + leaseSeconds)) := by
    simp only [claimed, claimOutbox, List.find?_map]
    rfl
  rw [hrecords]
  cases hsel : (db.selected due now limit locked).find? fun row => row.id = id with
  | none =>
    refine Or.inl ⟨rfl, ?_⟩
    have hnot : id ∉ (db.selected due now limit locked).map OutboxRow.id := by
      intro hmem
      obtain ⟨row, hrow, rfl⟩ := List.mem_map.mp hmem
      exact List.find?_eq_none.mp hsel row hrow (by simp)
    rw [claimOutbox_find]
    simp [hnot]
  | some row =>
    obtain rfl : row.id = id := by simpa using List.find?_some hsel
    have hmem := List.mem_of_find?_eq_some hsel
    obtain ⟨hfind, hclaim⟩ := of_mem_selected due hmem
    refine Or.inr ⟨row, hfind, hclaim, rfl, ?_⟩
    rw [claimOutbox_find, hfind, Option.map_some, if_pos (List.mem_map_of_mem hmem)]

/-- The row that a granted inbox claim leaves. -/
def claimedInboxRow (now : Int) (m c : String) (leaseUntil : Int) : Option InboxRow → InboxRow
  | none => newInboxRow now m c leaseUntil
  | some row => leaseInboxRow row leaseUntil

theorem claimedInboxRow_lease (now : Int) (m c : String) (leaseUntil : Int)
    (old : Option InboxRow) :
    inboxLease (some (claimedInboxRow now m c leaseUntil old)) =
      ⟨(inboxLease old).token + 1, some leaseUntil, false⟩ := by
  cases old <;> rfl

/-- **An inbox claim either grants the pair or changes nothing.** -/
theorem claimInbox_row (db : DeliveryTables) (now : Int) (m c : String) (leaseSeconds : Int) :
    let claimed := db.claimInbox now m c leaseSeconds
    let old := db.inbox.find (m, c)
    ((∀ token, claimed.2 ≠ .acquired token) ∧ claimed.1 = db) ∨
    ((inboxLease old).done = false ∧ leaseOver (inboxLease old).expiry now = true ∧
      claimed.2 = .acquired ((inboxLease old).token + 1) ∧ claimed.1.outbox = db.outbox ∧
      ∀ k, claimed.1.inbox.find k =
        if k = (m, c) then some (claimedInboxRow now m c (now + leaseSeconds) old)
        else db.inbox.find k) := by
  simp only [claimInbox]
  split
  · rename_i hnone
    refine Or.inr ⟨by simp [hnone, inboxLease, fresh],
      by simp [hnone, inboxLease, fresh, leaseOver], by simp [hnone, inboxLease, fresh], rfl,
      fun k => ?_⟩
    rw [KeyedTable.find_insert, hnone]
    simp only [newInboxRow, InboxRow.key, claimedInboxRow, eq_comm]
  · rename_i row hrow
    split
    · exact Or.inl ⟨by simp, rfl⟩
    · rename_i hstatus
      split
      · exact Or.inl ⟨by simp, rfl⟩
      · rename_i hfree
        simp only [Bool.or_eq_true, Bool.not_eq_true', not_or, Bool.not_eq_false] at hfree
        refine Or.inr ⟨by simp [hrow, inboxLease, hstatus],
          by simpa [hrow, inboxLease] using hfree.2, by simp [hrow, inboxLease], rfl, fun k => ?_⟩
        rw [KeyedTable.find_update]
        by_cases hk : k = (m, c)
        · subst hk
          rw [if_pos rfl, hrow, Option.map_some, if_pos (KeyedTable.find_key hrow)]
          rfl
        · rw [if_neg hk]
          cases hrow' : db.inbox.find k with
          | none => rfl
          | some row' => simp [KeyedTable.find_key hrow', hk]

/-- What a call can do to one row: nothing (an append may create it), or one fact. -/
inductive RowChange (db db' : DeliveryTables) (key : RowKey) : Option (Fact Int) → Prop
  | same (hlease : db'.leaseOf key = db.leaseOf key)
      (hrow : db.rowAt key ≠ (none, none) → db'.rowAt key = db.rowAt key) : RowChange db db' key none
  | moved {f} (hstep : Step (db.leaseOf key) f (db'.leaseOf key)) : RowChange db db' key (some f)

theorem RowChange.refl (db : DeliveryTables) (key : RowKey) : RowChange db db key none :=
  .same rfl fun _ => rfl

theorem enqueueOutbox_row (db : DeliveryTables) (now : Int) (eventId topic eventJson : String) (key : RowKey) :
    RowChange db (db.enqueueOutbox now eventId topic eventJson) key none := by
  unfold enqueueOutbox
  split
  · exact .refl db key
  · cases key with
    | outbox id =>
      by_cases hid : db.nextOutboxId = id
      · subst hid
        have hnone : db.outbox.find db.nextOutboxId = none := by
          rw [KeyedTable.find, List.find?_eq_none]
          intro row hrow hkey
          exact db.nextOutboxId_fresh (of_decide_eq_true hkey ▸ List.mem_map_of_mem hrow)
        refine .same ?_ fun h => absurd (by rw [rowAt, hnone]) h
        simp [leaseOf, KeyedTable.find_insert, outboxLease, hnone, fresh]
      · refine .same ?_ fun _ => ?_ <;> simp [leaseOf, rowAt, KeyedTable.find_insert, hid]
    | inbox m c => exact .same rfl fun _ => rfl

theorem leaseOver_spec {leaseUntil : Option Int} {now : Int} (h : leaseOver leaseUntil now = true) :
    ∀ u, leaseUntil = some u → u ≤ now := by
  rintro u rfl
  simpa [leaseOver] using h

/-- **A completion or retry of an outbox row** ends the lease its token holds, or
changes nothing. -/
theorem updateOutbox_change {id token : Nat} {f : OutboxRow → OutboxRow}
    {hf : ∀ row, (f row).id = row.id} {fact : Fact Int}
    (hstep : ∀ row, row.publishedAt.isSome = false → row.fencingToken = token →
      Step (outboxLease (some row)) fact (outboxLease (some (f row)))) (key : RowKey) :
    RowChange db (db.updateOutbox id token f hf).1 key
      (if key = .outbox id ∧ (db.updateOutbox id token f hf).2 = true then some fact else none) := by
  rcases db.outbox.updateWhere_cases id (outboxHit token) f hf with
    ⟨row, hrow, hhit, hwon, hfind⟩ | ⟨-, hsame⟩
  · simp only [outboxHit, Bool.and_eq_true, decide_eq_true_eq] at hhit
    have hopen : row.publishedAt.isSome = false := by
      cases hp : row.publishedAt <;> simp_all
    simp only [updateOutbox, hwon, and_true]
    split
    · rename_i hkey
      subst hkey
      refine .moved ?_
      have := hstep row hopen hhit.1
      simpa [leaseOf, hfind, hrow] using this
    · rename_i hkey
      cases key with
      | outbox id' =>
        have hne : id' ≠ id := fun he => hkey (he ▸ rfl)
        refine .same ?_ fun _ => ?_ <;> simp [leaseOf, rowAt, hfind, hne]
      | inbox m c => exact .same rfl fun _ => rfl
  · simp only [updateOutbox, hsame, Bool.false_eq_true, and_false, if_false]
    exact .refl db key

/-- **A completion or retry of an inbox row**, likewise. -/
theorem updateInbox_change {m c : String} {token : Nat} {f : InboxRow → InboxRow}
    {hf : ∀ row, (f row).key = row.key} {fact : Fact Int}
    (hstep : ∀ row, row.status = .processing → row.fencingToken = token →
      Step (inboxLease (some row)) fact (inboxLease (some (f row)))) (key : RowKey) :
    RowChange db (db.updateInbox m c token f hf).1 key
      (if key = .inbox m c ∧ (db.updateInbox m c token f hf).2 = true then some fact
        else none) := by
  rcases db.inbox.updateWhere_cases (m, c) (inboxHit token) f hf with
    ⟨row, hrow, hhit, hwon, hfind⟩ | ⟨-, hsame⟩
  · simp only [inboxHit, Bool.and_eq_true, decide_eq_true_eq] at hhit
    simp only [updateInbox, hwon, and_true]
    split
    · rename_i hkey
      subst hkey
      refine .moved ?_
      have := hstep row hhit.2 hhit.1
      simpa [leaseOf, hfind, hrow] using this
    · rename_i hkey
      cases key with
      | outbox id => exact .same rfl fun _ => rfl
      | inbox m' c' =>
        have hne : ¬ (m' = m ∧ c' = c) := by
          rintro ⟨rfl, rfl⟩
          exact hkey rfl
        refine .same ?_ fun _ => ?_ <;> simp [leaseOf, rowAt, hfind, hne]
  · simp only [updateInbox, hsame, Bool.false_eq_true, and_false, if_false]
    exact .refl db key

/-- **One call, seen from one row.** -/
theorem perform_change (db : DeliveryTables) (call : DeliveryCall) (key : RowKey) :
    RowChange db (db.perform due call).1 key (factOf key call (db.perform due call).2) := by
  cases call with
  | appendWithOutbox now eventId topic eventJson =>
    have := enqueueOutbox_row db now eventId topic eventJson key
    cases key <;> exact this
  | claimOutbox now workerId limit leaseSeconds locked =>
    cases key with
    | outbox id =>
      simp only [perform, factOf, grantOf]
      rcases claimOutbox_row due db now workerId limit leaseSeconds locked id with
        ⟨hrec, hfind⟩ | ⟨row, hrow, hclaim, hrec, hfind⟩
      · rw [hrec]
        exact .same (by rw [leaseOf, leaseOf, hfind]) fun _ => by rw [rowAt, rowAt, hfind]
      · rw [hrec]
        simp only [claimable, Bool.and_eq_true, Option.isNone_iff_eq_none] at hclaim
        refine .moved ?_
        simp only [leaseOf, hfind, hrow, outboxLease, leaseRow, hclaim.1.1, Option.isSome_none]
        exact .grant (leaseOver_spec hclaim.2)
    | inbox m c => exact .same rfl fun _ => rfl
  | completeOutbox now id token =>
    exact updateOutbox_change (fun row hopen htoken => by
      subst htoken
      simp only [outboxLease, hopen, Option.isSome_some]
      exact .complete) key
  | retryOutbox now id token error availableAt =>
    exact updateOutbox_change (fun row hopen htoken => by
      subst htoken
      simp only [outboxLease, hopen]
      exact .release) key
  | claimInbox now m c leaseSeconds =>
    rcases claimInbox_row db now m c leaseSeconds with
      ⟨hrefused, hsame⟩ | ⟨hopen, hover, hreply, houtbox, hfind⟩
    · have hnone : factOf key (.claimInbox now m c leaseSeconds)
          (.claim (db.claimInbox now m c leaseSeconds).2) = none := by
        cases hr : (db.claimInbox now m c leaseSeconds).2 with
        | acquired token => exact absurd hr (hrefused token)
        | completed | busy => rfl
      simp only [perform, hnone, hsame]
      exact .refl db key
    · simp only [perform, hreply, factOf]
      split
      · rename_i hkey
        subst hkey
        refine .moved ?_
        simp only [leaseOf, hfind, if_true, claimedInboxRow_lease]
        generalize inboxLease (db.inbox.find (m, c)) = old at hopen hover
        obtain ⟨token, expiry, done⟩ := old
        obtain rfl : done = false := hopen
        exact .grant (leaseOver_spec hover)
      · rename_i hkey
        cases key with
        | outbox id => exact .same (by simp [leaseOf, houtbox]) fun _ => by simp [rowAt, houtbox]
        | inbox m' c' =>
          have hne : ¬ (m' = m ∧ c' = c) := by
            rintro ⟨rfl, rfl⟩
            exact hkey rfl
          refine .same ?_ fun _ => ?_ <;> simp [leaseOf, rowAt, hfind, hne]
  | completeInbox now m c token =>
    exact updateInbox_change (fun row hstatus htoken => by
      subst htoken
      simp only [inboxLease, hstatus]
      exact .complete) key
  | retryInbox now m c token error availableAt =>
    exact updateInbox_change (fun row hstatus htoken => by
      subst htoken
      simp only [inboxLease, hstatus]
      exact .release) key

end Operations

/-! ## Sessions -/

/-- The tables after a session. -/
def after (calls : List DeliveryCall) : DeliveryTables := (session due calls).1

/-- What a session did to the row `key`, oldest first. -/
def factsOf (calls : List DeliveryCall) (key : RowKey) : List (Fact Int) :=
  facts key (session due calls).2

theorem after_snoc (calls : List DeliveryCall) (call : DeliveryCall) :
    after due (calls ++ [call]) = ((after due calls).perform due call).1 := by
  rw [after, session_snoc]; rfl

theorem factsOf_snoc (calls : List DeliveryCall) (call : DeliveryCall) (key : RowKey) :
    factsOf due (calls ++ [call]) key =
      factsOf due calls key ++ (factOf key call ((after due calls).perform due call).2).toList := by
  rw [factsOf, session_snoc, facts, List.filterMap_append]
  simp only [List.filterMap_cons, List.filterMap_nil, after, factsOf, facts]
  cases factOf key call ((session due calls).1.perform due call).2 <;> rfl

/-- **Every row lives a path of the fenced lease**, whatever the session. -/
theorem session_path (calls : List DeliveryCall) (key : RowKey) :
    Path (factsOf due calls key) ((after due calls).leaseOf key) := by
  induction calls using List.reverseRecOn with
  | nil => cases key <;> exact .fresh
  | append_singleton calls call ih =>
    rw [after_snoc, factsOf_snoc]
    have hchange := perform_change due (after due calls) call key
    generalize factOf key call ((after due calls).perform due call).2 = fact at hchange
    cases hchange with
    | same hlease hrow => simpa [hlease] using ih
    | moved hstep => exact .next ih hstep

/-- An inbox row is created by its first claim, so its token is never zero. -/
theorem inbox_token_pos (calls : List DeliveryCall) :
    ∀ k row, (after due calls).inbox.find k = some row → 0 < row.fencingToken := by
  induction calls using List.reverseRecOn with
  | nil => intro k row h; cases h
  | append_singleton calls call ih =>
    rw [after_snoc]
    -- A completion or retry keeps the token of the row it updates.
    have hupdate : ∀ (m c : String) (token : Nat) (f : InboxRow → InboxRow)
        (hf : ∀ row, (f row).key = row.key), (∀ row, (f row).fencingToken = row.fencingToken) →
        ∀ k row, ((after due calls).updateInbox m c token f hf).1.inbox.find k = some row →
          0 < row.fencingToken := by
      intro m c token f hf htoken k row hrow
      rcases (after due calls).inbox.updateWhere_cases (m, c) (inboxHit token) f hf with
        ⟨old, hold, -, -, hfind⟩ | ⟨-, hsame⟩
      · rw [updateInbox, hfind] at hrow
        split at hrow
        · obtain rfl := Option.some.inj hrow
          rw [htoken]
          exact ih _ _ hold
        · exact ih _ _ hrow
      · rw [updateInbox, hsame] at hrow
        exact ih _ _ hrow
    cases call with
    | appendWithOutbox now eventId topic eventJson =>
      have hinbox : ((after due calls).enqueueOutbox now eventId topic eventJson).inbox =
          (after due calls).inbox := by unfold enqueueOutbox; split <;> rfl
      intro k row hrow
      exact ih k row (hinbox ▸ hrow)
    | claimOutbox now workerId limit leaseSeconds locked => exact ih
    | completeOutbox now id token => exact ih
    | retryOutbox now id token error availableAt => exact ih
    | claimInbox now m c leaseSeconds =>
      intro k row hrow
      rcases claimInbox_row (after due calls) now m c leaseSeconds with
        ⟨-, hsame⟩ | ⟨-, -, -, -, hfind⟩
      · exact ih k row (hsame ▸ hrow)
      · rw [perform, hfind] at hrow
        split at hrow
        · obtain rfl := Option.some.inj hrow
          cases (after due calls).inbox.find (m, c) <;>
            simp [claimedInboxRow, newInboxRow, leaseInboxRow]
        · exact ih k row hrow
    | completeInbox now m c token => exact hupdate m c token _ _ fun _ => rfl
    | retryInbox now m c token error availableAt => exact hupdate m c token _ _ fun _ => rfl

/-- The grants of a row are dated by the clock readings of the session. -/
theorem grantTimes_sublist (calls : List DeliveryCall) (key : RowKey) :
    (grantTimes (factsOf due calls key)).Sublist (calls.map DeliveryCall.now) := by
  induction calls using List.reverseRecOn with
  | nil => exact List.Sublist.slnil
  | append_singleton calls call ih =>
    rw [factsOf_snoc, grantTimes, List.filterMap_append, List.map_append]
    refine ih.append ?_
    cases hfact : factOf key call ((after due calls).perform due call).2 with
    | none => exact List.nil_sublist _
    | some fact =>
      cases fact with
      | granted token since till =>
        obtain rfl : since = call.now := factOf_since hfact
        exact List.Sublist.refl _
      | completed token | released token => exact List.nil_sublist _

/-- What the store promises its workers over a session. -/
structure Fenced (calls : List DeliveryCall) : Prop where
  /-- The tokens handed out for one row strictly increase. -/
  increasing : ∀ key, (tokens (factsOf due calls key)).Pairwise (· < ·)
  /-- A completion or retry with any token but the latest returns false and changes nothing. -/
  stale : ∀ pre call post, calls = pre ++ call :: post → ∀ key token, call.Presents key token →
    latest (factsOf due pre key) ≠ some token →
      (after due pre).perform due call = (after due pre, .updated false)
  /-- After a completion nothing is done to the row and the row stays as it is. -/
  final : ∀ pre mid post, calls = pre ++ mid ++ post → ∀ key token,
    .completed token ∈ factsOf due pre key →
      factsOf due (pre ++ mid) key = factsOf due pre key ∧
      (after due (pre ++ mid)).rowAt key = (after due pre).rowAt key
  /-- Two claims hold a lease at one instant only if the earlier one was retried. -/
  exclusive : ∀ key pre mid post t₁ since₁ till₁ t₂ since₂ till₂,
    factsOf due calls key =
      pre ++ .granted t₁ since₁ till₁ :: (mid ++ .granted t₂ since₂ till₂ :: post) →
    .released t₁ ∉ mid →
      ∀ now, ¬ ((since₁ ≤ now ∧ now < till₁) ∧ (since₂ ≤ now ∧ now < till₂))

/-- The call completes or retries, under token zero, an outbox row that is still to
be published and that nobody has claimed. -/
def BlankToken (db : DeliveryTables) (call : DeliveryCall) : Prop :=
  ∃ id row, call.Presents (.outbox id) 0 ∧ db.outbox.find id = some row ∧ outboxHit 0 row = true

/-- No call of the session presents a blank token. -/
def NoBlankToken (calls : List DeliveryCall) : Prop :=
  ∀ pre call post, calls = pre ++ call :: post → ¬ BlankToken (after due pre) call

/-- Workers that only present tokens they were handed never present a blank one. -/
theorem noBlankToken_of_nonzero {calls : List DeliveryCall}
    (h : ∀ call ∈ calls, ∀ id, ¬ call.Presents (.outbox id) 0) : NoBlankToken due calls := by
  rintro pre call post rfl ⟨id, row, hp, -, -⟩
  exact h call (by simp) id hp

/-- The token that a row carries, once it carries one, is the latest handed out. -/
theorem latest_of_hit (calls : List DeliveryCall) {key : RowKey} {token : Nat}
    (htoken : ((after due calls).leaseOf key).token = token) (hpos : token ≠ 0) :
    latest (factsOf due calls key) = some token := by
  have hpath := session_path due calls key
  rw [hpath.latest_eq (htoken ▸ hpos), htoken]

/-- **Stale tokens are refused** as long as the call is no blank one. -/
theorem stale_refused (pre : List DeliveryCall) {call : DeliveryCall} {key : RowKey} {token : Nat}
    (hp : call.Presents key token) (hstale : latest (factsOf due pre key) ≠ some token)
    (hblank : ¬ BlankToken (after due pre) call) :
    (after due pre).perform due call = (after due pre, .updated false) := by
  have houtbox : ∀ id f hf, call.Presents (.outbox id) token →
      latest (factsOf due pre (.outbox id)) ≠ some token →
      (after due pre).updateOutbox id token f hf = (after due pre, false) := by
    intro id f hf hp hstale
    rcases (after due pre).outbox.updateWhere_cases id (outboxHit token) f hf with
      ⟨row, hrow, hhit, -, -⟩ | ⟨-, hsame⟩
    · exfalso
      by_cases hzero : token = 0
      · subst hzero
        exact hblank ⟨id, row, hp, hrow, hhit⟩
      · refine hstale (latest_of_hit due pre ?_ hzero)
        rw [outboxHit, Bool.and_eq_true, decide_eq_true_eq] at hhit
        simp [leaseOf, hrow, outboxLease, hhit.1]
    · rw [updateOutbox, hsame]
  have hinbox : ∀ m c f hf, latest (factsOf due pre (.inbox m c)) ≠ some token →
      (after due pre).updateInbox m c token f hf = (after due pre, false) := by
    intro m c f hf hstale
    rcases (after due pre).inbox.updateWhere_cases (m, c) (inboxHit token) f hf with
      ⟨row, hrow, hhit, -, -⟩ | ⟨-, hsame⟩
    · exfalso
      have hpos := inbox_token_pos due pre _ _ hrow
      rw [inboxHit, Bool.and_eq_true, decide_eq_true_eq] at hhit
      refine hstale (latest_of_hit due pre ?_ (by omega))
      simp [leaseOf, hrow, inboxLease, hhit.1]
    · rw [updateInbox, hsame]
  let reply (updated : DeliveryTables × Bool) := (updated.1, DeliveryReply.updated updated.2)
  cases hp with
  | completeOutbox => exact congrArg reply (houtbox _ _ _ .completeOutbox hstale)
  | retryOutbox => exact congrArg reply (houtbox _ _ _ .retryOutbox hstale)
  | completeInbox => exact congrArg reply (hinbox _ _ _ _ hstale)
  | retryInbox => exact congrArg reply (hinbox _ _ _ _ hstale)

/-- A completed row is frozen. -/
theorem completed_frozen (pre mid : List DeliveryCall) {key : RowKey} {token : Nat}
    (hdone : Fact.completed token ∈ factsOf due pre key) :
    factsOf due (pre ++ mid) key = factsOf due pre key ∧
      (after due (pre ++ mid)).rowAt key = (after due pre).rowAt key := by
  induction mid using List.reverseRecOn with
  | nil => simp
  | append_singleton mid call ih =>
    obtain ⟨hfacts, hrow⟩ := ih
    rw [← List.append_assoc, after_snoc, factsOf_snoc]
    have hpath := session_path due (pre ++ mid) key
    have hisdone := hpath.done_of_completed (hfacts ▸ hdone)
    have hstored : (after due (pre ++ mid)).rowAt key ≠ (none, none) := by
      intro hnone
      cases key <;>
        simp only [rowAt, Prod.mk.injEq, and_true, true_and] at hnone <;>
        simp [leaseOf, hnone, outboxLease, inboxLease, fresh] at hisdone
    have hchange := perform_change due (after due (pre ++ mid)) call key
    generalize factOf key call ((after due (pre ++ mid)).perform due call).2 = fact at hchange
    cases hchange with
    | same hlease hsame => exact ⟨by simpa using hfacts, (hsame hstored).trans hrow⟩
    | moved hstep =>
      generalize (after due (pre ++ mid)).leaseOf key = lease at hstep hisdone
      generalize ((after due (pre ++ mid)).perform due call).1.leaseOf key = lease' at hstep
      cases hstep <;> cases hisdone

/-- **The delivery store is fenced exactly on the sessions without a blank token.** -/
theorem fenced_iff_noBlankToken (calls : List DeliveryCall)
    (hclock : (calls.map DeliveryCall.now).Pairwise (· ≤ ·)) :
    Fenced due calls ↔ NoBlankToken due calls := by
  constructor
  · rintro hfenced pre call post rfl ⟨id, row, hp, hrow, hhit⟩
    have hpath := session_path due pre (.outbox id)
    have hzero : ((after due pre).leaseOf (.outbox id)).token = 0 := by
      rw [outboxHit, Bool.and_eq_true, decide_eq_true_eq] at hhit
      simp [leaseOf, hrow, outboxLease, hhit.1]
    have hnever : latest (factsOf due pre (.outbox id)) ≠ some 0 := by
      intro hlatest
      have := (hpath.token_pos 0 (List.mem_of_getLast? hlatest)).1
      omega
    have hrefused := hfenced.stale pre call post rfl _ _ hp hnever
    -- The row passes the filter all the same, so the call wins.
    have hwon : ∀ f hf, ((after due pre).updateOutbox id 0 f hf).2 = true := by
      intro f hf
      rcases (after due pre).outbox.updateWhere_cases id (outboxHit 0) f hf with
        ⟨_, -, -, hwon, -⟩ | ⟨hmiss, -⟩
      · exact hwon
      · rw [hrow, Option.any_some, hhit] at hmiss
        cases hmiss
    cases hp with
    | completeOutbox =>
      have := congrArg Prod.snd hrefused
      simp only [perform, completeOutbox, hwon] at this
      cases this
    | retryOutbox =>
      have := congrArg Prod.snd hrefused
      simp only [perform, retryOutbox, hwon] at this
      cases this
  · intro hblank
    refine ⟨fun key => (session_path due calls key).tokens_increasing, ?_, ?_, ?_⟩
    · intro pre call post he key token hp hstale
      exact stale_refused due pre hp hstale (hblank pre call post he)
    · intro pre mid post _ key token hdone
      exact completed_frozen due pre mid hdone
    · intro key pre mid post t₁ since₁ till₁ t₂ since₂ till₂ he hheld now
      have hdates := hclock.sublist (grantTimes_sublist due calls key)
      rcases (session_path due calls key).no_overlap hdates he with hrel | hle
      · exact absurd hrel hheld
      · omega

/-- `available_at <= now` as PostgreSQL compares it. -/
def dueInstant (availableAt : Datetime) (now : Int) : Bool := availableAt.instant ≤ now

/-- A lease that expires and is taken over, the late completion, the completion in
time, and an inbox message. -/
def takeover : List DeliveryCall :=
  [.appendWithOutbox 0 "e-1" "noema.events" "", .claimOutbox 1 "w-1" 100 5 [],
    .claimOutbox 9 "w-2" 100 5 [], .completeOutbox 10 1 1, .completeOutbox 11 1 2,
    .claimInbox 12 "m-1" "c-1" 5, .completeInbox 13 "m-1" "c-1" 1]

example : factsOf dueInstant takeover (.outbox 1) =
    [.granted 1 1 6, .granted 2 9 14, .completed 2] := rfl

theorem takeover_fenced : Fenced dueInstant takeover := by
  refine (fenced_iff_noBlankToken dueInstant takeover (by decide)).mpr ?_
  refine noBlankToken_of_nonzero dueInstant fun call hcall id hp => ?_
  simp only [takeover, List.mem_cons, List.not_mem_nil, or_false] at hcall
  rcases hcall with rfl | rfl | rfl | rfl | rfl | rfl | rfl <;> cases hp

/-- An event is committed and its row completed under token zero, unclaimed. -/
def unclaimedCompletion : List DeliveryCall :=
  [.appendWithOutbox 0 "e-1" "noema.events" "", .completeOutbox 1 1 0]

theorem unclaimedCompletion_not_fenced :
    (unclaimedCompletion.map DeliveryCall.now).Pairwise (· ≤ ·) ∧
      ¬ Fenced dueInstant unclaimedCompletion := by
  refine ⟨by decide, fun hfenced => ?_⟩
  have hrefused := hfenced.stale [.appendWithOutbox 0 "e-1" "noema.events" ""]
    (.completeOutbox 1 1 0) [] rfl (.outbox 1) 0 .completeOutbox (by decide)
  -- The unclaimed row carries the default token, so the update wins.
  have hwon := congrArg Prod.snd hrefused
  exact absurd hwon (by decide)

end DeliveryTables
end Noema
