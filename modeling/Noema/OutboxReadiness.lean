import Noema.DeliveryFencing
import Noema.IsoFormat

/-!
# When a retried row is ready

A retry names the time from which its row may be claimed again, with an offset of its
own.  PostgreSQL and the inbox of SQLite compare that time with the clock as instants.
The outbox of SQLite compares the two texts, so it goes by the wall clock of the
retry's offset: a row due east of Greenwich becomes ready too late, one due west of it
too early.
-/
namespace Noema
namespace DeliveryTables

/-- `available_at <= now` as SQLite compares it. -/
def dueText (availableAt : Datetime) (now : Int) : Bool :=
  availableAt.isoformat ≤ (Datetime.utc now).isoformat

/-- Any claim with room for every row hands out the row `id`. -/
def Claimed (db : DeliveryTables) (due : Datetime → Int → Bool) (now : Int) (id : Nat) : Prop :=
  ∀ workerId leaseSeconds, ∃ record ∈ (db.claimOutbox due now workerId
    db.outbox.rows.length leaseSeconds []).2, record.id = id

/-- **A time is read as an instant**: the outbox of either store has the row `id` ready
from `available` on, and so has the inbox a message retried for that time. -/
structure ReadyByInstant (db : DeliveryTables) (id : Nat) (available : Datetime) (now : Int) :
    Prop where
  sqlite : db.Claimed dueText now id ↔ available.instant ≤ now
  postgres : db.Claimed dueInstant now id ↔ available.instant ≤ now
  inbox : ∀ (db retried : DeliveryTables) (messageId consumerId : String) (token : Nat)
    (error : String) (leaseSeconds : Int),
    db.retryInbox messageId consumerId token error available = (retried, true) →
      ((retried.claimInbox now messageId consumerId leaseSeconds).2 ≠ .busy ↔
        available.instant ≤ now)

/-- Between the instant and the wall clock of a time the texts are in the wrong order. -/
def OffsetShows (available : Datetime) (now : Int) : Prop :=
  0 < available.utcOffset ∧ available.instant ≤ now ∧ now ≤ available.wall ∨
    available.utcOffset < 0 ∧ available.wall < now ∧ now < available.instant

variable {db retried : DeliveryTables} {id token : Nat} {available : Datetime} {now : Int}

/-- **The texts tell the instants, unless the offset shows.** -/
theorem dueText_iff (havailable : available.Representable)
    (hnow : (Datetime.utc now).Representable) :
    (dueText available now = true ↔ available.instant ≤ now) ↔ ¬ OffsetShows available now := by
  rw [dueText, decide_eq_true_iff, Datetime.isoformat_le_utc_iff havailable hnow]
  unfold OffsetShows Datetime.wall
  omega

/-- The row as a retry that succeeds leaves it. -/
theorem retryOutbox_row {error : String}
    (h : db.retryOutbox id token error available = (retried, true)) :
    ∃ row, retried.outbox.find id = some row ∧ row.availableAt = available ∧
      row.leaseUntil = none ∧ row.publishedAt = none := by
  unfold retryOutbox updateOutbox at h
  rcases db.outbox.updateWhere_cases id (outboxHit token)
      (fun row => { row with
        availableAt := available, lastError := some error, leaseOwner := none,
        leaseUntil := none }) (fun _ => rfl) with ⟨row, -, hhit, -, hfind⟩ | ⟨-, hsame⟩
  · obtain rfl := (Prod.mk.inj h).1
    have hopen : row.publishedAt = none := by
      rw [outboxHit, Bool.and_eq_true] at hhit
      exact Option.isNone_iff_eq_none.mp hhit.2
    exact ⟨_, (hfind id).trans (if_pos rfl), rfl, rfl, hopen⟩
  · rw [hsame] at h
    cases (Prod.mk.inj h).2

/-- A row that is neither leased nor published is claimed exactly when it is due. -/
theorem claimed_iff {due : Datetime → Int → Bool} {row : OutboxRow}
    (hrow : db.outbox.find id = some row) (hlease : row.leaseUntil = none)
    (hopen : row.publishedAt = none) :
    db.Claimed due now id ↔ due row.availableAt now = true := by
  have hclaimable : claimable due now row = due row.availableAt now := by
    simp [claimable, hlease, hopen, leaseOver]
  constructor
  · intro h
    obtain ⟨record, hrecord, hid⟩ := h "" 0
    rcases claimOutbox_row due db now "" db.outbox.rows.length 0 [] id with
      ⟨hnone, -⟩ | ⟨row', hrow', hdue, -, -⟩
    · exact absurd (decide_eq_true hid) (List.find?_eq_none.mp hnone record hrecord)
    · obtain rfl := Option.some.inj (hrow.symm.trans hrow')
      exact hclaimable ▸ hdue
  · intro hdue workerId leaseSeconds
    have hselected : row ∈ db.selected due now db.outbox.rows.length [] := by
      rw [selected, limitRows, if_neg (by omega), List.take_of_length_le (by
        rw [Int.toNat_natCast]
        exact List.length_filter_le _ _)]
      exact List.mem_filter.mpr ⟨KeyedTable.mem_of_find hrow, by simp [hclaimable, hdue]⟩
    refine ⟨recordOf (leaseRow row workerId (now + leaseSeconds)),
      List.mem_map.mpr ⟨row, hselected, rfl⟩, ?_⟩
    have hid : row.id = id := KeyedTable.find_key hrow
    exact hid

/-- A message that was retried is claimed again exactly from that instant on. -/
theorem retryInbox_ready {messageId consumerId : String} {error : String} {leaseSeconds : Int}
    (h : db.retryInbox messageId consumerId token error available = (retried, true)) :
    (retried.claimInbox now messageId consumerId leaseSeconds).2 ≠ .busy ↔
      available.instant ≤ now := by
  unfold retryInbox updateInbox at h
  rcases db.inbox.updateWhere_cases (messageId, consumerId) (inboxHit token)
      (fun row => { row with
        status := .pending, availableAt := available, lastError := some error,
        leaseUntil := none }) (fun _ => rfl) with ⟨row, -, -, -, hfind⟩ | ⟨-, hsame⟩
  · obtain rfl := (Prod.mk.inj h).1
    have hrow := (hfind (messageId, consumerId)).trans (if_pos rfl)
    unfold claimInbox
    dsimp only
    split
    · rename_i hnone
      rw [hrow] at hnone
      cases hnone
    · rename_i row' hrow'
      obtain rfl := Option.some.inj (hrow.symm.trans hrow')
      rw [if_neg fun hstatus => by cases hstatus]
      by_cases hdue : available.instant > now
      · simp [hdue]
      · simp [hdue, leaseOver, not_lt.mp hdue]
  · rw [hsame] at h
    cases (Prod.mk.inj h).2

/-- **A retried row is ready by its instant in all three places exactly when its offset
does not show.** -/
theorem outbox_ready_iff {error : String}
    (hretry : db.retryOutbox id token error available = (retried, true))
    (havailable : available.Representable) (hnow : (Datetime.utc now).Representable) :
    retried.ReadyByInstant id available now ↔ ¬ OffsetShows available now := by
  obtain ⟨row, hrow, rfl, hlease, hopen⟩ := retryOutbox_row hretry
  have htext := dueText_iff havailable hnow
  rw [← claimed_iff hrow hlease hopen] at htext
  refine ⟨fun h => htext.mp h.sqlite, fun h => ⟨htext.mpr h, ?_, ?_⟩⟩
  · rw [claimed_iff hrow hlease hopen, dueInstant, decide_eq_true_iff]
  · intro _ _ _ _ _ _ _ hinbox
    exact retryInbox_ready hinbox

/-! ### An offset that shows -/

/-- One row that was claimed once. -/
def claimedOnce : DeliveryTables :=
  ((initial.enqueueOutbox 0 "e-1" "noema.events" "").claimOutbox dueInstant 0 "w-1" 1 30 []).1

/-- One o'clock UTC, on a clock two hours ahead. -/
def threeEast : Datetime := ⟨3600000000, 7200000000⟩

/-- The tables after a retry of that row for the time `available`. -/
def retriedFor (available : Datetime) : DeliveryTables :=
  (claimedOnce.retryOutbox 1 1 "timeout" available).1

theorem retriedFor_eq (available : Datetime) :
    claimedOnce.retryOutbox 1 1 "timeout" available = (retriedFor available, true) := rfl

/-- A retry for a time written in UTC. -/
theorem outbox_ready_utc : (retriedFor (.utc 3600000000)).ReadyByInstant 1 (.utc 3600000000)
    7200000000 ↔ ¬ OffsetShows (.utc 3600000000) 7200000000 :=
  outbox_ready_iff (retriedFor_eq (.utc 3600000000)) ⟨by decide, by decide, by decide⟩
    ⟨by decide, by decide, by decide⟩

/-- A row due at one o'clock UTC is not ready at two. -/
theorem outbox_not_ready : ¬ ∀ (db retried : DeliveryTables) (id token : Nat) (error : String)
    (available : Datetime) (now : Int),
    db.retryOutbox id token error available = (retried, true) →
      available.Representable → (Datetime.utc now).Representable →
        retried.ReadyByInstant id available now := by
  intro h
  have hlater : (Datetime.utc 7200000000).Representable := ⟨by decide, by decide, by decide⟩
  have heast : threeEast.Representable := ⟨by decide, by decide, by decide⟩
  have hready := (h _ _ 1 1 "timeout" threeEast 7200000000 (retriedFor_eq threeEast)
    heast hlater).sqlite
  obtain ⟨row, hrow, havailable, hlease, hopen⟩ := retryOutbox_row (retriedFor_eq threeEast)
  rw [claimed_iff hrow hlease hopen, havailable] at hready
  exact (dueText_iff heast hlater).mp hready (Or.inl (by decide))

end DeliveryTables
end Noema
