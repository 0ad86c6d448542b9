import Mathlib.Data.List.Sort
import Noema.Events
import Noema.EventStore
import Noema.Lib.Machine
import Noema.Lib.TaskPool

/-!
# Cursor reads of the shared event table

Any number of `PostgresEventStore` connections append to `noema_events`.  `INSERT`
draws the row's sequence, but the row is visible to others only after the commit,
and the sequence is gone if the transaction rolls back.  A conditional append first
locks the table: nobody inserts while it is open, and it waits for those who did.

A reader asks for the rows after its cursor, in the order of their sequences, and
moves the cursor to the last one it got.  It gets every row that is ever committed
if and only if no transaction commits below the cursor (`catchUp_complete_iff`);
two overlapping appends are enough for the other case (`lateCommit_lost`).
-/
namespace Noema
open Machine TaskPool

/-- How far the transaction of an append has come. -/
inductive TxnPc
  | begun
  /-- Holds the table lock, and the head is the expected one. -/
  | locked
  /-- Another transaction inserted the same event id and has not ended. -/
  | waiting (sequence : Nat)
  | inserted (sequence : Nat)
  /-- The event id was in the table already. -/
  | known
  | ended
deriving DecidableEq

/-- `_append`, with its `expected_head_sequence`. -/
structure Txn where
  event : Event
  expectedHead : Option Nat
  pc : TxnPc

namespace Txn

/-- The lock that every `INSERT` takes. -/
def RowExclusive (txn : Txn) : Bool :=
  match txn.pc with
  | .waiting _ | .inserted _ | .known => true
  | _ => false

/-- `LOCK TABLE noema_events IN EXCLUSIVE MODE`. -/
def Exclusive (txn : Txn) : Bool :=
  txn.expectedHead.isSome && (txn.pc = .locked || txn.RowExclusive)

/-- Where the `INSERT` is executed from. -/
def ready (txn : Txn) : TxnPc := if txn.expectedHead.isSome then .locked else .begun

/-- The sequence the transaction has drawn for its row. -/
def sequence? (txn : Txn) : Option Nat :=
  match txn.pc with
  | .waiting sequence | .inserted sequence => some sequence
  | _ => none

end Txn

/-- The committed rows, the open transactions, and the reader. -/
structure SharedStore where
  rows : List Event
  nextSequence : Nat
  txns : List Txn
  cursor : Nat
  returned : List Event

inductive SharedLabel
  | append (event : Event) (expectedHead : Option Nat)
  | lock (index : Nat)
  | insert (index : Nat)
  | resume (index : Nat)
  | commit (index : Nat)
  | rollback (index : Nat)
  | read (limit : Option Nat)

namespace SharedStore

def initial : SharedStore := ⟨[], 1, [], 0, []⟩

/-- `COALESCE(MAX(sequence), 0)`. -/
def latestSequence (s : SharedStore) : Nat := (s.rows.map Event.seq).foldr max 0

def stores (s : SharedStore) (id : String) : Bool := s.rows.any fun row => row.id = id

/-- Another open transaction has a row with this event id. -/
def contended (s : SharedStore) (index : Nat) (id : String) : Bool :=
  (s.txns.eraseIdx index).any fun other => other.event.id = id && other.pc matches .inserted _

def setPc (s : SharedStore) (index : Nat) (txn : Txn) (pc : TxnPc) : SharedStore :=
  { s with txns := s.txns.set index { txn with pc } }

/-- The `INSERT` has drawn `sequence`: `ON CONFLICT(event_id) DO NOTHING`. -/
def insertPc (s : SharedStore) (index : Nat) (txn : Txn) (sequence : Nat) : TxnPc :=
  if s.stores txn.event.id then .known
  else if s.contended index txn.event.id then .waiting sequence
  else .inserted sequence

/-! ## The reader -/

/-- `WHERE sequence > cursor ORDER BY sequence ASC`. -/
def after (s : SharedStore) : List Event :=
  (s.rows.filter fun row => s.cursor < row.seq).insertionSort fun a b => a.seq ≤ b.seq

def batch (s : SharedStore) : Option Nat → List Event
  | none => s.after
  | some limit => s.after.take limit

/-- One read, and the cursor set to the greatest sequence returned. -/
def read (s : SharedStore) (limit : Option Nat) : SharedStore :=
  { s with
    returned := s.returned ++ s.batch limit
    cursor := ((s.batch limit).getLast?.map Event.seq).getD s.cursor }

/-- The loop of `copy_events`: read until a batch is empty. -/
def copyEvents (limit : Nat) : Nat → SharedStore → SharedStore
  | 0, s => s
  | reads + 1, s =>
    if (s.batch (some limit)).isEmpty then s else copyEvents limit reads (s.read (some limit))

/-- The reader goes on until it is given nothing; there are no more batches than rows. -/
def catchUp (s : SharedStore) (limit : Nat) : SharedStore := copyEvents limit s.rows.length s

/-! ## The machine -/

def step (s : SharedStore) : SharedLabel → Option SharedStore
  | .append event expectedHead => some { s with txns := s.txns ++ [⟨event, expectedHead, .begun⟩] }
  | .lock index => do
    let txn ← s.txns[index]?
    let head ← txn.expectedHead
    if txn.pc = .begun ∧ ∀ other ∈ s.txns.eraseIdx index,
        other.RowExclusive = false ∧ other.Exclusive = false then
      return s.setPc index txn
        (if s.stores txn.event.id then .known
        -- `ConcurrentAppendError`
        else if s.latestSequence ≠ head then .ended
        else .locked)
    else none
  | .insert index => do
    let txn ← s.txns[index]?
    if txn.pc = txn.ready ∧ ∀ other ∈ s.txns.eraseIdx index, other.Exclusive = false then
      return { s.setPc index txn (s.insertPc index txn s.nextSequence) with
        nextSequence := s.nextSequence + 1 }
    else none
  | .resume index => do
    let txn ← s.txns[index]?
    match txn.pc with
    | .waiting sequence =>
      if s.contended index txn.event.id then none
      else some (s.setPc index txn (s.insertPc index txn sequence))
    | _ => none
  | .commit index => do
    let txn ← s.txns[index]?
    match txn.pc with
    | .inserted sequence =>
      some { s.setPc index txn .ended with rows := s.rows ++ [txn.event.withSequence sequence] }
    | .known => some (s.setPc index txn .ended)
    | _ => none
  | .rollback index => do
    let txn ← s.txns[index]?
    return s.setPc index txn .ended
  | .read limit => some (s.read limit)

/-- What a step does to the drawn sequences, the rows and the reader. -/
inductive Stepped (s : SharedStore) : SharedLabel → SharedStore → Prop
  | opened {event expectedHead} :
      Stepped s (.append event expectedHead)
        { s with txns := s.txns ++ [⟨event, expectedHead, .begun⟩] }
  | moved {l index txn pc} (htxn : s.txns[index]? = some txn)
      (hsequence : Txn.sequence? { txn with pc } = none ∨
        Txn.sequence? { txn with pc } = txn.sequence?)
      (hlabel : ∀ i, l = .commit i → ∀ t, s.txns[i]? = some t → t.sequence? = none) :
      Stepped s l (s.setPc index txn pc)
  | drew {index txn pc} (htxn : s.txns[index]? = some txn)
      (hsequence : Txn.sequence? { txn with pc } = none ∨
        Txn.sequence? { txn with pc } = some s.nextSequence) :
      Stepped s (.insert index) { s.setPc index txn pc with nextSequence := s.nextSequence + 1 }
  | committed {index txn sequence} (htxn : s.txns[index]? = some txn)
      (hpc : txn.pc = .inserted sequence) :
      Stepped s (.commit index)
        { s.setPc index txn .ended with rows := s.rows ++ [txn.event.withSequence sequence] }
  | read {limit} : Stepped s (.read limit) (s.read limit)

variable {s s' : SharedStore}

theorem insertPc_sequence (s : SharedStore) (index : Nat) (txn : Txn) (sequence : Nat) :
    Txn.sequence? { txn with pc := s.insertPc index txn sequence } = none ∨
      Txn.sequence? { txn with pc := s.insertPc index txn sequence } = some sequence := by
  unfold insertPc
  split
  · exact Or.inl rfl
  · split
    · exact Or.inr rfl
    · exact Or.inr rfl

theorem step_cases {l : SharedLabel} (h : s.step l = some s') : Stepped s l s' := by
  cases l with
  | append event expectedHead =>
    cases h
    exact .opened
  | lock index =>
    obtain ⟨txn, htxn, h⟩ := Option.bind_eq_some_iff.mp h
    obtain ⟨head, -, h⟩ := Option.bind_eq_some_iff.mp h
    split at h
    · cases h
      refine .moved htxn (Or.inl ?_) (by rintro _ ⟨⟩)
      split
      · rfl
      · split <;> rfl
    · cases h
  | insert index =>
    obtain ⟨txn, htxn, h⟩ := Option.bind_eq_some_iff.mp h
    split at h
    · cases h
      exact .drew htxn (insertPc_sequence s index txn s.nextSequence)
    · cases h
  | resume index =>
    obtain ⟨txn, htxn, h⟩ := Option.bind_eq_some_iff.mp h
    split at h
    · rename_i sequence hpc
      split at h
      · cases h
      · cases h
        refine .moved htxn ?_ (by rintro _ ⟨⟩)
        have hold : txn.sequence? = some sequence := by rw [Txn.sequence?, hpc]
        rw [hold]
        exact insertPc_sequence s index txn sequence
    · cases h
  | commit index =>
    obtain ⟨txn, htxn, h⟩ := Option.bind_eq_some_iff.mp h
    split at h
    · rename_i sequence hpc
      cases h
      exact .committed htxn hpc
    · rename_i hpc
      cases h
      refine .moved htxn (Or.inl rfl) ?_
      rintro _ ⟨⟩ t ht
      rw [htxn] at ht
      cases ht
      rw [Txn.sequence?, hpc]
    · cases h
  | rollback index =>
    obtain ⟨txn, htxn, h⟩ := Option.bind_eq_some_iff.mp h
    cases h
    exact .moved htxn (Or.inl rfl) (by rintro _ ⟨⟩)
  | read limit =>
    cases h
    exact .read

/-! ## Sequences -/

/-- Every sequence is drawn once, and only committed rows are returned. -/
structure Sequenced (s : SharedStore) : Prop where
  below : ∀ row ∈ s.rows, row.seq < s.nextSequence
  distinct : (s.rows.map Event.seq).Nodup
  drawn : All (fun i txn => ∀ sequence, txn.sequence? = some sequence →
    sequence < s.nextSequence ∧ (∀ row ∈ s.rows, row.seq ≠ sequence) ∧
    All (fun j other => j ≠ i → other.sequence? ≠ some sequence) s.txns) s.txns
  returned : ∀ row ∈ s.returned, row ∈ s.rows

theorem initial_sequenced : Sequenced initial := by
  refine ⟨?_, List.nodup_nil, ?_, ?_⟩
  · rintro _ ⟨⟩
  · rintro _ _ ⟨⟩
  · rintro _ ⟨⟩

/-- A transaction that moved draws no sequence, or keeps its own. -/
theorem Sequenced.moved (h : Sequenced s) {index : Nat} {txn : Txn} {pc : TxnPc}
    (htxn : s.txns[index]? = some txn)
    (hsequence : Txn.sequence? { txn with pc } = none ∨
      Txn.sequence? { txn with pc } = txn.sequence?) :
    Sequenced (s.setPc index txn pc) := by
  refine ⟨h.below, h.distinct, ?_, h.returned⟩
  have hothers : ∀ j sequence, j ≠ index →
      (∃ other, s.txns[j]? = some other ∧ other.sequence? = some sequence) →
      Txn.sequence? { txn with pc } ≠ some sequence := by
    rintro j sequence hne ⟨other, hother, hdrawn⟩ heq
    rcases hsequence with hnone | hsame
    · rw [hnone] at heq
      cases heq
    · rw [hsame] at heq
      exact (h.drawn index txn htxn sequence heq).2.2 j other hother hne hdrawn
  refine h.drawn.set ?_ ?_
  · intro sequence hdrawn
    rcases hsequence with hnone | hsame
    · rw [hnone] at hdrawn
      cases hdrawn
    · rw [hsame] at hdrawn
      obtain ⟨hlt, hrows, hdistinct⟩ := h.drawn index txn htxn sequence hdrawn
      refine ⟨hlt, hrows, hdistinct.set (fun hne => absurd rfl hne) ?_⟩
      exact fun _ _ _ _ hother => hother
  · intro j other hne hother hdrawn sequence hsequence'
    obtain ⟨hlt, hrows, hdistinct⟩ := hdrawn sequence hsequence'
    refine ⟨hlt, hrows, hdistinct.set ?_ ?_⟩
    · exact fun _ => hothers j sequence hne ⟨other, hother, hsequence'⟩
    · exact fun _ _ _ _ hother => hother

/-- A transaction drew the next sequence, for a row or for nothing. -/
theorem Sequenced.drew (h : Sequenced s) {index : Nat} {txn : Txn} {pc : TxnPc}
    (hsequence : Txn.sequence? { txn with pc } = none ∨
      Txn.sequence? { txn with pc } = some s.nextSequence) :
    Sequenced { s.setPc index txn pc with nextSequence := s.nextSequence + 1 } := by
  refine ⟨fun row hrow => Nat.lt_succ_of_lt (h.below row hrow), h.distinct, ?_, h.returned⟩
  refine h.drawn.set ?_ ?_
  · intro sequence hdrawn
    rcases hsequence with hnone | hnext
    · rw [hnone] at hdrawn
      cases hdrawn
    · rw [hnext] at hdrawn
      cases hdrawn
      refine ⟨Nat.lt_succ_self _, fun row hrow => Nat.ne_of_lt (h.below row hrow), ?_⟩
      refine h.drawn.set (fun hne => absurd rfl hne) ?_
      -- What the others drew is below.
      intro j other _ hother hbelow _ heq
      exact Nat.lt_irrefl _ (hbelow _ heq).1
  · intro j other hne hother hdrawn sequence hsequence'
    obtain ⟨hlt, hrows, hdistinct⟩ := hdrawn sequence hsequence'
    refine ⟨Nat.lt_succ_of_lt hlt, hrows, hdistinct.set ?_ fun _ _ _ _ hother => hother⟩
    intro _ heq
    rcases hsequence with hnone | hnext
    · rw [hnone] at heq
      cases heq
    · rw [hnext] at heq
      cases heq
      exact Nat.lt_irrefl _ hlt

theorem Sequenced.committed (h : Sequenced s) {index : Nat} {txn : Txn} {sequence : Nat}
    (htxn : s.txns[index]? = some txn) (hpc : txn.pc = .inserted sequence) :
    Sequenced { s.setPc index txn .ended with
      rows := s.rows ++ [txn.event.withSequence sequence] } := by
  have hdrawn : txn.sequence? = some sequence := by rw [Txn.sequence?, hpc]
  obtain ⟨hlt, hrows, hdistinct⟩ := h.drawn index txn htxn sequence hdrawn
  have hended : Sequenced (s.setPc index txn .ended) := h.moved htxn (Or.inl rfl)
  refine ⟨?_, ?_, ?_, ?_⟩
  · intro row hrow
    rcases List.mem_append.mp hrow with hold | hnew
    · exact h.below row hold
    · rw [List.mem_singleton.mp hnew]
      exact hlt
  · rw [List.map_append]
    refine h.distinct.append (List.nodup_singleton _) (List.disjoint_singleton.mpr ?_)
    intro hmem
    obtain ⟨row, hrow, heq⟩ := List.mem_map.mp hmem
    exact hrows row hrow heq
  · refine hended.drawn.imp fun j other hother hall sequence' hsequence' => ?_
    obtain ⟨hlt', hrows', hothers'⟩ := hall sequence' hsequence'
    refine ⟨hlt', fun row hrow => ?_, hothers'⟩
    rcases List.mem_append.mp hrow with hold | hnew
    · exact hrows' row hold
    · rw [List.mem_singleton.mp hnew]
      rintro heq
      -- The committed sequence was drawn by this transaction only.
      rcases get_set hother with ⟨rfl, rfl⟩ | ⟨hne, hother⟩
      · cases hsequence'
      · exact hdistinct j other hother hne (hsequence'.trans (congrArg some heq.symm))
  · exact fun row hrow => List.mem_append_left _ (h.returned row hrow)

theorem batch_subset (s : SharedStore) (limit : Option Nat) :
    (s.batch limit).Sublist s.after := by
  cases limit with
  | none => exact .refl _
  | some limit => exact List.take_sublist _ _

theorem mem_after {row : Event} : row ∈ s.after ↔ row ∈ s.rows ∧ s.cursor < row.seq := by
  rw [after, List.mem_insertionSort, List.mem_filter, decide_eq_true_iff]

theorem mem_batch {limit : Option Nat} {row : Event} (h : row ∈ s.batch limit) :
    row ∈ s.rows ∧ s.cursor < row.seq :=
  mem_after.mp ((batch_subset s limit).subset h)

theorem Sequenced.read (h : Sequenced s) (limit : Option Nat) : Sequenced (s.read limit) := by
  refine ⟨h.below, h.distinct, h.drawn, fun row hrow => ?_⟩
  rcases List.mem_append.mp hrow with hold | hnew
  · exact h.returned row hold
  · exact (mem_batch hnew).1

theorem step_sequenced (h : Sequenced s) {l : SharedLabel} (hs : s.step l = some s') :
    Sequenced s' := by
  cases step_cases hs with
  | opened =>
    refine ⟨h.below, h.distinct, ?_, h.returned⟩
    refine h.drawn.append (by rintro _ ⟨⟩) fun j other _ hdrawn sequence hsequence => ?_
    obtain ⟨hlt, hrows, hdistinct⟩ := hdrawn sequence hsequence
    exact ⟨hlt, hrows, hdistinct.append (by rintro _ ⟨⟩) fun _ _ _ hother => hother⟩
  | moved htxn hsequence => exact h.moved htxn hsequence
  | drew htxn hsequence => exact h.drew hsequence
  | committed htxn hpc => exact h.committed htxn hpc
  | read => exact h.read _

/-! ## The reader's cursor -/

/-- A batch is a first part of what is there: whatever it leaves out is above the
new cursor. -/
theorem mem_batch_of_le (h : Sequenced s) (limit : Option Nat) {row : Event} (hrow : row ∈ s.rows)
    (habove : s.cursor < row.seq) (hle : row.seq ≤ (s.read limit).cursor) :
    row ∈ s.batch limit := by
  have hafter : row ∈ s.after := mem_after.mpr ⟨hrow, habove⟩
  have hsorted : s.after.Pairwise fun a b => a.seq ≤ b.seq := List.pairwise_insertionSort _ _
  cases limit with
  | none => exact hafter
  | some limit =>
    rw [← List.take_append_drop limit s.after] at hafter hsorted
    rcases List.mem_append.mp hafter with htake | hdrop
    · exact htake
    · rcases List.eq_nil_or_concat' (s.after.take limit) with hnil | ⟨init, last, hlast⟩
      · have hcursor : (s.read (some limit)).cursor = s.cursor := by
          rw [SharedStore.read, batch, hnil]
          rfl
        omega
      · have hcursor : (s.read (some limit)).cursor = last.seq := by
          rw [SharedStore.read, batch, hlast, List.getLast?_concat]
          rfl
        have hmem : last ∈ s.after.take limit := by rw [hlast]; simp
        have hge := (List.pairwise_append.mp hsorted).2.2 last hmem row hdrop
        -- The last row of the batch is the only one of its sequence.
        have hbatch : last ∈ s.batch (some limit) := hmem
        have hlastrow := (mem_batch hbatch).1
        have heq : row.seq = last.seq := by omega
        rw [List.inj_on_of_nodup_map h.distinct hrow hlastrow heq]
        exact hmem

theorem cursor_le_read (s : SharedStore) (limit : Option Nat) :
    s.cursor ≤ (s.read limit).cursor := by
  rcases List.eq_nil_or_concat' (s.batch limit) with hnil | ⟨init, last, hlast⟩
  · rw [SharedStore.read, hnil]
    exact Nat.le_refl _
  · have hmem : last ∈ s.batch limit := by rw [hlast]; simp
    rw [SharedStore.read, hlast, List.getLast?_concat]
    exact Nat.le_of_lt (mem_batch hmem).2

/-- The rows the reader has still to come to. -/
def ahead (s : SharedStore) : Nat := s.rows.countP fun row => s.cursor < row.seq

/-- A batch that is not empty moves the cursor over at least one row. -/
theorem ahead_read (s : SharedStore) (limit : Option Nat) (h : (s.batch limit).isEmpty = false) :
    (s.read limit).ahead < s.ahead := by
  rcases List.eq_nil_or_concat' (s.batch limit) with hnil | ⟨init, last, hlast⟩
  · rw [hnil] at h
    cases h
  · have hmem : last ∈ s.batch limit := by rw [hlast]; simp
    obtain ⟨hrow, hlt⟩ := mem_batch hmem
    have hcursor : (s.read limit).cursor = last.seq := by
      rw [SharedStore.read, hlast, List.getLast?_concat]
      rfl
    unfold ahead
    rw [hcursor]
    show (s.rows.countP fun row => last.seq < row.seq) < _
    obtain ⟨front, rest, hsplit⟩ := List.append_of_mem hrow
    have hmono : ∀ rows : List Event, (rows.countP fun row => last.seq < row.seq) ≤
        rows.countP fun row => s.cursor < row.seq := by
      intro rows
      refine List.countP_mono_left fun row _ habove => ?_
      rw [decide_eq_true_iff] at habove ⊢
      omega
    have hfront := hmono front
    have hrest := hmono rest
    rw [hsplit, List.countP_append, List.countP_append, List.countP_cons_of_neg (by simp),
      List.countP_cons_of_pos (by simpa using hlt)]
    omega

theorem batch_isEmpty {limit : Nat} (hlimit : 0 < limit)
    (h : (s.batch (some limit)).isEmpty = true) : ∀ row ∈ s.rows, row.seq ≤ s.cursor := by
  intro row hrow
  by_contra hlt
  have hmem : row ∈ s.after := mem_after.mpr ⟨hrow, Nat.lt_of_not_le hlt⟩
  rw [batch, List.isEmpty_iff, List.take_eq_nil_iff] at h
  rcases h with hzero | hnil
  · omega
  · rw [hnil] at hmem
    cases hmem

/-- **The loop comes to the end**: after it no row is ahead of the cursor. -/
theorem copyEvents_done {limit : Nat} (hlimit : 0 < limit) {reads : Nat} {s : SharedStore}
    (h : s.ahead ≤ reads) :
    ∀ row ∈ (s.copyEvents limit reads).rows, row.seq ≤ (s.copyEvents limit reads).cursor := by
  induction reads generalizing s with
  | zero =>
    intro row hrow
    have hnone := List.countP_eq_zero.mp (Nat.le_zero.mp h) row hrow
    rw [decide_eq_true_iff] at hnone
    exact Nat.le_of_not_lt hnone
  | succ reads ih =>
    rw [copyEvents]
    split
    · rename_i hempty
      exact batch_isEmpty hlimit hempty
    · rename_i hbatch
      have := s.ahead_read (some limit) (Bool.of_not_eq_true hbatch)
      exact ih (by omega)

/-! ## What the reader gets -/

/-- The reader got every row up to its cursor. -/
def Complete (s : SharedStore) : Prop :=
  ∀ row ∈ s.rows, row.seq ≤ s.cursor → row ∈ s.returned

/-- A row the reader has passed without getting it. -/
def Lost (s : SharedStore) : Prop :=
  ∃ row ∈ s.rows, row.seq ≤ s.cursor ∧ row ∉ s.returned

theorem Complete.read (h : Complete s) (hsequenced : Sequenced s) (limit : Option Nat) :
    Complete (s.read limit) := by
  intro row hrow hle
  by_cases hbelow : row.seq ≤ s.cursor
  · exact List.mem_append_left _ (h row hrow hbelow)
  · exact List.mem_append_right _
      (mem_batch_of_le hsequenced limit hrow (Nat.lt_of_not_le hbelow) hle)

/-- What is lost stays lost: reads only return what is above the cursor. -/
theorem Lost.read (h : Lost s) (limit : Option Nat) : Lost (s.read limit) := by
  obtain ⟨row, hrow, hle, hnot⟩ := h
  refine ⟨row, hrow, hle.trans (cursor_le_read s limit), fun hmem => ?_⟩
  rcases List.mem_append.mp hmem with hold | hnew
  · exact hnot hold
  · have := (mem_batch hnew).2
    omega

theorem copyEvents_keeps {P : SharedStore → Prop} (hread : ∀ s limit, P s → P (read s limit))
    {limit reads : Nat} {s : SharedStore} (h : P s) : P (s.copyEvents limit reads) := by
  induction reads generalizing s with
  | zero => exact h
  | succ reads ih =>
    rw [copyEvents]
    split
    · exact h
    · exact ih (hread s _ h)

theorem copyEvents_rows (limit reads : Nat) (s : SharedStore) :
    (s.copyEvents limit reads).rows = s.rows :=
  copyEvents_keeps (P := fun t => t.rows = s.rows) (fun _ _ h => h) rfl

/-- Whoever catches up gets all rows, if none was lost on the way, and only then. -/
theorem catchUp_all {limit : Nat} (hlimit : 0 < limit) :
    (Complete s → Sequenced s → ∀ row ∈ s.rows, row ∈ (s.catchUp limit).returned) ∧
      (Lost s → ∃ row ∈ s.rows, row ∉ (s.catchUp limit).returned) := by
  constructor
  · intro hcomplete hsequenced row hrow
    have hkeeps : Complete (s.catchUp limit) ∧ Sequenced (s.catchUp limit) :=
      copyEvents_keeps (P := fun t => Complete t ∧ Sequenced t)
        (fun t limit h => ⟨h.1.read h.2 limit, h.2.read limit⟩) ⟨hcomplete, hsequenced⟩
    have hin : row ∈ (s.catchUp limit).rows := by rwa [catchUp, copyEvents_rows]
    exact hkeeps.1 row hin (copyEvents_done hlimit List.countP_le_length row hin)
  · intro hlost
    obtain ⟨row, hrow, -, hnot⟩ : Lost (s.catchUp limit) :=
      copyEvents_keeps (P := Lost) (fun _ limit h => h.read limit) hlost
    rw [catchUp, copyEvents_rows] at hrow
    exact ⟨row, hrow, hnot⟩

/-- The transaction that commits has its row above the reader's cursor. -/
def CommitsAbove (s : SharedStore) : SharedLabel → Prop
  | .commit index => ∀ txn ∈ s.txns[index]?, ∀ sequence ∈ txn.sequence?, s.cursor < sequence
  | _ => True

instance (s : SharedStore) (l : SharedLabel) : Decidable (CommitsAbove s l) := by
  unfold CommitsAbove
  split <;> infer_instance

theorem step_complete (h : Complete s) (hsequenced : Sequenced s) {l : SharedLabel}
    (hs : s.step l = some s') :
    (CommitsAbove s l → Complete s') ∧ (¬ CommitsAbove s l → Lost s') := by
  cases step_cases hs with
  | opened => exact ⟨fun _ => h, fun hnot => absurd trivial hnot⟩
  | @moved l index txn pc htxn _ hlabel =>
    refine ⟨fun _ => h, fun hnot => absurd ?_ hnot⟩
    cases l with
    | commit i =>
      intro t ht sequence hsequence
      rw [hlabel i rfl t ht] at hsequence
      cases hsequence
    | _ => trivial
  | drew => exact ⟨fun _ => h, fun hnot => absurd trivial hnot⟩
  | @committed index txn sequence htxn hpc =>
    have hdrawn : txn.sequence? = some sequence := by rw [Txn.sequence?, hpc]
    constructor
    · intro habove row hrow hle
      rcases List.mem_append.mp hrow with hold | hnew
      · exact h row hold hle
      · rw [List.mem_singleton.mp hnew] at hle
        have := habove txn htxn sequence hdrawn
        exact absurd hle (Nat.not_le_of_lt this)
    · intro hnot
      refine ⟨_, List.mem_append_right _ (List.mem_singleton_self _), ?_, ?_⟩
      · by_contra hlt
        refine hnot fun t ht sequence' hsequence' => ?_
        rw [htxn] at ht
        cases ht
        rw [hdrawn] at hsequence'
        cases hsequence'
        exact Nat.lt_of_not_le hlt
      · -- What was returned was committed before, under another sequence.
        intro hmem
        obtain ⟨-, hrows, -⟩ := hsequenced.drawn index txn htxn sequence hdrawn
        exact hrows _ (hsequenced.returned _ hmem) rfl
  | read => exact ⟨fun _ => h.read hsequenced _, fun hnot => absurd trivial hnot⟩

theorem step_lost (h : Lost s) {l : SharedLabel} (hs : s.step l = some s') : Lost s' := by
  cases step_cases hs with
  | opened => exact h
  | moved => exact h
  | drew => exact h
  | committed =>
    obtain ⟨row, hrow, hrest⟩ := h
    exact ⟨row, List.mem_append_left _ hrow, hrest⟩
  | read => exact h.read _

/-- **A reader that goes on gets every committed row if and only if no transaction
committed at or below its cursor.** -/
theorem catchUp_complete_iff {limit : Nat} (hlimit : 0 < limit) {ls : List SharedLabel}
    (h : Run step Free initial ls s) :
    (∀ row ∈ s.rows, row ∈ (s.catchUp limit).returned) ↔ Run step CommitsAbove initial ls s := by
  have hinit : Complete initial ∧ Sequenced initial := ⟨by rintro _ ⟨⟩, initial_sequenced⟩
  have hdecides : Run step CommitsAbove initial ls s ∧ (Complete s ∧ Sequenced s) ∨
      ¬ Run step CommitsAbove initial ls s ∧ Lost s := by
    refine Run.decides (I := fun t => Complete t ∧ Sequenced t) (J := Lost) h hinit
      (fun s l s' hI hs => ?_) fun s l s' hJ hs => step_lost hJ hs
    obtain ⟨hkeep, hleave⟩ := step_complete hI.1 hI.2 hs
    exact ⟨fun hok => ⟨hkeep hok, step_sequenced hI.2 hs⟩, hleave⟩
  obtain ⟨hall, hlost⟩ := catchUp_all (s := s) hlimit
  rcases hdecides with ⟨hrun, hcomplete, hsequenced⟩ | ⟨hnot, hJ⟩
  · exact ⟨fun _ => hrun, fun _ => hall hcomplete hsequenced⟩
  · refine ⟨fun hgot => ?_, fun hrun => absurd hrun hnot⟩
    obtain ⟨row, hrow, hmissing⟩ := hlost hJ
    exact absurd (hgot row hrow) hmissing

/-! ## Two overlapping appends -/

/-- An event with nothing in it. -/
def bareEvent (id : String) : Event where
  type := "tick"
  source := "clock"
  payload := .empty
  subject := none
  id := id
  timestamp := .utc 0
  correlationId := none
  causationId := none
  priority := 0
  sequence := none
  metadata := .empty
  schemaVersion := 1
  schemaVersion_pos := Nat.one_pos

/-- Two appends that overlap, and what follows. -/
def overlapping (order : List SharedLabel) : List SharedLabel :=
  [.append (bareEvent "a") none, .append (bareEvent "b") none, .insert 0, .insert 1] ++ order

/-- The commits in the order of the sequences: the reader gets both. -/
theorem orderedCommits_read : ∃ s, Run step Free initial
    (overlapping [.commit 0, .read none, .commit 1]) s ∧ s.rows.length = 2 ∧
    ∀ row ∈ s.rows, row ∈ (s.catchUp 500).returned := by
  have hrun : (exec step CommitsAbove initial (overlapping [.commit 0, .read none, .commit 1])).any
      (fun s => s.rows.length = 2) = true := by decide +kernel
  obtain ⟨s, hexec, hlength⟩ := (Option.any_eq_true _ _).mp hrun
  have habove : Run step CommitsAbove initial _ s := .of_exec hexec
  exact ⟨s, habove.free, of_decide_eq_true hlength,
    (catchUp_complete_iff (by decide) habove.free).mpr habove⟩

/-- The second append commits first, and the reader comes between them: it never
gets the first one. -/
theorem lateCommit_lost : ¬ ∀ ls s, Run step Free initial ls s →
    ∀ row ∈ s.rows, row ∈ (s.catchUp 500).returned := by
  intro hclaim
  have hrun : (exec step Free initial (overlapping [.commit 1, .read none, .commit 0])).any
      (fun s => s.rows.any fun row =>
        (s.catchUp 500).returned.all fun other => decide (other.id ≠ row.id)) = true := by
    decide +kernel
  obtain ⟨s, hexec, hlost⟩ := (Option.any_eq_true _ _).mp hrun
  obtain ⟨row, hrow, hnot⟩ := List.any_eq_true.mp hlost
  have hgot := hclaim _ s (.of_exec hexec) row hrow
  exact of_decide_eq_true (List.all_eq_true.mp hnot row hgot) rfl

end SharedStore
end Noema
