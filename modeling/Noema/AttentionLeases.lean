import Mathlib.Data.List.Range
import Noema.Attention
import Noema.Lib.Machine

/-!
# Attention leases

Callers of an attention account hold leases and settle them, as often as they like;
others replenish the account.  A call that has passed its first check waits for the lock
of the account, and the calls take the lock in any order, each at its own time or never.
A lease gives its reservation back once, whatever is called (`returns_nodup`).  The
budget holds exactly as long as an amount is only added while nothing is reserved:
`replenish(amount)`, unlike `replenish()`, does not count what the open leases hold
(`respected_iff`).
-/
namespace Noema

open Machine

namespace AttentionAccount

/-- `replenish`. -/
def replenish (account : AttentionAccount) : Option ℚ → AttentionAccount
  | none => { account with available := account.capacity - account.reserved }
  | some amount =>
    { account with available := min account.capacity (account.available + max 0 amount) }

variable {account : AttentionAccount}

theorem settle_leases (number : Nat) (reserved : ℚ) (actualCost : Option ℚ) :
    (account.settle number reserved actualCost).leases =
      account.leases.filter fun lease => lease.1 ≠ number := by
  unfold settle
  split
  · rfl
  · rename_i hnone
    refine (List.filter_eq_self.mpr fun lease hlease => ?_).symm
    rw [decide_eq_true_iff]
    intro heq
    exact hnone (List.any_eq_true.mpr ⟨lease, hlease, by simpa using heq⟩)

@[simp] theorem settle_counter (number : Nat) (reserved : ℚ) (actualCost : Option ℚ) :
    (account.settle number reserved actualCost).counter = account.counter := by
  unfold settle
  split <;> rfl

@[simp] theorem replenish_leases (amount : Option ℚ) :
    (account.replenish amount).leases = account.leases := by
  cases amount <;> rfl

@[simp] theorem replenish_counter (amount : Option ℚ) :
    (account.replenish amount).counter = account.counter := by
  cases amount <;> rfl

@[simp] theorem replenish_capacity (amount : Option ℚ) :
    (account.replenish amount).capacity = account.capacity := by
  cases amount <;> rfl

theorem nonneg_of_acquire {amount : ℚ} {answer : AttentionAccount × Option Nat}
    (h : account.acquire amount = .ok answer) : 0 ≤ amount := by
  by_contra hneg
  rw [acquire, if_pos (not_le.mp hneg)] at h
  cases h

/-- A lease that is no longer open is settled to no effect. -/
theorem settle_closed {number : Nat} (h : number ∉ account.leases.map Prod.fst) (reserved : ℚ)
    (actualCost : Option ℚ) : account.settle number reserved actualCost = account := by
  rw [settle, if_neg]
  intro hany
  obtain ⟨lease, hlease, heq⟩ := List.any_eq_true.mp hany
  exact h (List.mem_map.mpr ⟨lease, hlease, by simpa using heq⟩)

/-- An amount that may be added: none at all, or one while nothing is reserved. -/
def Spare (account : AttentionAccount) (amount : Option ℚ) : Prop :=
  ∀ added ∈ amount, added ≤ 0 ∨ account.reserved = 0

instance (amount : Option ℚ) : Decidable (account.Spare amount) :=
  inferInstanceAs (Decidable (∀ added ∈ amount, added ≤ 0 ∨ account.reserved = 0))

/-- In a balanced account there is nothing to replenish, or nothing that may be. -/
theorem replenish_spare (hb : account.Balanced) {amount : Option ℚ}
    (h : account.Spare amount) : account.replenish amount = account := by
  have hbalance := hb.balance
  have hroom : account.available ≤ account.capacity := by
    have := reserved_nonneg hb
    linarith
  cases amount with
  | none =>
    have havailable : account.capacity - account.reserved = account.available := by linarith
    rw [replenish, havailable]
  | some added =>
    have havailable : min account.capacity (account.available + max 0 added) =
        account.available := by
      rcases h added rfl with hadded | hempty
      · rw [max_eq_left hadded, add_zero, min_eq_right hroom]
      · have hfull : account.available = account.capacity := by linarith
        rw [hfull]
        exact min_eq_left (le_add_of_nonneg_right (le_max_left 0 added))
    rw [replenish, havailable]

/-- Any other amount is counted twice, as available and as reserved. -/
theorem replenish_not_spare (hb : account.Balanced) {amount : Option ℚ}
    (h : ¬ account.Spare amount) :
    account.capacity < (account.replenish amount).available + account.reserved := by
  unfold Spare at h
  push Not at h
  obtain ⟨added, rfl, hadded, hempty⟩ := h
  have hbalance := hb.balance
  have hreserved : 0 < account.reserved := lt_of_le_of_ne (reserved_nonneg hb) hempty.symm
  have hmore : account.available < min account.capacity (account.available + max 0 added) := by
    refine lt_min (by linarith) ?_
    rw [max_eq_right hadded.le]
    linarith
  dsimp only [replenish]
  linarith

end AttentionAccount

/-- `AttentionLease`: what a caller of `acquire` holds. -/
structure AttentionLease where
  leaseId : Nat
  reserved : ℚ
  settled : Bool
deriving Repr, DecidableEq

/-- A call on the account or on one of its leases. -/
inductive AttentionCall
  | acquire (amount : ℚ)
  | settle (leaseId : Nat) (actualCost : Option ℚ)
  | replenish (amount : Option ℚ)
deriving Repr, DecidableEq

/-- The amount a call adds explicitly. -/
def AttentionCall.replenished : AttentionCall → Option ℚ
  | .replenish amount => amount
  | _ => none

/-- An account, the leases it has handed out and the calls that wait for its lock. -/
structure AttentionSystem where
  account : AttentionAccount
  leases : List AttentionLease
  waiting : List AttentionCall
deriving DecidableEq

inductive AttentionAction
  /-- A caller makes a call. -/
  | call (call : AttentionCall)
  /-- A waiting call takes the lock; nothing in its body suspends it. -/
  | locked (index : Nat)
  /-- A waiting call is cancelled. -/
  | cancel (index : Nat)
deriving Repr, DecidableEq

namespace AttentionSystem

def start (capacity : ℚ) : AttentionSystem := ⟨.create capacity, [], []⟩

def lease? (s : AttentionSystem) (leaseId : Nat) : Option AttentionLease :=
  s.leases.find? fun lease => lease.leaseId = leaseId

/-- A call up to the lock: a negative amount is refused, a settled lease left alone. -/
def enter (s : AttentionSystem) : AttentionCall → Option AttentionSystem
  | .acquire amount =>
    if amount < 0 then some s else some { s with waiting := s.waiting ++ [.acquire amount] }
  | .settle leaseId actualCost =>
    (s.lease? leaseId).map fun lease =>
      if lease.settled then s else { s with waiting := s.waiting ++ [.settle leaseId actualCost] }
  | .replenish amount => some { s with waiting := s.waiting ++ [.replenish amount] }

/-- The lease of a number is settled. -/
def settled (leases : List AttentionLease) (leaseId : Nat) : List AttentionLease :=
  leases.map fun lease => if lease.leaseId = leaseId then { lease with settled := true } else lease

/-- The body of a call under the lock. -/
def body (s : AttentionSystem) : AttentionCall → AttentionSystem
  | .acquire amount =>
    match s.account.acquire amount with
    | .ok (account, some number) =>
      { s with account := account, leases := s.leases ++ [⟨number, amount, false⟩] }
    | .ok (account, none) => { s with account := account }
    | .error _ => s
  | .settle leaseId actualCost =>
    match s.lease? leaseId with
    | some lease =>
      { s with
        account := s.account.settle lease.leaseId lease.reserved actualCost
        leases := settled s.leases leaseId }
    | none => s
  | .replenish amount => { s with account := s.account.replenish amount }

def step (s : AttentionSystem) : AttentionAction → Option AttentionSystem
  | .call call => s.enter call
  | .locked index =>
    s.waiting[index]?.map fun call => ({ s with waiting := s.waiting.eraseIdx index }).body call
  | .cancel index =>
    if index < s.waiting.length then some { s with waiting := s.waiting.eraseIdx index } else none

/-- What the unsettled leases reserve. -/
def unsettled (s : AttentionSystem) : ℚ :=
  ((s.leases.filter fun lease => !lease.settled).map AttentionLease.reserved).sum

/-- **The budget holds.** -/
structure Within (s : AttentionSystem) : Prop where
  nonneg : 0 ≤ s.account.available
  capacity : s.account.available ≤ s.account.capacity
  reserved : s.account.available + s.unsettled ≤ s.account.capacity

/-- The lease whose reservation a step gives back. -/
def givesBack (s : AttentionSystem) : AttentionAction → Option Nat
  | .locked index =>
    match s.waiting[index]? with
    | some (.settle leaseId _) =>
      if s.account.leases.any fun lease => lease.1 = leaseId then some leaseId else none
    | _ => none
  | _ => none

/-- The leases whose reservations a run gives back, in order. -/
def returns (s : AttentionSystem) : List AttentionAction → List Nat
  | [] => []
  | action :: actions =>
    (s.step action).elim [] fun s' => (s.givesBack action).toList ++ s'.returns actions

variable {s s' : AttentionSystem} {capacity : ℚ}

theorem returns_cons (s : AttentionSystem) (action : AttentionAction)
    (actions : List AttentionAction) : s.returns (action :: actions) =
      (s.step action).elim [] fun s' => (s.givesBack action).toList ++ s'.returns actions := rfl

/-- The open leases of the account are the unsettled ones of its callers, and their
numbers count up. -/
structure Consistent (s : AttentionSystem) : Prop where
  numbered : s.leases.map AttentionLease.leaseId = List.range' 1 s.account.counter
  opened : s.account.leases =
    (s.leases.filter fun lease => !lease.settled).map fun lease => (lease.leaseId, lease.reserved)

theorem start_consistent : (start capacity).Consistent := ⟨rfl, rfl⟩

namespace Consistent

theorem unsettled_eq (h : s.Consistent) : s.unsettled = s.account.reserved := by
  rw [unsettled, AttentionAccount.reserved, h.opened, List.map_map]
  rfl

theorem nodup (h : s.Consistent) : (s.leases.map AttentionLease.leaseId).Nodup := by
  rw [h.numbered]
  exact List.nodup_range'

theorem counted (h : s.Consistent) {lease : AttentionLease} (hlease : lease ∈ s.leases) :
    lease.leaseId ≤ s.account.counter := by
  have hmem := List.mem_map_of_mem (f := AttentionLease.leaseId) hlease
  rw [h.numbered, List.mem_range'_1] at hmem
  omega

/-- An open number is that of the lease found under it. -/
theorem open_of_lease (h : s.Consistent) {leaseId : Nat} {lease : AttentionLease}
    (hlease : s.lease? leaseId = some lease)
    (hopen : leaseId ∈ s.account.leases.map Prod.fst) :
    (lease.leaseId, lease.reserved) ∈ s.account.leases := by
  have hid : lease.leaseId = leaseId := by simpa using List.find?_some hlease
  rw [h.opened, List.map_map] at hopen
  obtain ⟨other, hother, hotherId⟩ := List.mem_map.mp hopen
  have hmem := (List.mem_filter.mp hother).1
  have hsame : other = lease :=
    List.inj_on_of_nodup_map h.nodup hmem (List.mem_of_find?_eq_some hlease)
      (hotherId.trans hid.symm)
  rw [h.opened]
  exact List.mem_map.mpr ⟨other, hother, by rw [hsame]⟩

end Consistent

@[simp] theorem settled_ids (leases : List AttentionLease) (leaseId : Nat) :
    (settled leases leaseId).map AttentionLease.leaseId = leases.map AttentionLease.leaseId := by
  rw [settled, List.map_map]
  refine List.map_congr_left fun lease _ => ?_
  dsimp only [Function.comp]
  split <;> rfl

/-- Settling a lease takes it out of the unsettled ones. -/
theorem settled_opened (leases : List AttentionLease) (leaseId : Nat) :
    ((settled leases leaseId).filter fun lease => !lease.settled).map
        (fun lease => (lease.leaseId, lease.reserved)) =
      ((leases.filter fun lease => !lease.settled).map
        fun lease => (lease.leaseId, lease.reserved)).filter fun lease => lease.1 ≠ leaseId := by
  induction leases with
  | nil => rfl
  | cons lease leases ih =>
    rw [settled, List.map_cons, ← settled]
    by_cases hid : lease.leaseId = leaseId
    · rw [if_pos hid, List.filter_cons_of_neg (by simp), ih]
      by_cases hsettled : lease.settled = true
      · rw [List.filter_cons_of_neg (by simp [hsettled])]
      · rw [List.filter_cons_of_pos (by simp [hsettled]), List.map_cons,
          List.filter_cons_of_neg (by simp [hid])]
    · rw [if_neg hid]
      by_cases hsettled : lease.settled = true
      · rw [List.filter_cons_of_neg (by simp [hsettled]),
          List.filter_cons_of_neg (by simp [hsettled]), ih]
      · rw [List.filter_cons_of_pos (by simp [hsettled]),
          List.filter_cons_of_pos (by simp [hsettled]), List.map_cons, List.map_cons,
          List.filter_cons_of_pos (by simp [hid]), ih]

/-- A caller is refused a lease, or is handed the next one. -/
theorem body_acquire (s : AttentionSystem) (amount : ℚ) :
    s.body (.acquire amount) = s ∨
      0 ≤ amount ∧ amount ≤ s.account.available ∧
        s.body (.acquire amount) = { s with
          account := { s.account with
            counter := s.account.counter + 1
            available := s.account.available - amount
            leases := s.account.leases ++ [(s.account.counter + 1, amount)] }
          leases := s.leases ++ [⟨s.account.counter + 1, amount, false⟩] } := by
  cases hacquire : s.account.acquire amount with
  | error =>
    refine Or.inl ?_
    simp only [body, hacquire]
  | ok answer =>
    obtain ⟨account, number⟩ := answer
    have hamount := AttentionAccount.nonneg_of_acquire hacquire
    rcases AttentionAccount.acquire_cases hamount hacquire with ⟨rfl, rfl⟩ | ⟨rfl, hle, rfl⟩
    · refine Or.inl ?_
      simp only [body, hacquire]
    · refine Or.inr ⟨hamount, hle, ?_⟩
      simp only [body, hacquire]

theorem body_settle {leaseId : Nat} {lease : AttentionLease}
    (h : s.lease? leaseId = some lease) (actualCost : Option ℚ) :
    s.body (.settle leaseId actualCost) = { s with
      account := s.account.settle lease.leaseId lease.reserved actualCost
      leases := settled s.leases leaseId } := by
  simp only [body, h]

/-- The body of a call for a lease that nobody holds. -/
theorem body_settle_none {leaseId : Nat} (h : s.lease? leaseId = none) (actualCost : Option ℚ) :
    s.body (.settle leaseId actualCost) = s := by
  simp only [body, h]

@[simp] theorem body_replenish (s : AttentionSystem) (amount : Option ℚ) :
    s.body (.replenish amount) = { s with account := s.account.replenish amount } := rfl

theorem Consistent.body (h : s.Consistent) (call : AttentionCall) : (s.body call).Consistent := by
  cases call with
  | acquire amount =>
    rcases body_acquire s amount with hsame | ⟨-, -, hbody⟩
    · rw [hsame]
      exact h
    · rw [hbody]
      refine ⟨?_, ?_⟩
      · dsimp only
        rw [List.map_append, h.numbered, List.range'_concat]
        simp [Nat.add_comm]
      · dsimp only
        rw [h.opened, List.filter_append, List.map_append]
        rfl
  | settle leaseId actualCost =>
    cases hlease : s.lease? leaseId with
    | none =>
      rw [body_settle_none hlease]
      exact h
    | some lease =>
      have hid : lease.leaseId = leaseId := by simpa using List.find?_some hlease
      rw [body_settle hlease]
      refine ⟨?_, ?_⟩
      · dsimp only
        rw [settled_ids, AttentionAccount.settle_counter]
        exact h.numbered
      · dsimp only
        rw [AttentionAccount.settle_leases, settled_opened, h.opened, hid]
  | replenish amount =>
    rw [body_replenish]
    refine ⟨?_, ?_⟩
    · rw [AttentionAccount.replenish_counter]
      exact h.numbered
    · rw [AttentionAccount.replenish_leases]
      exact h.opened

/-- A step is the body of a waiting call, or it leaves the account and its leases alone. -/
theorem step_cases {action : AttentionAction} (h : s.step action = some s') :
    (∃ index call, action = .locked index ∧ s.waiting[index]? = some call ∧
        s' = ({ s with waiting := s.waiting.eraseIdx index } : AttentionSystem).body call) ∨
      (∀ index, action ≠ .locked index) ∧ s'.account = s.account ∧ s'.leases = s.leases := by
  cases action with
  | call call =>
    refine Or.inr ⟨fun _ => by rintro ⟨⟩, ?_⟩
    cases call with
    | acquire amount =>
      change (if amount < 0 then some s else some _) = some s' at h
      split at h <;> cases h <;> exact ⟨rfl, rfl⟩
    | settle leaseId actualCost =>
      obtain ⟨lease, -, rfl⟩ := Option.map_eq_some_iff.mp h
      split <;> exact ⟨rfl, rfl⟩
    | replenish amount =>
      cases h
      exact ⟨rfl, rfl⟩
  | locked index =>
    obtain ⟨call, hcall, rfl⟩ := Option.map_eq_some_iff.mp h
    exact Or.inl ⟨index, call, rfl, hcall, rfl⟩
  | cancel index =>
    refine Or.inr ⟨fun _ => by rintro ⟨⟩, ?_⟩
    change (if index < s.waiting.length then some _ else none) = some s' at h
    split at h
    · cases h
      exact ⟨rfl, rfl⟩
    · cases h

theorem Consistent.step (hc : s.Consistent) {action : AttentionAction}
    (h : s.step action = some s') : s'.Consistent := by
  rcases step_cases h with ⟨index, call, -, -, rfl⟩ | ⟨-, haccount, hleases⟩
  · have hless : ({ s with waiting := s.waiting.eraseIdx index } : AttentionSystem).Consistent :=
      ⟨hc.numbered, hc.opened⟩
    exact hless.body call
  · exact ⟨by rw [haccount, hleases]; exact hc.numbered,
      by rw [haccount, hleases]; exact hc.opened⟩

/-- The numbers of the open leases. -/
def openIds (s : AttentionSystem) : List Nat := s.account.leases.map Prod.fst

theorem counted_of_open (hc : s.Consistent) {leaseId : Nat} (h : leaseId ∈ s.openIds) :
    leaseId ≤ s.account.counter := by
  rw [openIds, hc.opened, List.map_map] at h
  obtain ⟨lease, hlease, rfl⟩ := List.mem_map.mp h
  exact hc.counted (List.mem_filter.mp hlease).1

theorem body_counter_le (s : AttentionSystem) (call : AttentionCall) :
    s.account.counter ≤ (s.body call).account.counter := by
  cases call with
  | acquire amount =>
    rcases body_acquire s amount with hsame | ⟨-, -, hbody⟩
    · rw [hsame]
    · rw [hbody]
      exact Nat.le_succ _
  | settle leaseId actualCost =>
    cases hlease : s.lease? leaseId with
    | none => rw [body_settle_none hlease]
    | some lease =>
      rw [body_settle hlease]
      simp
  | replenish amount => simp

/-- What the body of a call opens was open, or is the next number. -/
theorem open_of_body {call : AttentionCall} {leaseId : Nat}
    (h : leaseId ∈ (s.body call).openIds) :
    leaseId ∈ s.openIds ∨ s.account.counter < leaseId := by
  cases call with
  | acquire amount =>
    rcases body_acquire s amount with hsame | ⟨-, -, hbody⟩
    · exact Or.inl (hsame ▸ h)
    · rw [hbody, openIds, List.map_append] at h
      rcases List.mem_append.mp h with hold | hnew
      · exact Or.inl hold
      · refine Or.inr ?_
        obtain rfl := List.mem_singleton.mp hnew
        exact Nat.lt_succ_self _
  | settle otherId actualCost =>
    refine Or.inl ?_
    cases hlease : s.lease? otherId with
    | none =>
      rw [body_settle_none hlease] at h
      exact h
    | some lease =>
      rw [body_settle hlease, openIds, AttentionAccount.settle_leases] at h
      exact (List.filter_sublist.map Prod.fst).subset h
  | replenish amount =>
    rw [openIds, body_replenish, AttentionAccount.replenish_leases] at h
    exact Or.inl h

/-- A number is given out once: a step opens the next ones only. -/
theorem open_of_step {action : AttentionAction} (h : s.step action = some s') {leaseId : Nat}
    (hopen : leaseId ∈ s'.openIds) : leaseId ∈ s.openIds ∨ s.account.counter < leaseId := by
  rcases step_cases h with ⟨index, call, -, -, rfl⟩ | ⟨-, haccount, -⟩
  · exact open_of_body (s := { s with waiting := s.waiting.eraseIdx index }) hopen
  · rw [openIds, haccount] at hopen
    exact Or.inl hopen

theorem counter_le_of_step {action : AttentionAction} (h : s.step action = some s') :
    s.account.counter ≤ s'.account.counter := by
  rcases step_cases h with ⟨index, call, -, -, rfl⟩ | ⟨-, haccount, -⟩
  · exact body_counter_le { s with waiting := s.waiting.eraseIdx index } call
  · rw [haccount]

/-- A reservation given back belongs to an open lease, which the step closes. -/
theorem closed_of_givesBack (hc : s.Consistent) {action : AttentionAction}
    (h : s.step action = some s') {leaseId : Nat} (hback : s.givesBack action = some leaseId) :
    leaseId ∈ s.openIds ∧ leaseId ∉ s'.openIds := by
  rcases step_cases h with ⟨index, call, rfl, hcall, rfl⟩ | ⟨hnot, -, -⟩
  · dsimp only [givesBack] at hback
    rw [hcall] at hback
    cases call with
    | settle otherId actualCost =>
      dsimp only at hback
      split at hback
      · rename_i hany
        obtain rfl : otherId = leaseId := Option.some.inj hback
        obtain ⟨entry, hentry, hid⟩ := List.any_eq_true.mp hany
        have hopen : otherId ∈ s.openIds :=
          List.mem_map.mpr ⟨entry, hentry, by simpa using hid⟩
        refine ⟨hopen, fun hstill => ?_⟩
        cases hlease : s.lease? otherId with
        | none =>
          -- An open number belongs to a lease.
          rw [openIds, hc.opened, List.map_map] at hopen
          obtain ⟨lease, hmem, heq⟩ := List.mem_map.mp hopen
          have hnot := List.find?_eq_none.mp hlease lease (List.mem_filter.mp hmem).1
          exact hnot (by simpa using heq)
        | some lease =>
          have hid : lease.leaseId = otherId := by simpa using List.find?_some hlease
          rw [body_settle (show ({ s with waiting := s.waiting.eraseIdx index } :
            AttentionSystem).lease? otherId = some lease from hlease), openIds,
            AttentionAccount.settle_leases, hid] at hstill
          obtain ⟨entry, hentry, heq⟩ := List.mem_map.mp hstill
          have hother := (List.mem_filter.mp hentry).2
          rw [decide_eq_true_iff] at hother
          exact hother heq
      · cases hback
    | acquire amount => cases hback
    | replenish amount => cases hback
  · cases action with
    | locked index => exact absurd rfl (hnot index)
    | call call => cases hback
    | cancel index => cases hback

/-- What is still given back is open, or not yet given out. -/
theorem open_of_returns {actions : List AttentionAction} (hc : s.Consistent) {leaseId : Nat}
    (h : leaseId ∈ s.returns actions) : leaseId ∈ s.openIds ∨ s.account.counter < leaseId := by
  induction actions generalizing s with
  | nil => cases h
  | cons action actions ih =>
    rw [returns_cons] at h
    cases hstep : s.step action with
    | none =>
      rw [hstep] at h
      cases h
    | some s' =>
      rw [hstep] at h
      rcases List.mem_append.mp h with hback | hlater
      · exact Or.inl (closed_of_givesBack hc hstep (Option.mem_toList.mp hback)).1
      · rcases ih (hc.step hstep) hlater with hopen | hnew
        · exact open_of_step hstep hopen
        · exact Or.inr ((counter_le_of_step hstep).trans_lt hnew)

/-- **Each lease gives its reservation back at most once.** -/
theorem returns_nodup (actions : List AttentionAction) (hc : s.Consistent) :
    (s.returns actions).Nodup := by
  induction actions generalizing s with
  | nil => exact List.nodup_nil
  | cons action actions ih =>
    rw [returns_cons]
    cases hstep : s.step action with
    | none => exact List.nodup_nil
    | some s' =>
      have hlater := ih (hc.step hstep)
      cases hback : s.givesBack action with
      | none => exact hlater
      | some leaseId =>
        refine List.nodup_cons.mpr ⟨fun hagain => ?_, hlater⟩
        obtain ⟨hopen, hclosed⟩ := closed_of_givesBack hc hstep hback
        have hcount := counted_of_open hc hopen
        have hmono := counter_le_of_step hstep
        rcases open_of_returns (hc.step hstep) hagain with hopen' | hnew
        · exact hclosed hopen'
        · omega

/-- An explicit amount is added while nothing is reserved, or it adds nothing. -/
def ReplenishesSpare (s : AttentionSystem) : AttentionAction → Prop
  | .locked index => ∀ call ∈ s.waiting[index]?, s.account.Spare call.replenished
  | _ => True

instance (s : AttentionSystem) (action : AttentionAction) : Decidable (s.ReplenishesSpare action) :=
  match action with
  | .locked index =>
    inferInstanceAs (Decidable (∀ call ∈ s.waiting[index]?, s.account.Spare call.replenished))
  | .call _ | .cancel _ => inferInstanceAs (Decidable True)

theorem body_balanced (hc : s.Consistent) (hb : s.account.Balanced) {call : AttentionCall}
    (hspare : s.account.Spare call.replenished) :
    (s.body call).account.Balanced := by
  cases call with
  | acquire amount =>
    cases hacquire : s.account.acquire amount with
    | error =>
      rcases body_acquire s amount with hsame | ⟨hamount, hle, -⟩
      · rw [hsame]
        exact hb
      · rw [AttentionAccount.acquire, if_neg (not_lt.mpr hamount), if_neg (not_lt.mpr hle)] at hacquire
        cases hacquire
    | ok answer =>
      obtain ⟨account, number⟩ := answer
      have hbalanced := AttentionAccount.acquire_balanced hb
        (AttentionAccount.nonneg_of_acquire hacquire) hacquire
      cases number <;> simpa only [body, hacquire] using hbalanced
  | settle leaseId actualCost =>
    cases hlease : s.lease? leaseId with
    | none =>
      rw [body_settle_none hlease]
      exact hb
    | some lease =>
      have hid : lease.leaseId = leaseId := by simpa using List.find?_some hlease
      rw [body_settle hlease]
      by_cases hopen : leaseId ∈ s.account.leases.map Prod.fst
      · exact AttentionAccount.settle_balanced hb (hc.open_of_lease hlease hopen) actualCost
      · dsimp only
        rw [hid, AttentionAccount.settle_closed hopen]
        exact hb
  | replenish amount =>
    rw [body_replenish, AttentionAccount.replenish_spare hb (show s.account.Spare amount from hspare)]
    exact hb

theorem within_of_balanced (hc : s.Consistent) (hb : s.account.Balanced) : s.Within := by
  have hbalance := hb.balance
  have hreserved := AttentionAccount.reserved_nonneg hb
  refine ⟨hb.available_nonneg, by linarith, ?_⟩
  rw [hc.unsettled_eq]
  exact hbalance.le

/-- What a step keeps, and what an amount that is not spare breaks. -/
theorem step_spec (hc : s.Consistent) (hb : s.account.Balanced) {action : AttentionAction}
    (h : s.step action = some s') :
    (s.ReplenishesSpare action → s'.account.Balanced) ∧
      (¬ s.ReplenishesSpare action → ¬ s'.Within) := by
  have hc' := hc.step h
  rcases step_cases h with ⟨index, call, rfl, hcall, rfl⟩ | ⟨hnot, haccount, -⟩
  · refine ⟨fun hspare => ?_, fun hspare hwithin => ?_⟩
    · exact body_balanced (s := { s with waiting := s.waiting.eraseIdx index })
        ⟨hc.numbered, hc.opened⟩ hb (hspare call hcall)
    · have hmore : ¬ s.account.Spare call.replenished := by
        intro hcallSpare
        refine hspare fun other hother => ?_
        obtain rfl := Option.some.inj (hcall.symm.trans hother)
        exact hcallSpare
      obtain ⟨amount, rfl⟩ : ∃ amount, call = .replenish amount := by
        cases call with
        | replenish amount => exact ⟨amount, rfl⟩
        | acquire => exact absurd (fun _ hadded => nomatch hadded) hmore
        | settle => exact absurd (fun _ hadded => nomatch hadded) hmore
      have hover := AttentionAccount.replenish_not_spare hb
        (show ¬ s.account.Spare amount from hmore)
      have hreserved := hwithin.reserved
      rw [hc'.unsettled_eq] at hreserved
      rw [body_replenish, AttentionAccount.reserved, AttentionAccount.replenish_leases,
        ← AttentionAccount.reserved, AttentionAccount.replenish_capacity] at hreserved
      linarith
  · rw [haccount]
    refine ⟨fun _ => hb, fun hspare => ?_⟩
    cases action with
    | locked index => exact absurd rfl (hnot index)
    | call call => exact absurd trivial hspare
    | cancel index => exact absurd trivial hspare

/-- **Attention is never over-committed** in a run: the budget holds in every state it
passes, and no lease gives its reservation back twice. -/
structure Respected (capacity : ℚ) (actions : List AttentionAction) : Prop where
  within : ∀ done rest s, actions = done ++ rest → Run step Free (start capacity) done s → s.Within
  once : ((start capacity).returns actions).Nodup

theorem run_consistent {actions : List AttentionAction}
    (h : Run step Free (start capacity) actions s) : s.Consistent :=
  h.invariant start_consistent fun _ _ _ hc _ hstep => hc.step hstep

theorem run_balanced (hcapacity : 0 < capacity) {actions : List AttentionAction}
    (h : Run step ReplenishesSpare (start capacity) actions s) : s.account.Balanced := by
  induction h with
  | start => exact AttentionAccount.create_balanced hcapacity.le
  | next hrun hspare hstep ih => exact (step_spec (run_consistent hrun.free) ih hstep).1 hspare

/-- A run that keeps the budget adds spare amounts only. -/
theorem run_spare (hcapacity : 0 < capacity) {actions : List AttentionAction}
    (h : Run step Free (start capacity) actions s)
    (hwithin : ∀ done rest t, actions = done ++ rest → Run step Free (start capacity) done t →
      t.Within) : Run step ReplenishesSpare (start capacity) actions s := by
  induction h with
  | start => exact .start
  | @next actions s action s' hrun _ hstep ih =>
    have hspare := ih fun done rest t hdone =>
      hwithin done (rest ++ [action]) t (by rw [hdone, List.append_assoc])
    refine hspare.next ?_ hstep
    by_contra hmore
    have hbalanced := run_balanced hcapacity hspare
    refine (step_spec (run_consistent hrun) hbalanced hstep).2 hmore ?_
    exact hwithin (actions ++ [action]) [] s' (List.append_nil _).symm (hrun.next trivial hstep)

/-- **An account is never over-committed exactly when every explicit amount is spare.** -/
theorem respected_iff (hcapacity : 0 < capacity) {actions : List AttentionAction}
    (h : Run step Free (start capacity) actions s) :
    Respected capacity actions ↔ Run step ReplenishesSpare (start capacity) actions s := by
  refine ⟨fun hrespected => run_spare hcapacity h hrespected.within, fun hspare => ?_⟩
  refine ⟨fun done rest t hdone hrun => ?_, returns_nodup actions start_consistent⟩
  subst hdone
  obtain ⟨u, hbefore⟩ := hspare.before
  obtain rfl := hbefore.unique hrun
  exact within_of_balanced (run_consistent hrun) (run_balanced hcapacity hbefore)

/-- A caller takes the whole budget; before it settles, an amount is added. -/
def doubleGrant : List AttentionAction :=
  [.call (.acquire 1), .locked 0, .call (.replenish (some 1)), .locked 0]

/-- The same, with `replenish()` in place of an amount, and the lease settled twice. -/
def singleGrant : List AttentionAction :=
  [.call (.acquire 1), .locked 0, .call (.replenish none), .locked 0,
    .call (.settle 1 none), .call (.settle 1 (some 3)), .locked 0, .locked 0]

/-- The unit that is added is available while the lease still holds it. -/
theorem doubleGrant_overcommits :
    ¬ ∀ capacity : ℚ, 0 < capacity → ∀ actions s, Run step Free (start capacity) actions s →
      Respected capacity actions := by
  intro hall
  have hrun : Run step Free (start 1) doubleGrant
      ⟨⟨1, 1, [(1, 1)], 0, 1⟩, [⟨1, 1, false⟩], []⟩ := .of_exec (by decide +kernel)
  have hwithin := (hall 1 one_pos _ _ hrun).within doubleGrant [] _ (List.append_nil _).symm hrun
  have hreserved := hwithin.reserved
  revert hreserved
  decide +kernel

theorem respected_singleGrant : Respected 1 singleGrant :=
  (respected_iff one_pos (s := ⟨⟨1, 1, [], 1, 1⟩, [⟨1, 1, true⟩], []⟩) (.of_exec (by decide +kernel))).mpr
    (.of_exec (by decide +kernel))

end AttentionSystem
end Noema
