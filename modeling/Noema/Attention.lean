import Mathlib.Algebra.BigOperators.Group.List.Basic
import Mathlib.Algebra.Order.BigOperators.Group.List
import Mathlib.Algebra.Order.Field.Rat
import Mathlib.Tactic.Linarith
import Noema.Types

/-!
# The attention account

An account hands out leases on a budget.  A lease gives its reservation back once,
when it is settled.  As long as nobody replenishes the account, what is available
and what the open leases hold add up to the capacity (`Balanced`).
-/
namespace Noema

/-- `AttentionAccount`; `leases` are the open ones, by their number, in `_leases`. -/
structure AttentionAccount where
  capacity : ℚ
  available : ℚ
  leases : List (Nat × ℚ)
  spentTotal : ℚ
  counter : Nat
deriving DecidableEq

namespace AttentionAccount

def create (capacity : ℚ) : AttentionAccount := ⟨capacity, capacity, [], 0, 0⟩

/-- `acquire`: the number of the new lease, or `none` when the budget does not allow it. -/
def acquire (account : AttentionAccount) (amount : ℚ) :
    Except PyError (AttentionAccount × Option Nat) :=
  if amount < 0 then .error (.valueError "attention amount cannot be negative")
  else if amount > account.available then .ok (account, none)
  else
    let number := account.counter + 1
    .ok ({ account with
      counter := number
      available := account.available - amount
      leases := account.leases ++ [(number, amount)] }, some number)

/-- `_settle`. -/
def settle (account : AttentionAccount) (number : Nat) (reserved : ℚ) (actualCost : Option ℚ) :
    AttentionAccount :=
  if account.leases.any fun lease => lease.1 = number then
    { account with
      leases := account.leases.filter fun lease => lease.1 ≠ number
      spentTotal := account.spentTotal + (actualCost.elim reserved (max 0))
      available := min account.capacity (account.available + reserved) }
  else account

/-- What the open leases hold. -/
def reserved (account : AttentionAccount) : ℚ := (account.leases.map Prod.snd).sum

/-- **The books are balanced.** -/
structure Balanced (account : AttentionAccount) : Prop where
  available_nonneg : 0 ≤ account.available
  balance : account.available + account.reserved = account.capacity
  amounts_nonneg : ∀ lease ∈ account.leases, 0 ≤ lease.2
  distinct : (account.leases.map Prod.fst).Nodup
  counted : ∀ lease ∈ account.leases, lease.1 ≤ account.counter

theorem create_balanced {capacity : ℚ} (h : 0 ≤ capacity) : (create capacity).Balanced := by
  refine ⟨h, ?_, ?_, ?_, ?_⟩ <;> simp [create, reserved]

variable {account : AttentionAccount}

theorem reserved_nonneg (h : account.Balanced) : 0 ≤ account.reserved :=
  List.sum_nonneg fun amount hamount => by
    obtain ⟨lease, hlease, rfl⟩ := List.mem_map.mp hamount
    exact h.amounts_nonneg lease hlease

/-- What `acquire` does for an amount that is not negative. -/
theorem acquire_cases {amount : ℚ} (hamount : 0 ≤ amount)
    {account' : AttentionAccount} {number : Option Nat}
    (h : account.acquire amount = .ok (account', number)) :
    (number = none ∧ account' = account) ∨
      (number = some (account.counter + 1) ∧ amount ≤ account.available ∧
        account' = { account with
          counter := account.counter + 1
          available := account.available - amount
          leases := account.leases ++ [(account.counter + 1, amount)] }) := by
  unfold acquire at h
  rw [if_neg (not_lt.mpr hamount)] at h
  split at h
  · cases h
    exact Or.inl ⟨rfl, rfl⟩
  · rename_i hle
    cases h
    exact Or.inr ⟨rfl, not_lt.mp hle, rfl⟩

theorem acquire_ok {amount : ℚ} (hamount : 0 ≤ amount) :
    ∃ answer, account.acquire amount = .ok answer := by
  unfold acquire
  rw [if_neg (not_lt.mpr hamount)]
  split
  · exact ⟨_, rfl⟩
  · exact ⟨_, rfl⟩

theorem acquire_balanced (hb : account.Balanced) {amount : ℚ} (hamount : 0 ≤ amount)
    {account' : AttentionAccount} {number : Option Nat}
    (h : account.acquire amount = .ok (account', number)) : account'.Balanced := by
  rcases acquire_cases hamount h with ⟨-, rfl⟩ | ⟨-, hle, rfl⟩
  · exact hb
  · refine ⟨sub_nonneg.mpr hle, ?_, ?_, ?_, ?_⟩
    · have hbalance := hb.balance
      simp only [reserved, List.map_append, List.sum_append, List.map_cons, List.map_nil,
        List.sum_cons, List.sum_nil] at hbalance ⊢
      linarith
    · intro lease hlease
      rcases List.mem_append.mp hlease with hold | hnew
      · exact hb.amounts_nonneg lease hold
      · rw [List.mem_singleton.mp hnew]
        exact hamount
    · rw [List.map_append, List.map_cons, List.map_nil]
      refine List.Nodup.append hb.distinct (List.nodup_singleton _) ?_
      rw [List.disjoint_singleton]
      intro hmem
      obtain ⟨lease, hlease, heq⟩ := List.mem_map.mp hmem
      have := hb.counted lease hlease
      omega
    · intro lease hlease
      rcases List.mem_append.mp hlease with hold | hnew
      · exact Nat.le_succ_of_le (hb.counted lease hold)
      · rw [List.mem_singleton.mp hnew]

/-- Without the one lease of a number the others hold that much less. -/
theorem sum_filter_ne {leases : List (Nat × ℚ)} (hdistinct : (leases.map Prod.fst).Nodup)
    {number : Nat} {amount : ℚ} (h : (number, amount) ∈ leases) :
    ((leases.filter fun lease => lease.1 ≠ number).map Prod.snd).sum + amount =
      (leases.map Prod.snd).sum := by
  induction leases with
  | nil => cases h
  | cons first rest ih =>
    rw [List.map_cons, List.nodup_cons] at hdistinct
    by_cases hfirst : first.1 = number
    · have hothers : rest.filter (fun lease => lease.1 ≠ number) = rest := by
        refine List.filter_eq_self.mpr fun lease hlease => ?_
        rw [decide_eq_true_iff]
        rintro heq
        exact hdistinct.1 (hfirst ▸ heq ▸ List.mem_map_of_mem hlease)
      have hamount : first = (number, amount) := by
        rcases List.mem_cons.mp h with heq | hmem
        · exact heq.symm
        · exact absurd (hfirst ▸ List.mem_map_of_mem (f := Prod.fst) hmem) hdistinct.1
      rw [List.filter_cons_of_neg (by simp [hfirst]), hothers, hamount, List.map_cons,
        List.sum_cons, add_comm]
    · have hmem : (number, amount) ∈ rest := by
        rcases List.mem_cons.mp h with rfl | hmem
        · exact absurd rfl hfirst
        · exact hmem
      rw [List.filter_cons_of_pos (by simp [hfirst]), List.map_cons, List.map_cons, List.sum_cons,
        List.sum_cons, add_assoc, ih hdistinct.2 hmem]

/-- What `settle` does with an open lease: no reservation is lost to the ceiling. -/
theorem settle_open (hb : account.Balanced) {number : Nat} {amount : ℚ}
    (h : (number, amount) ∈ account.leases) (actualCost : Option ℚ) :
    account.settle number amount actualCost =
      { account with
        leases := account.leases.filter fun lease => lease.1 ≠ number
        spentTotal := account.spentTotal + actualCost.elim amount (max 0)
        available := account.available + amount } := by
  have hany : (account.leases.any fun lease => lease.1 = number) = true :=
    List.any_eq_true.mpr ⟨_, h, by simp⟩
  have hsum := sum_filter_ne hb.distinct h
  have hrest : 0 ≤ ((account.leases.filter fun lease => lease.1 ≠ number).map Prod.snd).sum := by
    refine List.sum_nonneg fun amount hamount => ?_
    obtain ⟨lease, hlease, rfl⟩ := List.mem_map.mp hamount
    exact hb.amounts_nonneg lease (List.mem_filter.mp hlease).1
  have hroom : account.available + amount ≤ account.capacity := by
    have hbalance := hb.balance
    rw [reserved] at hbalance
    linarith
  rw [settle, if_pos hany, min_eq_right hroom]

theorem settle_balanced (hb : account.Balanced) {number : Nat} {amount : ℚ}
    (h : (number, amount) ∈ account.leases) (actualCost : Option ℚ) :
    (account.settle number amount actualCost).Balanced := by
  rw [settle_open hb h]
  have hsum := sum_filter_ne hb.distinct h
  have hbalance := hb.balance
  refine ⟨add_nonneg hb.available_nonneg (hb.amounts_nonneg _ h), ?_, ?_, ?_, ?_⟩
  · simp only [reserved] at hbalance ⊢
    linarith
  · exact fun lease hlease => hb.amounts_nonneg lease (List.mem_filter.mp hlease).1
  · exact hb.distinct.sublist (List.filter_sublist.map Prod.fst)
  · exact fun lease hlease => hb.counted lease (List.mem_filter.mp hlease).1

end AttentionAccount
end Noema
