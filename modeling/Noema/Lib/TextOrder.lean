import Mathlib.Data.List.Lex
import Mathlib.Data.String.Basic
import Mathlib.Order.Monotone.Basic

/-!
# The order of texts

Texts are compared character by character.  Texts of one length that stand in front
decide before what follows them, and numbers written with a fixed number of digits
compare as the numbers do.
-/
namespace TextOrder

variable {α : Type} [LinearOrder α] {a b x y : List α}

/-- What stands in front decides. -/
theorem append_lt_append (hlen : a.length = b.length) (h : a < b) (x y : List α) :
    a ++ x < b ++ y := by
  induction a generalizing b with
  | nil =>
    rw [List.length_nil, eq_comm, List.length_eq_zero_iff] at hlen
    exact absurd (hlen ▸ h) (lt_irrefl _)
  | cons c a ih =>
    cases b with
    | nil => cases hlen
    | cons d b =>
      rw [List.cons_append, List.cons_append, List.cons_lt_cons_iff]
      rcases List.cons_lt_cons_iff.mp h with hlt | ⟨heq, hlt⟩
      · exact Or.inl hlt
      · exact Or.inr ⟨heq, ih (Nat.succ.inj hlen) hlt⟩

/-- Behind the same text what follows decides. -/
theorem append_left_lt (h : x < y) : a ++ x < a ++ y := by
  induction a with
  | nil => exact h
  | cons c a ih => exact List.cons_lt_cons_iff.mpr (Or.inr ⟨rfl, ih⟩)

theorem append_left_lt_iff : a ++ x < a ++ y ↔ x < y := by
  refine ⟨fun h => ?_, append_left_lt⟩
  by_contra hle
  rcases (not_lt.mp hle).lt_or_eq with hlt | rfl
  · exact lt_asymm h (append_left_lt hlt)
  · exact lt_irrefl _ h

/-- A number with this many decimal digits, leading zeros included. -/
def digits : Nat → Nat → List Char
  | 0, _ => []
  | width + 1, n => digits width (n / 10) ++ [Nat.digitChar (n % 10)]

@[simp] theorem length_digits (width n : Nat) : (digits width n).length = width := by
  induction width generalizing n with
  | zero => rfl
  | succ width ih => simp [digits, ih]

theorem digitChar_lt : ∀ m < 10, ∀ n < 10, m < n → Nat.digitChar m < Nat.digitChar n := by
  decide

/-- **Numbers of one width compare as they read.** -/
theorem digits_lt {width m n : Nat} (hn : n < 10 ^ width) (h : m < n) :
    digits width m < digits width n := by
  induction width generalizing m n with
  | zero => omega
  | succ width ih =>
    rw [pow_succ] at hn
    have hhead : n / 10 < 10 ^ width := by omega
    rcases (Nat.div_le_div_right (c := 10) h.le).lt_or_eq with hlt | heq
    · exact append_lt_append (by simp) (ih hhead hlt) _ _
    · rw [digits, digits, heq]
      have hlast : m % 10 < n % 10 := by omega
      refine append_left_lt (List.cons_lt_cons_iff.mpr (Or.inl ?_))
      exact digitChar_lt _ (Nat.mod_lt _ (by decide)) _ (Nat.mod_lt _ (by decide)) hlast

end TextOrder
