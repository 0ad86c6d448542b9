import Mathlib.Algebra.BigOperators.Group.List.Basic
import Mathlib.Algebra.Order.Ring.Abs
import Noema.Lib.Binary64

/-!
# Sums that are rounded at every step

Adding terms one after another and rounding each partial sum moves the total by no more
than one rounding error for each term (`abs_sum_sub_le`).  Rounding to a decimal moves a
number by no more than half a unit of the last digit (`abs_decimal_sub_le`).
-/
namespace RoundedSum

variable {K : Type*} [Field K] [LinearOrder K] [IsStrictOrderedRing K]

/-- The terms added to a start, with each partial sum rounded. -/
def sum (rnd : K → K) (start : K) (terms : List K) : K :=
  terms.foldl (fun total term => rnd (total + term)) start

/-- **One rounding error for each term.** -/
theorem abs_sum_sub_le {rnd : K → K} {error : K} (h : ∀ q, |rnd q - q| ≤ error) (start : K)
    (terms : List K) :
    |sum rnd start terms - (start + terms.sum)| ≤ terms.length * error := by
  induction terms generalizing start with
  | nil => simp [sum]
  | cons term terms ih =>
    have hrest := ih (rnd (start + term))
    have hfirst := h (start + term)
    have hsum : sum rnd start (term :: terms) = sum rnd (rnd (start + term)) terms := rfl
    have hsplit : sum rnd start (term :: terms) - (start + (term :: terms).sum) =
        (sum rnd (rnd (start + term)) terms - (rnd (start + term) + terms.sum)) +
          (rnd (start + term) - (start + term)) := by
      rw [hsum, List.sum_cons]
      ring
    calc |sum rnd start (term :: terms) - (start + (term :: terms).sum)|
        ≤ |sum rnd (rnd (start + term)) terms - (rnd (start + term) + terms.sum)| +
          |rnd (start + term) - (start + term)| := by
          rw [hsplit]
          exact abs_add_le _ _
      _ ≤ terms.length * error + error := add_le_add hrest hfirst
      _ = (term :: terms).length * error := by
          rw [List.length_cons]
          push_cast
          ring

end RoundedSum

namespace Binary64

/-- The nearest integer is at most one half away. -/
theorem abs_nearestEven_sub_le (q : ℚ) : |(nearestEven q : ℚ) - q| ≤ 1 / 2 := by
  have hlow : (q.floor : ℚ) ≤ q := Int.floor_le q
  have hhigh : q < q.floor + 1 := Int.lt_floor_add_one q
  unfold nearestEven
  dsimp only
  split_ifs with hrest
  · have hhalf : q - q.floor ≤ 1 / 2 := by
      rcases hrest with hless | ⟨heq, -⟩
      · exact hless.le
      · exact heq.le
    rw [abs_le]
    constructor <;> linarith
  · have hhalf : 1 / 2 ≤ q - q.floor := by
      by_contra hless
      exact hrest (.inl (not_le.mp hless))
    push_cast
    rw [abs_le]
    constructor <;> linarith

/-- Rounding to a number of decimals moves a number by at most half a unit of the last. -/
theorem abs_decimal_sub_le (digits : Nat) (q : ℚ) :
    |(nearestEven (q * 10 ^ digits) / 10 ^ digits : ℚ) - q| ≤ 1 / 2 / 10 ^ digits := by
  have hpos : (0 : ℚ) < 10 ^ digits := by positivity
  have hsame : (nearestEven (q * 10 ^ digits) / 10 ^ digits : ℚ) - q =
      (nearestEven (q * 10 ^ digits) - q * 10 ^ digits) / 10 ^ digits := by
    field_simp
  rw [hsame, abs_div, abs_of_pos hpos]
  exact div_le_div_of_nonneg_right (abs_nearestEven_sub_le _) hpos.le

theorem decimal_nonneg (digits : Nat) {q : ℚ} (h : 0 ≤ q) :
    (0 : ℚ) ≤ nearestEven (q * 10 ^ digits) / 10 ^ digits := by
  have hnearest : 0 ≤ nearestEven (q * 10 ^ digits) := nearestEven_nonneg (by positivity)
  exact div_nonneg (by exact_mod_cast hnearest) (by positivity)

end Binary64
