import Mathlib.Algebra.Order.Floor.Ring
import Mathlib.Data.Rat.Floor
import Mathlib.Tactic.Linarith
import Mathlib.Tactic.Positivity

/-!
# Rounding to binary64

The nearest double of a rational number, ties to even, on exact rationals: 53 bits of
significand, the subnormal ones at the bottom, and nothing where the number is out of
range.  `decimals` rounds to a number of decimals first.  Rounding is monotone
(`nearest_mono`): between two doubles' spacings lies a power of two, which is a double in
both.
-/
namespace Binary64

/-- The nearest integer, and the even one of two. -/
def nearestEven (q : ℚ) : ℤ :=
  let rest := q - q.floor
  if rest < 1 / 2 ∨ rest = 1 / 2 ∧ q.floor % 2 = 0 then q.floor else q.floor + 1

/-- A power of two. -/
def pow2 : ℤ → ℚ
  | .ofNat n => 2 ^ n
  | .negSucc n => 1 / 2 ^ (n + 1)

/-- The exponent of the highest bit of a number other than zero. -/
def highestBit (q : ℚ) : ℤ :=
  let guess : ℤ := (q.num.natAbs.log2 : ℤ) - q.den.log2
  if pow2 guess ≤ |q| then guess else guess - 1

/-- The distance between the doubles around a number. -/
def spacing (q : ℚ) : ℚ := pow2 (max (-1074) (highestBit q - 52))

/-- The nearest double. -/
def round (q : ℚ) : Option ℚ :=
  let value := nearestEven (q / spacing q) * spacing q
  if |value| < pow2 1024 then some value else none

/-- The double nearest to a number rounded to some decimals. -/
def decimals (digits : Nat) (q : ℚ) : Option ℚ :=
  round (nearestEven (q * 10 ^ digits) / 10 ^ digits)

theorem pow2_pos (e : ℤ) : 0 < pow2 e := by
  cases e <;> simp only [pow2] <;> positivity

theorem nearestEven_nonneg {q : ℚ} (h : 0 ≤ q) : 0 ≤ nearestEven q := by
  have hfloor : 0 ≤ q.floor := (Int.floor_nonneg (a := q)).mpr h
  unfold nearestEven
  dsimp only
  split_ifs
  · exact hfloor
  · omega

theorem floor_le_nearestEven (q : ℚ) : q.floor ≤ nearestEven q := by
  unfold nearestEven
  dsimp only
  split_ifs
  · exact le_rfl
  · omega

theorem nearestEven_le_floor (q : ℚ) : nearestEven q ≤ q.floor + 1 := by
  unfold nearestEven
  dsimp only
  split_ifs
  · omega
  · exact le_rfl

/-- **A greater number is rounded to no less.** -/
theorem nearestEven_mono {p q : ℚ} (h : p ≤ q) : nearestEven p ≤ nearestEven q := by
  have hfloor : p.floor ≤ q.floor := Int.floor_mono h
  rcases hfloor.lt_or_eq with hlt | heq
  · have hp := nearestEven_le_floor p
    have hq := floor_le_nearestEven q
    omega
  · unfold nearestEven
    dsimp only
    rw [heq]
    split_ifs with hp hq hq
    · exact le_rfl
    · omega
    · -- The rest of `q` is rounded down, so the smaller one of `p` is.
      refine absurd ?_ hp
      rcases hq with hq | ⟨hq, heven⟩
      · exact .inl (by linarith)
      · rcases (sub_le_sub_right h (q.floor : ℚ)).lt_or_eq with hrest | hrest
        · exact .inl (by linarith)
        · exact .inr ⟨by linarith, heven⟩
    · exact le_rfl

theorem nearestEven_intCast (n : ℤ) : nearestEven n = n := by
  have hfloor : (n : ℚ).floor = n := Rat.floor_intCast n
  unfold nearestEven
  dsimp only
  rw [hfloor, sub_self, if_pos (.inl (by norm_num))]

theorem pow2_eq_zpow (e : ℤ) : pow2 e = (2 : ℚ) ^ e := by
  cases e with
  | ofNat n => exact (zpow_natCast 2 n).symm
  | negSucc n => rw [pow2, zpow_negSucc, one_div]

theorem pow2_le_pow2 {e f : ℤ} (h : e ≤ f) : pow2 e ≤ pow2 f := by
  rw [pow2_eq_zpow, pow2_eq_zpow]
  exact zpow_le_zpow_right₀ (by norm_num) h

theorem lt_of_pow2_lt {e f : ℤ} (h : pow2 e < pow2 f) : e < f := by
  by_contra hle
  exact absurd (pow2_le_pow2 (not_lt.mp hle)) (not_le.mpr h)

/-- A number lies between the powers of two of its highest bit and of the next one. -/
theorem highestBit_spec {q : ℚ} (h : q ≠ 0) :
    pow2 (highestBit q) ≤ |q| ∧ |q| < pow2 (highestBit q + 1) := by
  have hnum : q.num.natAbs ≠ 0 := Int.natAbs_ne_zero.mpr (Rat.num_ne_zero.mpr h)
  have habs : |q| = q.num.natAbs / q.den := by
    conv_lhs => rw [← Rat.num_div_den q]
    rw [abs_div, Nat.abs_cast, Nat.cast_natAbs, Int.cast_abs]
  have hnumLow : (2 : ℚ) ^ q.num.natAbs.log2 ≤ q.num.natAbs := by
    exact_mod_cast Nat.log2_self_le hnum
  have hnumHigh : (q.num.natAbs : ℚ) < 2 ^ (q.num.natAbs.log2 + 1) := by
    exact_mod_cast Nat.lt_log2_self
  have hdenLow : (2 : ℚ) ^ q.den.log2 ≤ q.den := by
    exact_mod_cast Nat.log2_self_le q.den_ne_zero
  have hdenHigh : (q.den : ℚ) < 2 ^ (q.den.log2 + 1) := by
    exact_mod_cast Nat.lt_log2_self
  have hden : (0 : ℚ) < q.den := by exact_mod_cast q.den_pos
  have hsplit : ∀ a c : ℕ, pow2 ((a : ℤ) - c) = 2 ^ a / 2 ^ c := by
    intro a c
    rw [pow2_eq_zpow, zpow_sub₀ (by norm_num), zpow_natCast, zpow_natCast]
  have hhigh : |q| < pow2 ((q.num.natAbs.log2 : ℤ) - q.den.log2 + 1) := by
    have hexponent : (q.num.natAbs.log2 : ℤ) - q.den.log2 + 1 =
        ((q.num.natAbs.log2 + 1 : ℕ) : ℤ) - q.den.log2 := by
      push_cast
      ring
    rw [hexponent, hsplit, habs]
    exact div_lt_div₀ hnumHigh hdenLow (by positivity) (by positivity)
  have hlow : pow2 ((q.num.natAbs.log2 : ℤ) - q.den.log2 - 1) ≤ |q| := by
    have hexponent : (q.num.natAbs.log2 : ℤ) - q.den.log2 - 1 =
        (q.num.natAbs.log2 : ℤ) - (q.den.log2 + 1 : ℕ) := by
      push_cast
      ring
    rw [hexponent, hsplit, habs]
    exact div_le_div₀ (by positivity) hnumLow hden hdenHigh.le
  unfold highestBit
  dsimp only
  split_ifs with hguess
  · exact ⟨hguess, hhigh⟩
  · refine ⟨hlow, ?_⟩
    rw [sub_add_cancel]
    exact not_le.mp hguess

theorem highestBit_mono {p q : ℚ} (hp : p ≠ 0) (h : |p| ≤ |q|) : highestBit p ≤ highestBit q := by
  have hq : q ≠ 0 := by
    rintro rfl
    exact hp (abs_eq_zero.mp (le_antisymm (by simpa using h) (abs_nonneg p)))
  have hlt : pow2 (highestBit p) < pow2 (highestBit q + 1) :=
    ((highestBit_spec hp).1.trans h).trans_lt (highestBit_spec hq).2
  exact Int.lt_add_one_iff.mp (lt_of_pow2_lt hlt)

/-- The nearest multiple of the spacing, whether in range or not. -/
def nearest (q : ℚ) : ℚ := nearestEven (q / spacing q) * spacing q

theorem round_eq (q : ℚ) :
    round q = if |nearest q| < pow2 1024 then some (nearest q) else none := rfl

theorem nearest_le {q : ℚ} {n : ℤ} (h : q ≤ n * spacing q) : nearest q ≤ n * spacing q := by
  have hspacing : 0 < spacing q := pow2_pos _
  have hnear : nearestEven (q / spacing q) ≤ n := by
    rw [← nearestEven_intCast n]
    exact nearestEven_mono ((div_le_iff₀ hspacing).mpr h)
  exact mul_le_mul_of_nonneg_right (by exact_mod_cast hnear) hspacing.le

theorem le_nearest {q : ℚ} {n : ℤ} (h : n * spacing q ≤ q) : n * spacing q ≤ nearest q := by
  have hspacing : 0 < spacing q := pow2_pos _
  have hnear : n ≤ nearestEven (q / spacing q) := by
    conv_lhs => rw [← nearestEven_intCast n]
    exact nearestEven_mono ((le_div_iff₀ hspacing).mpr h)
  exact mul_le_mul_of_nonneg_right (by exact_mod_cast hnear) hspacing.le

/-- A power of two that is no less than the spacing is a multiple of it. -/
theorem pow2_multiple {q : ℚ} {e : ℤ} (h : max (-1074) (highestBit q - 52) ≤ e) :
    ∃ n : ℤ, pow2 e = n * spacing q := by
  obtain ⟨k, hk⟩ := Int.eq_ofNat_of_zero_le (sub_nonneg.mpr h)
  refine ⟨2 ^ k, ?_⟩
  have he : e = k + max (-1074) (highestBit q - 52) := by omega
  rw [spacing, he, pow2_eq_zpow, pow2_eq_zpow, zpow_add₀ (by norm_num), zpow_natCast]
  norm_cast

/-- The numbers around zero are rounded to their own side. -/
theorem nearest_nonpos {q : ℚ} (h : q ≤ 0) : nearest q ≤ 0 := by
  simpa using nearest_le (n := 0) (by simpa using h)

theorem nearest_nonneg {q : ℚ} (h : 0 ≤ q) : 0 ≤ nearest q := by
  simpa using le_nearest (n := 0) (by simpa using h)

/-- **A greater number is rounded to no less**, whatever the spacings are. -/
theorem nearest_mono {p q : ℚ} (h : p ≤ q) : nearest p ≤ nearest q := by
  by_cases hsame : spacing p = spacing q
  · have hspacing : 0 < spacing q := pow2_pos _
    unfold nearest
    rw [hsame]
    refine mul_le_mul_of_nonneg_right ?_ hspacing.le
    exact_mod_cast nearestEven_mono (div_le_div_of_nonneg_right h hspacing.le)
  have hexponent : max (-1074) (highestBit p - 52) ≠ max (-1074) (highestBit q - 52) := by
    intro heq
    exact hsame (congrArg pow2 heq)
  rcases lt_or_ge 0 p with hp | hp
  · -- The highest bit of `q` is between them.
    have habs : |p| ≤ |q| := by rwa [abs_of_pos hp, abs_of_pos (hp.trans_le h)]
    have hbits := highestBit_mono hp.ne' habs
    obtain ⟨n, hn⟩ : ∃ n : ℤ, pow2 (highestBit q) = n * spacing p := pow2_multiple (by omega)
    obtain ⟨m, hm⟩ : ∃ m : ℤ, pow2 (highestBit q) = m * spacing q := pow2_multiple (by omega)
    have hbelow : p ≤ pow2 (highestBit q) := by
      have hlt := (highestBit_spec hp.ne').2
      rw [abs_of_pos hp] at hlt
      exact hlt.le.trans (pow2_le_pow2 (by omega))
    have habove : pow2 (highestBit q) ≤ q := by
      have hle := (highestBit_spec (hp.trans_le h).ne').1
      rwa [abs_of_pos (hp.trans_le h)] at hle
    calc nearest p ≤ n * spacing p := nearest_le (hn ▸ hbelow)
      _ = m * spacing q := hn.symm.trans hm
      _ ≤ nearest q := le_nearest (hm ▸ habove)
  · rcases lt_or_ge q 0 with hq | hq
    · -- The highest bit of `p` is between them.
      have hp : p < 0 := h.trans_lt hq
      have habs : |q| ≤ |p| := by
        rw [abs_of_neg hp, abs_of_neg hq]
        exact neg_le_neg h
      have hbits := highestBit_mono hq.ne habs
      obtain ⟨n, hn⟩ : ∃ n : ℤ, pow2 (highestBit p) = n * spacing p := pow2_multiple (by omega)
      obtain ⟨m, hm⟩ : ∃ m : ℤ, pow2 (highestBit p) = m * spacing q := pow2_multiple (by omega)
      have hbelow : p ≤ -pow2 (highestBit p) := by
        have hle := (highestBit_spec hp.ne).1
        rw [abs_of_neg hp] at hle
        linarith
      have habove : -pow2 (highestBit p) ≤ q := by
        have hlt := (highestBit_spec hq.ne).2
        rw [abs_of_neg hq] at hlt
        have hpow : pow2 (highestBit q + 1) ≤ pow2 (highestBit p) := pow2_le_pow2 (by omega)
        linarith
      have hn' : -pow2 (highestBit p) = (-n : ℤ) * spacing p := by
        rw [hn]
        push_cast
        ring
      have hm' : -pow2 (highestBit p) = (-m : ℤ) * spacing q := by
        rw [hm]
        push_cast
        ring
      calc nearest p ≤ (-n : ℤ) * spacing p := nearest_le (hn' ▸ hbelow)
        _ = (-m : ℤ) * spacing q := hn'.symm.trans hm'
        _ ≤ nearest q := le_nearest (hm' ▸ habove)
    · exact (nearest_nonpos hp).trans (nearest_nonneg hq)

theorem round_nonneg {q v : ℚ} (h : 0 ≤ q) (hround : round q = some v) : 0 ≤ v := by
  unfold round at hround
  dsimp only at hround
  split_ifs at hround
  rw [← Option.some.inj hround]
  have hspacing : 0 < spacing q := pow2_pos _
  have hnearest : 0 ≤ nearestEven (q / spacing q) := nearestEven_nonneg (div_nonneg h hspacing.le)
  exact mul_nonneg (by exact_mod_cast hnearest) hspacing.le

end Binary64
