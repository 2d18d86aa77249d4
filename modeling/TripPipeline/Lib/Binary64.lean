import Mathlib.Algebra.Order.Round
import Mathlib.Data.Int.Log
import Mathlib.Data.Rat.Floor
import Mathlib.Tactic.FieldSimp
import Mathlib.Tactic.Linarith
import Mathlib.Tactic.NormNum
import Mathlib.Tactic.Positivity

/-!
# Double-precision rounding on the rationals

A finite `float` is a rational number, and an arithmetic operation on floats is the exact operation
followed by rounding to 53 significant bits, ties to even. `fl` is that rounding for results in the
normal range; overflow and subnormal numbers are outside it.

* `roundHalfEven`, `trunc`: `round(x)` and `int(x)`;
* `abs_fl_sub_le`: the relative error of `fl` is at most `2^-53`;
* `fl_of_close`: a value with 53 bits is the rounding of everything within half a unit of it;
* `fl_intCast`: integers below `2^53` are exact;
* `trunc_fl_thousand`: dividing a whole number by 1000, multiplying by 1000 and truncating gives
  the number back on the stretch `(1024 * 2^e, 1000 * 2^(e+1))` of each binade. Between
  `1000 * 2^e` and `1024 * 2^e` it need not: there the product has one bit more than the quotient;
* `secondsToMicros_thousandth`: milliseconds turned into a double of seconds, and split into seconds
  and microseconds, are what they were below `2^32` seconds;
* `fl_mono`, `secondsToMicros_mono`: both conversions are monotone;
* `floor_fl_div`: a rounded quotient of integers below `2^53` is floored like the exact one;
* `roundPlaces`, `shortest`, `flSingle`: `round(x, n)`, the decimal of `repr(x)`, and the rounding
  to 24 bits.
-/

set_option linter.unusedSectionVars false

namespace TripPipeline.Lib

/-! ## Rounding to an integer -/

/-- `round(x)`: to the nearest integer, a tie to the even one. -/
def roundHalfEven (x : ℚ) : ℤ :=
  if x - ⌊x⌋ < 1 / 2 then ⌊x⌋
  else if 1 / 2 < x - ⌊x⌋ then ⌊x⌋ + 1
  else if ⌊x⌋ % 2 = 0 then ⌊x⌋
  else ⌊x⌋ + 1

/-- `int(x)`: towards zero. -/
def trunc (x : ℚ) : ℤ := if 0 ≤ x then ⌊x⌋ else ⌈x⌉

/-- Rounding to an integer moves by at most a half. -/
theorem abs_roundHalfEven_sub_le (x : ℚ) : |(roundHalfEven x : ℚ) - x| ≤ 1 / 2 := by
  have h0 : (⌊x⌋ : ℚ) ≤ x := Int.floor_le x
  have h1 : x < ⌊x⌋ + 1 := Int.lt_floor_add_one x
  unfold roundHalfEven
  split_ifs with hlt hgt
  · rw [abs_le]
    constructor <;> linarith
  · push_cast
    rw [abs_le]
    constructor <;> linarith
  · rw [abs_le]
    constructor <;> linarith
  · push_cast
    rw [abs_le]
    constructor <;> linarith

/-- Only one integer is closer than a half. -/
theorem roundHalfEven_eq_of_close {x : ℚ} {n : ℤ} (h : |x - n| < 1 / 2) : roundHalfEven x = n := by
  have hr := abs_roundHalfEven_sub_le x
  have hlt : |((roundHalfEven x - n : ℤ) : ℚ)| < 1 := by
    push_cast
    calc |(roundHalfEven x : ℚ) - n|
        ≤ |(roundHalfEven x : ℚ) - x| + |x - n| := abs_sub_le _ _ _
      _ < 1 := by linarith
  have hz : |roundHalfEven x - n| < 1 := by exact_mod_cast hlt
  have := Int.abs_lt_one_iff.mp hz
  omega

/-- An integer is rounded to itself. -/
@[simp] theorem roundHalfEven_intCast (n : ℤ) : roundHalfEven n = n :=
  roundHalfEven_eq_of_close (by simp)

/-- An integer is cut to itself. -/
@[simp] theorem trunc_intCast (n : ℤ) : trunc n = n := by
  unfold trunc
  split_ifs <;> simp

/-- Truncation moves a number by less than one, towards zero. -/
theorem trunc_eq_of_mem {x : ℚ} {n : ℤ} (hn : 0 ≤ n) (h0 : (n : ℚ) ≤ x) (h1 : x < n + 1) :
    trunc x = n := by
  have hx : 0 ≤ x := le_trans (by exact_mod_cast hn) h0
  rw [trunc, if_pos hx, Int.floor_eq_iff]
  exact ⟨h0, h1⟩

/-- The mirror image of `trunc_eq_of_mem`. -/
theorem trunc_neg (x : ℚ) : trunc (-x) = -trunc x := by
  unfold trunc
  rcases lt_trichotomy x 0 with h | rfl | h
  · rw [if_pos (by linarith), if_neg (by linarith), Int.floor_neg]
  · simp
  · rw [if_neg (by linarith), if_pos h.le, Int.ceil_neg]

/-! ## Rounding to 53 bits -/

/-- The unit in the last place of `x`: `2^(e - 52)` for `2^e ≤ |x| < 2^(e+1)`. -/
def ulp (x : ℚ) : ℚ := (2 : ℚ) ^ (Int.log 2 |x| - 52)

/-- The double nearest to `x`, ties to even. -/
def fl (x : ℚ) : ℚ := if x = 0 then 0 else roundHalfEven (x / ulp x) * ulp x

/-- The unit in the last place is positive. -/
theorem ulp_pos (x : ℚ) : 0 < ulp x := zpow_pos two_pos _

/-- A number is at least `2^52` of its units. -/
theorem ulp_le (x : ℚ) (hx : x ≠ 0) : ulp x * 2 ^ 52 ≤ |x| := by
  have h : (2 : ℚ) ^ Int.log 2 |x| ≤ |x| := by
    exact_mod_cast Int.zpow_log_le_self (b := 2) one_lt_two (abs_pos.mpr hx)
  calc ulp x * 2 ^ 52 = (2 : ℚ) ^ Int.log 2 |x| := by
        rw [ulp, ← zpow_natCast, ← zpow_add₀ two_ne_zero]
        norm_num
    _ ≤ |x| := h

/-- The unit of a binade is the same for all its members. -/
theorem ulp_eq_of_mem {x : ℚ} {e : ℤ} (h0 : (2 : ℚ) ^ e ≤ |x|) (h1 : |x| < (2 : ℚ) ^ (e + 1)) :
    ulp x = (2 : ℚ) ^ (e - 52) := by
  have hx : 0 < |x| := lt_of_lt_of_le (zpow_pos two_pos e) h0
  have hle : e ≤ Int.log 2 |x| := (Int.zpow_le_iff_le_log one_lt_two hx).mp (by exact_mod_cast h0)
  have hlt : Int.log 2 |x| < e + 1 :=
    (Int.lt_zpow_iff_log_lt one_lt_two hx).mp (by exact_mod_cast h1)
  rw [ulp, show Int.log 2 |x| = e by omega]

/-- Zero is a double. -/
@[simp] theorem fl_zero : fl 0 = 0 := by simp [fl]

/-- Rounding to a multiple of `u` moves a number by half of `u` at most. -/
theorem abs_roundTo_sub_le {u : ℚ} (hu : 0 < u) (x : ℚ) :
    |(roundHalfEven (x / u) : ℚ) * u - x| ≤ u / 2 := by
  have hr := abs_roundHalfEven_sub_le (x / u)
  have heq : (roundHalfEven (x / u) : ℚ) * u - x = (roundHalfEven (x / u) - x / u) * u := by
    field_simp
  rw [heq, abs_mul, abs_of_pos hu]
  calc |(roundHalfEven (x / u) : ℚ) - x / u| * u ≤ 1 / 2 * u := by gcongr
    _ = u / 2 := by ring

/-- Rounding to a double moves by at most half a unit. -/
theorem abs_fl_sub_le_ulp (x : ℚ) : |fl x - x| ≤ ulp x / 2 := by
  by_cases hx : x = 0
  · subst hx
    simpa using (half_pos (ulp_pos 0)).le
  · rw [fl, if_neg hx]
    exact abs_roundTo_sub_le (ulp_pos x) x

/-- **The relative error of one rounding** is at most `2^-53`. -/
theorem abs_fl_sub_le (x : ℚ) : |fl x - x| ≤ |x| / 2 ^ 53 := by
  by_cases hx : x = 0
  · simp [hx]
  · have h := ulp_le x hx
    calc |fl x - x| ≤ ulp x / 2 := abs_fl_sub_le_ulp x
      _ ≤ |x| / 2 ^ 53 := by
          rw [div_le_div_iff₀ two_pos (by positivity)]
          nlinarith

/-- A multiple of the unit is the rounding of everything closer than half a unit. -/
theorem fl_of_close {x : ℚ} {n : ℤ} (hx : x ≠ 0) (h : |x - n * ulp x| < ulp x / 2) :
    fl x = n * ulp x := by
  have hu := ulp_pos x
  rw [fl, if_neg hx, roundHalfEven_eq_of_close (n := n)]
  have heq : x / ulp x - n = (x - n * ulp x) / ulp x := by field_simp
  rw [heq, abs_div, abs_of_pos hu, div_lt_iff₀ hu]
  linarith

/-- Integers below `2^53` are doubles. -/
theorem fl_intCast {n : ℤ} (h : |n| < 2 ^ 53) : fl n = n := by
  by_cases hn : n = 0
  · subst hn
    simp
  have hx : (n : ℚ) ≠ 0 := by exact_mod_cast hn
  have hpos : 0 < |(n : ℚ)| := abs_pos.mpr hx
  have hq : |(n : ℚ)| < (2 : ℚ) ^ (53 : ℤ) := by exact_mod_cast h
  have hlog : Int.log 2 |(n : ℚ)| < 53 :=
    (Int.lt_zpow_iff_log_lt one_lt_two hpos).mp (by exact_mod_cast hq)
  -- the unit is `2^-j`, so the integer `n * 2^j` counts the units in `n`
  obtain ⟨j, hj⟩ := Int.eq_ofNat_of_zero_le (show 0 ≤ 52 - Int.log 2 |(n : ℚ)| by omega)
  have hulp : (((n * 2 ^ j : ℤ) : ℚ)) * ulp n = n := by
    rw [ulp, show Int.log 2 |(n : ℚ)| - 52 = -(j : ℤ) by omega]
    push_cast
    rw [zpow_neg, zpow_natCast, mul_assoc, mul_inv_cancel₀ (by positivity), mul_one]
  have hclose : |(n : ℚ) - ((n * 2 ^ j : ℤ) : ℚ) * ulp n| < ulp n / 2 := by
    rw [hulp, sub_self, abs_zero]
    exact half_pos (ulp_pos _)
  rw [fl_of_close hx hclose, hulp]

/-- Rounding to an integer is odd. -/
theorem roundHalfEven_neg (x : ℚ) : roundHalfEven (-x) = -roundHalfEven x := by
  rcases lt_or_eq_of_le (abs_roundHalfEven_sub_le x) with h | h
  · apply roundHalfEven_eq_of_close
    rw [abs_sub_comm] at h
    push_cast
    rwa [show -x - -(roundHalfEven x : ℚ) = -(x - roundHalfEven x) by ring, abs_neg]
  · -- a tie: `x` lies half-way between two integers
    have h0 : (⌊x⌋ : ℚ) ≤ x := Int.floor_le x
    have h1 : x < ⌊x⌋ + 1 := Int.lt_floor_add_one x
    have hx : x = ⌊x⌋ + 1 / 2 := by
      unfold roundHalfEven at h
      split_ifs at h with hlt hgt
      · rw [abs_of_nonpos (by linarith)] at h
        linarith
      · push_cast at h
        rw [abs_of_nonneg (by linarith)] at h
        linarith
      · linarith
      · linarith
    have hfl : ⌊-x⌋ = -⌊x⌋ - 1 := by
      rw [Int.floor_eq_iff]
      push_cast
      constructor <;> linarith
    have hcast : (⌊-x⌋ : ℚ) = -⌊x⌋ - 1 := by
      rw [hfl]
      push_cast
      ring
    have hr : x - ⌊x⌋ = 1 / 2 := by linarith
    have hr' : -x - (⌊-x⌋ : ℚ) = 1 / 2 := by
      rw [hcast]
      linarith
    simp only [roundHalfEven, hr, hr', lt_irrefl, if_false]
    rw [hfl]
    split_ifs <;> omega

/-- Rounding to a double is odd. -/
theorem fl_neg (x : ℚ) : fl (-x) = -fl x := by
  by_cases hx : x = 0
  · simp [hx]
  · have hu : ulp (-x) = ulp x := by rw [ulp, ulp, abs_neg]
    rw [fl, fl, if_neg (neg_ne_zero.mpr hx), if_neg hx, hu, neg_div, roundHalfEven_neg]
    push_cast
    ring

/-! ## Thousandths -/

/-- The quotient by 1000 lies in the binade of `2^e`, so its error is at most `2^(e-53)`. -/
theorem abs_fl_thousandth_sub_le {m : ℤ} {e : ℕ} (h0 : (1000 : ℚ) * 2 ^ e ≤ m)
    (h1 : (m : ℚ) < 1000 * 2 ^ (e + 1)) : |fl ((m : ℚ) / 1000) - m / 1000| ≤ 2 ^ e / 2 ^ 53 := by
  have hm : (0 : ℚ) < m := lt_of_lt_of_le (by positivity) h0
  have hulp : ulp ((m : ℚ) / 1000) = (2 : ℚ) ^ ((e : ℤ) - 52) := by
    apply ulp_eq_of_mem
    · rw [abs_of_pos (by positivity), zpow_natCast, le_div_iff₀ (by norm_num)]
      linarith
    · rw [abs_of_pos (by positivity), show ((e : ℤ) + 1) = ((e + 1 : ℕ) : ℤ) by push_cast; ring,
        zpow_natCast, div_lt_iff₀ (by norm_num)]
      linarith
  have h := abs_fl_sub_le_ulp ((m : ℚ) / 1000)
  rw [hulp] at h
  calc |fl ((m : ℚ) / 1000) - m / 1000| ≤ (2 : ℚ) ^ ((e : ℤ) - 52) / 2 := h
    _ = 2 ^ e / 2 ^ 53 := by
        rw [zpow_sub₀ two_ne_zero, zpow_natCast]
        norm_num
        ring

/-- The positive half of `trunc_fl_thousand`. -/
theorem fl_thousand_of_pos {m : ℤ} {e : ℕ} (he : e ≤ 42) (h0 : 1024 * 2 ^ e < m)
    (h1 : m < 1000 * 2 ^ (e + 1)) : fl (fl (m / 1000) * 1000) = m := by
  have hq0 : (1024 : ℚ) * 2 ^ e + 1 ≤ m := by exact_mod_cast h0
  have hq1 : (m : ℚ) < 1000 * 2 ^ (e + 1) := by exact_mod_cast h1
  have hp : (1 : ℚ) ≤ 2 ^ e := one_le_pow₀ one_le_two
  have hup : (2 : ℚ) ^ (e + 1) = 2 * 2 ^ e := by rw [pow_succ]; ring
  have herr := abs_fl_thousandth_sub_le (by linarith) hq1
  set y : ℚ := fl ((m : ℚ) / 1000) * 1000 with hy
  have hyerr : |y - m| ≤ 1000 * (2 ^ e / 2 ^ 53) := by
    have heq : y - m = (fl ((m : ℚ) / 1000) - m / 1000) * 1000 := by rw [hy]; ring
    rw [heq, abs_mul, abs_of_pos (by norm_num : (0 : ℚ) < 1000)]
    linarith
  have hsmall : 1000 * ((2 : ℚ) ^ e / 2 ^ 53) < 1 := by
    have hpow : (2 : ℚ) ^ e ≤ 2 ^ 42 := pow_le_pow_right₀ one_le_two he
    rw [← mul_div_assoc, div_lt_one (by positivity)]
    norm_num at hpow ⊢
    linarith
  have hylo : (1024 : ℚ) * 2 ^ e ≤ y := by
    have := (abs_le.mp hyerr).1
    linarith
  have hyhi : y < 2048 * 2 ^ e := by
    have := (abs_le.mp hyerr).2
    linarith
  have hypos : 0 < y := by linarith
  -- the product lies in the binade of `2^(e+10)`, whose unit is 1024 times the quotient's
  have hulpy : ulp y = (2 : ℚ) ^ ((e : ℤ) + 10 - 52) := by
    apply ulp_eq_of_mem
    · rw [abs_of_pos hypos, zpow_add₀ two_ne_zero, zpow_natCast]
      norm_num
      linarith
    · rw [abs_of_pos hypos, show (e : ℤ) + 10 + 1 = e + 11 by ring, zpow_add₀ two_ne_zero,
        zpow_natCast]
      norm_num
      linarith
  obtain ⟨j, hj⟩ := Int.eq_ofNat_of_zero_le (show (0 : ℤ) ≤ 42 - e by omega)
  have hunits : (((m * 2 ^ j : ℤ) : ℚ)) * ulp y = m := by
    rw [hulpy, show (e : ℤ) + 10 - 52 = -(j : ℤ) by omega]
    push_cast
    rw [zpow_neg, zpow_natCast, mul_assoc, mul_inv_cancel₀ (by positivity), mul_one]
  have hclose : |y - ((m * 2 ^ j : ℤ) : ℚ) * ulp y| < ulp y / 2 := by
    rw [hunits]
    refine lt_of_le_of_lt hyerr ?_
    rw [hulpy, show (e : ℤ) + 10 - 52 = e - 42 by ring, zpow_sub₀ two_ne_zero, zpow_natCast]
    norm_num
    rw [← mul_div_assoc, div_div, div_lt_div_iff₀ (by norm_num) (by norm_num)]
    linarith
  rw [fl_of_close hypos.ne' hclose, hunits]

/-- **Thousandths survive a division and a multiplication** on this stretch of each binade. -/
theorem trunc_fl_thousand {m : ℤ} {e : ℕ} (he : e ≤ 42) (h0 : 1024 * 2 ^ e < |m|)
    (h1 : |m| < 1000 * 2 ^ (e + 1)) : trunc (fl (fl (m / 1000) * 1000)) = m := by
  rcases le_or_gt 0 m with hm | hm
  · rw [abs_of_nonneg hm] at h0 h1
    rw [fl_thousand_of_pos he h0 h1, trunc_intCast]
  · rw [abs_of_neg hm] at h0 h1
    have h := fl_thousand_of_pos he h0 h1
    have heq : fl (fl ((m : ℚ) / 1000) * 1000) = -fl (fl ((-m : ℤ) / 1000) * 1000) := by
      push_cast
      rw [neg_div, fl_neg, neg_mul, fl_neg, neg_neg]
    rw [heq, h]
    push_cast
    rw [neg_neg, trunc_intCast]

/-- Seconds as a double, split into whole seconds and microseconds the way
`datetime.fromtimestamp` does it. -/
def secondsToMicros (t : ℚ) : ℤ := trunc t * 1000000 + roundHalfEven (fl ((t - trunc t) * 1000000))

/-- Splitting seconds is odd. -/
theorem secondsToMicros_neg (t : ℚ) : secondsToMicros (-t) = -secondsToMicros t := by
  unfold secondsToMicros
  have h : (-t - ((trunc (-t) : ℤ) : ℚ)) * 1000000 = -((t - trunc t) * 1000000) := by
    rw [trunc_neg]
    push_cast
    ring
  rw [h, fl_neg, roundHalfEven_neg, trunc_neg]
  ring

/-- A whole number of seconds is a double. -/
theorem secondsToMicros_intCast {q : ℤ} (h : |q| < 2 ^ 53) :
    secondsToMicros (fl q) = q * 1000000 := by
  have h0 : roundHalfEven 0 = 0 := by simpa using roundHalfEven_intCast 0
  rw [fl_intCast h, secondsToMicros, trunc_intCast, sub_self, zero_mul, fl_zero, h0, add_zero]

/-- The double of a number of thousandths is within `2^-21` of it, and the fraction within
`10^6 / 2^21 < 1/2` of a whole number of microseconds. -/
theorem secondsToMicros_fraction {q r : ℤ} (hq0 : 0 ≤ q) (hq1 : q < 2 ^ 32) (hr0 : 0 < r)
    (hr1 : r < 1000) : secondsToMicros (fl (q + r / 1000)) = q * 1000000 + r * 1000 := by
  set x : ℚ := fl (q + r / 1000) with hx
  have hrq0 : (1 : ℚ) ≤ r := by exact_mod_cast hr0
  have hrq1 : (r : ℚ) ≤ 999 := by exact_mod_cast (show r ≤ 999 by omega)
  have hqq0 : (0 : ℚ) ≤ q := by exact_mod_cast hq0
  have hqq1 : (q : ℚ) + 1 ≤ 2 ^ 32 := by exact_mod_cast hq1
  have herr : |x - (q + r / 1000)| ≤ 1 / 2 ^ 21 := by
    have hle := abs_fl_sub_le ((q : ℚ) + r / 1000)
    rw [← hx, abs_of_nonneg (by positivity : (0 : ℚ) ≤ q + r / 1000)] at hle
    refine le_trans hle ?_
    rw [div_le_div_iff₀ (by positivity) (by positivity)]
    norm_num at hqq1 ⊢
    linarith
  obtain ⟨hlo, hhi⟩ := abs_le.mp herr
  have htrunc : trunc x = q := by
    apply trunc_eq_of_mem hq0 <;> norm_num at hlo hhi ⊢ <;> linarith
  have hround : roundHalfEven (fl ((x - trunc x) * 1000000)) = r * 1000 := by
    apply roundHalfEven_eq_of_close
    rw [htrunc]
    set y : ℚ := (x - q) * 1000000 with hy
    have hyabs : |y| ≤ 1000000 := by
      rw [abs_le]
      constructor <;> rw [hy] <;> norm_num at hlo hhi ⊢ <;> linarith
    have hfl : |fl y - y| ≤ 1000000 / 2 ^ 53 :=
      le_trans (abs_fl_sub_le y) (by gcongr)
    have hyr : |y - r * 1000| ≤ 1000000 / 2 ^ 21 := by
      have heq : y - r * 1000 = (x - (q + r / 1000)) * 1000000 := by rw [hy]; ring
      rw [heq, abs_mul, abs_of_pos (by norm_num : (0 : ℚ) < 1000000)]
      linarith
    push_cast
    calc |fl y - r * 1000| ≤ |fl y - y| + |y - r * 1000| := abs_sub_le _ _ _
      _ ≤ 1000000 / 2 ^ 53 + 1000000 / 2 ^ 21 := add_le_add hfl hyr
      _ < 1 / 2 := by norm_num
  rw [secondsToMicros, hround, htrunc]

/-- Whole milliseconds become their microseconds, though the seconds are a double. -/
theorem secondsToMicros_of_nonneg {c : ℤ} (hc : 0 ≤ c) (h : c < 1000 * 2 ^ 32) :
    secondsToMicros (fl (c / 1000)) = c * 1000 := by
  obtain ⟨q, r, hcr, hr0, hr1⟩ : ∃ q r : ℤ, c = q * 1000 + r ∧ 0 ≤ r ∧ r < 1000 :=
    ⟨c / 1000, c % 1000, by omega, by omega, by omega⟩
  have hcast : (c : ℚ) / 1000 = q + r / 1000 := by
    rw [hcr]
    push_cast
    ring
  rcases eq_or_lt_of_le hr0 with rfl | hr
  · rw [Int.cast_zero, zero_div, add_zero] at hcast
    rw [hcast, secondsToMicros_intCast (by rw [abs_of_nonneg] <;> omega), hcr]
    omega
  · rw [hcast, secondsToMicros_fraction (by omega) (by omega) hr hr1, hcr]
    omega

/-- **Whole milliseconds survive the way through a double of seconds** below `2^32` seconds. -/
theorem secondsToMicros_thousandth {c : ℤ} (h : |c| < 1000 * 2 ^ 32) :
    secondsToMicros (fl (c / 1000)) = c * 1000 := by
  rcases le_or_gt 0 c with hc | hc
  · rw [abs_of_nonneg hc] at h
    exact secondsToMicros_of_nonneg hc h
  · rw [abs_of_neg hc] at h
    have hneg := secondsToMicros_of_nonneg (c := -c) (by omega) h
    push_cast at hneg
    rw [neg_div, fl_neg, secondsToMicros_neg] at hneg
    omega

/-! ## Monotonicity -/

/-- Rounding to an integer is monotone. -/
theorem roundHalfEven_mono {x y : ℚ} (h : x ≤ y) : roundHalfEven x ≤ roundHalfEven y := by
  by_contra hlt
  have hlt' : (roundHalfEven y : ℚ) + 1 ≤ roundHalfEven x := by
    exact_mod_cast not_le.mp hlt
  have hx := (abs_le.mp (abs_roundHalfEven_sub_le x)).2
  have hy := (abs_le.mp (abs_roundHalfEven_sub_le y)).1
  -- only at a common tie could the roundings cross
  obtain rfl : x = y := by linarith
  exact hlt le_rfl

/-- Cutting to an integer is monotone. -/
theorem trunc_mono {x y : ℚ} (h : x ≤ y) : trunc x ≤ trunc y := by
  unfold trunc
  split_ifs with hx hy hy
  · exact Int.floor_mono h
  · exact absurd (le_trans hx h) hy
  · have hceil : ⌈x⌉ ≤ 0 := by
      rw [Int.ceil_le]
      push_cast
      linarith
    exact le_trans hceil (Int.floor_nonneg.mpr hy)
  · exact Int.ceil_mono h

/-- Rounding a positive number stays within its binade, the upper end included. -/
theorem fl_mem_binade {x : ℚ} (hx : 0 < x) :
    (2 : ℚ) ^ Int.log 2 x ≤ fl x ∧ fl x ≤ (2 : ℚ) ^ (Int.log 2 x + 1) := by
  have hu := ulp_pos x
  have habs : |x| = x := abs_of_pos hx
  have hlow : ((2 ^ 52 : ℤ) : ℚ) * ulp x = (2 : ℚ) ^ Int.log 2 x := by
    rw [ulp, habs, zpow_sub₀ two_ne_zero]
    norm_num
    ring
  have hhigh : ((2 ^ 53 : ℤ) : ℚ) * ulp x = (2 : ℚ) ^ (Int.log 2 x + 1) := by
    rw [ulp, habs, zpow_sub₀ two_ne_zero, zpow_add_one₀ two_ne_zero]
    norm_num
    ring
  have h0 : (2 : ℚ) ^ Int.log 2 x ≤ x := by
    exact_mod_cast Int.zpow_log_le_self (b := 2) one_lt_two hx
  have h1 : x ≤ (2 : ℚ) ^ (Int.log 2 x + 1) := by
    exact_mod_cast (Int.lt_zpow_succ_log_self (b := 2) one_lt_two x).le
  rw [fl, if_neg hx.ne', ← hlow, ← hhigh]
  constructor
  · refine mul_le_mul_of_nonneg_right ?_ hu.le
    have hle : ((2 ^ 52 : ℤ) : ℚ) ≤ x / ulp x := by
      rw [le_div_iff₀ hu, hlow]
      exact h0
    have := roundHalfEven_mono hle
    rw [roundHalfEven_intCast] at this
    exact_mod_cast this
  · refine mul_le_mul_of_nonneg_right ?_ hu.le
    have hle : x / ulp x ≤ ((2 ^ 53 : ℤ) : ℚ) := by
      rw [div_le_iff₀ hu, hhigh]
      exact h1
    have := roundHalfEven_mono hle
    rw [roundHalfEven_intCast] at this
    exact_mod_cast this

/-- A number that is not negative is rounded to one that is not. -/
theorem fl_nonneg {x : ℚ} (hx : 0 ≤ x) : 0 ≤ fl x := by
  rcases eq_or_lt_of_le hx with rfl | hpos
  · exact fl_zero.ge
  · exact le_trans (zpow_pos two_pos _).le (fl_mem_binade hpos).1

/-- The positive half of `fl_mono`. -/
theorem fl_mono_of_pos {x y : ℚ} (hx : 0 < x) (h : x ≤ y) : fl x ≤ fl y := by
  have hy : 0 < y := lt_of_lt_of_le hx h
  rcases eq_or_lt_of_le (Int.log_mono_right (b := 2) hx h) with hlog | hlog
  · have hulp : ulp x = ulp y := by rw [ulp, ulp, abs_of_pos hx, abs_of_pos hy, hlog]
    rw [fl, fl, if_neg hx.ne', if_neg hy.ne', hulp]
    refine mul_le_mul_of_nonneg_right ?_ (ulp_pos y).le
    have hdiv : x / ulp y ≤ y / ulp y := div_le_div_of_nonneg_right h (ulp_pos y).le
    exact_mod_cast roundHalfEven_mono hdiv
  · calc fl x ≤ (2 : ℚ) ^ (Int.log 2 x + 1) := (fl_mem_binade hx).2
      _ ≤ (2 : ℚ) ^ Int.log 2 y := zpow_le_zpow_right₀ one_le_two hlog
      _ ≤ fl y := (fl_mem_binade hy).1

/-- **Rounding is monotone.** -/
theorem fl_mono {x y : ℚ} (h : x ≤ y) : fl x ≤ fl y := by
  rcases lt_or_ge 0 x with hx | hx
  · exact fl_mono_of_pos hx h
  have hneg : fl x ≤ 0 := by
    have hx' := fl_nonneg (neg_nonneg.mpr hx)
    rw [fl_neg] at hx'
    linarith
  rcases le_or_gt 0 y with hy | hy
  · exact le_trans hneg (fl_nonneg hy)
  · have hmono := fl_mono_of_pos (neg_pos.mpr hy) (neg_le_neg h)
    rw [fl_neg, fl_neg] at hmono
    linarith

/-- A number that is not positive is rounded to one that is not. -/
theorem fl_nonpos {x : ℚ} (hx : x ≤ 0) : fl x ≤ 0 := by
  have h := fl_mono hx
  rwa [fl_zero] at h

/-- A quotient of integers, rounded and then divided by a whole number with `//`, is the quotient
by the product. -/
theorem floor_fl_div {u : ℤ} {d w : ℕ} (hu : 0 ≤ u) (hlt : u < 2 ^ 53) (hd : 0 < d) (hw : 0 < w) :
    ⌊fl ((u : ℚ) / d) / w⌋ = u / (d * w : ℕ) := by
  set k : ℤ := u / (d * w : ℕ) with hk
  have hdq : (0 : ℚ) < d := by exact_mod_cast hd
  have hwq : (0 : ℚ) < w := by exact_mod_cast hw
  have hdw : (0 : ℤ) < (d * w : ℕ) := by exact_mod_cast Nat.mul_pos hd hw
  have hlow : k * (d * w : ℕ) ≤ u := Int.ediv_mul_le u hdw.ne'
  have hhigh : u + 1 ≤ (k + 1) * (d * w : ℕ) :=
    Int.add_one_le_iff.mpr (Int.lt_ediv_add_one_mul_self u hdw)
  have hkw0 : 0 ≤ k * w := mul_nonneg (Int.ediv_nonneg hu hdw.le) (Int.natCast_nonneg w)
  have hkw : ((k * w : ℤ) : ℚ) ≤ u / d := by
    rw [le_div_iff₀ hdq]
    have hcast : ((k * (d * w : ℕ) : ℤ) : ℚ) ≤ u := by exact_mod_cast hlow
    push_cast at hcast ⊢
    linarith
  rw [Int.floor_eq_iff, le_div_iff₀ hwq, div_lt_iff₀ hwq]
  constructor
  · -- `k * w` is a double, and rounding is monotone
    have hsmall : |k * w| < 2 ^ 53 := by
      rw [abs_of_nonneg hkw0]
      have hdu : k * w ≤ k * (d * w : ℕ) := by
        push_cast
        nlinarith [show (1 : ℤ) ≤ d by exact_mod_cast hd]
      omega
    have hle := fl_mono hkw
    rw [fl_intCast hsmall] at hle
    push_cast at hle
    exact hle
  · -- the error of the rounding is less than `1 / d`
    have huq : (u : ℚ) < 2 ^ 53 := by exact_mod_cast hlt
    have hquot : (0 : ℚ) ≤ u / d := div_nonneg (by exact_mod_cast hu) hdq.le
    have herr := abs_fl_sub_le ((u : ℚ) / d)
    rw [abs_of_nonneg hquot] at herr
    have hsmall : (u : ℚ) / d / 2 ^ 53 < 1 / d := by
      rw [div_div, mul_comm, ← div_div]
      exact (div_lt_div_iff_of_pos_right hdq).mpr ((div_lt_one (by positivity)).mpr huq)
    have hcast : ((u + 1 : ℤ) : ℚ) ≤ ((k + 1) * (d * w : ℕ) : ℤ) := by exact_mod_cast hhigh
    have hnext : ((u : ℚ) + 1) / d ≤ (k + 1) * w := by
      rw [div_le_iff₀ hdq]
      push_cast at hcast
      linarith
    calc fl ((u : ℚ) / d) ≤ u / d + u / d / 2 ^ 53 := by linarith [(abs_le.mp herr).2]
      _ < u / d + 1 / d := by linarith
      _ = (u + 1) / d := by ring
      _ ≤ (k + 1) * w := hnext

/-- The microseconds of a double of seconds lie between its whole seconds and the next ones. -/
theorem secondsToMicros_bounds (t : ℚ) :
    (0 ≤ t → trunc t * 1000000 ≤ secondsToMicros t ∧
      secondsToMicros t ≤ (trunc t + 1) * 1000000) ∧
    (t ≤ 0 → (trunc t - 1) * 1000000 ≤ secondsToMicros t ∧
      secondsToMicros t ≤ trunc t * 1000000) := by
  have hint : ∀ n : ℤ, |n| < 2 ^ 53 → roundHalfEven (fl n) = n := by
    intro n hn
    rw [fl_intCast hn, roundHalfEven_intCast]
  have h0 := hint 0 (by norm_num)
  have h1 := hint 1000000 (by norm_num)
  have h2 := hint (-1000000) (by norm_num)
  unfold secondsToMicros
  constructor
  · intro ht
    have hfloor : trunc t = ⌊t⌋ := if_pos ht
    have hlow : ((0 : ℤ) : ℚ) ≤ (t - trunc t) * 1000000 := by
      have := Int.floor_le t
      rw [hfloor]
      push_cast
      linarith
    have hhigh : (t - trunc t) * 1000000 ≤ ((1000000 : ℤ) : ℚ) := by
      have := (Int.lt_floor_add_one t).le
      rw [hfloor]
      push_cast
      linarith
    have hl := roundHalfEven_mono (fl_mono hlow)
    have hh := roundHalfEven_mono (fl_mono hhigh)
    rw [h0] at hl
    rw [h1] at hh
    omega
  · intro ht
    have hceil : (t : ℚ) ≤ trunc t ∧ (trunc t : ℚ) < t + 1 := by
      unfold trunc
      split_ifs with hpos
      · obtain rfl : t = 0 := le_antisymm ht hpos
        simp
      · exact ⟨Int.le_ceil t, Int.ceil_lt_add_one t⟩
    have hlow : ((-1000000 : ℤ) : ℚ) ≤ (t - trunc t) * 1000000 := by
      push_cast
      linarith [hceil.2]
    have hhigh : (t - trunc t) * 1000000 ≤ ((0 : ℤ) : ℚ) := by
      push_cast
      linarith [hceil.1]
    have hl := roundHalfEven_mono (fl_mono hlow)
    have hh := roundHalfEven_mono (fl_mono hhigh)
    rw [h2] at hl
    rw [h0] at hh
    omega

/-- **Later seconds are later microseconds.** -/
theorem secondsToMicros_mono {s t : ℚ} (h : s ≤ t) : secondsToMicros s ≤ secondsToMicros t := by
  rcases eq_or_lt_of_le (trunc_mono h) with heq | hlt
  · unfold secondsToMicros
    rw [heq]
    have hfrac : (s - trunc t) * 1000000 ≤ (t - trunc t) * 1000000 := by linarith
    have := roundHalfEven_mono (fl_mono hfrac)
    omega
  · obtain ⟨hs0, hs1⟩ := secondsToMicros_bounds s
    obtain ⟨ht0, ht1⟩ := secondsToMicros_bounds t
    rcases le_total 0 s with hs | hs
    · have h1 := (hs0 hs).2
      have h2 := (ht0 (le_trans hs h)).1
      omega
    · have h1 := (hs1 hs).2
      rcases le_total 0 t with ht | ht
      · have h2 := (ht0 ht).1
        omega
      · have h2 := (ht1 ht).1
        omega

/-- The microseconds of a double of seconds are those seconds, up to less than a microsecond. -/
theorem abs_secondsToMicros_sub_le (t : ℚ) : |(secondsToMicros t : ℚ) - t * 1000000| ≤ 3 / 4 := by
  set w : ℚ := (t - trunc t) * 1000000 with hw
  have hfrac : |t - trunc t| ≤ 1 := by
    unfold trunc
    split_ifs
    · have h0 := Int.floor_le t
      have h1 := Int.lt_floor_add_one t
      rw [abs_le]
      constructor <;> linarith
    · have h0 := Int.le_ceil t
      have h1 := Int.ceil_lt_add_one t
      rw [abs_le]
      constructor <;> linarith
  have hwabs : |w| ≤ 1000000 := by
    rw [hw, abs_mul, abs_of_pos (by norm_num : (0 : ℚ) < 1000000)]
    linarith
  have heq : (secondsToMicros t : ℚ) - t * 1000000 = roundHalfEven (fl w) - w := by
    rw [secondsToMicros, ← hw]
    push_cast
    rw [hw]
    ring
  rw [heq]
  calc |(roundHalfEven (fl w) : ℚ) - w|
      ≤ |(roundHalfEven (fl w) : ℚ) - fl w| + |fl w - w| := abs_sub_le _ _ _
    _ ≤ 1 / 2 + 1000000 / 2 ^ 53 :=
        add_le_add (abs_roundHalfEven_sub_le _) (le_trans (abs_fl_sub_le w) (by gcongr))
    _ ≤ 3 / 4 := by norm_num

/-! ## Decimals -/

/-- `round(x, n)`: the nearest decimal with `n` places, a tie to the even one, as a double. -/
def roundPlaces (n : ℕ) (x : ℚ) : ℚ := fl (roundHalfEven (x * 10 ^ n) / 10 ^ n)

/-- `x` to `n` significant digits. -/
def significant (n : ℕ) (x : ℚ) : ℚ :=
  roundHalfEven (x / 10 ^ (Int.log 10 |x| + 1 - n)) * 10 ^ (Int.log 10 |x| + 1 - n)

/-- The decimal that `repr(x)` spells: the shortest one that reads back as `x`. -/
def shortest (x : ℚ) : ℚ :=
  (((List.range' 1 17).map fun n => significant n x).find? fun d => fl d = x).getD x

/-- The shortest decimal reads back, or it is the number itself. -/
theorem fl_shortest (x : ℚ) : fl (shortest x) = x ∨ shortest x = x := by
  unfold shortest
  cases h : ((List.range' 1 17).map fun n => significant n x).find? fun d => fl d = x with
  | none => exact Or.inr rfl
  | some d => exact Or.inl (by simpa using List.find?_some h)

example : shortest (fl (21 / 10)) = 21 / 10 := by decide +kernel

/-- A number and its rounding are within one part in `2^53`. -/
theorem fl_bounds {x : ℚ} (hx : 0 ≤ x) :
    x * (1 - 1 / 2 ^ 53) ≤ fl x ∧ fl x ≤ x * (1 + 1 / 2 ^ 53) := by
  have h := abs_le.mp (abs_fl_sub_le x)
  rw [abs_of_nonneg hx] at h
  constructor <;> linarith

/-- The shortest decimal is below the number by at most the rounding. -/
theorem shortest_ge {x : ℚ} (hx : 0 < x) : x ≤ shortest x * (1 + 1 / 2 ^ 53) := by
  rcases fl_shortest x with h | h
  · have hpos : 0 ≤ shortest x := by
      by_contra hneg
      have hle : fl (shortest x) ≤ 0 := fl_nonpos (le_of_not_ge hneg)
      rw [h] at hle
      exact absurd hx (not_lt.mpr hle)
    calc x = fl (shortest x) := h.symm
      _ ≤ shortest x * (1 + 1 / 2 ^ 53) := (fl_bounds hpos).2
  · rw [h]
    linarith

/-- 1 is written as it is. -/
@[simp] theorem shortest_one : shortest 1 = 1 := by
  have hfl : fl 1 = 1 := by exact_mod_cast fl_intCast (n := 1) (by norm_num)
  have hdigit : significant 1 1 = 1 := by
    have hround : roundHalfEven 1 = 1 := by exact_mod_cast roundHalfEven_intCast 1
    simp [significant, hround]
  simp [shortest, List.range'_succ, hdigit, hfl]

/-! ## Rounding to 24 bits -/

/-- The unit in the last place of a single-precision number. -/
def ulpSingle (x : ℚ) : ℚ := (2 : ℚ) ^ (Int.log 2 |x| - 23)

/-- The single-precision number nearest to `x`, ties to even. -/
def flSingle (x : ℚ) : ℚ := if x = 0 then 0 else roundHalfEven (x / ulpSingle x) * ulpSingle x

/-- Rounding to single precision moves by at most one part in `2^24`. -/
theorem abs_flSingle_sub_le {x : ℚ} (hx : 0 < x) : |flSingle x - x| ≤ x / 2 ^ 24 := by
  have hlog : (2 : ℚ) ^ Int.log 2 |x| ≤ x := by
    rw [abs_of_pos hx]
    exact_mod_cast Int.zpow_log_le_self (b := 2) one_lt_two hx
  have hulp : ulpSingle x * 2 ^ 23 = (2 : ℚ) ^ Int.log 2 |x| := by
    rw [ulpSingle, ← zpow_natCast, ← zpow_add₀ two_ne_zero]
    norm_num
  rw [flSingle, if_neg hx.ne']
  calc |(roundHalfEven (x / ulpSingle x) : ℚ) * ulpSingle x - x|
      ≤ ulpSingle x / 2 := abs_roundTo_sub_le (zpow_pos two_pos _) x
    _ ≤ x / 2 ^ 24 := by linarith

/-- 1 is a single-precision number. -/
@[simp] theorem flSingle_one : flSingle 1 = 1 := by
  have hround : roundHalfEven ((2 : ℚ) ^ 23) = 2 ^ 23 := by
    exact_mod_cast roundHalfEven_intCast ((2 : ℤ) ^ (23 : ℕ))
  have hulp : ulpSingle 1 = ((2 : ℚ) ^ 23)⁻¹ := by
    rw [ulpSingle, abs_one, Int.log_one_right, ← zpow_natCast, ← zpow_neg]
    norm_num
  rw [flSingle, if_neg one_ne_zero, hulp, one_div, inv_inv, hround]
  norm_num

end TripPipeline.Lib
