import GaleraOperator.Backoff
import Mathlib

/-!
# Doubles as rational numbers

A double is taken as the rational number that it stands for, or as one of the values beyond: what is greater than the
greatest finite double is infinite, and what has no value, such as an infinite number less another one, is no number.
The results of operations are not rounded otherwise. So everything is kept that decides whether a computation leaves the
range of doubles, and what becomes of it then.
-/

namespace GaleraOperator

/-- A double, taken as a rational number, as one of the two infinities, or as no number. -/
inductive IdealDouble where
  | finite (q : ℚ)
  | infinite (negative : Bool)
  | nan
  deriving DecidableEq

namespace DelayArithmetic

variable {num den m : ℕ}

/-- The nearest whole number is not less than a whole number that the fraction is not less than. -/
theorem le_roundedQuotient (hden : 0 < den) (h : m * den ≤ num) : m ≤ roundedQuotient num den := by
  have hbelow : m ≤ num / den := (Nat.le_div_iff_mul_le hden).2 h
  simp only [roundedQuotient]
  split
  · exact hbelow
  · exact Nat.le_succ_of_le hbelow

/-- The nearest whole number is not greater than a whole number that the fraction is not greater than. -/
theorem roundedQuotient_le (hden : 0 < den) (h : num ≤ m * den) : roundedQuotient num den ≤ m := by
  simp only [roundedQuotient]
  rcases Nat.lt_or_eq_of_le h with hless | rfl
  · have hbelow : num / den < m := (Nat.div_lt_iff_lt_mul hden).2 hless
    split
    · exact hbelow.le
    · exact hbelow
  · rw [Nat.mul_div_cancel _ hden, Nat.mul_mod_left]
    simp [hden]

end DelayArithmetic

namespace IdealDouble

/-- The greatest finite double. -/
def largest : ℚ := (2 ^ 53 - 1) * 2 ^ 971

/-- The double of a number. -/
def rounded (q : ℚ) : IdealDouble := if |q| ≤ largest then finite q else infinite (q < 0)

def neg : IdealDouble → IdealDouble
  | finite q => finite (-q)
  | infinite negative => infinite !negative
  | nan => nan

def add : IdealDouble → IdealDouble → IdealDouble
  | nan, _ | _, nan => nan
  | finite p, finite q => rounded (p + q)
  | infinite negative, finite _ | finite _, infinite negative => infinite negative
  | infinite negative, infinite negative' => if negative = negative' then infinite negative else nan

def mul : IdealDouble → IdealDouble → IdealDouble
  | nan, _ | _, nan => nan
  | finite p, finite q => rounded (p * q)
  | infinite negative, finite q | finite q, infinite negative =>
    if q = 0 then nan else infinite (negative != decide (q < 0))
  | infinite negative, infinite negative' => infinite (negative != negative')

def div : IdealDouble → IdealDouble → IdealDouble
  | nan, _ | _, nan => nan
  | finite p, finite q => if q = 0 then if p = 0 then nan else infinite (p < 0) else rounded (p / q)
  | infinite negative, finite q => infinite (negative != decide (q < 0))
  | finite _, infinite _ => finite 0
  | infinite _, infinite _ => nan

def lt : IdealDouble → IdealDouble → Bool
  | nan, _ | _, nan => false
  | finite p, finite q => p < q
  | infinite negative, finite _ => negative
  | finite _, infinite negative => !negative
  | infinite negative, infinite negative' => negative && !negative'

/-- The greater of two doubles, of which one may be no number. -/
def max (x y : IdealDouble) : IdealDouble :=
  if x = nan then y else if y = nan then x else if x.lt y then y else x

/-- The lesser of two doubles, of which one may be no number. -/
def min (x y : IdealDouble) : IdealDouble :=
  if x = nan then y else if y = nan then x else if y.lt x then y else x

/-- Seconds as nanoseconds, to the nearest number of them. An infinite time is not asked for. -/
def nanos : IdealDouble → Duration
  | finite q => if 0 < q then DelayArithmetic.roundedQuotient (q.num.toNat * Duration.second) q.den else 0
  | infinite _ | nan => 0

instance : DelayArithmetic IdealDouble where
  ofNat n := rounded n
  add := add
  sub x y := x.add y.neg
  mul := mul
  div := div
  max := max
  min := min
  nanos := nanos

variable {p q : ℚ} {m n : ℕ}

theorem rounded_of_le (h : |q| ≤ largest) : rounded q = finite q := if_pos h

theorem rounded_of_lt (h : largest < q) : rounded q = infinite false := by
  have hpos : 0 < q := lt_of_le_of_lt (by unfold largest; positivity) h
  rw [rounded, if_neg (by rw [abs_of_pos hpos]; exact not_le_of_gt h)]
  simp [hpos.le]

theorem max_finite (p q : ℚ) : DelayArithmetic.max (finite p) (finite q) = finite (p ⊔ q) := by
  rcases lt_or_ge p q with h | h
  · simp [DelayArithmetic.max, max, lt, h, h.le]
  · simp [DelayArithmetic.max, max, lt, h, not_lt_of_ge h]

theorem min_finite (p q : ℚ) : DelayArithmetic.min (finite p) (finite q) = finite (p ⊓ q) := by
  rcases lt_or_ge q p with h | h
  · simp [DelayArithmetic.min, min, lt, h, h.le]
  · simp [DelayArithmetic.min, min, lt, h, not_lt_of_ge h]

/-- A number of an order of magnitude that is not the last one is finite up to the exponent 1023. -/
theorem mul_two_pow_le_largest_iff {a : ℚ} (ha : 1 ≤ a) (ha' : a ≤ 3 / 2) : a * 2 ^ n ≤ largest ↔ n ≤ 1023 := by
  have hunit : (0 : ℚ) < 2 ^ 971 := by positivity
  constructor
  · intro h
    by_contra hn
    have hpow : (2 : ℚ) ^ (53 + 971) ≤ 2 ^ n := by
      apply pow_le_pow_right₀ (by norm_num)
      omega
    have hless : largest < 2 ^ (53 + 971) := by
      rw [largest, pow_add]
      apply mul_lt_mul_of_pos_right _ hunit
      norm_num
    have hgreat : (2 : ℚ) ^ n ≤ a * 2 ^ n := le_mul_of_one_le_left (by positivity) ha
    exact absurd h (not_le_of_gt (hless.trans_le (hpow.trans hgreat)))
  · intro hn
    have hpow : (2 : ℚ) ^ n ≤ 2 ^ (52 + 971) := by
      apply pow_le_pow_right₀ (by norm_num)
      omega
    calc a * 2 ^ n ≤ 3 / 2 * 2 ^ (52 + 971) := mul_le_mul ha' hpow (by positivity) (by norm_num)
      _ = (3 / 2 * 2 ^ 52) * 2 ^ 971 := by rw [pow_add, mul_assoc]
      _ ≤ largest := by
        apply mul_le_mul_of_nonneg_right _ hunit.le
        norm_num

theorem two_pow_le_largest_iff : (2 : ℚ) ^ n ≤ largest ↔ n ≤ 1023 := by
  rw [← mul_two_pow_le_largest_iff le_rfl (by norm_num), one_mul]

/-- A number that is two orders of magnitude greater is finite up to an exponent that is less by two. -/
theorem four_le_mul_two_pow_le_largest_iff {a : ℚ} (ha : 4 ≤ a) (ha' : a ≤ 6) : a * 2 ^ n ≤ largest ↔ n ≤ 1021 := by
  have hquarter : a * 2 ^ n = a / 4 * 2 ^ (n + 2) := by ring
  rw [hquarter, mul_two_pow_le_largest_iff (by linarith) (by linarith)]
  omega

/-- Numbers that are not too great are less than the greatest double. -/
theorem le_largest (h : q ≤ 2 ^ 53) : q ≤ largest := h.trans (two_pow_le_largest_iff.2 (by norm_num))

/-- A power of two as a double. -/
def twoPow (n : ℕ) : IdealDouble := rounded (2 ^ n)

theorem twoPow_of_le (h : n ≤ 1023) : twoPow n = finite (2 ^ n) := by
  apply rounded_of_le
  rw [abs_of_pos (by positivity)]
  exact two_pow_le_largest_iff.2 h

theorem twoPow_of_lt (h : 1023 < n) : twoPow n = infinite false := by
  apply rounded_of_lt
  rw [← not_le, two_pow_le_largest_iff]
  omega

/-- Powers of two are multiplied by adding their exponents, in and out of the range of doubles. -/
theorem mul_twoPow (m n : ℕ) : DelayArithmetic.mul (twoPow m) (twoPow n) = twoPow (m + n) := by
  have hpos (k : ℕ) : ¬(2 : ℚ) ^ k = 0 ∧ ¬(2 : ℚ) ^ k < 0 := by
    constructor
    · positivity
    · exact not_lt_of_ge (by positivity)
  by_cases hm : m ≤ 1023 <;> by_cases hn : n ≤ 1023
  · rw [twoPow_of_le hm, twoPow_of_le hn, twoPow, pow_add]
    rfl
  · rw [twoPow_of_le hm, twoPow_of_lt (by omega), twoPow_of_lt (by omega)]
    simp [DelayArithmetic.mul, mul, hpos]
  · rw [twoPow_of_lt (by omega), twoPow_of_le hn, twoPow_of_lt (by omega)]
    simp [DelayArithmetic.mul, mul, hpos]
  · rw [twoPow_of_lt (by omega), twoPow_of_lt (by omega), twoPow_of_lt (by omega)]
    rfl

/-- Squaring step by step gives the power of a power of two. -/
theorem powerFrom_twoPow (m k n : ℕ) : DelayArithmetic.powerFrom (twoPow m) (twoPow k) n = twoPow (m + k * n) := by
  induction n using Nat.strong_induction_on generalizing m k with
  | _ n ih =>
    have hhalves : n = n % 2 + 2 * (n / 2) := (Nat.mod_add_div n 2).symm
    -- The last binary digit is taken in, and the others are left for the square.
    have hlast : (if n % 2 = 1 then DelayArithmetic.mul (twoPow m) (twoPow k) else twoPow m) =
        twoPow (m + k * (n % 2)) := by
      split
      · next hodd => rw [hodd, mul_twoPow, mul_one]
      · next heven => rw [show n % 2 = 0 by omega, mul_zero, add_zero]
    rw [DelayArithmetic.powerFrom, hlast, mul_twoPow]
    split
    · next hzero => rw [show n % 2 = n by omega]
    · next hrest =>
      rw [ih (n / 2) (by omega)]
      congr 1
      conv_rhs => rw [hhalves]
      ring

/-- Whole numbers that are not too great are doubles. -/
theorem ofNat_of_le (h : n ≤ 2 ^ 53) : (DelayArithmetic.ofNat n : IdealDouble) = finite n := by
  apply rounded_of_le
  rw [abs_of_nonneg (by positivity)]
  apply le_largest
  exact_mod_cast h

theorem rounded_of_between (h : 0 ≤ q) (h' : q ≤ largest) : rounded q = finite q := by
  apply rounded_of_le
  rwa [abs_of_nonneg h]

/-- A power of two with an exponent that is not negative. -/
theorem power_natCast (n : ℕ) : DelayArithmetic.power (DelayArithmetic.ofNat 2 : IdealDouble) n = twoPow n := by
  have hone : (DelayArithmetic.ofNat 1 : IdealDouble) = twoPow 0 := by simp [DelayArithmetic.ofNat, twoPow]
  have htwo : (DelayArithmetic.ofNat 2 : IdealDouble) = twoPow 1 := by simp [DelayArithmetic.ofNat, twoPow]
  rw [DelayArithmetic.power, if_neg (by omega), hone, htwo, powerFrom_twoPow]
  simp

/-- A power of two with a negative exponent is at most one half; it is nothing where the power that it is the reciprocal
of is infinite. -/
theorem power_of_neg {z : ℤ} (hz : z < 0) : ∃ q, 0 ≤ q ∧ q ≤ 1 / 2 ∧
    DelayArithmetic.power (DelayArithmetic.ofNat 2 : IdealDouble) z = finite q := by
  have hsize : DelayArithmetic.powerFrom (DelayArithmetic.ofNat 1) (DelayArithmetic.ofNat 2 : IdealDouble) z.natAbs =
      twoPow z.natAbs := by
    have hpower := power_natCast z.natAbs
    rwa [DelayArithmetic.power, if_neg (by omega)] at hpower
  rw [DelayArithmetic.power, if_pos hz, hsize, ofNat_of_le (by norm_num)]
  by_cases hfinite : z.natAbs ≤ 1023
  · have hpos : (0 : ℚ) < 2 ^ z.natAbs := by positivity
    have htwo : (2 : ℚ) ^ 1 ≤ 2 ^ z.natAbs := by
      apply pow_le_pow_right₀ (by norm_num)
      omega
    have hhalf : 1 / (2 : ℚ) ^ z.natAbs ≤ 1 / 2 := by
      apply one_div_le_one_div_of_le (by norm_num)
      simpa using htwo
    refine ⟨1 / 2 ^ z.natAbs, by positivity, hhalf, ?_⟩
    rw [twoPow_of_le hfinite]
    have hfits : 1 / (2 : ℚ) ^ z.natAbs ≤ largest := le_largest (by linarith)
    have hdiv : DelayArithmetic.div (finite (1 : ℕ)) (finite (2 ^ z.natAbs)) = rounded (1 / 2 ^ z.natAbs) := by
      simp [DelayArithmetic.div, div]
    rw [hdiv, rounded_of_between (by positivity) hfits]
  · refine ⟨0, le_rfl, by norm_num, ?_⟩
    rw [twoPow_of_lt (by omega)]
    rfl

/-- Whole seconds are a double. -/
theorem seconds_mul {k : ℕ} (h : k ≤ 2 ^ 53) :
    (DelayArithmetic.seconds (k * Duration.second) : IdealDouble) = finite k := by
  have hzero : rounded 0 = finite 0 := by simpa [DelayArithmetic.ofNat] using ofNat_of_le (Nat.zero_le (2 ^ 53))
  have hwhole : rounded k = finite k := ofNat_of_le h
  rw [DelayArithmetic.seconds, Nat.mul_div_cancel _ (by decide), Nat.mul_mod_left, ofNat_of_le h,
    ofNat_of_le (Nat.zero_le _), ofNat_of_le (by decide : Duration.second ≤ 2 ^ 53)]
  simp [DelayArithmetic.div, div, DelayArithmetic.add, add, Duration.second, hzero, hwhole]

/-- The fraction that the nanoseconds of a positive number are the quotient of. -/
theorem mul_second_mul_den (hq : 0 < q) :
    q * Duration.second * q.den = ((q.num.toNat * Duration.second : ℕ) : ℚ) := by
  have hnum : (q.num.toNat : ℚ) = q * q.den := by
    have hcast : ((q.num.toNat : ℤ) : ℚ) = q.num := by rw [Int.toNat_of_nonneg (Rat.num_pos.2 hq).le]
    rw [Rat.mul_den_eq_num, ← hcast, Int.cast_natCast]
  rw [Nat.cast_mul, hnum]
  ring

/-- There are no fewer nanoseconds than a whole number of them that the seconds come to. -/
theorem le_nanos (h : m ≤ q * Duration.second) : m ≤ nanos (finite q) := by
  by_cases hq : 0 < q
  · rw [nanos, if_pos hq]
    apply DelayArithmetic.le_roundedQuotient q.den_pos
    have hscaled := mul_le_mul_of_nonneg_right h (Nat.cast_nonneg q.den)
    rw [mul_second_mul_den hq] at hscaled
    exact_mod_cast hscaled
  · have hnone : q * Duration.second ≤ 0 := mul_nonpos_of_nonpos_of_nonneg (not_lt.1 hq) (Nat.cast_nonneg _)
    have hzero : m = 0 := by exact_mod_cast le_antisymm (h.trans hnone) (Nat.cast_nonneg m)
    rw [hzero]
    exact Nat.zero_le _

/-- There are no more nanoseconds than a whole number of them that the seconds do not exceed. -/
theorem nanos_le (h : q * Duration.second ≤ m) : nanos (finite q) ≤ m := by
  by_cases hq : 0 < q
  · rw [nanos, if_pos hq]
    apply DelayArithmetic.roundedQuotient_le q.den_pos
    have hscaled := mul_le_mul_of_nonneg_right h (Nat.cast_nonneg q.den)
    rw [mul_second_mul_den hq] at hscaled
    exact_mod_cast hscaled
  · rw [nanos, if_neg hq]
    exact Nat.zero_le m

theorem nanos_natCast (k : ℕ) : nanos (finite k) = k * Duration.second := by
  apply le_antisymm
  · apply nanos_le
    rw [Nat.cast_mul]
  · apply le_nanos
    rw [Nat.cast_mul]

end IdealDouble

end GaleraOperator
