import GaleraOperator.Control.Reconcile
import GaleraOperator.Proofs.Backoff.Doubles

/-!
# When delays collapse

The delay after a pass that failed doubles with every failure before it and is cut at the longest delay only after it
was computed. With 1022 failures before it the computation leaves the range of doubles: the delay that is to be spread
is infinite, the spread is no number, and what is no number is passed over in favour of the bound that it is compared
with, which is zero. With 2147483648 failures before it their number is read as a negative one, and the delay is the
first one divided instead of multiplied. So the delay is between nine tenths of the first one and the longest one
exactly up to 1021 failures before.
-/

namespace GaleraOperator

open IdealDouble

/-- The delay between passes, once the doubling is done: it is spread and cut. -/
def spreadDelay (sample base : IdealDouble) : Duration :=
  let b : Backoff IdealDouble := Backoff.betweenPasses
  let range := DelayArithmetic.mul base b.jitter
  let jitter := DelayArithmetic.sub
    (DelayArithmetic.mul (DelayArithmetic.mul sample range) (DelayArithmetic.ofNat 2)) range
  DelayArithmetic.nanos (DelayArithmetic.min
    (DelayArithmetic.max (DelayArithmetic.add base jitter) (DelayArithmetic.ofNat 0))
    (DelayArithmetic.seconds b.longest))

/-- The first delay, doubled so many times. -/
def doubledDelay (z : ℤ) : IdealDouble :=
  DelayArithmetic.mul (DelayArithmetic.seconds (5 * Duration.second))
    (DelayArithmetic.power (DelayArithmetic.ofNat 2) z)

variable {sample b : ℚ} {e : Error} {n : ℕ}

theorem retryDelay_eq_spreadDelay (sample : IdealDouble) (he : e.isRetryable = true) (failuresBefore : UInt32) :
    retryDelay sample e failuresBefore = spreadDelay sample (doubledDelay (Backoff.exponent failuresBefore)) := by
  rw [retryDelay, Backoff.delayAfter, if_pos he]
  rfl

theorem jitter_betweenPasses : (Backoff.betweenPasses : Backoff IdealDouble).jitter = finite (1 / 10) := by
  have htenth : rounded (1 / 10) = finite (1 / 10) := by
    apply rounded_of_between (by norm_num)
    exact le_largest (by norm_num)
  change DelayArithmetic.div (DelayArithmetic.ofNat 1) (DelayArithmetic.ofNat 10) = _
  rw [ofNat_of_le (by norm_num), ofNat_of_le (by norm_num), ← htenth]
  simp [DelayArithmetic.div, IdealDouble.div]

/-- A delay is spread by a tenth of it to either side, and cut at 300 seconds. -/
theorem spreadDelay_eq (sample base : IdealDouble) :
    spreadDelay sample base = DelayArithmetic.nanos (DelayArithmetic.min (DelayArithmetic.max
      (DelayArithmetic.add base (DelayArithmetic.sub
        (DelayArithmetic.mul (DelayArithmetic.mul sample (DelayArithmetic.mul base (finite (1 / 10)))) (finite 2))
        (DelayArithmetic.mul base (finite (1 / 10)))))
      (finite 0)) (finite 300)) := by
  have hlongest : (DelayArithmetic.seconds (Backoff.betweenPasses : Backoff IdealDouble).longest : IdealDouble) =
      finite 300 := seconds_mul (by norm_num)
  simp only [spreadDelay, jitter_betweenPasses, hlongest, ofNat_of_le (by norm_num : 2 ≤ 2 ^ 53),
    ofNat_of_le (by norm_num : 0 ≤ 2 ^ 53), Nat.cast_ofNat, Nat.cast_zero]

/-- A delay in the range of doubles is spread by a tenth, and cut at the longest one. -/
theorem spreadDelay_finite (hsample : 0 ≤ sample) (hsample' : sample < 1) (hb : 0 ≤ b) (hb' : 11 / 10 * b ≤ largest) :
    spreadDelay (finite sample) (finite b) = nanos (finite (min (b * (9 / 10 + sample / 5)) 300)) := by
  have hless : sample * b ≤ b := mul_le_of_le_one_left hb hsample'.le
  have hpos : 0 ≤ sample * b := mul_nonneg hsample hb
  have hrange : rounded (b * (1 / 10)) = finite (b * (1 / 10)) := by
    apply rounded_of_between <;> linarith
  have hshare : rounded (sample * (b * (1 / 10))) = finite (sample * (b * (1 / 10))) := by
    apply rounded_of_between <;> linarith
  have htwice : rounded (sample * (b * (1 / 10)) * 2) = finite (sample * (b * (1 / 10)) * 2) := by
    apply rounded_of_between <;> linarith
  have hjitter : rounded (sample * (b * (1 / 10)) * 2 + -(b * (1 / 10))) =
      finite (sample * (b * (1 / 10)) * 2 + -(b * (1 / 10))) := by
    apply rounded_of_le
    rw [abs_le]
    constructor <;> linarith
  have hspread : b + (sample * (b * (1 / 10)) * 2 + -(b * (1 / 10))) = b * (9 / 10 + sample / 5) := by ring
  have htotal : 0 ≤ b * (9 / 10 + sample / 5) := by
    apply mul_nonneg hb
    linarith
  have hwhole : rounded (b * (9 / 10 + sample / 5)) = finite (b * (9 / 10 + sample / 5)) := by
    apply rounded_of_between htotal
    linarith
  rw [spreadDelay_eq]
  simp only [DelayArithmetic.mul, IdealDouble.mul, DelayArithmetic.sub, neg, DelayArithmetic.add, IdealDouble.add,
    hrange, hshare, htwice, hjitter, hspread, hwhole]
  rw [max_finite, min_finite, max_eq_left htotal]
  rfl

/-- A delay beyond the range of doubles is spread to no number, and nothing is left of it. -/
theorem spreadDelay_infinite (hsample : 0 ≤ sample) : spreadDelay (finite sample) (infinite false) = 0 := by
  have hrange : DelayArithmetic.mul (infinite false) (finite (1 / 10)) = infinite false := by
    simp [DelayArithmetic.mul, IdealDouble.mul]
  -- No share at all of an infinite range is no number, and neither is an infinite share less the infinite range.
  have hjitter : DelayArithmetic.sub (DelayArithmetic.mul (DelayArithmetic.mul (finite sample) (infinite false))
      (finite 2)) (infinite false) = nan := by
    rcases hsample.eq_or_lt with rfl | hpos
    · simp [DelayArithmetic.mul, IdealDouble.mul, DelayArithmetic.sub, IdealDouble.add]
    · simp [DelayArithmetic.mul, IdealDouble.mul, DelayArithmetic.sub, IdealDouble.add, neg, hpos.ne',
        hpos.not_gt]
  have hlost : DelayArithmetic.max (DelayArithmetic.add (infinite false) nan) (finite 0) = finite 0 := rfl
  rw [spreadDelay_eq, hrange, hjitter, hlost, min_finite, min_eq_left (by norm_num)]
  rfl

/-- Up to 1021 times the first delay can be doubled. -/
theorem doubledDelay_of_le (h : n ≤ 1021) : doubledDelay n = finite (5 * 2 ^ n) := by
  have hfits : (5 : ℚ) * 2 ^ n ≤ largest := (four_le_mul_two_pow_le_largest_iff (by norm_num) (by norm_num)).2 h
  have hwhole : rounded (5 * 2 ^ n) = finite (5 * 2 ^ n) := rounded_of_between (by positivity) hfits
  rw [doubledDelay, seconds_mul (by norm_num), power_natCast, twoPow_of_le (by omega), ← hwhole]
  rfl

/-- Doubled more often, it is infinite. -/
theorem doubledDelay_of_lt (h : 1021 < n) : doubledDelay n = infinite false := by
  rw [doubledDelay, seconds_mul (by norm_num), power_natCast]
  by_cases hfinite : n ≤ 1023
  · have hexceeds : largest < (5 : ℚ) * 2 ^ n := by
      rw [← not_le, four_le_mul_two_pow_le_largest_iff (by norm_num) (by norm_num)]
      omega
    rw [twoPow_of_le hfinite, ← rounded_of_lt hexceeds]
    rfl
  · rw [twoPow_of_lt (by omega)]
    simp [DelayArithmetic.mul, IdealDouble.mul]

/-- With a negative exponent no more than half of the first delay is left. -/
theorem doubledDelay_of_neg {z : ℤ} (h : z < 0) : ∃ q, 0 ≤ q ∧ q ≤ 5 / 2 ∧ doubledDelay z = finite q := by
  obtain ⟨q, hq, hhalf, hpower⟩ := power_of_neg h
  refine ⟨5 * q, by positivity, by linarith, ?_⟩
  have hwhole : rounded (5 * q) = finite (5 * q) := by
    apply rounded_of_between (by positivity)
    exact le_largest (by linarith)
  rw [doubledDelay, seconds_mul (by norm_num), hpower, ← hwhole]
  rfl

theorem exponent_of_lt {attempt : UInt32} (h : attempt.toNat < 2 ^ 31) : Backoff.exponent attempt = attempt.toNat := by
  have hbits : attempt.toInt32.toBitVec.toNat = attempt.toNat := rfl
  rw [Backoff.exponent, Int32.toInt, BitVec.toInt_eq_toNat_of_lt (by omega), hbits]

/-- A number of failures that is too great is read as a negative one. -/
theorem exponent_of_le {attempt : UInt32} (h : 2 ^ 31 ≤ attempt.toNat) : Backoff.exponent attempt < 0 := by
  have hbits : attempt.toInt32.toBitVec.toNat = attempt.toNat := rfl
  have hbound := attempt.toNat_lt
  rw [Backoff.exponent, Int32.toInt, BitVec.toInt_eq_toNat_cond, if_neg (by omega), hbits]
  omega

/-- A delay is at least nine tenths of the first one and at most the longest one. -/
def WithinBounds (d : Duration) : Prop :=
  9 * (Backoff.betweenPasses : Backoff IdealDouble).initial ≤ 10 * d ∧
    d ≤ (Backoff.betweenPasses : Backoff IdealDouble).longest

theorem not_withinBounds {d : ℕ} (h : 20 * d ≤ 11 * (Backoff.betweenPasses : Backoff IdealDouble).initial) :
    ¬WithinBounds d := by
  intro hbounds
  have hleast : 9 * 5000000000 ≤ 10 * d := hbounds.1
  have hmost : 20 * d ≤ 11 * 5000000000 := h
  omega

section Delay

variable {failuresBefore : UInt32} (he : e.isRetryable = true) (hsample : 0 ≤ sample) (hsample' : sample < 1)

include he hsample

theorem retryDelay_of_lt (h : 1021 < failuresBefore.toNat) (h' : failuresBefore.toNat < 2 ^ 31) :
    retryDelay (finite sample) e failuresBefore = 0 := by
  rw [retryDelay_eq_spreadDelay _ he, exponent_of_lt h', doubledDelay_of_lt h, spreadDelay_infinite hsample]

include hsample'

theorem retryDelay_of_le (h : failuresBefore.toNat ≤ 1021) : retryDelay (finite sample) e failuresBefore =
    nanos (finite (min (5 * 2 ^ failuresBefore.toNat * (9 / 10 + sample / 5)) 300)) := by
  have hfits : 11 / 10 * ((5 : ℚ) * 2 ^ failuresBefore.toNat) ≤ largest := by
    rw [← mul_assoc, four_le_mul_two_pow_le_largest_iff (by norm_num) (by norm_num)]
    exact h
  rw [retryDelay_eq_spreadDelay _ he, exponent_of_lt (by omega), doubledDelay_of_le h,
    spreadDelay_finite hsample hsample' (by positivity) hfits]

/-- A number of failures that is read as a negative one makes the delay shorter than the first one. -/
theorem retryDelay_of_negative (h : 2 ^ 31 ≤ failuresBefore.toNat) :
    20 * retryDelay (finite sample) e failuresBefore ≤ 11 * (Backoff.betweenPasses : Backoff IdealDouble).initial := by
  obtain ⟨q, hq, hhalf, hdoubled⟩ := doubledDelay_of_neg (exponent_of_le h)
  have hfits : 11 / 10 * q ≤ largest := le_largest (by linarith)
  have hspread : q * (9 / 10 + sample / 5) ≤ 11 / 4 := by
    calc q * (9 / 10 + sample / 5) ≤ 5 / 2 * (11 / 10) := by
          apply mul_le_mul hhalf (by linarith) (by linarith) (by norm_num)
      _ = 11 / 4 := by norm_num
  have hnanos : nanos (finite (min (q * (9 / 10 + sample / 5)) 300)) ≤ 2750000000 := by
    apply nanos_le
    have hleast := (min_le_left (q * (9 / 10 + sample / 5)) 300).trans hspread
    rw [Duration.second]
    push_cast
    linarith
  rw [retryDelay_eq_spreadDelay _ he, hdoubled, spreadDelay_finite hsample hsample' hq hfits]
  calc 20 * nanos (finite (min (q * (9 / 10 + sample / 5)) 300)) ≤ 20 * 2750000000 := Nat.mul_le_mul_left 20 hnanos
    _ = 11 * (Backoff.betweenPasses : Backoff IdealDouble).initial := rfl

theorem withinBounds_of_le (h : failuresBefore.toNat ≤ 1021) :
    WithinBounds (retryDelay (finite sample) e failuresBefore) := by
  have hleast : (4500000000 : ℕ) ≤ nanos (finite (min (5 * 2 ^ failuresBefore.toNat * (9 / 10 + sample / 5)) 300)) := by
    apply le_nanos
    have hdoubled : (1 : ℚ) ≤ 2 ^ failuresBefore.toNat := one_le_pow₀ (by norm_num)
    have hspread : (9 / 2 : ℚ) ≤ 5 * 2 ^ failuresBefore.toNat * (9 / 10 + sample / 5) := by
      calc (9 / 2 : ℚ) = 5 * 1 * (9 / 10) := by norm_num
        _ ≤ 5 * 2 ^ failuresBefore.toNat * (9 / 10 + sample / 5) := by
          apply mul_le_mul (by linarith) (by linarith) (by norm_num) (by positivity)
    have hmin := le_min hspread (by norm_num : (9 / 2 : ℚ) ≤ 300)
    rw [Duration.second]
    push_cast
    linarith
  have hmost : nanos (finite (min (5 * 2 ^ failuresBefore.toNat * (9 / 10 + sample / 5)) 300)) ≤ 300000000000 := by
    apply nanos_le
    have hmin := min_le_right (5 * 2 ^ failuresBefore.toNat * (9 / 10 + sample / 5)) 300
    rw [Duration.second]
    push_cast
    linarith
  rw [retryDelay_of_le he hsample hsample' h]
  constructor
  · calc 9 * (Backoff.betweenPasses : Backoff IdealDouble).initial = 10 * 4500000000 := rfl
      _ ≤ _ := Nat.mul_le_mul_left 10 hleast
  · exact hmost

theorem withinBounds_iff :
    WithinBounds (retryDelay (finite sample) e failuresBefore) ↔ failuresBefore.toNat ≤ 1021 := by
  constructor
  · intro hbounds
    by_contra hmore
    rcases Nat.lt_or_ge failuresBefore.toNat (2 ^ 31) with hlt | hge
    · rw [retryDelay_of_lt he hsample (by omega) hlt] at hbounds
      exact not_withinBounds (Nat.zero_le _) hbounds
    · exact not_withinBounds (retryDelay_of_negative he hsample hsample' hge) hbounds
  · exact withinBounds_of_le he hsample hsample'

/-- For an error that may pass and any sample: up to 1021 failures before, the delay is the doubled one, spread by a
tenth and cut at the longest one; after more it is nothing, as long as the number of failures is not read as a negative
one, and then it is little more than half of the first one at most. So it is at least nine tenths of the first delay and
at most the longest one exactly up to 1021 failures before. -/
theorem retryDelay_withinBounds_iff (failuresBefore : UInt32) :
    (failuresBefore.toNat ≤ 1021 → retryDelay (finite sample) e failuresBefore =
      nanos (finite (min (5 * 2 ^ failuresBefore.toNat * (9 / 10 + sample / 5)) 300))) ∧
    (1021 < failuresBefore.toNat → failuresBefore.toNat < 2 ^ 31 →
      retryDelay (finite sample) e failuresBefore = 0) ∧
    (2 ^ 31 ≤ failuresBefore.toNat → 20 * retryDelay (finite sample) e failuresBefore ≤
      11 * (Backoff.betweenPasses : Backoff IdealDouble).initial) ∧
    (WithinBounds (retryDelay (finite sample) e failuresBefore) ↔ failuresBefore.toNat ≤ 1021) :=
  ⟨retryDelay_of_le he hsample hsample', retryDelay_of_lt he hsample, retryDelay_of_negative he hsample hsample',
    withinBounds_iff he hsample hsample'⟩

end Delay

/-- After the third failure in a row there were two before, and the delay is four times the first one. -/
theorem retryDelay_withinBounds_iff_third :
    (Error.notFound "db").isRetryable = true ∧ (0 : ℚ) ≤ 1 / 2 ∧ (1 / 2 : ℚ) < 1 ∧
      retryDelay (finite (1 / 2)) (.notFound "db") 2 = 20 * Duration.second ∧
      WithinBounds (retryDelay (finite (1 / 2)) (.notFound "db") 2) := by
  have hthird := retryDelay_withinBounds_iff (e := .notFound "db") rfl (by norm_num : (0 : ℚ) ≤ 1 / 2) (by norm_num) 2
  refine ⟨rfl, by norm_num, by norm_num, ?_, hthird.2.2.2.2 (by decide)⟩
  have hseconds : min (5 * 2 ^ (2 : UInt32).toNat * (9 / 10 + 1 / 2 / 5)) 300 = (20 : ℚ) := by
    rw [show (2 : UInt32).toNat = 2 from rfl]
    norm_num
  rw [hthird.1 (by decide), hseconds]
  exact nanos_natCast 20

/-! ## Failures in a row -/

/-- A failure is counted before the delay is chosen, and the answer is how many there were before it. -/
theorem afterFailure_runIn {W : Type} (s : Interaction.Surroundings W) (c : Cluster) (memory : Memory) (w : W) :
    ∃ w', (afterFailure c).runIn s memory w =
      ((.ok (memory.failureCount (clusterKey (c.metadata.ns?.getD "") c.name)),
        memory.recordFailure (clusterKey (c.metadata.ns?.getD "") c.name)), w') :=
  ⟨_, rfl⟩

namespace Memory

variable {key other : String}

/-- Counting adds one, up to the greatest number. -/
theorem toNat_failureCount_recordFailure (m : Memory) (key : String) :
    ((m.recordFailure key).failureCount key).toNat = min ((m.failureCount key).toNat + 1) Text.maxU32 := by
  have hcount : (m.recordFailure key).failureCount key = countUp (m.failureCount key) := by
    simp [recordFailure, failureCount]
  have hmost := (m.failureCount key).toNat_lt
  rw [hcount, countUp]
  split
  · next hfull =>
    rw [hfull]
    rfl
  · next hroom =>
    have hless : (m.failureCount key).toNat ≠ Text.maxU32 := fun h ↦ hroom (UInt32.toNat_inj.1 h)
    have hgreatest : Text.maxU32 = 4294967295 := rfl
    rw [UInt32.toNat_add, UInt32.toNat_one]
    omega

/-- What is counted of one cluster is not counted of another. -/
theorem failureCount_recordFailure_of_ne (m : Memory) (h : other ≠ key) :
    (m.recordFailure key).failureCount other = m.failureCount other := by
  simp [recordFailure, failureCount, h]

/-- Whatever other clusters fail meanwhile, the failures of one are counted, up to the greatest number. -/
theorem toNat_failureCount_foldl (m : Memory) (keys : List String) :
    ((keys.foldl recordFailure m).failureCount key).toNat =
      min ((m.failureCount key).toNat + keys.count key) Text.maxU32 := by
  induction keys generalizing m with
  | nil =>
    have hmost := (m.failureCount key).toNat_lt
    have hgreatest : Text.maxU32 = 4294967295 := rfl
    rw [List.foldl_nil, List.count_nil]
    omega
  | cons first rest ih =>
    rw [List.foldl_cons, ih]
    by_cases h : key = first
    · rw [← h, toNat_failureCount_recordFailure, List.count_cons_self]
      omega
    · rw [failureCount_recordFailure_of_ne m h, List.count_cons_of_ne (Ne.symm h)]

end Memory

/-- While no pass over a cluster ends well, its delays stay within their bounds for 1022 passes, and no longer. -/
theorem withinBounds_foldl_iff {memory : Memory} {key : String} (he : e.isRetryable = true) (hsample : 0 ≤ sample)
    (hsample' : sample < 1) (h : memory.failureCount key = 0) (keys : List String) :
    WithinBounds (retryDelay (finite sample) e ((keys.foldl Memory.recordFailure memory).failureCount key)) ↔
      keys.count key ≤ 1021 := by
  have hgreatest : Text.maxU32 = 4294967295 := rfl
  rw [withinBounds_iff he hsample hsample', Memory.toNat_failureCount_foldl, h, UInt32.toNat_zero]
  omega

/-- After 1022 failures in a row nothing is left of the delay. -/
theorem not_withinBounds_outage :
    ((List.replicate 1022 "ns/db").foldl Memory.recordFailure .empty).failureCount "ns/db" = 1022 ∧
      (Error.notFound "db").isRetryable = true ∧
      retryDelay (finite (1 / 2)) (.notFound "db") 1022 = 0 ∧
      ¬WithinBounds (retryDelay (finite (1 / 2)) (.notFound "db") 1022) := by
  have hnone : retryDelay (finite (1 / 2)) (.notFound "db") 1022 = 0 :=
    retryDelay_of_lt rfl (by norm_num) (by decide) (by decide)
  refine ⟨?_, rfl, hnone, ?_⟩
  · have hnew : Memory.empty.failureCount "ns/db" = 0 := rfl
    rw [← UInt32.toNat_inj, Memory.toNat_failureCount_foldl, List.count_replicate_self, hnew, UInt32.toNat_zero,
      Nat.zero_add]
    rfl
  · rw [hnone]
    exact not_withinBounds (Nat.zero_le _)

end GaleraOperator
