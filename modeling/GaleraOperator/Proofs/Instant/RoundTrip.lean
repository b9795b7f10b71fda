import GaleraOperator.Instant.Printer
import GaleraOperator.Instant.Reader
import GaleraOperator.Proofs.Instant.Calendar

/-!
# Reading what was written

The text to the second of an instant of the years 0 to 9999 is read by the strict reader. Outside of a leap second what is
read is the instant without its part of a second.
-/

namespace GaleraOperator

theorem length_zeroPadded {width n : Nat} (h : n < 10 ^ width) (hw : 0 < width) : (zeroPadded width n).length = width := by
  have := (Nat.length_toDigits_le_iff (b := 10) (n := n) (by decide) hw).2 h
  simp [zeroPadded]
  omega

theorem isDigit_of_mem_zeroPadded {width n : Nat} {c : Char} (h : c ∈ zeroPadded width n) : c.isDigit = true := by
  rcases List.mem_append.1 h with h | h
  · rw [List.eq_of_mem_replicate h]
    rfl
  · exact Nat.isDigit_of_mem_toDigits (by decide) (by decide) h

/-- Zeros in front of a number do not count. -/
theorem foldl_zeroPadded (width n : Nat) :
    (zeroPadded width n).foldl (fun n c ↦ n * 10 + Text.digitValue c) 0 = n := by
  have h : (fun n c ↦ n * 10 + Text.digitValue c) = fun n (c : Char) ↦ 10 * n + (c.toNat - '0'.toNat) := by
    funext n c
    rw [Nat.mul_comm, Text.digitValue]
  rw [h, ← Nat.ofDigitChars_eq_foldl]
  simp [zeroPadded, Nat.ofDigitChars_append]

namespace Instant

open Calendar Reader

/-- The year of an instant. -/
def year (t : Instant) : Int := (Date.ofDay t.day).year

theorem fixedDigits_append (digits rest : List Char) (value : Nat) (h : ∀ c ∈ digits, c.isDigit = true) :
    fixedDigits digits.length value (digits ++ rest) =
      .ok (digits.foldl (fun n c ↦ n * 10 + Text.digitValue c) value, rest) := by
  induction digits generalizing value with
  | nil => rfl
  | cons c cs ih =>
    simp only [List.length_cons, List.cons_append, fixedDigits, h c (by simp), if_true]
    exact ih _ fun c hc ↦ h c (by simp [hc])

/-- A number that was written with leading zeros is read. -/
theorem fixedDigits_zeroPadded {width n : Nat} (rest : List Char) (h : n < 10 ^ width) (hw : 0 < width) :
    fixedDigits width 0 (zeroPadded width n ++ rest) = .ok (n, rest) := by
  have := fixedDigits_append (zeroPadded width n) rest 0 fun c ↦ isDigit_of_mem_zeroPadded
  rwa [length_zeroPadded h hw, foldl_zeroPadded] at this

theorem length_le_utf8ByteSize (cs : List Char) : cs.length ≤ (String.ofList cs).utf8ByteSize := by
  induction cs with
  | nil => simp
  | cons c cs ih =>
    have := c.utf8Size_pos
    rw [← List.singleton_append, String.ofList_append, String.utf8ByteSize_append, ← String.singleton_eq_ofList,
      String.utf8ByteSize_singleton]
    simp only [List.length_append, List.length_singleton]
    omega

private theorem checkTime_eq (day : Int) {hour minute second : Nat} (hhour : hour < 24) (hminute : minute < 60)
    (hsecond : second ≤ 60) : ∃ t, checkTime day hour minute second 0 0 = .ok t ∧
      (second < 60 → t.day = day ∧ t.second = hour * 3600 + minute * 60 + second ∧ t.nano = 0) := by
  rcases Nat.lt_or_eq_of_le hsecond with h | rfl
  · have hne : second ≠ 60 := by omega
    simp only [checkTime, hne, if_false, hhour, hminute, h, and_self, if_true, Nat.zero_lt_succ, dif_pos]
    refine ⟨_, rfl, fun _ ↦ ⟨?_, ?_, rfl⟩⟩ <;> simp only <;> omega
  · simp only [checkTime, if_true, hhour, hminute, nanosPerSecond]
    exact ⟨_, rfl, fun h ↦ absurd h (by decide)⟩

/-- A date and a time of day in UTC are read. -/
theorem strict_fields {year month dayOfMonth hour minute second : Nat} {day : Int} (hyear : year < 10000)
    (hmonth : month < 100) (hdate : checkDate ⟨year, month, dayOfMonth⟩ = .ok day) (hday : dayOfMonth < 100)
    (hhour : hour < 24) (hminute : minute < 60) (hsecond : second ≤ 60) :
    strict (zeroPadded 4 year ++ '-' :: (zeroPadded 2 month ++ '-' :: (zeroPadded 2 dayOfMonth ++
      'T' :: (zeroPadded 2 hour ++ ':' :: (zeroPadded 2 minute ++ ':' :: (zeroPadded 2 second ++ ['Z'])))))) =
      checkTime day hour minute second 0 0 := by
  have hlength : ¬(String.ofList (zeroPadded 4 year ++ '-' :: (zeroPadded 2 month ++ '-' :: (zeroPadded 2 dayOfMonth ++
      'T' :: (zeroPadded 2 hour ++ ':' :: (zeroPadded 2 minute ++ ':' :: (zeroPadded 2 second ++ ['Z']))))))).utf8ByteSize
        < 19 := by
    refine Nat.not_lt.2 (Nat.le_trans ?_ (length_le_utf8ByteSize _))
    simp only [List.length_append, List.length_cons, List.length_nil]
    rw [length_zeroPadded (by omega) (by decide), length_zeroPadded (by omega) (by decide),
      length_zeroPadded (by omega) (by decide), length_zeroPadded (by omega) (by decide),
      length_zeroPadded (by omega) (by decide), length_zeroPadded (by omega) (by decide)]
    decide
  have hfour (rest : List Char) : fixedDigits 4 0 (zeroPadded 4 year ++ rest) = .ok (year, rest) :=
    fixedDigits_zeroPadded rest (show year < 10 ^ 4 from hyear) (by decide)
  have htwo {n : Nat} (h : n < 100) (rest : List Char) : fixedDigits 2 0 (zeroPadded 2 n ++ rest) = .ok (n, rest) :=
    fixedDigits_zeroPadded rest h (by decide)
  obtain ⟨t, htime, -⟩ := checkTime_eq day hhour hminute hsecond
  simp only [strict, hlength, if_false, bind, Except.bind, hfour, htwo hmonth,
    htwo hday, htwo (show hour < 100 by omega), htwo (show minute < 100 by omega), htwo (show second < 100 by omega),
    oneOf, hdate, List.contains_cons, beq_self_eq_true, Bool.true_or, Bool.or_true, if_true, pure, Except.pure, htime]
  have hoffset : offset colon ['Z'] = .ok (0, []) := rfl
  have hcheck : checkOffset 0 = .ok () := rfl
  simp [hoffset, hcheck, htime]

/-- The text to the second of an instant of the years 0 to 9999 is read. Outside of a leap second what is read is the
instant without its part of a second. -/
theorem ofRfc3339_toSecondsText {t : Instant} (h : 0 ≤ t.year ∧ t.year ≤ 9999) :
    ∃ read, ofRfc3339 t.toSecondsText = .ok read ∧ (t.isLeapSecond = false → read = t.wholeSecond) := by
  have hvalid := ofDay_isValid t.day
  obtain ⟨hmonth, hday⟩ := lt_of_isValid hvalid
  have hyear : ((Date.ofDay t.day).year.toNat : Int) = (Date.ofDay t.day).year := Int.toNat_of_nonneg h.1
  have hdate : checkDate ⟨(Date.ofDay t.day).year.toNat, (Date.ofDay t.day).month, (Date.ofDay t.day).day⟩ =
      .ok t.day := by
    have hrange : yearInRange (Date.ofDay t.day).year = true := by
      obtain ⟨h₁, h₂⟩ := h
      simp only [year] at h₁ h₂
      exact Bool.and_eq_true_iff.2 ⟨decide_eq_true (by simp only [firstYear]; omega),
        decide_eq_true (by simp only [lastYear]; omega)⟩
    rw [hyear]
    simp only [checkDate, hrange, hvalid, Bool.and_self, if_true]
    exact congrArg _ (toDay_ofDay t.day)
  have hsecond : t.second % 60 + (if t.isLeapSecond then 1 else 0) ≤ 60 := by
    split <;> omega
  have hlt := t.second_lt
  have hhour : t.second / 3600 < 24 := by omega
  have hminute : t.second / 60 % 60 < 60 := by omega
  obtain ⟨read, hread, hwhole⟩ := checkTime_eq t.day hhour hminute hsecond
  refine ⟨read, ?_, fun hleap ↦ ?_⟩
  · have htext := strict_fields (by simp only [year] at h; omega) hmonth hdate hday hhour hminute hsecond
    rw [← hread, ← htext]
    have htext' : t.toSecondsText.toList = zeroPadded 4 (Date.ofDay t.day).year.toNat ++ '-' ::
        (zeroPadded 2 (Date.ofDay t.day).month ++ '-' :: (zeroPadded 2 (Date.ofDay t.day).day ++ 'T' ::
          (zeroPadded 2 (t.second / 3600) ++ ':' :: (zeroPadded 2 (t.second / 60 % 60) ++ ':' ::
            (zeroPadded 2 (t.second % 60 + if t.isLeapSecond then 1 else 0) ++ ['Z']))))) := by
      simp only [year] at h
      simp [toSecondsText, localText, yearText, Precision.fraction, h.1, h.2]
    rw [ofRfc3339, htext']
  · obtain ⟨h₁, h₂, h₃⟩ := hwhole (by simp [hleap]; omega)
    rw [hleap] at h₂
    obtain ⟨day, second, nano, _, _⟩ := read
    simp only at h₁ h₂ h₃
    simp only [wholeSecond, mk.injEq, h₁, h₃, and_true, true_and]
    simp at h₂
    omega

/-- In other years the text begins with a sign, which is no digit. -/
theorem ofRfc3339_toSecondsText_iff {t : Instant} :
    (∃ read, ofRfc3339 t.toSecondsText = .ok read) ↔ 0 ≤ t.year ∧ t.year ≤ 9999 := by
  constructor
  · rintro ⟨read, hread⟩
    refine Decidable.byContradiction fun h ↦ ?_
    have hsign : ∃ sign rest, sign.isDigit = false ∧ t.toSecondsText.toList = sign :: rest := by
      simp only [year] at h
      by_cases hneg : (Date.ofDay t.day).year < 0 <;> simp only [toSecondsText, localText, yearText, h, hneg, if_true,
        if_false, String.toList_ofList, List.cons_append]
      · exact ⟨_, _, by decide, rfl⟩
      · exact ⟨_, _, by decide, rfl⟩
    obtain ⟨sign, rest, hsign, htext⟩ := hsign
    simp only [ofRfc3339, htext, strict, bind, Except.bind, fixedDigits, hsign, Bool.false_eq_true, if_false] at hread
    split at hread <;> cases hread
  · intro h
    obtain ⟨read, hread, -⟩ := ofRfc3339_toSecondsText h
    exact ⟨read, hread⟩

end Instant

end GaleraOperator
