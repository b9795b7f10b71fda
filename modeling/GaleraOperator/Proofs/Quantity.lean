import GaleraOperator.Quantity
import Mathlib

/-!
# Reading amounts that were written

The text that is written for an amount of storage is read as that amount, in whole allocation units. So a request that
the operator writes stands for the bytes that it has computed.
-/

namespace GaleraOperator.Quantity

variable {bytes n k : Nat} {value text : String}

@[simp] theorem alignedTo_alignedTo (n : Nat) : alignedTo (alignedTo n) = alignedTo n := by
  unfold alignedTo ceilDiv allocationUnit
  omega

theorem allocationUnit_mul_div_alignedTo (n : Nat) : alignedTo n / allocationUnit * allocationUnit = alignedTo n := by
  unfold alignedTo allocationUnit
  omega

@[simp] theorem ceilDiv_one (n : Nat) : ceilDiv n 1 = n := by
  unfold ceilDiv
  omega

/-- Rounding up ends in whole allocation units below the limit, or in an overflow. -/
theorem roundUp_eq_ok : roundUp n = .ok bytes ↔ bytes = alignedTo n ∧ alignedTo n < byteLimit := by
  unfold roundUp
  by_cases hlimit : alignedTo n < byteLimit
  · rw [if_pos hlimit]
    constructor
    · intro h
      exact ⟨(Except.ok.inj h).symm, hlimit⟩
    · rintro ⟨rfl, -⟩
      rfl
  · rw [if_neg hlimit]
    constructor
    · intro h
      cases h
    · rintro ⟨-, h⟩
      exact absurd h hlimit

section Decimal

variable {c : Char}

private theorem isDigit_of_mem_decimal (h : c ∈ Nat.toDigits 10 k) : c.isDigit = true :=
  Nat.isDigit_of_mem_toDigits (by decide) (by decide) h

private theorem isBlank_eq_false (h : c.isDigit = true) : Text.isBlank c = false := by
  have hrange : 48 ≤ c.toNat ∧ c.toNat ≤ 57 := Char.isDigit_iff_toNat.1 h
  have hc : c = Char.ofNat c.toNat := c.ofNat_toNat.symm
  obtain ⟨hlow, hhigh⟩ := hrange
  rw [hc]
  interval_cases c.toNat <;> rfl

theorem trimStart_eq_self {cs : List Char} (h : ∀ c ∈ cs.head?, Text.isBlank c = false) : Text.trimStart cs = cs := by
  cases cs with
  | nil => rfl
  | cons c cs => rw [Text.trimStart, List.dropWhile_cons_of_neg (by simp [h c rfl])]

theorem ne_point (h : c.isDigit = true) : c ≠ '.' := by
  rintro rfl
  cases h

/-- Digits are read in base ten. -/
theorem foldl_eq_ofDigitChars (cs : List Char) :
    cs.foldl (fun n c ↦ n * 10 + Text.digitValue c) 0 = Nat.ofDigitChars 10 cs 0 := by
  have h : (fun n c ↦ n * 10 + Text.digitValue c) = fun n (c : Char) ↦ 10 * n + (c.toNat - '0'.toNat) := by
    funext n c
    rw [Nat.mul_comm, Text.digitValue]
  rw [h, Nat.ofDigitChars_eq_foldl]

/-- What a text is read as once its number is taken apart and the bytes of its unit are known. -/
theorem bytesOf?_eq_some_iff {text whole places : List Char} {count factor : Nat}
    (hunit : unitBytes? (text.dropWhile isNumberChar) = some factor)
    (hsplit : splitNumber (text.takeWhile isNumberChar) = (whole, places)) :
    bytesOf? text = some count ↔ ('.' ∉ places ∧ whole ++ places ≠ [] ∧ places.length ≤ maxPlaces) ∧
      Nat.ofDigitChars 10 (whole ++ places) 0 < Nat.pow 2 128 ∧
      Nat.ofDigitChars 10 (whole ++ places) 0 * factor < Nat.pow 2 128 ∧
      count = ceilDiv (Nat.ofDigitChars 10 (whole ++ places) 0 * factor) (Nat.pow 10 places.length) ∧
      count < byteLimit := by
  generalize hdigits : Nat.ofDigitChars 10 (whole ++ places) 0 = digits
  have hform : (places.contains '.' || whole.isEmpty && places.isEmpty || decide (maxPlaces < places.length)) = false ↔
      '.' ∉ places ∧ whole ++ places ≠ [] ∧ places.length ≤ maxPlaces := by
    simp [and_assoc]
  have hwide : (decide (Nat.pow 2 128 ≤ digits) || decide (Nat.pow 2 128 ≤ digits * factor)) = false ↔
      digits < Nat.pow 2 128 ∧ digits * factor < Nat.pow 2 128 := by
    simp only [Bool.or_eq_false_iff, decide_eq_false_iff_not, Nat.not_le]
  simp only [bytesOf?, hunit, hsplit, Option.bind_eq_bind, Option.bind_some, Option.bind_none, foldl_eq_ofDigitChars,
    hdigits, Option.ite_none_left_eq_some, Option.ite_none_right_eq_some, Bool.not_eq_true, hform, hwide, Option.some_inj]
  constructor
  · rintro ⟨hform, ⟨hdigits, hproduct⟩, hlimit, rfl⟩
    exact ⟨hform, hdigits, hproduct, rfl, hlimit⟩
  · rintro ⟨hform, hdigits, hproduct, rfl, hlimit⟩
    exact ⟨hform, ⟨hdigits, hproduct⟩, hlimit, rfl⟩

/-- There is no white space around an amount that was written. -/
private theorem trim_decimal (k : Nat) :
    Text.trim (Nat.toDigits 10 k ++ ['G', 'i']) = Nat.toDigits 10 k ++ ['G', 'i'] := by
  have hstart : Text.trimStart (Nat.toDigits 10 k ++ ['G', 'i']) = Nat.toDigits 10 k ++ ['G', 'i'] := by
    apply trimStart_eq_self
    intro c hc
    rw [List.head?_append_of_ne_nil _ Nat.toDigits_ne_nil] at hc
    exact isBlank_eq_false (isDigit_of_mem_decimal (List.mem_of_head? hc))
  have hend : Text.trimStart (Nat.toDigits 10 k ++ ['G', 'i']).reverse = (Nat.toDigits 10 k ++ ['G', 'i']).reverse := by
    apply trimStart_eq_self
    intro c hc
    rw [List.reverse_append] at hc
    cases hc
    rfl
  rw [Text.trim, hstart, hend, List.reverse_reverse]

/-- An amount that was written in units of `2 ^ 30` bytes is read as so many bytes. -/
theorem bytesOf?_decimal (h : k * allocationUnit < byteLimit) :
    bytesOf? (Nat.toDigits 10 k ++ ['G', 'i']) = some (k * allocationUnit) := by
  have hnumber : ∀ c ∈ Nat.toDigits 10 k, isNumberChar c = true := by
    intro c hc
    rw [isNumberChar, isDigit_of_mem_decimal hc, Bool.true_or]
  have htake : (Nat.toDigits 10 k ++ ['G', 'i']).takeWhile isNumberChar = Nat.toDigits 10 k := by
    rw [List.takeWhile_append_of_pos hnumber]
    exact List.append_nil _
  have hunit : unitBytes? ((Nat.toDigits 10 k ++ ['G', 'i']).dropWhile isNumberChar) = some allocationUnit := by
    rw [List.dropWhile_append_of_pos hnumber]
    rfl
  have hsplit : splitNumber ((Nat.toDigits 10 k ++ ['G', 'i']).takeWhile isNumberChar) = (Nat.toDigits 10 k, []) := by
    have hpoint : ∀ c ∈ Nat.toDigits 10 k, decide (c ≠ '.') = true := by
      intro c hc
      exact decide_eq_true (ne_point (isDigit_of_mem_decimal hc))
    rw [htake, splitNumber, List.takeWhile_eq_self_iff.2 hpoint, List.dropWhile_eq_nil_iff.2 hpoint]
    rfl
  have hdigits : Nat.ofDigitChars 10 (Nat.toDigits 10 k ++ []) 0 = k := by
    rw [List.append_nil, Nat.ofDigitChars_ten_toDigits]
  have hwide : k < Nat.pow 2 128 ∧ k * allocationUnit < Nat.pow 2 128 := by
    have hlimit : byteLimit ≤ Nat.pow 2 128 := by decide
    unfold allocationUnit at *
    omega
  rw [bytesOf?_eq_some_iff hunit hsplit, hdigits]
  refine ⟨⟨List.not_mem_nil, ?_, Nat.zero_le _⟩, hwide.1, hwide.2, (ceilDiv_one _).symm, h⟩
  rw [List.append_nil]
  exact Nat.toDigits_ne_nil

end Decimal

/-- What is written for an amount is read as the amount in whole allocation units. -/
theorem bytes_of_ofBytes (h : ofBytes n = .ok text) : Quantity.bytes text = .ok (alignedTo n) := by
  obtain ⟨aligned, hround, htext⟩ : ∃ aligned, roundUp n = .ok aligned ∧
      text = toString (aligned / allocationUnit) ++ "Gi" := by
    rw [ofBytes] at h
    cases hround : roundUp n with
    | error e =>
      rw [hround] at h
      cases h
    | ok aligned =>
      rw [hround] at h
      exact ⟨aligned, rfl, (Except.ok.inj h).symm⟩
  obtain ⟨rfl, hlimit⟩ := roundUp_eq_ok.1 hround
  have hlist : text.toList = Nat.toDigits 10 (alignedTo n / allocationUnit) ++ ['G', 'i'] := by
    rw [htext]
    simp
  have hread := bytesOf?_decimal (k := alignedTo n / allocationUnit)
  rw [allocationUnit_mul_div_alignedTo] at hread
  simp only [Quantity.bytes, hlist, trim_decimal, hread hlimit]

/-- An amount in whole allocation units is not rounded up further. -/
theorem alignedTo_of_alignedBytes (h : alignedBytes value = .ok n) : alignedTo n = n := by
  rw [alignedBytes] at h
  split at h
  · cases h
  · next read _ =>
    cases hround : roundUp read with
    | error o =>
      rw [hround] at h
      cases h
    | ok aligned =>
      rw [hround] at h
      cases h
      obtain ⟨rfl, -⟩ := roundUp_eq_ok.1 hround
      exact alignedTo_alignedTo read

end GaleraOperator.Quantity
