import GaleraOperator.Proofs.Quantity.Grammar

/-!
# Whole allocation units

Bytes are rounded up to the least number of whole allocation units that holds them. That has a result unless they are
among the last `2 ^ 30 - 1` byte counts below `2 ^ 64`; the amounts that are read go up to these. An amount that was
written stands for the bytes that it was made from, rounded up once, and is not changed by rounding it up again.
-/

namespace GaleraOperator.Quantity

variable {n k aligned : Nat} {value : String}

/-- Rounding up stays within whole allocation units. -/
theorem alignedTo_le_iff : alignedTo n ≤ k * allocationUnit ↔ n ≤ k * allocationUnit := by
  have hpos : 0 < allocationUnit := by decide
  rw [alignedTo, Nat.mul_le_mul_right_iff hpos, ceilDiv_le_iff n k hpos]

/-- Rounding up gives the least number of whole allocation units that holds so many bytes. -/
theorem isLeast_alignedTo (n : Nat) : IsLeast {k | 2 ^ 30 ∣ k ∧ n ≤ k} (alignedTo n) := by
  constructor
  · exact ⟨Dvd.intro_left _ rfl, alignedTo_le_iff.1 le_rfl⟩
  · rintro _ ⟨⟨k, rfl⟩, hholds⟩
    rw [Nat.mul_comm] at hholds ⊢
    exact alignedTo_le_iff.2 hholds

theorem alignedTo_mono : Monotone alignedTo := by
  intro n m hle
  obtain ⟨hunits, hholds⟩ := (isLeast_alignedTo m).1
  exact (isLeast_alignedTo n).2 ⟨hunits, hle.trans hholds⟩

/-- The bytes that can be rounded up below the limit. -/
theorem alignedTo_lt_byteLimit : alignedTo n < byteLimit ↔ n ≤ 2 ^ 64 - 2 ^ 30 := by
  unfold alignedTo ceilDiv allocationUnit byteLimit
  omega

/-- What has been rounded up can be rounded up again. -/
theorem alignedTo_le_of_le (h : n ≤ 2 ^ 64 - 2 ^ 30) : alignedTo n ≤ 2 ^ 64 - 2 ^ 30 := by
  rw [← alignedTo_lt_byteLimit, alignedTo_alignedTo, alignedTo_lt_byteLimit]
  exact h

theorem roundUp_of_le (h : n ≤ 2 ^ 64 - 2 ^ 30) : roundUp n = .ok (alignedTo n) :=
  roundUp_eq_ok.2 ⟨rfl, alignedTo_lt_byteLimit.2 h⟩

theorem roundUp_of_lt (h : 2 ^ 64 - 2 ^ 30 < n) : roundUp n = .error .multiplication :=
  if_neg fun hlimit ↦ Nat.not_le_of_lt h (alignedTo_lt_byteLimit.1 hlimit)

/-- An amount stands for bytes that cannot be rounded up below the limit. -/
def IsTooLarge (value : String) : Prop := ∃ n, Quantity.bytes value = .ok n ∧ 2 ^ 64 - 2 ^ 30 < n

/-- Reading an amount fails with its text only. -/
theorem eq_quantity_of_bytes {e : Error} (h : Quantity.bytes value = .error e) :
    e = .quantity (String.ofList (Text.trim value.toList)) :=
  (((bytes_iff_denotes value).2 e).1 h).1

/-- The three ways in which reading an amount in whole allocation units ends. -/
theorem alignedBytes_cases (value : String) :
    (∃ e, Quantity.bytes value = .error e ∧ alignedBytes value = .error (.error e)) ∨
      (∃ n, Quantity.bytes value = .ok n ∧ n ≤ 2 ^ 64 - 2 ^ 30 ∧ alignedBytes value = .ok (alignedTo n)) ∨
        IsTooLarge value ∧ alignedBytes value = .error (.overflow .multiplication) := by
  unfold alignedBytes
  cases hbytes : Quantity.bytes value with
  | error e => exact .inl ⟨e, rfl, rfl⟩
  | ok n =>
    rcases Nat.lt_or_ge (2 ^ 64 - 2 ^ 30) n with hlarge | hfits
    · simp only [roundUp_of_lt hlarge]
      exact .inr (.inr ⟨⟨n, hbytes, hlarge⟩, rfl⟩)
    · simp only [roundUp_of_le hfits]
      exact .inr (.inl ⟨n, rfl, hfits, rfl⟩)

/-- An amount is read in whole allocation units exactly if its bytes can be rounded up. -/
theorem alignedBytes_eq_ok_iff : alignedBytes value = .ok aligned ↔
    ∃ n, Quantity.bytes value = .ok n ∧ n ≤ 2 ^ 64 - 2 ^ 30 ∧ IsLeast {k | 2 ^ 30 ∣ k ∧ n ≤ k} aligned := by
  constructor
  · intro h
    obtain ⟨e, -, hread⟩ | ⟨n, hbytes, hfits, hread⟩ | ⟨-, hread⟩ := alignedBytes_cases value
    · cases hread.symm.trans h
    · cases hread.symm.trans h
      exact ⟨n, hbytes, hfits, isLeast_alignedTo n⟩
    · cases hread.symm.trans h
  · rintro ⟨n, hbytes, hfits, hleast⟩
    rw [hleast.unique (isLeast_alignedTo n), alignedBytes, hbytes]
    simp only [roundUp_of_le hfits]
    rfl

/-- Reading an amount in whole allocation units overflows exactly if it is too large. -/
theorem alignedBytes_eq_overflow_iff {o : Overflow} :
    alignedBytes value = .error (.overflow o) ↔ o = .multiplication ∧ IsTooLarge value := by
  constructor
  · intro h
    obtain ⟨e, -, hread⟩ | ⟨n, -, -, hread⟩ | ⟨hlarge, hread⟩ := alignedBytes_cases value <;>
      cases hread.symm.trans h
    exact ⟨rfl, hlarge⟩
  · rintro ⟨rfl, n, hbytes, hlarge⟩
    rw [alignedBytes, hbytes]
    simp only [roundUp_of_lt hlarge]
    rfl

/-- Reading an amount in whole allocation units fails with an error exactly if reading it does. -/
theorem alignedBytes_eq_error_iff {e : Error} :
    alignedBytes value = .error (.error e) ↔ Quantity.bytes value = .error e := by
  constructor
  · intro h
    obtain ⟨e, hbytes, hread⟩ | ⟨n, -, -, hread⟩ | ⟨-, hread⟩ := alignedBytes_cases value <;>
      cases hread.symm.trans h
    exact hbytes
  · intro h
    rw [alignedBytes, h]

theorem ofBytes_of_le (h : n ≤ 2 ^ 64 - 2 ^ 30) :
    ofBytes n = .ok (toString (alignedTo n / allocationUnit) ++ "Gi") := by
  rw [ofBytes, roundUp_of_le h]
  rfl

/-- An amount that is written is read back, with and without rounding it up, as its bytes rounded up to the least number
of whole allocation units that holds them. Rounding these up again changes nothing about them or their text, and fewer
bytes are not rounded up to more. -/
theorem ofBytes_reads_back (h : n ≤ 2 ^ 64 - 2 ^ 30) :
    ∃ aligned text, roundUp n = .ok aligned ∧ ofBytes n = .ok text ∧ IsLeast {k | 2 ^ 30 ∣ k ∧ n ≤ k} aligned ∧
      alignedBytes text = .ok aligned ∧ Quantity.bytes text = .ok aligned ∧
      roundUp aligned = .ok aligned ∧ ofBytes aligned = .ok text ∧
      ∀ m ≤ n, ∃ below, roundUp m = .ok below ∧ below ≤ aligned := by
  have hlimit : alignedTo n ≤ 2 ^ 64 - 2 ^ 30 := alignedTo_le_of_le h
  have hagain : alignedTo (alignedTo n) = alignedTo n := alignedTo_alignedTo n
  have hread := bytes_of_ofBytes (ofBytes_of_le h)
  refine ⟨alignedTo n, _, roundUp_of_le h, ofBytes_of_le h, isLeast_alignedTo n, ?_, hread, ?_, ?_, ?_⟩
  · have hleast := isLeast_alignedTo (alignedTo n)
    rw [hagain] at hleast
    exact alignedBytes_eq_ok_iff.2 ⟨_, hread, hlimit, hleast⟩
  · rw [roundUp_of_le hlimit, hagain]
  · rw [ofBytes_of_le hlimit, hagain]
  · intro m hle
    exact ⟨alignedTo m, roundUp_of_le (hle.trans h), alignedTo_mono hle⟩

/-- So it is with the most bytes but one that can be rounded up. -/
theorem ofBytes_reads_back_greatest : 2 ^ 64 - 2 ^ 30 - 1 ≤ 2 ^ 64 - 2 ^ 30 ∧
    ofBytes (2 ^ 64 - 2 ^ 30 - 1) = .ok "17179869183Gi" ∧
      alignedBytes "17179869183Gi" = .ok (2 ^ 64 - 2 ^ 30) := by
  have h : 2 ^ 64 - 2 ^ 30 - 1 ≤ 2 ^ 64 - 2 ^ 30 := Nat.sub_le _ _
  have htext : ofBytes (2 ^ 64 - 2 ^ 30 - 1) = .ok "17179869183Gi" := by decide +kernel
  have hround : roundUp (2 ^ 64 - 2 ^ 30 - 1) = .ok (2 ^ 64 - 2 ^ 30) := by decide +kernel
  obtain ⟨aligned, text, hround', htext', -, hread, -⟩ := ofBytes_reads_back h
  obtain rfl := Except.ok.inj (hround.symm.trans hround')
  obtain rfl := Except.ok.inj (htext.symm.trans htext')
  exact ⟨h, htext, hread⟩

end GaleraOperator.Quantity
