import GaleraOperator.Proofs.Quantity

/-!
# The grammar of quantities

A quantity is written as digits with at most one point among them and a unit after them. It is read exactly if it is
written so and the bytes it stands for, a part of a byte counting as a whole one, fit 64 bits. With as many places after
the point as are allowed, such a number of bytes is far from filling the 128 bits in between.
-/

namespace GaleraOperator.Quantity

/-- The units of quantities, and the bytes of each. -/
def units : List (String × Nat) := [
  ("", 1),
  ("Ki", 1024), ("Mi", 1024 ^ 2), ("Gi", 1024 ^ 3), ("Ti", 1024 ^ 4), ("Pi", 1024 ^ 5), ("Ei", 1024 ^ 6),
  ("k", 1000), ("K", 1000), ("M", 1000 ^ 2), ("G", 1000 ^ 3), ("T", 1000 ^ 4), ("P", 1000 ^ 5), ("E", 1000 ^ 6)]

/-- A number as it is written: what is before the point, and what is after it if there is one. -/
structure Numeral where
  whole : List Char
  fraction : Option (List Char)
  deriving DecidableEq, Repr

namespace Numeral

/-- What is after the point. -/
def places (n : Numeral) : List Char := n.fraction.getD []

/-- The text of a number. -/
def text (n : Numeral) : List Char := n.whole ++ (n.fraction.map ('.' :: ·)).getD []

/-- The exact value of a number. -/
def value (n : Numeral) : ℚ := Nat.ofDigitChars 10 n.whole 0 + Nat.ofDigitChars 10 n.places 0 / 10 ^ n.places.length

/-- Whether a number is written in digits, at least one of them and not too many after the point. -/
structure IsWritten (n : Numeral) : Prop where
  digits : ∀ c ∈ n.whole ++ n.places, c.isDigit = true
  ne_nil : n.whole ++ n.places ≠ []
  places_le : n.places.length ≤ 18

end Numeral

/-- That a text is a number with a unit after it, and stands for so many bytes. -/
def Denotes (text : List Char) (amount : ℚ) : Prop :=
  ∃ n : Numeral, n.IsWritten ∧ ∃ unit ∈ units, text = n.text ++ unit.1.toList ∧ amount = n.value * unit.2

/-! ## Numbers -/

namespace Numeral

variable {n : Numeral} {c : Char} {number : List Char}

theorem mem_text : c ∈ n.text ↔ c ∈ n.whole ++ n.places ∨ (c = '.' ∧ n.fraction ≠ none) := by
  cases hfraction : n.fraction with
  | none => simp [text, places, hfraction]
  | some ds => simp [text, places, hfraction, or_assoc, or_comm]

/-- The characters of a number in digits are those of numbers. -/
theorem IsWritten.isNumberChar (h : n.IsWritten) : ∀ c ∈ n.text, isNumberChar c = true := by
  intro c hc
  rw [Quantity.isNumberChar, Bool.or_eq_true, decide_eq_true_iff]
  exact (mem_text.1 hc).imp (h.digits c) And.left

/-- A number in digits is taken apart at the point. -/
theorem IsWritten.splitNumber_text (h : n.IsWritten) : splitNumber n.text = (n.whole, n.places) := by
  have hwhole : ∀ c ∈ n.whole, decide (c ≠ '.') = true := fun c hc ↦
    decide_eq_true (ne_point (h.digits c (List.mem_append_left _ hc)))
  rw [splitNumber, text, List.takeWhile_append_of_pos hwhole, List.dropWhile_append_of_pos hwhole, places]
  cases n.fraction <;> simp

/-- Any text is taken apart at its first point, if there is one. -/
theorem exists_splitNumber (number : List Char) :
    ∃ n : Numeral, number = n.text ∧ splitNumber number = (n.whole, n.places) ∧ '.' ∉ n.whole := by
  induction number with
  | nil => exact ⟨⟨[], none⟩, rfl, rfl, List.not_mem_nil⟩
  | cons c number ih =>
    by_cases hc : c = '.'
    · subst hc
      exact ⟨⟨[], some number⟩, rfl, rfl, List.not_mem_nil⟩
    · obtain ⟨⟨whole, fraction⟩, hnumber, hsplit, hpoint⟩ := ih
      refine ⟨⟨c :: whole, fraction⟩, congrArg (c :: ·) hnumber, ?_, ?_⟩
      · have hpos : decide (c ≠ '.') = true := decide_eq_true hc
        rw [splitNumber, List.takeWhile_cons_of_pos (p := (· ≠ '.')) hpos,
          List.dropWhile_cons_of_pos (p := (· ≠ '.')) hpos]
        obtain ⟨hwhole, hplaces⟩ := Prod.mk.inj hsplit
        exact Prod.ext (congrArg (c :: ·) hwhole) hplaces
      · exact List.not_mem_cons_of_ne_of_not_mem (Ne.symm hc) hpoint

/-- Characters of numbers with no second point are digits but for the point. -/
theorem isDigit_of_isNumberChar (h : ∀ c ∈ n.text, Quantity.isNumberChar c = true) (hwhole : '.' ∉ n.whole)
    (hplaces : '.' ∉ n.places) : ∀ c ∈ n.whole ++ n.places, c.isDigit = true := by
  intro c hc
  have hne : c ≠ '.' := by
    rintro rfl
    exact (List.mem_append.1 hc).elim hwhole hplaces
  have hchar := h c (mem_text.2 (.inl hc))
  rwa [Quantity.isNumberChar, decide_eq_false hne, Bool.or_false] at hchar

/-- The digits of a number on both sides of the point, over the power of ten of the places. -/
theorem value_eq (n : Numeral) :
    n.value = (Nat.ofDigitChars 10 (n.whole ++ n.places) 0 : Nat) / (10 ^ n.places.length : Nat) := by
  have hpos : (10 ^ n.places.length : ℚ) ≠ 0 := by positivity
  have hdigits : Nat.ofDigitChars 10 (n.whole ++ n.places) 0 =
      10 ^ n.places.length * Nat.ofDigitChars 10 n.whole 0 + Nat.ofDigitChars 10 n.places 0 := by
    rw [Nat.ofDigitChars_append]
    exact Nat.ofDigitChars_eq_ofDigitChars_zero
  rw [hdigits, value]
  push_cast
  rw [add_div, mul_div_cancel_left₀ _ hpos]

end Numeral

/-! ## Units -/

theorem unitBytes?_of_mem {unit : String × Nat} (h : unit ∈ units) : unitBytes? unit.1.toList = some unit.2 := by
  revert unit
  decide

theorem mem_units_of_unitBytes? {text : List Char} {n : Nat} (h : unitBytes? text = some n) :
    ∃ unit ∈ units, text = unit.1.toList ∧ n = unit.2 := by
  unfold unitBytes? at h
  split at h <;> cases h <;> decide

/-- No unit begins like a number. -/
theorem takeWhile_unit {unit : String × Nat} (h : unit ∈ units) : unit.1.toList.takeWhile isNumberChar = [] := by
  revert unit
  decide

theorem unit_pos {unit : String × Nat} (h : unit ∈ units) : 0 < unit.2 := by
  revert unit
  decide

/-! ## Rounding up -/

theorem ceilDiv_le_iff (a k : Nat) {b : Nat} (hb : 0 < b) : ceilDiv a b ≤ k ↔ a ≤ k * b := by
  rw [ceilDiv, ← Nat.lt_succ_iff, Nat.div_lt_iff_lt_mul hb, Nat.succ_mul]
  omega

theorem ceilDiv_eq_ceil (a : Nat) {b : Nat} (hb : 0 < b) : ceilDiv a b = ⌈(a / b : ℚ)⌉₊ := by
  refine eq_of_forall_ge_iff fun k ↦ ?_
  rw [ceilDiv_le_iff a k hb, Nat.ceil_le, div_le_iff₀ (by exact_mod_cast hb)]
  norm_cast

/-- What comes to a number of bytes that fits 64 bits, over a power of ten of the places, fits 128 bits. -/
theorem lt_of_ceilDiv_lt {a places : Nat} (hplaces : places ≤ maxPlaces)
    (h : ceilDiv a (Nat.pow 10 places) < byteLimit) : a < Nat.pow 2 128 :=
  calc
    a ≤ ceilDiv a (Nat.pow 10 places) * Nat.pow 10 places := (ceilDiv_le_iff a _ (Nat.pow_pos (by decide))).1 le_rfl
    _ ≤ byteLimit * 10 ^ maxPlaces := Nat.mul_le_mul h.le (Nat.pow_le_pow_right (by decide) hplaces)
    _ < Nat.pow 2 128 := by decide

/-! ## Reading -/

variable {n : Numeral} {unit : String × Nat} {text : List Char} {count : Nat}

/-- A number and a unit are read as the bytes they stand for, unless these do not fit 64 bits. -/
theorem bytesOf?_text (hn : n.IsWritten) (hunit : unit ∈ units) : bytesOf? (n.text ++ unit.1.toList) = some count ↔
    count = ⌈n.value * unit.2⌉₊ ∧ count < byteLimit := by
  have htake : (n.text ++ unit.1.toList).takeWhile isNumberChar = n.text := by
    rw [List.takeWhile_append_of_pos hn.isNumberChar, takeWhile_unit hunit, List.append_nil]
  have hdrop : (n.text ++ unit.1.toList).dropWhile isNumberChar = unit.1.toList := by
    have happend := List.takeWhile_append_dropWhile (p := isNumberChar) (l := n.text ++ unit.1.toList)
    rw [htake] at happend
    exact List.append_cancel_left happend
  have hform : '.' ∉ n.places ∧ n.whole ++ n.places ≠ [] ∧ n.places.length ≤ maxPlaces :=
    ⟨fun hmem ↦ ne_point (hn.digits _ (List.mem_append_right _ hmem)) rfl, hn.ne_nil, hn.places_le⟩
  have hceil : ceilDiv (Nat.ofDigitChars 10 (n.whole ++ n.places) 0 * unit.2) (Nat.pow 10 n.places.length) =
      ⌈n.value * unit.2⌉₊ := by
    rw [Nat.pow_eq, ceilDiv_eq_ceil _ (Nat.pow_pos (by decide)), n.value_eq, div_mul_eq_mul_div, Nat.cast_mul]
  rw [bytesOf?_eq_some_iff (hdrop.symm ▸ unitBytes?_of_mem hunit) (htake.symm ▸ hn.splitNumber_text), hceil]
  refine ⟨fun h ↦ h.2.2.2, fun ⟨hcount, hlimit⟩ ↦ ?_⟩
  have hproduct : Nat.ofDigitChars 10 (n.whole ++ n.places) 0 * unit.2 < Nat.pow 2 128 :=
    lt_of_ceilDiv_lt hn.places_le (hceil.trans hcount.symm ▸ hlimit)
  exact ⟨hform, (Nat.le_mul_of_pos_right _ (unit_pos hunit)).trans_lt hproduct, hproduct, hcount, hlimit⟩

/-- Whatever is read is a number with a unit. -/
theorem exists_of_bytesOf? (h : bytesOf? text = some count) :
    ∃ n : Numeral, n.IsWritten ∧ ∃ unit ∈ units, text = n.text ++ unit.1.toList := by
  obtain ⟨n, hnumber, hsplit, hwhole⟩ := Numeral.exists_splitNumber (text.takeWhile isNumberChar)
  obtain ⟨factor, hfactor⟩ : ∃ factor, unitBytes? (text.dropWhile isNumberChar) = some factor := by
    refine Option.ne_none_iff_exists'.1 fun hnone ↦ ?_
    simp [bytesOf?, hnone] at h
  obtain ⟨⟨hplaces, hne, hlength⟩, -⟩ := (bytesOf?_eq_some_iff hfactor hsplit).1 h
  obtain ⟨unit, hunit, hname, -⟩ := mem_units_of_unitBytes? hfactor
  have hchars : ∀ c ∈ n.text, isNumberChar c = true := fun c hc ↦
    List.mem_takeWhile_imp (hnumber.symm ▸ hc)
  refine ⟨n, ⟨Numeral.isDigit_of_isNumberChar hchars hwhole hplaces, hne, hlength⟩, unit, hunit, ?_⟩
  rw [← hnumber, ← hname, List.takeWhile_append_dropWhile]

/-- The bytes of a text are those it stands for, a part of a byte counting as a whole one. -/
theorem bytesOf?_eq_some : bytesOf? text = some count ↔
    ∃ amount, Denotes text amount ∧ count = ⌈amount⌉₊ ∧ count < byteLimit := by
  constructor
  · intro h
    obtain ⟨n, hn, unit, hunit, rfl⟩ := exists_of_bytesOf? h
    exact ⟨n.value * unit.2, ⟨n, hn, unit, hunit, rfl, rfl⟩, (bytesOf?_text hn hunit).1 h⟩
  · rintro ⟨_, ⟨n, hn, unit, hunit, rfl, rfl⟩, h⟩
    exact (bytesOf?_text hn hunit).2 h

/-- A quantity is read exactly if, but for white space around it, it is a number with a unit, and the bytes it stands for,
a part of a byte counting as a whole one, fit 64 bits. These are what it is read as. Any other is an error with the text
of it. -/
theorem bytes_iff_denotes (value : String) :
    (∀ n, bytes value = .ok n ↔ ∃ amount, Denotes (Text.trim value.toList) amount ∧ n = ⌈amount⌉₊ ∧ n < 2 ^ 64) ∧
    ∀ e, bytes value = .error e ↔ e = .quantity (String.ofList (Text.trim value.toList)) ∧
      ¬∃ amount, Denotes (Text.trim value.toList) amount ∧ ⌈amount⌉₊ < 2 ^ 64 := by
  have hread (n : Nat) : bytesOf? (Text.trim value.toList) = some n ↔
      ∃ amount, Denotes (Text.trim value.toList) amount ∧ n = ⌈amount⌉₊ ∧ n < 2 ^ 64 := bytesOf?_eq_some
  rw [bytes]
  cases hbytes : bytesOf? (Text.trim value.toList) with
  | none =>
    have hnone : ¬∃ amount, Denotes (Text.trim value.toList) amount ∧ ⌈amount⌉₊ < 2 ^ 64 := by
      rintro ⟨amount, hdenotes, hlimit⟩
      cases hbytes.symm.trans ((hread _).2 ⟨amount, hdenotes, rfl, hlimit⟩)
    refine ⟨fun n ↦ ?_, fun e ↦ ?_⟩
    · rw [← hread, hbytes]
      exact iff_of_false (by simp) (Option.some_ne_none n).symm
    · rw [and_iff_left hnone]
      exact ⟨fun h ↦ (Except.error.inj h).symm, fun h ↦ h ▸ rfl⟩
  | some count =>
    obtain ⟨amount, hdenotes, rfl, hlimit⟩ := (hread count).1 hbytes
    refine ⟨fun n ↦ ?_, fun e ↦ iff_of_false (by simp) fun h ↦ h.2 ⟨amount, hdenotes, hlimit⟩⟩
    rw [← hread, hbytes]
    exact ⟨fun h ↦ congrArg some (Except.ok.inj h), fun h ↦ congrArg Except.ok (Option.some.inj h)⟩

end GaleraOperator.Quantity
