/-!
# Bytes as text

Bytes are read as UTF-8. The lenient reader takes all bytes: each maximal part that begins a character but cannot be
completed, and each byte that cannot begin one, becomes a single replacement character. The strict reader stops where
the first such part begins.
-/

namespace GaleraOperator.Text

/-- What stands for bytes that are not UTF-8. -/
def replacement : Char := '\ufffd'

/-- The number of bytes of the character that a first byte announces. -/
def sequenceLength (b : UInt8) : Option Nat :=
  if b < 0x80 then some 1
  else if 0xc2 ≤ b && b ≤ 0xdf then some 2
  else if 0xe0 ≤ b && b ≤ 0xef then some 3
  else if 0xf0 ≤ b && b ≤ 0xf4 then some 4
  else none

/-- The second bytes that a first byte allows; they exclude overlong forms, surrogates and what is above U+10FFFF. -/
def secondByteRange (first : UInt8) : UInt8 × UInt8 :=
  if first = 0xe0 then (0xa0, 0xbf)
  else if first = 0xed then (0x80, 0x9f)
  else if first = 0xf0 then (0x90, 0xbf)
  else if first = 0xf4 then (0x80, 0x8f)
  else (0x80, 0xbf)

/-- The bits of a first byte that belong to the code point. -/
def leadBits (first : UInt8) (length : Nat) : Nat :=
  match length with
  | 1 => first.toNat
  | 2 => first.toNat % 32
  | 3 => first.toNat % 16
  | _ => first.toNat % 8

/-- Take `count` continuation bytes, the first of them in `range`; `none` in the first part says that they do not
complete a character. -/
def continuation : Nat → UInt8 × UInt8 → Nat → List UInt8 → Option Nat × List UInt8
  | 0, _, code, bytes => (some code, bytes)
  | _ + 1, _, _, [] => (none, [])
  | count + 1, (low, high), code, b :: bytes =>
    if low ≤ b && b ≤ high then
      continuation count (0x80, 0xbf) (code * 64 + b.toNat % 64) bytes
    else (none, b :: bytes)

theorem continuation_length_le (count : Nat) (range : UInt8 × UInt8) (code : Nat) (bytes : List UInt8) :
    (continuation count range code bytes).2.length ≤ bytes.length := by
  induction count generalizing range code bytes with
  | zero => simp [continuation]
  | succ count ih =>
    cases bytes with
    | nil => simp [continuation]
    | cons b bytes =>
      simp only [continuation]
      split
      · exact Nat.le_succ_of_le (ih _ _ _)
      · simp

/-- The code point of the character that bytes begin with, if they begin with one, and the bytes after it. -/
def firstCode (b : UInt8) (rest : List UInt8) : Option Nat × List UInt8 :=
  match sequenceLength b with
  | none => (none, rest)
  | some length => continuation (length - 1) (secondByteRange b) (leadBits b length) rest

theorem firstCode_length_le (b : UInt8) (rest : List UInt8) : (firstCode b rest).2.length ≤ rest.length := by
  unfold firstCode
  split
  · exact Nat.le_refl _
  · exact continuation_length_le _ _ _ _

/-- The characters of bytes, with replacements for what is none. -/
def ofBytes (bytes : List UInt8) : List Char :=
  match bytes with
  | [] => []
  | b :: rest =>
    match _h : firstCode b rest with
    | (some code, left) => Char.ofNat code :: ofBytes left
    | (none, left) => replacement :: ofBytes left
termination_by bytes.length
decreasing_by
  all_goals
    have := firstCode_length_le b rest
    rw [_h] at this
    exact Nat.lt_succ_of_le this

/-- The characters of bytes of which all are characters; otherwise the number of bytes before the first that begins
none, counted on from `before`. -/
def strictFrom (before : Nat) (bytes : List UInt8) : Except Nat (List Char) :=
  match bytes with
  | [] => .ok []
  | b :: rest =>
    match _h : firstCode b rest with
    | (some code, left) =>
      let c := Char.ofNat code
      (strictFrom (before + c.utf8Size) left).map (c :: ·)
    | (none, _) => .error before
termination_by bytes.length
decreasing_by
  have := firstCode_length_le b rest
  rw [_h] at this
  exact Nat.lt_succ_of_le this

/-- The text that bytes are, or the number of bytes before the first that is not text. -/
def textOfBytes (bytes : List UInt8) : Except Nat String := (strictFrom 0 bytes).map String.ofList

end GaleraOperator.Text
