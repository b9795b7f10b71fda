import GaleraOperator.Recovery.CrashLog
import Mathlib

/-!
# The number of the last transaction

A log is searched for the marker, and a place where something other than a number stands behind the marker is passed
over. An `Announcement` is the first place that is not, with all the digits of the number there. What it `Tells` is what
is read from the log, and where it tells nothing, the log is refused. The banner announces the number that it was made
for: its other text has the first words of the marker nowhere in it.
-/

namespace GaleraOperator

namespace Text

/-! ## Reading integers -/

theorem le_ofDigitChars (cs : List Char) (value : Nat) : value ≤ Nat.ofDigitChars 10 cs value := by
  rw [Nat.ofDigitChars_eq_ofDigitChars_zero]
  exact (Nat.le_mul_of_pos_left value (by positivity)).trans (Nat.le_add_right _ _)

/-- Characters are read as a natural number exactly if all of them are digits and the number is within the bound. -/
theorem readDigits_eq_ok_iff {bound value n : Nat} {past : IntegerFault} {cs : List Char} (hvalue : value ≤ bound) :
    readDigits bound past cs value = .ok n ↔
      (∀ c ∈ cs, c.isDigit = true) ∧ n = Nat.ofDigitChars 10 cs value ∧ n ≤ bound := by
  induction cs generalizing value with
  | nil =>
    rw [readDigits]
    constructor
    · intro h
      cases h
      exact ⟨List.forall_mem_nil _, rfl, hvalue⟩
    · rintro ⟨-, rfl, -⟩
      rfl
  | cons c cs ih =>
    have hnext : Nat.ofDigitChars 10 (c :: cs) value = Nat.ofDigitChars 10 cs (value * 10 + digitValue c) := by
      rw [Nat.ofDigitChars_cons, Nat.mul_comm 10 value, digitValue]
    rw [readDigits, List.forall_mem_cons, hnext]
    by_cases hdigit : c.isDigit = true
    · simp only [hdigit, if_true, true_and]
      split
      · next hle => exact ih hle
      · next hlarge =>
        refine iff_of_false (by simp) ?_
        rintro ⟨-, rfl, hle⟩
        exact hlarge ((le_ofDigitChars cs _).trans hle)
    · exact iff_of_false (by simp [hdigit]) fun h ↦ hdigit h.1.1

theorem map_readDigits_eq_ok_iff {bound : Nat} {past : IntegerFault} {cs : List Char} {f : Nat → Int} {i : Int} :
    (readDigits bound past cs 0).map f = .ok i ↔
      (∀ c ∈ cs, c.isDigit = true) ∧ i = f (Nat.ofDigitChars 10 cs 0) ∧ Nat.ofDigitChars 10 cs 0 ≤ bound := by
  have hread (n : Nat) : readDigits bound past cs 0 = .ok n ↔
      (∀ c ∈ cs, c.isDigit = true) ∧ n = Nat.ofDigitChars 10 cs 0 ∧ n ≤ bound :=
    readDigits_eq_ok_iff (Nat.zero_le bound)
  constructor
  · intro h
    cases hdigits : readDigits bound past cs 0 with
    | error fault =>
      rw [hdigits] at h
      cases h
    | ok n =>
      rw [hdigits] at h
      obtain ⟨hall, rfl, hle⟩ := (hread n).1 hdigits
      exact ⟨hall, (Except.ok.inj h).symm, hle⟩
  · rintro ⟨hall, rfl, hle⟩
    rw [(hread _).2 ⟨hall, rfl, hle⟩]
    rfl

theorem isDecimalDigit_of_isDigit {c : Char} (h : c.isDigit = true) : isDecimalDigit c = true := by
  have hrange : 48 ≤ c.toNat ∧ c.toNat ≤ 57 := by
    simpa [Char.isDigit, UInt32.le_iff_toNat_le] using h
  refine List.any_eq_true.2 ⟨48, List.mem_cons_self .., ?_⟩
  simp only [Bool.and_eq_true, decide_eq_true_eq]
  omega

end Text

namespace CrashLog

/-- A number as it stands in a log: digits of any script, and maybe a minus sign before them. -/
structure Numeral where
  negative : Bool
  digits : List Char
  deriving DecidableEq, Repr

namespace Numeral

/-- The text of a number. -/
def text (n : Numeral) : List Char := (if n.negative then ['-'] else []) ++ n.digits

/-- The value of a number in ASCII digits. -/
def value (n : Numeral) : Int := (if n.negative then -1 else 1) * (Nat.ofDigitChars 10 n.digits 0 : Int)

/-- Whether a number is written in digits, at least one of them. -/
structure IsWritten (n : Numeral) : Prop where
  digits : ∀ c ∈ n.digits, Text.isDecimalDigit c = true
  ne_nil : n.digits ≠ []

/-- Whether a number stands before a text with all of its digits. -/
structure StandsBefore (n : Numeral) (rest : List Char) : Prop extends n.IsWritten where
  whole : ∀ c ∈ rest.head?, Text.isDecimalDigit c = false

variable {n : Numeral} {i : Int}

theorem IsWritten.cons (h : n.IsWritten) : ∃ d ds, n.digits = d :: ds ∧ d ≠ '-' ∧ d ≠ '+' := by
  obtain ⟨d, ds, hdigits⟩ := List.exists_cons_of_ne_nil h.ne_nil
  have hd : Text.isDecimalDigit d = true := h.digits d (hdigits ▸ List.mem_cons_self ..)
  refine ⟨d, ds, hdigits, ?_, ?_⟩
  · rintro rfl
    exact absurd hd (by decide)
  · rintro rfl
    exact absurd hd (by decide)

/-- A number is read exactly if its digits are those of ASCII and its value is in range. -/
theorem readInteger_text (h : n.IsWritten) (bound : Nat) : Text.readInteger bound n.text = .ok i ↔
    (∀ c ∈ n.digits, c.isDigit = true) ∧ i = n.value ∧ -(bound + 1 : Int) ≤ i ∧ i ≤ bound := by
  obtain ⟨d, ds, hdigits, hminus, hplus⟩ := h.cons
  obtain ⟨negative, digits⟩ := n
  obtain rfl : digits = d :: ds := hdigits
  cases negative with
  | true =>
    have hread : Text.readInteger bound ('-' :: d :: ds) =
        (Text.readDigits (bound + 1) .tooSmall (d :: ds) 0).map fun n : Nat ↦ -(n : Int) := by
      simp only [Text.readInteger]
      cases Text.readDigits (bound + 1) .tooSmall (d :: ds) 0 <;> rfl
    have hvalue : value ⟨true, d :: ds⟩ = -(Nat.ofDigitChars 10 (d :: ds) 0 : Int) := neg_one_mul _
    rw [text, if_pos rfl, List.singleton_append, hread, hvalue, Text.map_readDigits_eq_ok_iff]
    refine and_congr_right fun _ ↦ and_congr_right fun hi ↦ ?_
    omega
  | false =>
    have hread : Text.readInteger bound (d :: ds) = (Text.readDigits bound .tooLarge (d :: ds) 0).map Int.ofNat := by
      unfold Text.readInteger
      split <;> simp_all
    have hvalue : value ⟨false, d :: ds⟩ = (Nat.ofDigitChars 10 (d :: ds) 0 : Int) := one_mul _
    rw [text, if_neg Bool.false_ne_true, List.nil_append, hread, hvalue, Text.map_readDigits_eq_ok_iff]
    refine and_congr_right fun _ ↦ and_congr_right fun hi ↦ ?_
    rw [Int.ofNat_eq_natCast] at hi
    omega

end Numeral

/-! ## Numbers behind the marker -/

/-- A text begins with the marker, maybe a minus sign, and a digit. -/
def IsMarked (text : List Char) : Prop :=
  ∃ sign digit rest, text = seqnoMarker ++ (sign ++ digit :: rest) ∧ (sign = [] ∨ sign = ['-']) ∧
    Text.isDecimalDigit digit = true

/-- The first place in a log where a number stands behind the marker, and all the digits of that number. -/
structure Announcement (log : List Char) where
  before : List Char
  number : Numeral
  after : List Char
  log_eq : log = before ++ (seqnoMarker ++ (number.text ++ after))
  stands : number.StandsBefore after
  first : ∀ earlier there, log = earlier ++ there → earlier.length < before.length → ¬IsMarked there

variable {text rest found : List Char} {n : Numeral}

theorem takeWhile_digits (h : n.StandsBefore rest) :
    (n.digits ++ rest).takeWhile Text.isDecimalDigit = n.digits := by
  rw [List.takeWhile_append_of_pos h.digits]
  cases rest with
  | nil => exact List.append_nil _
  | cons c rest => rw [List.takeWhile_cons_of_neg (Bool.eq_false_iff.1 (h.whole c rfl)), List.append_nil]

theorem signedDigits?_minus (cs : List Char) : signedDigits? ('-' :: cs) =
    if (cs.takeWhile Text.isDecimalDigit).isEmpty then none else some ('-' :: cs.takeWhile Text.isDecimalDigit) := rfl

theorem signedDigits?_of_head?_ne {cs : List Char} (h : cs.head? ≠ some '-') : signedDigits? cs =
    if (cs.takeWhile Text.isDecimalDigit).isEmpty then none else some (cs.takeWhile Text.isDecimalDigit) := by
  unfold signedDigits?
  split
  next sign digits hsign =>
    split at hsign
    · exact absurd rfl h
    · cases hsign
      rfl

/-- A number is found with all of its digits. -/
theorem signedDigits?_text (h : n.StandsBefore rest) : signedDigits? (n.text ++ rest) = some n.text := by
  have htake := takeWhile_digits h
  have hdigits : ¬n.digits.isEmpty = true := by simpa using h.ne_nil
  cases hnegative : n.negative with
  | true =>
    have htext : n.text = '-' :: n.digits := by rw [Numeral.text, hnegative, if_pos rfl, List.singleton_append]
    rw [htext, List.cons_append, signedDigits?_minus, htake, if_neg hdigits]
  | false =>
    have htext : n.text = n.digits := by rw [Numeral.text, hnegative, if_neg Bool.false_ne_true, List.nil_append]
    have hhead : (n.digits ++ rest).head? ≠ some '-' := by
      obtain ⟨d, ds, hcons, hminus, -⟩ := h.cons
      simpa [hcons] using hminus
    rw [htext, signedDigits?_of_head?_ne hhead, htake, if_neg hdigits]

/-- Whatever is found is a number with all of its digits. -/
theorem exists_of_signedDigits? {cs : List Char} (h : signedDigits? cs = some text) :
    ∃ (n : Numeral) (rest : List Char), n.StandsBefore rest ∧ n.text = text ∧ cs = n.text ++ rest := by
  have hsplit (ds : List Char) : ds = ds.takeWhile Text.isDecimalDigit ++ ds.dropWhile Text.isDecimalDigit :=
    List.takeWhile_append_dropWhile.symm
  have hstands (negative : Bool) {ds : List Char} (hne : ¬(ds.takeWhile Text.isDecimalDigit).isEmpty = true) :
      Numeral.StandsBefore ⟨negative, ds.takeWhile Text.isDecimalDigit⟩ (ds.dropWhile Text.isDecimalDigit) := by
    refine ⟨⟨fun c hc ↦ List.mem_takeWhile_imp hc, by simpa using hne⟩, fun c hc ↦ ?_⟩
    have hhead := List.head?_dropWhile_not Text.isDecimalDigit ds
    rwa [Option.mem_def.1 hc] at hhead
  by_cases hhead : cs.head? = some '-'
  · obtain ⟨ds, rfl⟩ : ∃ ds, cs = '-' :: ds := by
      cases cs with
      | nil => cases hhead
      | cons c ds => exact ⟨ds, by rw [Option.some.inj hhead]⟩
    rw [signedDigits?_minus] at h
    split at h
    · cases h
    · next hne =>
      exact ⟨_, _, hstands true hne, Option.some.inj h, congrArg ('-' :: ·) (hsplit ds)⟩
  · rw [signedDigits?_of_head?_ne hhead] at h
    split at h
    · cases h
    · next hne => exact ⟨_, _, hstands false hne, Option.some.inj h, hsplit cs⟩

/-- A text begins with the marker and a number exactly if it begins with the marker and all the digits of a number. -/
theorem isMarked_iff : IsMarked text ↔
    ∃ (n : Numeral) (rest : List Char), n.StandsBefore rest ∧ text = seqnoMarker ++ (n.text ++ rest) := by
  constructor
  · rintro ⟨sign, digit, rest, rfl, hsign, hdigit⟩
    have hfound : signedDigits? (sign ++ digit :: rest) ≠ none := by
      rcases hsign with rfl | rfl
      · have hminus : digit ≠ '-' := by
          rintro rfl
          exact absurd hdigit (by decide)
        rw [List.nil_append, signedDigits?_of_head?_ne (by simpa using hminus)]
        simp [hdigit]
      · rw [List.singleton_append, signedDigits?_minus]
        simp [hdigit]
    obtain ⟨found, hfound⟩ := Option.ne_none_iff_exists'.1 hfound
    obtain ⟨n, rest', hn, -, hrest⟩ := exists_of_signedDigits? hfound
    exact ⟨n, rest', hn, congrArg (seqnoMarker ++ ·) hrest⟩
  · rintro ⟨n, rest, hn, rfl⟩
    obtain ⟨d, ds, hdigits, -⟩ := hn.cons
    refine ⟨if n.negative then ['-'] else [], d, ds ++ rest, ?_, ?_, hn.digits d (hdigits ▸ List.mem_cons_self ..)⟩
    · rw [Numeral.text, hdigits, List.append_assoc, List.cons_append]
    · cases n.negative <;> simp

theorem seqnoHere?_text (h : n.StandsBefore rest) :
    seqnoHere? (seqnoMarker ++ (n.text ++ rest)) = some n.text := by
  rw [seqnoHere?, if_pos (List.isPrefixOf_iff_prefix.2 (List.prefix_append ..)), List.drop_left,
    signedDigits?_text h]

/-- Whatever is found here is a number behind the marker, with all of its digits. -/
theorem exists_of_seqnoHere? (h : seqnoHere? text = some found) : ∃ (n : Numeral) (rest : List Char),
    n.StandsBefore rest ∧ n.text = found ∧ text = seqnoMarker ++ (n.text ++ rest) := by
  rw [seqnoHere?] at h
  split at h
  · next hprefix =>
    obtain ⟨cs, rfl⟩ := List.isPrefixOf_iff_prefix.1 hprefix
    rw [List.drop_left] at h
    obtain ⟨n, rest, hn, htext, rfl⟩ := exists_of_signedDigits? h
    exact ⟨n, rest, hn, htext, rfl⟩
  · cases h

theorem seqnoHere?_eq_none_iff : seqnoHere? text = none ↔ ¬IsMarked text := by
  rw [isMarked_iff]
  constructor
  · rintro hnone ⟨n, rest, hn, rfl⟩
    rw [seqnoHere?_text hn] at hnone
    cases hnone
  · intro hunmarked
    by_contra hfound
    obtain ⟨found, hfound⟩ := Option.ne_none_iff_exists'.1 hfound
    obtain ⟨n, rest, hn, -, htext⟩ := exists_of_seqnoHere? hfound
    exact hunmarked ⟨n, rest, hn, htext⟩

theorem seqnoText?_text (h : n.StandsBefore rest) :
    seqnoText? (seqnoMarker ++ (n.text ++ rest)) = some n.text := by
  have hhere := seqnoHere?_text h
  cases hcs : seqnoMarker ++ (n.text ++ rest) with
  | nil => rwa [hcs] at hhere
  | cons c cs =>
    rw [hcs] at hhere
    rw [seqnoText?, hhere]
    rfl

/-- What has no number behind the marker is skipped. -/
theorem seqnoText?_append {before here : List Char}
    (h : ∀ skipped next, before = skipped ++ next → next ≠ [] → ¬IsMarked (next ++ here)) :
    seqnoText? (before ++ here) = seqnoText? here := by
  induction before with
  | nil => rfl
  | cons c before ih =>
    have hnone : seqnoHere? (c :: before ++ here) = none :=
      seqnoHere?_eq_none_iff.2 (h [] (c :: before) rfl nofun)
    rw [List.cons_append] at hnone ⊢
    rw [seqnoText?, hnone]
    exact ih fun skipped next hsplit hne ↦ h (c :: skipped) next (congrArg (c :: ·) hsplit) hne

namespace Announcement

variable {log : List Char}

/-- What is found in a log is the number that it announces. -/
theorem seqnoText?_eq (o : Announcement log) : seqnoText? log = some o.number.text := by
  obtain ⟨before, n, after, rfl, hn, hfirst⟩ := o
  have hskip : seqnoText? (before ++ (seqnoMarker ++ (n.text ++ after))) =
      seqnoText? (seqnoMarker ++ (n.text ++ after)) := by
    refine seqnoText?_append fun skipped next hsplit hne ↦ ?_
    subst hsplit
    refine hfirst skipped _ (List.append_assoc ..) ?_
    simpa [List.length_pos_iff] using hne
  rw [hskip, seqnoText?_text hn]

/-- The number in a log is announced where the rest of the log announces it. -/
def cons {c : Char} {cs : List Char} (o : Announcement cs) (h : ¬IsMarked (c :: cs)) : Announcement (c :: cs) where
  before := c :: o.before
  number := o.number
  after := o.after
  log_eq := congrArg (c :: ·) o.log_eq
  stands := o.stands
  first earlier there hsplit hlt := by
    cases earlier with
    | nil => rwa [← List.nil_append there, ← hsplit]
    | cons d earlier =>
      obtain ⟨-, hcs⟩ := List.cons.inj hsplit
      exact o.first earlier there hcs (Nat.lt_of_succ_lt_succ hlt)

theorem exists_of_seqnoText? {found : List Char} (h : seqnoText? log = some found) :
    ∃ o : Announcement log, o.number.text = found := by
  induction log with
  | nil => cases h
  | cons c cs ih =>
    rw [seqnoText?] at h
    cases hhere : seqnoHere? (c :: cs) with
    | some here =>
      obtain ⟨n, rest, hn, rfl, hlog⟩ := exists_of_seqnoHere? hhere
      rw [hhere] at h
      refine ⟨⟨[], n, rest, hlog, hn, fun earlier there _ hlt ↦ absurd hlt (Nat.not_lt_zero _)⟩, ?_⟩
      exact Option.some.inj h
    | none =>
      rw [hhere] at h
      obtain ⟨o, rfl⟩ := ih h
      exact ⟨o.cons (seqnoHere?_eq_none_iff.1 hhere), rfl⟩

/-- Whether an announcement tells a number: it is in ASCII digits, and in the range of the numbers of transactions. -/
structure Tells (o : Announcement log) (n : Int) : Prop where
  digits : ∀ c ∈ o.number.digits, c.isDigit = true
  value : n = o.number.value
  least : -2 ^ 63 ≤ n
  greatest : n < 2 ^ 63

theorem readInteger_iff (o : Announcement log) {n : Int} :
    Text.readInteger Text.maxI64 o.number.text = .ok n ↔ o.Tells n := by
  rw [Numeral.readInteger_text o.stands.toIsWritten]
  have hmax : (Text.maxI64 : Int) = 2 ^ 63 - 1 := rfl
  constructor
  · rintro ⟨hdigits, hvalue, hleast, hgreatest⟩
    exact ⟨hdigits, hvalue, by omega, by omega⟩
  · rintro ⟨hdigits, hvalue, hleast, hgreatest⟩
    exact ⟨hdigits, hvalue, by omega, by omega⟩

end Announcement

/-! ## The banner -/

namespace Numeral

/-- An integer in decimal. -/
def ofInt (i : Int) : Numeral := ⟨decide (i < 0), Nat.toDigits 10 i.natAbs⟩

theorem text_ofInt (i : Int) : (ofInt i).text = (toString i).toList := by
  cases i with
  | ofNat k => exact Nat.toList_repr.symm
  | negSucc k =>
    have hnegative : decide (Int.negSucc k < 0) = true := decide_eq_true (Int.negSucc_lt_zero k)
    have hsign : "-".toList = ['-'] := String.toList_ofList
    rw [Int.toString_eq_repr, Int.repr, String.toList_append, Nat.toList_repr, hsign, text, ofInt, hnegative,
      if_pos rfl]
    rfl

theorem value_ofInt (i : Int) : (ofInt i).value = i := by
  rw [value, ofInt, Nat.ofDigitChars_ten_toDigits]
  by_cases h : i < 0
  · rw [if_pos (decide_eq_true h)]
    omega
  · rw [if_neg (by simpa using h)]
    omega

theorem isDigit_ofInt (i : Int) : ∀ c ∈ (ofInt i).digits, c.isDigit = true :=
  fun _ hc ↦ Nat.isDigit_of_mem_toDigits (by decide) (by decide) hc

theorem isWritten_ofInt (i : Int) : (ofInt i).IsWritten :=
  ⟨fun c hc ↦ Text.isDecimalDigit_of_isDigit (isDigit_ofInt i c hc), Nat.toDigits_ne_nil⟩

end Numeral

/-- What the banner says before the name of the pod. -/
def opening : List Char := border ++ (notice ++
  (" In order to restore your PXC cluster, please check the log\n" ++
    "from all pods/nodes to find the node with the most recent data " ++
    "(the one with the highest sequence number (seqno).\n" ++
    "It is ").toList)

/-- What the banner says after the number. -/
def closing (command : String) : List Char :=
  ("\nCluster will recover automatically from the crash now.\n" ++
    "If you have set spec.pxc.autoRecovery to false, " ++
    "run the following command to recover manually from this node:\n" ++
    command).toList ++ border

/-- The banner of the pod of this name, for the number of its last transaction. The command is the line that says how to
start the pod, or nothing. -/
def banner (name command : String) (n : Int) : String :=
  String.ofList (opening ++ (name.toList ++ ' ' :: (seqnoMarker ++ ((toString n).toList ++ closing command))))

/-- The first words of the marker. -/
def lead : List Char := ['n', 'o', 'd', 'e', ' ', 'w', 'i', 't', 'h', ' ', 's']

theorem lead_isPrefix : lead <+: seqnoMarker := ⟨_, String.toList_ofList.symm⟩

theorem IsMarked.lead_isPrefix (h : IsMarked text) : lead <+: text := by
  obtain ⟨sign, digit, rest, rfl, -⟩ := h
  exact CrashLog.lead_isPrefix.trans (List.prefix_append ..)

/-- What neither has the first words of the marker in it nor ends in some of them is skipped. -/
theorem seqnoText?_append_of_tails (before here : List Char)
    (h : ∀ next ∈ before.tails, lead <+: next ∨ next <+: lead → next = []) :
    seqnoText? (before ++ here) = seqnoText? here := by
  refine seqnoText?_append fun skipped next hsplit hne hmarked ↦ hne ?_
  refine h next ((List.mem_tails ..).2 ⟨skipped, hsplit.symm⟩) ?_
  exact List.prefix_or_prefix_of_prefix hmarked.lead_isPrefix (List.prefix_append ..)

theorem seqnoText?_opening (here : List Char) : seqnoText? (opening ++ here) = seqnoText? here := by
  refine seqnoText?_append_of_tails opening here ?_
  have hnotice : notice = _ := String.toList_ofList
  rw [opening, hnotice]
  simp only [String.toList_append]
  rw [String.toList_ofList, String.toList_ofList, String.toList_ofList, String.toList_ofList]
  decide +kernel

/-- A name without a space in it is skipped. -/
theorem seqnoText?_name {name : List Char} (hname : ' ' ∉ name) (rest : List Char) :
    seqnoText? (name ++ ' ' :: (seqnoMarker ++ rest)) = seqnoText? (seqnoMarker ++ rest) := by
  obtain ⟨tail, htail⟩ := lead_isPrefix
  have hword : ∀ c ∈ name, (c != ' ') = true := by
    intro c hc
    simpa using fun h : c = ' ' ↦ hname (h ▸ hc)
  have hskip : seqnoText? (name ++ ' ' :: (seqnoMarker ++ rest)) = seqnoText? (' ' :: (seqnoMarker ++ rest)) := by
    refine seqnoText?_append fun skipped next hsplit hne hmarked ↦ ?_
    obtain ⟨more, hmore⟩ := hmarked.lead_isPrefix
    have hnext : ∀ c ∈ next, (c != ' ') = true := fun c hc ↦ hword c (hsplit ▸ List.mem_append_right _ hc)
    -- up to its first space the text is the first word of the marker, and after that the marker begins again
    have hfirst := congrArg (List.takeWhile (· != ' ')) hmore
    rw [List.takeWhile_append_of_pos hnext, List.takeWhile_cons_of_neg (by decide), List.append_nil] at hfirst
    rw [← hfirst, ← htail] at hmore
    cases hmore
  have hspace : seqnoText? (' ' :: (seqnoMarker ++ rest)) = seqnoText? (seqnoMarker ++ rest) :=
    seqnoText?_append_of_tails [' '] _ (by decide)
  rw [hskip, hspace]

theorem seqnoText?_banner {name : String} (hname : ' ' ∉ name.toList) (command : String) (i : Int) :
    seqnoText? (banner name command i).toList = some (Numeral.ofInt i).text := by
  have hstands : (Numeral.ofInt i).StandsBefore (closing command) := by
    refine ⟨Numeral.isWritten_ofInt i, ?_⟩
    simp only [closing, String.toList_append]
    rw [String.toList_ofList]
    rintro c ⟨⟩
    decide
  rw [banner, String.toList_ofList, seqnoText?_opening, seqnoText?_name hname, ← Numeral.text_ofInt,
    seqnoText?_text hstands]

/-- The banner is recognized as one. -/
theorem isBanner_banner (name command : String) (i : Int) : isBanner (banner name command i) = true := by
  rw [isBanner, banner, String.toList_ofList]
  simp only [Bool.and_eq_true, List.isPrefixOf_iff_prefix, List.isSuffixOf_iff_suffix, Text.occursIn_iff]
  refine ⟨⟨?_, ?_⟩, ?_⟩
  · rw [opening, List.append_assoc]
    exact List.prefix_append ..
  · rw [closing]
    simp only [← List.append_assoc, ← List.cons_append]
    exact List.suffix_append ..
  · have hopening : notice <:+: opening := ⟨border, _, by rw [opening, List.append_assoc]⟩
    exact hopening.trans (List.prefix_append ..).isInfix

namespace Announcement

variable {pod log : String} {i : Int} (o : Announcement log.toList)

theorem seqno_eq : seqno pod log = match Text.readInteger Text.maxI64 o.number.text with
    | .ok i => .ok i
    | .error fault => .error (.crashLog pod
        ("invalid sequence number " ++ Text.quoted (String.ofList o.number.text) ++ ": " ++ fault.message)) := by
  unfold seqno
  split
  · next hnone =>
    rw [o.seqnoText?_eq] at hnone
    cases hnone
  · next found hfound =>
    rw [o.seqnoText?_eq] at hfound
    cases hfound
    rfl

/-- An announced number is read exactly if the announcement tells it. -/
theorem seqno_eq_ok_iff : seqno pod log = .ok i ↔ o.Tells i := by
  rw [o.seqno_eq, ← o.readInteger_iff]
  cases Text.readInteger Text.maxI64 o.number.text with
  | ok j => simp
  | error fault => exact iff_of_false nofun nofun

theorem seqno_of_not_tells (h : ∀ i, ¬o.Tells i) : ∃ fault : Text.IntegerFault, seqno pod log =
    .error (.crashLog pod ("invalid sequence number " ++ Text.quoted (String.ofList o.number.text) ++ ": " ++
      fault.message)) := by
  rw [o.seqno_eq]
  cases hread : Text.readInteger Text.maxI64 o.number.text with
  | ok i => exact absurd (o.readInteger_iff.1 hread) (h i)
  | error fault => exact ⟨fault, rfl⟩

end Announcement

theorem seqno_of_isEmpty {pod log : String} (h : IsEmpty (Announcement log.toList)) :
    seqno pod log = .error (.crashLog pod "no sequence number line") := by
  cases hfound : seqnoText? log.toList with
  | none => rw [seqno, hfound]
  | some found =>
    obtain ⟨o, -⟩ := Announcement.exists_of_seqnoText? hfound
    exact h.elim o

/-- A number is read exactly if it is announced. -/
theorem seqno_eq_ok_iff {pod log : String} {i : Int} :
    seqno pod log = .ok i ↔ ∃ o : Announcement log.toList, o.Tells i := by
  refine ⟨fun hseqno ↦ ?_, fun ⟨o, htells⟩ ↦ o.seqno_eq_ok_iff.2 htells⟩
  rcases isEmpty_or_nonempty (Announcement log.toList) with hnone | ⟨⟨o⟩⟩
  · rw [seqno_of_isEmpty hnone] at hseqno
    cases hseqno
  · exact ⟨o, o.seqno_eq_ok_iff.1 hseqno⟩

theorem seqno_banner {name : String} (hname : ' ' ∉ name.toList) {i : Int} (hleast : -2 ^ 63 ≤ i)
    (hgreatest : i < 2 ^ 63) (pod command : String) : seqno pod (banner name command i) = .ok i := by
  have hread : Text.readInteger Text.maxI64 (Numeral.ofInt i).text = .ok i := by
    have hmax : (Text.maxI64 : Int) = 2 ^ 63 - 1 := rfl
    rw [Numeral.readInteger_text (Numeral.isWritten_ofInt i)]
    exact ⟨Numeral.isDigit_ofInt i, (Numeral.value_ofInt i).symm, by omega, by omega⟩
  rw [seqno, seqnoText?_banner hname]
  dsimp only
  rw [hread]

/-- What is looked for in a log is the number behind the first marker that has one behind it. It is read exactly if all
its digits are those of ASCII and it is in range; a log without a number, or with any other one, is refused in the name
of its pod. So what a banner was made for is read from it. -/
theorem seqno_announced (pod log : String) :
    (∀ i, seqno pod log = .ok i ↔ ∃ o : Announcement log.toList, o.Tells i) ∧
    (IsEmpty (Announcement log.toList) → seqno pod log = .error (.crashLog pod "no sequence number line")) ∧
    (∀ o : Announcement log.toList, (∀ i, ¬o.Tells i) → ∃ fault : Text.IntegerFault, seqno pod log =
      .error (.crashLog pod ("invalid sequence number " ++ Text.quoted (String.ofList o.number.text) ++ ": " ++
        fault.message))) ∧
    ∀ name command i, ' ' ∉ name.toList → -2 ^ 63 ≤ i → i < 2 ^ 63 → seqno pod (banner name command i) = .ok i :=
  ⟨fun _ ↦ seqno_eq_ok_iff, seqno_of_isEmpty, fun o ↦ o.seqno_of_not_tells,
    fun _ command _ hname hleast hgreatest ↦ seqno_banner hname hleast hgreatest pod command⟩

/-- The number one in Arabic-Indic digits. -/
private def foreignOne : Numeral := ⟨false, ['١']⟩

private def foreignLog : String := String.ofList (seqnoMarker ++ (foreignOne.text ++ ['\n']))

/-- The least number is read from its banner, a log without a number is refused, and so is one with foreign digits. -/
theorem seqno_announced_least :
    seqno "db-pxc-0" (banner "db-pxc-0" "" (-2 ^ 63)) = .ok (-2 ^ 63) ∧
    IsEmpty (Announcement "".toList) ∧ seqno "db-pxc-1" "" = .error (.crashLog "db-pxc-1" "no sequence number line") ∧
    ∃ o : Announcement foreignLog.toList, (∀ i, ¬o.Tells i) ∧ ∃ fault : Text.IntegerFault,
      seqno "db-pxc-2" foreignLog = .error (.crashLog "db-pxc-2" ("invalid sequence number " ++
        Text.quoted (String.ofList o.number.text) ++ ": " ++ fault.message)) := by
  have hnone : IsEmpty (Announcement "".toList) := ⟨fun o ↦ by
    have hlength := congrArg List.length o.log_eq
    obtain ⟨_, hlead⟩ := lead_isPrefix
    rw [← hlead] at hlength
    simp [lead] at hlength⟩
  have hstands : foreignOne.StandsBefore ['\n'] := by
    refine ⟨⟨List.forall_mem_singleton.2 (by decide), nofun⟩, ?_⟩
    rintro c ⟨⟩
    decide
  obtain ⟨o, ho⟩ : ∃ o : Announcement foreignLog.toList, o.number.text = foreignOne.text := by
    refine Announcement.exists_of_seqnoText? ?_
    rw [foreignLog, String.toList_ofList]
    exact seqnoText?_text hstands
  have hforeign : ∀ i, ¬o.Tells i := by
    intro i htells
    have hmem : '١' ∈ o.number.text := ho ▸ List.mem_singleton_self _
    rcases List.mem_append.1 hmem with hsign | hdigit
    · split at hsign
      · exact absurd hsign (by decide)
      · cases hsign
    · exact absurd (htells.digits _ hdigit) (by decide)
  have hname : ' ' ∉ "db-pxc-0".toList := by decide
  refine ⟨?_, hnone, (seqno_announced "db-pxc-1" "").2.1 hnone, o, hforeign, ?_⟩
  · exact (seqno_announced "db-pxc-0" "").2.2.2 _ "" _ hname (le_refl _) (by decide)
  · exact (seqno_announced "db-pxc-2" foreignLog).2.2.1 o hforeign

end CrashLog

end GaleraOperator
