import GaleraOperator.Naming
import Mathlib

/-!
# Cut names

A name that is too long is cut, and loses the separators that the cut leaves at its end. What is left is the longest
beginning of the name that is short enough and does not end in a separator, and no other text is that: so it does not
matter whether a name was cut before, as long as that left it no less room.

Two names with a common beginning are the same after the cut exactly if what follows the beginning is, cut to the room
that the beginning leaves. So the names of two jobs of a cluster are the same exactly if those of their schedules are,
cut to the room that the name of the cluster leaves, which may be none.
-/

namespace GaleraOperator

variable {front back back' : List Char}

/-- Separators are taken from the end, and from what comes before it only where nothing else is left of the end. -/
theorem trimSeparators_append (front back : List Char) :
    trimSeparators (front ++ back) =
      if trimSeparators back = [] then trimSeparators front else front ++ trimSeparators back := by
  rw [trimSeparators, List.reverse_append, List.dropWhile_append]
  by_cases hback : back.reverse.dropWhile (fun c ↦ !c.isAlphanum) = []
  · simp [trimSeparators, hback]
  · simp [trimSeparators, hback]

theorem length_trimSeparators_le (cs : List Char) : (trimSeparators cs).length ≤ cs.length := by
  have hsub : (cs.reverse.dropWhile fun c ↦ !c.isAlphanum).Sublist cs.reverse := List.dropWhile_sublist _
  simpa [trimSeparators] using hsub.length_le

/-- What follows a common beginning decides whether two names are the same without separators at the end. -/
theorem trimSeparators_append_inj :
    trimSeparators (front ++ back) = trimSeparators (front ++ back') ↔ trimSeparators back = trimSeparators back' := by
  -- What is left of a name is longer than its beginning if anything else is left.
  have hlonger (rest : List Char) (hrest : rest ≠ []) : trimSeparators front ≠ front ++ rest := by
    intro heq
    have hlength := congrArg List.length heq
    rw [List.length_append] at hlength
    have hpos := List.length_pos_iff.2 hrest
    have hle := length_trimSeparators_le front
    omega
  rw [trimSeparators_append, trimSeparators_append]
  by_cases hback : trimSeparators back = [] <;> by_cases hback' : trimSeparators back' = []
  · simp [hback, hback']
  · simp [hback, hback', hlonger _ hback', Ne.symm hback']
  · simp [hback, hback', (hlonger _ hback).symm]
  · simp [hback, hback']

/-- Names with a common beginning are cut to the same exactly if the rest is, in the room that is left for it. -/
theorem truncateName_append_inj (front back back' : String) (max : Nat) :
    truncateName (front ++ back) max = truncateName (front ++ back') max ↔
      truncateName back (max - front.toList.length) = truncateName back' (max - front.toList.length) := by
  simp only [truncateName, String.ofList_inj, String.toList_append, List.take_append]
  exact trimSeparators_append_inj

/-- The room that the name of a cluster leaves for those of its schedules in the names of their jobs. -/
def scheduleRoom (cluster : String) : Nat := maxJobNameLength - (cluster ++ "-backup-").toList.length

/-- The jobs of two schedules have the same name exactly if the names of the schedules are cut to the same. -/
theorem jobName_eq_iff {cluster schedule schedule' : String} :
    jobName cluster schedule = jobName cluster schedule' ↔
      truncateName schedule (scheduleRoom cluster) = truncateName schedule' (scheduleRoom cluster) :=
  truncateName_append_inj _ _ _ _

/-! ## The longest beginning -/

section LongestCut

variable {name cut : String} {max larger : Nat}

theorem toList_truncateName (name : String) (max : Nat) :
    (truncateName name max).toList = (name.toList.take max).rdropWhile fun c ↦ !c.isAlphanum :=
  String.toList_ofList

theorem truncateName_isPrefix (name : String) (max : Nat) : (truncateName name max).toList <+: name.toList := by
  rw [toList_truncateName]
  exact (List.rdropWhile_prefix _ _).trans (List.take_prefix _ _)

/-- A name is cut to characters of its own. -/
theorem mem_of_mem_truncateName {c : Char} (h : c ∈ (truncateName name max).toList) : c ∈ name.toList :=
  (truncateName_isPrefix name max).subset h

theorem length_truncateName_le (name : String) (max : Nat) : (truncateName name max).length ≤ max := by
  rw [← String.length_toList, toList_truncateName]
  exact (List.rdropWhile_prefix _ _).length_le.trans (List.length_take_le max _)

theorem isAlphanum_of_getLast?_truncateName {c : Char} (h : c ∈ (truncateName name max).toList.getLast?) :
    c.isAlphanum = true := by
  rw [toList_truncateName] at h
  obtain ⟨hne, rfl⟩ := List.mem_getLast?_eq_getLast h
  simpa using List.rdropWhile_last_not _ _ hne

/-- Of what ends in no separator nothing is lost with the separators behind it. -/
theorem isPrefix_rdropWhile {p : Char → Bool} {front cs : List Char} (h : front <+: cs)
    (hends : ∀ c ∈ front.getLast?, p c = false) : front <+: cs.rdropWhile p := by
  induction cs using List.reverseRecOn with
  | nil => exact h
  | append_singleton cs c ih =>
    rw [List.rdropWhile_concat]
    split
    · next hc =>
      rcases List.prefix_concat_iff.1 h with rfl | hshort
      · rw [hends c List.getLast?_concat] at hc
        cases hc
      · exact ih hshort
    · exact h

/-- Whether a name may be cut to this one: it begins the name, is short enough, and is empty or ends in a letter or a
digit of ASCII. -/
structure IsCutOf (name : String) (max : Nat) (cut : String) : Prop where
  begins : cut.toList <+: name.toList
  length_le : cut.length ≤ max
  ends : ∀ c ∈ cut.toList.getLast?, c.isAlphanum = true

/-- Whether a name may be cut to this one, and to none that is longer. -/
structure IsLongestCutOf (name : String) (max : Nat) (cut : String) : Prop extends IsCutOf name max cut where
  longest : ∀ other, IsCutOf name max other → other.length ≤ cut.length

theorem isCutOf_truncateName (name : String) (max : Nat) : IsCutOf name max (truncateName name max) :=
  ⟨truncateName_isPrefix name max, length_truncateName_le name max, fun _ ↦ isAlphanum_of_getLast?_truncateName⟩

namespace IsCutOf

theorem isPrefix_truncateName (h : IsCutOf name max cut) : cut.toList <+: (truncateName name max).toList := by
  have htake : cut.toList <+: name.toList.take max := by
    refine List.prefix_take_iff.2 ⟨h.begins, ?_⟩
    rw [String.length_toList]
    exact h.length_le
  rw [toList_truncateName]
  exact isPrefix_rdropWhile htake fun c hc ↦ by simp [h.ends c hc]

/-- With more room there is nothing that a name may no longer be cut to. -/
theorem mono (h : IsCutOf name max cut) (hle : max ≤ larger) : IsCutOf name larger cut :=
  { h with length_le := h.length_le.trans hle }

/-- What a cut name may be cut to, the name may be cut to. -/
theorem of_truncateName (h : IsCutOf (truncateName name larger) max cut) : IsCutOf name max cut :=
  { h with begins := h.begins.trans (truncateName_isPrefix name larger) }

end IsCutOf

theorem isLongestCutOf_iff : IsLongestCutOf name max cut ↔ cut = truncateName name max := by
  constructor
  · intro h
    have hlength := h.longest _ (isCutOf_truncateName name max)
    rw [← String.length_toList, ← String.length_toList] at hlength
    exact String.toList_inj.1 (h.isPrefix_truncateName.eq_of_length_le hlength)
  · rintro rfl
    refine ⟨isCutOf_truncateName name max, fun other hother ↦ ?_⟩
    rw [← String.length_toList, ← String.length_toList]
    exact hother.isPrefix_truncateName.length_le

theorem truncateName_mono (hle : max ≤ larger) :
    (truncateName name max).toList <+: (truncateName name larger).toList :=
  ((isCutOf_truncateName name max).mono hle).isPrefix_truncateName

/-- A name that was cut is cut further to what it would have been cut to. -/
theorem truncateName_truncateName (hle : max ≤ larger) :
    truncateName (truncateName name larger) max = truncateName name max := by
  refine isLongestCutOf_iff.1 ⟨(isCutOf_truncateName _ max).of_truncateName, fun other hother ↦ ?_⟩
  have hcut : IsCutOf (truncateName name larger) max other :=
    { hother with begins := (hother.mono hle).isPrefix_truncateName }
  rw [← String.length_toList, ← String.length_toList]
  exact hcut.isPrefix_truncateName.length_le

/-- A name is cut to the longest of its beginnings that is short enough and ends in no separator, and that is the only
one. So a cut name stays as it is, less room leaves a beginning of what more room leaves, and it may as well be cut to
the larger room first. -/
theorem truncateName_longest (name : String) (max : Nat) :
    (∀ cut, IsLongestCutOf name max cut ↔ cut = truncateName name max) ∧
    truncateName (truncateName name max) max = truncateName name max ∧
    ∀ larger, max ≤ larger →
      (truncateName name max).toList <+: (truncateName name larger).toList ∧
      truncateName (truncateName name larger) max = truncateName name max :=
  ⟨fun _ ↦ isLongestCutOf_iff, truncateName_truncateName le_rfl,
    fun _ hle ↦ ⟨truncateName_mono hle, truncateName_truncateName hle⟩⟩

/-- Neither the umlaut nor the hyphens before it may end a name. -/
theorem truncateName_longest_umlaut :
    4 ≤ 6 ∧ (truncateName "a--ü-b" 4).toList <+: (truncateName "a--ü-b" 6).toList ∧
    truncateName (truncateName "a--ü-b" 6) 4 = truncateName "a--ü-b" 4 :=
  ⟨by decide, (truncateName_longest "a--ü-b" 4).2.2 6 (by decide)⟩

example : truncateName "a--ü-b" 4 = "a" ∧ truncateName "--ü--" 4 = "" := by decide +kernel

end LongestCut

end GaleraOperator
