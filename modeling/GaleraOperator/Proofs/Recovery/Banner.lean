import GaleraOperator.Recovery.CrashLog
import Mathlib

/-!
# The shape of the banner

A log is looked at three times, each time as a whole: for the border at its beginning, for the border at its end, and
for the notice. What keeps the three apart is what they are made of. No character of the notice is one of the border,
so wherever the notice stands, a whole border ends before it and a whole border begins after it.
-/

namespace GaleraOperator.CrashLog

section Apart

variable {xs before word after : List Char}

/-- What a text begins with ends before a word that shares no character with it. -/
theorem isPrefix_of_disjoint (h : xs <+: before ++ (word ++ after)) (hword : word ≠ []) (hdisjoint : word.Disjoint xs) :
    xs <+: before := by
  obtain ⟨c, word, rfl⟩ := List.exists_cons_of_ne_nil hword
  rcases List.prefix_or_prefix_of_prefix h (List.prefix_append before _) with hshort | ⟨more, rfl⟩
  · exact hshort
  · -- what goes over the word would begin with its first character
    have hmore : more <+: c :: word ++ after := (List.prefix_append_right_inj before).1 h
    cases more with
    | nil => rw [List.append_nil]
    | cons d more =>
      obtain ⟨rfl, -⟩ := List.cons_prefix_cons.1 hmore
      exact absurd (List.mem_append_right before (List.mem_cons_self ..)) (hdisjoint (List.mem_cons_self ..))

/-- What a text ends with begins after a word that shares no character with it. -/
theorem isSuffix_of_disjoint (h : xs <:+ before ++ (word ++ after)) (hword : word ≠ []) (hdisjoint : word.Disjoint xs) :
    xs <:+ after := by
  rw [← List.reverse_prefix] at h ⊢
  rw [List.reverse_append, List.reverse_append, List.append_assoc] at h
  refine isPrefix_of_disjoint h (mt List.reverse_eq_nil_iff.1 hword) ?_
  intro c hc hxs
  exact hdisjoint (List.mem_reverse.1 hc) (List.mem_reverse.1 hxs)

end Apart

theorem length_border : border.length = 129 := by simp [border]

theorem notice_ne_nil : notice ≠ [] := by decide +kernel

/-- The notice is made of other characters than the border. -/
theorem notice_disjoint_border : notice.Disjoint border := by
  have hnotice : '#' ∉ notice ∧ '\n' ∉ notice := by decide +kernel
  intro c hc hborder
  rcases List.mem_append.1 hborder with hsign | hend
  · rw [List.eq_of_mem_replicate hsign] at hc
    exact hnotice.1 hc
  · rw [List.mem_singleton.1 hend] at hc
    exact hnotice.2 hc

theorem isBanner_iff {log : String} :
    isBanner log = true ↔ border <+: log.toList ∧ border <:+ log.toList ∧ notice <:+: log.toList := by
  simp [isBanner, Text.occursIn_iff, and_assoc]

variable {text before after : List Char} {k : Nat}

/-- Whether a text is a border, something that says what the banner says, and a border again. -/
def IsFramed (text : List Char) : Prop := ∃ middle, text = border ++ (middle ++ border) ∧ notice <:+: middle

/-- Wherever the notice stands, it stands between the borders. -/
theorem stands_between (hfirst : border <+: before ++ (notice ++ after))
    (hlast : border <:+ before ++ (notice ++ after)) : border <+: before ∧ border <:+ after :=
  ⟨isPrefix_of_disjoint hfirst notice_ne_nil notice_disjoint_border,
    isSuffix_of_disjoint hlast notice_ne_nil notice_disjoint_border⟩

/-- With a notice in it, a text that begins and ends with a border has two of them. -/
theorem isFramed_of_borders (hfirst : border <+: text) (hlast : border <:+ text) (hnotice : notice <:+: text) :
    IsFramed text := by
  obtain ⟨before, after, rfl⟩ := hnotice
  rw [List.append_assoc] at hfirst hlast
  obtain ⟨⟨front, rfl⟩, ⟨back, rfl⟩⟩ := stands_between hfirst hlast
  exact ⟨front ++ notice ++ back, by simp only [List.append_assoc], front, back, rfl⟩

theorem isBanner_iff_isFramed {log : String} : isBanner log = true ↔ IsFramed log.toList := by
  rw [isBanner_iff]
  constructor
  · rintro ⟨hfirst, hlast, hnotice⟩
    exact isFramed_of_borders hfirst hlast hnotice
  · rintro ⟨middle, hlog, hnotice⟩
    rw [hlog]
    refine ⟨List.prefix_append .., ?_, ?_⟩
    · rw [← List.append_assoc]
      exact List.suffix_append ..
    · exact hnotice.trans ⟨border, border, List.append_assoc ..⟩

/-! ## What is no banner -/

/-- There is no notice in borders, however many there are and wherever they were cut. -/
theorem isBanner_of_subset {log : String} (h : log.toList ⊆ border) : isBanner log = false := by
  rw [Bool.eq_false_iff]
  intro hbanner
  obtain ⟨-, -, hnotice⟩ := isBanner_iff.1 hbanner
  obtain ⟨c, _, hc⟩ := List.exists_cons_of_ne_nil notice_ne_nil
  have hmem : c ∈ notice := hc ▸ List.mem_cons_self ..
  exact notice_disjoint_border hmem (h (hnotice.subset hmem))

/-- The end of a border is no border with something behind it: its line is too short. -/
theorem not_isPrefix_drop (hpos : 0 < k) (hk : k < border.length) (rest : List Char) :
    ¬border <+: border.drop k ++ rest := by
  rw [length_border] at hk
  have hdrop : border.drop k ++ rest = List.replicate (128 - k) '#' ++ (['\n'] ++ rest) := by
    rw [border, List.drop_append_of_le_length (by rw [List.length_replicate]; omega), List.drop_replicate,
      List.append_assoc]
  rw [hdrop]
  intro h
  have hline : List.replicate 128 '#' <+: List.replicate (128 - k) '#' := by
    refine isPrefix_of_disjoint ((List.prefix_append _ _).trans h) (List.cons_ne_nil _ _) ?_
    rw [List.singleton_disjoint]
    exact fun hmem ↦ absurd (List.eq_of_mem_replicate hmem) (by decide)
  have hlength := hline.length_le
  rw [List.length_replicate, List.length_replicate] at hlength
  omega

/-- The beginning of a border is no border with something before it: the end of its line is missing. -/
theorem not_isSuffix_take (hpos : 0 < k) (hk : k < border.length) (front : List Char) :
    ¬border <:+ front ++ border.take k := by
  rw [length_border] at hk
  have htake : border.take k = List.replicate k '#' ++ [] := by
    rw [border, List.take_append_of_le_length (by rw [List.length_replicate]; omega), List.take_replicate,
      Nat.min_eq_left (by omega), List.append_nil]
  rw [htake]
  intro h
  have hend : ['\n'] <:+ [] := by
    refine isSuffix_of_disjoint ((List.suffix_append _ _).trans h) (by simpa using hpos.ne') ?_
    rw [List.disjoint_singleton]
    exact fun hmem ↦ absurd (List.eq_of_mem_replicate hmem) (by decide)
  cases List.suffix_nil.1 hend

/-- A log is the banner exactly if it is a border, something with the notice in it, and a border again, none of which
share a character. Each notice in it stands between the two borders. So what is made of the characters of the border is
not the banner, and neither is what begins or ends within a border. -/
theorem isBanner_framed (log : String) :
    (isBanner log = true ↔ IsFramed log.toList) ∧
    (isBanner log = true → ∀ before after, log.toList = before ++ (notice ++ after) →
      border <+: before ∧ border <:+ after) ∧
    (log.toList ⊆ border → isBanner log = false) ∧
    ∀ k, 0 < k → k < border.length →
      (∀ rest, log.toList = border.drop k ++ rest → isBanner log = false) ∧
      ∀ front, log.toList = front ++ border.take k → isBanner log = false := by
  refine ⟨isBanner_iff_isFramed, ?_, isBanner_of_subset, fun k hpos hk ↦ ⟨fun rest hlog ↦ ?_, fun front hlog ↦ ?_⟩⟩
  · intro hbanner before after hlog
    obtain ⟨hfirst, hlast, -⟩ := isBanner_iff.1 hbanner
    rw [hlog] at hfirst hlast
    exact stands_between hfirst hlast
  · rw [Bool.eq_false_iff, Ne, isBanner_iff, hlog]
    exact fun h ↦ not_isPrefix_drop hpos hk rest h.1
  · rw [Bool.eq_false_iff, Ne, isBanner_iff, hlog]
    exact fun h ↦ not_isSuffix_take hpos hk front h.2.1

private def spoken : String := String.ofList (border ++ ((notice ++ ['\n']) ++ border))

/-- The notice in its own line between two borders is a banner. Without the first sign of it, without the last ten
characters, and without the notice it is none. -/
theorem isBanner_framed_spoken :
    isBanner spoken = true ∧
    (spoken.toList = border ++ (notice ++ ('\n' :: border)) ∧ border <+: border ∧ border <:+ '\n' :: border) ∧
    ((String.ofList (border ++ border)).toList ⊆ border ∧ isBanner (String.ofList (border ++ border)) = false) ∧
    (1 < border.length ∧ isBanner (String.ofList (border.drop 1 ++ (notice ++ '\n' :: border))) = false) ∧
    (119 < border.length ∧ isBanner (String.ofList ((border ++ (notice ++ ['\n'])) ++ border.take 119)) = false) := by
  have hspoken : spoken.toList = border ++ ((notice ++ ['\n']) ++ border) := String.toList_ofList
  have hbanner : isBanner spoken = true :=
    (isBanner_framed spoken).1.2 ⟨notice ++ ['\n'], hspoken, (List.prefix_append ..).isInfix⟩
  have hsplit : spoken.toList = border ++ (notice ++ ('\n' :: border)) := by
    rw [hspoken, List.append_assoc]
    rfl
  have hborders : (String.ofList (border ++ border)).toList ⊆ border := by
    rw [String.toList_ofList]
    exact List.append_subset.2 ⟨List.Subset.refl _, List.Subset.refl _⟩
  have hshort : 1 < border.length ∧ 119 < border.length := by rw [length_border]; decide
  refine ⟨hbanner, ⟨hsplit, ?_⟩, ⟨hborders, ?_⟩, ⟨hshort.1, ?_⟩, hshort.2, ?_⟩
  · exact (isBanner_framed spoken).2.1 hbanner border ('\n' :: border) hsplit
  · exact (isBanner_framed _).2.2.1 hborders
  · exact ((isBanner_framed _).2.2.2 1 (by decide) hshort.1).1 _ String.toList_ofList
  · exact ((isBanner_framed _).2.2.2 119 (by decide) hshort.2).2 _ String.toList_ofList

end GaleraOperator.CrashLog
