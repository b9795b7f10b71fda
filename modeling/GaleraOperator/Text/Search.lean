/-!
# Searching in texts

`occursIn_iff` says that the search finds a pattern exactly when the text is something, the pattern, and something.
-/

namespace GaleraOperator.Text

/-- Whether a pattern occurs in a text. -/
def occursIn (pattern : List Char) : List Char → Bool
  | [] => pattern.isEmpty
  | c :: cs => pattern.isPrefixOf (c :: cs) || occursIn pattern cs

/-- The search finds what is a part of the text. -/
theorem occursIn_iff {pattern text : List Char} : occursIn pattern text = true ↔ pattern <:+: text := by
  induction text with
  | nil => simp [occursIn]
  | cons c cs ih => simp [occursIn, ih, List.infix_cons_iff]

/-- Whether one string occurs in another. -/
def contains (text pattern : String) : Bool := occursIn pattern.toList text.toList

theorem contains_append_left {text pattern : String} (before : String) (h : contains text pattern = true) :
    contains (before ++ text) pattern = true := by
  refine occursIn_iff.2 ((occursIn_iff.1 h).trans ?_)
  rw [String.toList_append]
  exact (List.suffix_append _ _).isInfix

theorem contains_append_right {text pattern : String} (after : String) (h : contains text pattern = true) :
    contains (text ++ after) pattern = true := by
  refine occursIn_iff.2 ((occursIn_iff.1 h).trans ?_)
  rw [String.toList_append]
  exact (List.prefix_append _ _).isInfix

end GaleraOperator.Text
