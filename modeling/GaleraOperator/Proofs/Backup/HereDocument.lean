import GaleraOperator.Proofs.Backup.Manifest

/-!
# What the shell reads in a here-document

In a here-document the shell puts parameters and the output of commands in the place of what asks for them, and takes
some backslashes away. All that is told by pairs of characters that are read together, so two texts are read one after
the other wherever the last character of the first and the first one of the second are no such pair. A text is left as it
is exactly if it holds no such pair, and no back quote.
-/

namespace GaleraOperator

namespace HereDocument

/-- Whether the shell reads a character together with the one before it: a backslash takes away the meaning of what
follows, and a dollar sign begins a parameter or a command. A double quote means nothing in a here-document, so a
backslash before it stays. -/
def binds : Char → Char → Bool
  | '\\', d => ['$', '`', '\\', '\n'].contains d
  | '$', d => d.isAlphanum || ['_', '{', '(', '@', '*', '#', '?', '-', '$', '!'].contains d
  | _, _ => false

/-- What the shell reads at a place of a here-document. -/
inductive Token where
  /-- A character that stands for itself. -/
  | plain (c : Char)
  /-- A backslash, and the character whose meaning it takes away. -/
  | escaped (c : Char)
  /-- A parameter of the shell, which has some value. -/
  | parameter
  /-- The beginning of a command, or of arithmetic, which may hold one. -/
  | command
  deriving DecidableEq

namespace Token

/-- What is read where a character stands, by the one that follows it. -/
def read (c : Char) (next? : Option Char) : Token :=
  if c = '`' then .command
  else
    match next?.filter (binds c) with
    | none => .plain c
    | some d => if c = '\\' then .escaped d else if d = '(' then .command else .parameter

/-- What the shell puts in the place of what it read, if that asks it for nothing. An end of a line is no character whose
meaning is kept. -/
def text? : Token → Option (List Char)
  | .plain c => some [c]
  | .escaped c => some (if c = '\n' then [] else [c])
  | .parameter | .command => none

end Token

/-- What the shell reads in a text, with the text from there on. The first character may be bound to one before it. -/
def tokensFrom : Bool → List Char → List (Token × List Char)
  | _, [] => []
  | true, _ :: cs => tokensFrom false cs
  | false, c :: cs => (.read c cs.head?, c :: cs) :: tokensFrom (cs.head?.any (binds c)) cs

/-- The text from where a command is read. -/
def commandAt? : Token × List Char → Option (List Char)
  | (.command, rest) => some rest
  | _ => none

/-- The places of a text where the shell begins to read a command, by the text from there on. -/
def commands (cs : List Char) : List (List Char) := (tokensFrom false cs).filterMap commandAt?

/-- What the shell puts in the place of everything that it read, if nothing of that asks it for anything. -/
def texts? : List (Token × List Char) → Option (List Char)
  | [] => some []
  | (token, _) :: later => token.text?.bind fun front ↦ (texts? later).map (front ++ ·)

/-- What the shell makes of a text, if that asks it for nothing. -/
def literal? (cs : List Char) : Option (List Char) := texts? (tokensFrom false cs)

/-- The shell takes every character of a text as it is. -/
def Inert (cs : List Char) : Prop := '`' ∉ cs ∧ cs.IsChain fun c d ↦ binds c d = false

/-- The last character of a text and the first of another one are not read together. -/
def Apart (xs ys : List Char) : Prop := ∀ c ∈ xs.getLast?, ∀ d ∈ ys.head?, binds c d = false

variable {xs ys cs : List Char} {bound : Bool}

theorem Apart.tail {c d : Char} (h : Apart (c :: d :: xs) ys) : Apart (d :: xs) ys := by
  rwa [Apart, List.getLast?_cons_cons] at h

theorem any_binds_eq_false {c : Char} {next? : Option Char} (h : ∀ d ∈ next?, binds c d = false) :
    next?.any (binds c) = false := by
  rw [Option.any_eq_false_iff_get]
  exact fun hsome ↦ by rw [h _ (Option.get_mem hsome)]

theorem Token.read_of_not_bound {c : Char} {next? : Option Char} (h : ∀ d ∈ next?, binds c d = false) :
    read c next? = if c = '`' then .command else .plain c := by
  have hfilter : next?.filter (binds c) = none := by
    rw [← Option.not_isSome_iff_eq_none, Option.isSome_filter, any_binds_eq_false h]
    exact Bool.false_ne_true
  rw [read, hfilter]

/-- What is read in two texts that are apart is read in both together. -/
theorem tokensFrom_append (h : Apart xs ys) (hbound : xs = [] → bound = false) :
    tokensFrom bound (xs ++ ys) =
      (tokensFrom bound xs).map (fun (token, rest) ↦ (token, rest ++ ys)) ++ tokensFrom false ys := by
  induction xs generalizing bound with
  | nil =>
    rw [hbound rfl]
    rfl
  | cons c xs ih =>
    cases xs with
    | nil =>
      cases bound with
      | true => rfl
      | false =>
        have hfree : ∀ d ∈ ys.head?, binds c d = false := h c rfl
        simp only [List.singleton_append, tokensFrom, any_binds_eq_false hfree, Token.read_of_not_bound hfree]
        rfl
    | cons d xs =>
      cases bound with
      | true => exact ih h.tail nofun
      | false => exact congrArg ((Token.read c (some d), c :: d :: (xs ++ ys)) :: ·) (ih h.tail nofun)

theorem commands_append (h : Apart xs ys) : commands (xs ++ ys) = (commands xs).map (· ++ ys) ++ commands ys := by
  rw [commands, tokensFrom_append h fun _ ↦ rfl, List.filterMap_append, List.filterMap_map, commands,
    List.map_filterMap]
  refine congrArg (· ++ commands ys) (List.filterMap_congr fun token _ ↦ ?_)
  rcases token with ⟨_ | _ | _ | _, rest⟩ <;> rfl

theorem commands_append_eq_nil (h : Apart xs ys) : commands (xs ++ ys) = [] ↔ commands xs = [] ∧ commands ys = [] := by
  rw [commands_append h, List.append_eq_nil_iff, List.map_eq_nil_iff]

theorem texts?_append (tokens later : List (Token × List Char)) :
    texts? (tokens ++ later) = (texts? tokens).bind fun front ↦ (texts? later).map (front ++ ·) := by
  induction tokens with
  | nil => simp [texts?]
  | cons token tokens ih =>
    simp only [List.cons_append, texts?, ih, Option.bind_assoc]
    refine Option.bind_congr fun front _ ↦ ?_
    cases texts? tokens <;> simp [Function.comp_def]

/-- What the shell makes of a token does not depend on what follows it. -/
theorem texts?_map (tokens : List (Token × List Char)) (ys : List Char) :
    texts? (tokens.map fun (token, rest) ↦ (token, rest ++ ys)) = texts? tokens := by
  induction tokens with
  | nil => rfl
  | cons token tokens ih => simp only [List.map_cons, texts?, ih]

/-- What the shell makes of two texts that are apart, it makes of both together. -/
theorem literal?_append (h : Apart xs ys) :
    literal? (xs ++ ys) = (literal? xs).bind fun front ↦ (literal? ys).map (front ++ ·) := by
  rw [literal?, tokensFrom_append h fun _ ↦ rfl, texts?_append, texts?_map]
  rfl

theorem Token.length_le_of_text? {token : Token} {front : List Char} (h : token.text? = some front) :
    front.length ≤ 1 := by
  cases token with
  | plain c =>
    cases h
    exact Nat.le_refl 1
  | escaped c =>
    cases h
    split
    · exact Nat.zero_le 1
    · exact Nat.le_refl 1
  | parameter | command => cases h

/-- The shell makes no text longer. -/
theorem length_le_of_texts? (h : texts? (tokensFrom bound xs) = some ys) :
    ys.length ≤ (if bound then xs.tail else xs).length := by
  induction xs generalizing bound ys with
  | nil =>
    have hempty : tokensFrom bound [] = [] := by cases bound <;> rfl
    rw [hempty] at h
    cases h
    exact Nat.zero_le _
  | cons c xs ih =>
    cases bound with
    | true => exact ih h
    | false =>
      obtain ⟨front, hfront, hmap⟩ := Option.bind_eq_some_iff.1 h
      obtain ⟨rest, hrest, rfl⟩ := Option.map_eq_some_iff.1 hmap
      have hone := Token.length_le_of_text? hfront
      have hle := ih hrest
      have htail : (if xs.head?.any (binds c) then xs.tail else xs).length ≤ xs.length := by
        split <;> simp
      simp only [List.length_append, List.length_cons, Bool.false_eq_true, if_false]
      omega

/-- A character that is read together with the one before it is not left as it is. -/
theorem literal?_ne_self {c d : Char} (h : binds c d = true) : literal? (c :: d :: cs) ≠ some (c :: d :: cs) := by
  intro hself
  obtain ⟨front, hfront, hmap⟩ := Option.bind_eq_some_iff.1 hself
  obtain ⟨rest, hrest, heq⟩ := Option.map_eq_some_iff.1 hmap
  have hone := Token.length_le_of_text? hfront
  have hle : rest.length ≤ cs.length := by simpa [h] using length_le_of_texts? hrest
  have hlength := congrArg List.length heq
  simp only [List.length_append, List.length_cons] at hlength
  omega

theorem literal?_cons_of_not_bound {c : Char} (hne : c ≠ '`') (h : ∀ d ∈ cs.head?, binds c d = false) :
    literal? (c :: cs) = (literal? cs).map (c :: ·) := by
  rw [literal?, tokensFrom, any_binds_eq_false h, Token.read_of_not_bound h, if_neg hne]
  rfl

/-- The shell leaves a text as it is exactly if it takes every character as it is. -/
theorem literal?_eq_self_iff : literal? cs = some cs ↔ Inert cs := by
  induction cs with
  | nil => exact iff_of_true rfl ⟨List.not_mem_nil, .nil⟩
  | cons c cs ih =>
    by_cases hquote : c = '`'
    · rw [hquote]
      exact iff_of_false nofun fun h ↦ h.1 (List.mem_cons_self ..)
    by_cases hbound : ∀ d ∈ cs.head?, binds c d = false
    · rw [literal?_cons_of_not_bound hquote hbound, Option.map_eq_some_iff]
      simp only [List.cons.injEq, true_and, exists_eq_right, ih, Inert, List.isChain_cons, List.mem_cons, not_or]
      exact ⟨fun h ↦ ⟨⟨Ne.symm hquote, h.1⟩, hbound, h.2⟩, fun h ↦ ⟨h.1.2, h.2.2⟩⟩
    · obtain ⟨d, hd, hbinds⟩ : ∃ d ∈ cs.head?, ¬binds c d = false := by simpa using hbound
      obtain ⟨rest, rfl⟩ := List.head?_eq_some_iff.1 hd
      refine iff_of_false (literal?_ne_self (by simpa using hbinds)) fun h ↦ ?_
      exact hbound (List.isChain_cons.1 h.2).1

/-- Where the shell asks for nothing, no command begins. -/
theorem commands_eq_nil_of_literal? (h : literal? cs = some ys) : commands cs = [] := by
  rw [literal?] at h
  rw [commands]
  generalize tokensFrom false cs = tokens at h ⊢
  induction tokens generalizing ys with
  | nil => rfl
  | cons token tokens ih =>
    obtain ⟨front, hfront, hmap⟩ := Option.bind_eq_some_iff.1 h
    obtain ⟨rest, hrest, -⟩ := Option.map_eq_some_iff.1 hmap
    have hnone : commandAt? token = none := by
      rcases token with ⟨_ | _ | _ | _, after⟩
      · rfl
      · rfl
      · cases hfront
      · cases hfront
    rw [List.filterMap_cons_none hnone]
    exact ih hrest

open Manifest

theorem binds_eq_false {c : Char} (h : isExpanded c = false) (d : Char) : binds c d = false := by
  unfold binds
  split
  · cases h
  · cases h
  · rfl

/-- A text without characters that a here-document expands. -/
theorem inert_of_not_isExpanded (h : ∀ c ∈ cs, isExpanded c = false) : Inert cs := by
  refine ⟨fun hmem ↦ absurd (h _ hmem) (by decide), ?_⟩
  induction cs with
  | nil => exact .nil
  | cons c cs ih =>
    obtain ⟨hc, hcs⟩ := List.forall_mem_cons.1 h
    exact List.isChain_cons.2 ⟨fun d _ ↦ binds_eq_false hc d, ih hcs⟩

theorem apart_of_not_isExpanded (h : ∀ c ∈ xs.getLast?, isExpanded c = false) : Apart xs ys :=
  fun c hc d _ ↦ binds_eq_false (h c hc) d

theorem apart_of_getLast? {c : Char} (h : c ∈ xs.getLast?) (hself : isExpanded c = false) : Apart xs ys :=
  apart_of_not_isExpanded fun d hd ↦ by rwa [← Option.mem_unique h hd]

/-- A quote is read by itself. -/
theorem apart_quote : Apart xs ('"' :: ys) := by
  intro c _ d hd
  obtain rfl : '"' = d := Option.some.inj hd
  unfold binds
  split <;> rfl

end HereDocument

end GaleraOperator
