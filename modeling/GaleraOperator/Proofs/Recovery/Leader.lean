import GaleraOperator.Recovery.Leader
import Mathlib

/-!
# The elected pod

Staying elected is a total preorder on what pods say of themselves, and the elected pod is a least one in it: none has
a later transaction, and none with the same transaction a lower ordinal. Of several such pods the first one is elected,
so where the ordinals tell the pods apart it does not matter in which order they are listed.
-/

namespace GaleraOperator.Signature

theorem staysBefore_iff {s t : Signature} :
    s.staysBefore t ↔ t.seqno < s.seqno ∨ s.seqno = t.seqno ∧ s.ordinal ≤ t.ordinal := by
  simp [staysBefore]

theorem staysBefore_refl (s : Signature) : s.staysBefore s := by simp [staysBefore]

theorem staysBefore_trans {s t u : Signature} (h : s.staysBefore t) (h' : t.staysBefore u) :
    s.staysBefore u := by
  rw [staysBefore_iff] at *
  omega

theorem staysBefore_total {s t : Signature} (h : ¬s.staysBefore t) : t.staysBefore s := by
  rw [staysBefore_iff] at *
  omega

/-- Two pods that stay elected before each other are equals. -/
theorem staysBefore_antisymm {s t : Signature} (h : s.staysBefore t) (h' : t.staysBefore s) :
    s.seqno = t.seqno ∧ s.ordinal = t.ordinal := by
  rw [staysBefore_iff] at *
  omega

variable {xs ys : List Signature} {s : Signature}

/-- What one more pod does to the election. -/
theorem leader?_concat (xs : List Signature) (s : Signature) :
    leader? (xs ++ [s]) =
      match leader? xs with
      | some e => if e.staysBefore s then some e else some s
      | none => some s :=
  List.foldl_concat ..

/-- Nobody is elected only from nobody. -/
theorem leader?_eq_none_iff : leader? xs = none ↔ xs = [] := by
  cases xs using List.reverseRecOn with
  | nil => simp [leader?]
  | append_singleton xs s =>
    rw [leader?_concat]
    refine iff_of_false ?_ (by simp)
    split
    · split <;> exact Option.some_ne_none _
    · exact Option.some_ne_none _

private theorem exists_split_of_leader? (h : leader? xs = some s) :
    ∃ before after, xs = before ++ s :: after ∧ (∀ t ∈ before, ¬t.staysBefore s) ∧ ∀ t ∈ after, s.staysBefore t := by
  induction xs using List.reverseRecOn generalizing s with
  | nil => cases h
  | append_singleton xs x ih =>
    rw [leader?_concat] at h
    split at h
    · next e hleader =>
      obtain ⟨before, after, rfl, hbefore, hafter⟩ := ih hleader
      split at h
      · next hstays =>
        cases h
        refine ⟨before, after ++ [x], by simp, hbefore, ?_⟩
        simpa [or_imp, forall_and] using ⟨hafter, hstays⟩
      · next hgoes =>
        -- whoever would stay before the newcomer would keep the one who had to go
        cases h
        have hbest : ∀ t ∈ before ++ e :: after, e.staysBefore t := by
          intro t ht
          rcases List.mem_append.1 ht with ht | ht
          · exact staysBefore_total (hbefore t ht)
          · rcases List.mem_cons.1 ht with rfl | ht
            · exact staysBefore_refl _
            · exact hafter t ht
        refine ⟨before ++ e :: after, [], rfl, fun t ht hstays ↦ ?_, List.forall_mem_nil _⟩
        exact hgoes (staysBefore_trans (hbest t ht) hstays)
    · next hnone =>
      cases h
      rw [leader?_eq_none_iff.1 hnone]
      exact ⟨[], [], rfl, List.forall_mem_nil _, List.forall_mem_nil _⟩

/-- The elected pod is the first one that stays elected whichever other one turns up. -/
theorem leader?_eq_some_iff : leader? xs = some s ↔
    ∃ before after, xs = before ++ s :: after ∧ (∀ t ∈ before, ¬t.staysBefore s) ∧ ∀ t ∈ after, s.staysBefore t := by
  refine ⟨exists_split_of_leader?, ?_⟩
  rintro ⟨before, after, rfl, hbefore, hafter⟩
  induction after using List.reverseRecOn with
  | nil =>
    rw [leader?_concat]
    cases hleader : leader? before with
    | none => rfl
    | some e =>
      obtain ⟨_, _, rfl, -, -⟩ := exists_split_of_leader? hleader
      exact if_neg (hbefore e (by simp))
  | append_singleton after t ih =>
    rw [← List.cons_append, ← List.append_assoc, leader?_concat, ih fun u hu ↦ hafter u (List.mem_append_left _ hu)]
    exact if_pos (hafter t (by simp))

/-- The elected pod is one of them, and stays elected whichever other one turns up. -/
theorem leader?_eq_some (h : leader? xs = some s) : s ∈ xs ∧ ∀ t ∈ xs, s.staysBefore t := by
  obtain ⟨before, after, rfl, hbefore, hafter⟩ := leader?_eq_some_iff.1 h
  refine ⟨by simp, fun t ht ↦ ?_⟩
  rcases List.mem_append.1 ht with ht | ht
  · exact staysBefore_total (hbefore t ht)
  · rcases List.mem_cons.1 ht with rfl | ht
    · exact staysBefore_refl _
    · exact hafter t ht

/-- Where the ordinals tell the pods apart, the election does not depend on their order. -/
theorem leader?_perm (hordinals : (xs.map (·.ordinal)).Nodup) (hperm : xs.Perm ys) : leader? ys = leader? xs := by
  cases hx : leader? xs with
  | none =>
    obtain rfl := leader?_eq_none_iff.1 hx
    rw [hperm.nil_eq.symm, leader?_eq_none_iff]
  | some s =>
    obtain ⟨hs, hbest⟩ := leader?_eq_some hx
    cases hy : leader? ys with
    | none =>
      obtain rfl := leader?_eq_none_iff.1 hy
      cases hperm.mem_iff.1 hs
    | some t =>
      obtain ⟨ht, hbest'⟩ := leader?_eq_some hy
      have ht' : t ∈ xs := hperm.mem_iff.2 ht
      have hsame := staysBefore_antisymm (hbest t ht') (hbest' s (hperm.mem_iff.1 hs))
      rw [List.inj_on_of_nodup_map hordinals hs ht' hsame.2]

/-- Somebody is elected unless there is nobody: a pod that none has a later transaction than, and none with the same
transaction a lower ordinal. Where the ordinals tell the pods apart, it is the same one in whichever order they are
listed. -/
theorem leader?_isBest (xs : List Signature) :
    (leader? xs = none ↔ xs = []) ∧
    (∀ s, leader? xs = some s →
      s ∈ xs ∧ (∀ t ∈ xs, t.seqno ≤ s.seqno) ∧ ∀ t ∈ xs, t.seqno = s.seqno → s.ordinal ≤ t.ordinal) ∧
    ((xs.map (·.ordinal)).Nodup → ∀ ys, xs.Perm ys → leader? ys = leader? xs) := by
  refine ⟨leader?_eq_none_iff, fun s hs ↦ ?_, fun hordinals ys hperm ↦ leader?_perm hordinals hperm⟩
  obtain ⟨hmem, hbest⟩ := leader?_eq_some hs
  refine ⟨hmem, fun t ht ↦ ?_, fun t ht hsame ↦ ?_⟩
  · have hstays := staysBefore_iff.1 (hbest t ht)
    omega
  · have hstays := staysBefore_iff.1 (hbest t ht)
    omega

/-- Pods of a crashed cluster, two of them with the latest transaction. -/
private def crashed : List Signature := [⟨"db-pxc-2", 2, 12⟩, ⟨"db-pxc-0", 0, -1⟩, ⟨"db-pxc-1", 1, 12⟩]

/-- The pod with the lower ordinal is elected, also if the pods are listed the other way round. -/
theorem leader?_isBest_crashed :
    (crashed.map (·.ordinal)).Nodup ∧ crashed.Perm crashed.reverse ∧
      leader? crashed = some ⟨"db-pxc-1", 1, 12⟩ ∧ (∀ t ∈ crashed, t.seqno ≤ 12) ∧
      leader? crashed.reverse = leader? crashed := by
  have hordinals : (crashed.map (·.ordinal)).Nodup := by decide
  have hperm : crashed.Perm crashed.reverse := (List.reverse_perm _).symm
  have hleader : leader? crashed = some ⟨"db-pxc-1", 1, 12⟩ := by decide
  obtain ⟨-, hbest, hsame⟩ := leader?_isBest crashed
  exact ⟨hordinals, hperm, hleader, (hbest _ hleader).2.1, hsame hordinals _ hperm⟩

end GaleraOperator.Signature
