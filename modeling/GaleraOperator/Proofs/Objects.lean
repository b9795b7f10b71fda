import GaleraOperator.Api.Store
import Mathlib

/-!
# Names of objects

The server gives every object a name, and tells the objects of a namespace apart by their names. Putting an object
leaves those of other names alone, and objects that are told apart stay so.
-/

namespace GaleraOperator

open Kube

namespace Objects

variable {α : Type} [HasMeta α] {x y z : α} {xs ys : Objects α} {ns name : String} {p : α → Bool}

/-- The server has given every object a name. -/
def Named (xs : Objects α) : Prop := ∀ x ∈ xs, (HasMeta.metadata x).name.isSome

/-- Whether objects of a kind have different namespaces or names. -/
def Distinct (xs : Objects α) : Prop := xs.Pairwise fun x y ↦ isAt (namespaceOf x) (nameOf x) y = false

theorem nameOf_eq_displayName (h : (HasMeta.metadata x).name.isSome) :
    nameOf x = (HasMeta.metadata x).displayName := by
  obtain ⟨name, hname⟩ := Option.isSome_iff_exists.1 h
  simp [nameOf, ObjectMeta.displayName, hname]

theorem nameOf_cronJob {job : CronJob} (h : job.metadata.name.isSome) : nameOf job = job.name :=
  nameOf_eq_displayName h

theorem nameOf_backup {b : Backup} (h : b.metadata.name.isSome) : nameOf b = b.name :=
  nameOf_eq_displayName h

theorem mem_put (h : y ∈ put x xs) : y = x ∨ y ∈ xs := by
  induction xs with
  | nil => exact .inl (List.mem_singleton.1 h)
  | cons first rest ih =>
    rw [put] at h
    split at h
    · exact (List.mem_cons.1 h).imp_right (List.mem_cons_of_mem _)
    · rcases List.mem_cons.1 h with rfl | h
      · exact .inr (List.mem_cons_self ..)
      · exact (ih h).imp_right (List.mem_cons_of_mem _)

/-- Only an object of the same namespace and name gives way. -/
theorem mem_put_of_mem (hy : y ∈ xs) (h : nameOf y ≠ nameOf x) : y ∈ put x xs := by
  induction xs with
  | nil => cases hy
  | cons first rest ih =>
    rw [put]
    split
    · next hat =>
      simp only [isAt, Bool.and_eq_true, decide_eq_true_eq] at hat
      rcases List.mem_cons.1 hy with rfl | hy
      · exact absurd hat.2 h
      · exact List.mem_cons_of_mem _ hy
    · rcases List.mem_cons.1 hy with rfl | hy
      · exact List.mem_cons_self ..
      · exact List.mem_cons_of_mem _ (ih hy)

theorem Named.put (h : Named xs) (hx : (HasMeta.metadata x).name.isSome) : Named (put x xs) := by
  intro y hy
  rcases mem_put hy with rfl | hy
  · exact hx
  · exact h y hy

theorem Named.sublist (h : Named xs) (hsub : ys.Sublist xs) : Named ys := fun y hy ↦ h y (hsub.subset hy)

theorem isAt_iff : isAt ns name x = true ↔ namespaceOf x = ns ∧ nameOf x = name := by simp [isAt]

/-- Nothing is seen of a change by which what is not looked at takes the place of what is not looked at. -/
theorem filter_put (hx : p x = false) (hplace : ∀ y ∈ xs, isAt (namespaceOf x) (nameOf x) y = true → p y = false) :
    (xs.put x).filter p = xs.filter p := by
  induction xs with
  | nil => simp [put, hx]
  | cons first rest ih =>
    obtain ⟨hfirst, hrest⟩ := List.forall_mem_cons.1 hplace
    rw [put]
    split
    · next hat => rw [List.filter_cons_of_neg (by simp [hx]), List.filter_cons_of_neg (by simp [hfirst hat])]
    · rw [List.filter_cons, List.filter_cons, ih hrest]

/-- What is not looked at adds nothing when it is put in its place. -/
theorem sublist_filter_put (hx : p x = false) : ((xs.put x).filter p).Sublist (xs.filter p) := by
  induction xs with
  | nil => simp [put, hx]
  | cons first rest ih =>
    rw [put]
    split
    · rw [List.filter_cons_of_neg (by simp [hx])]
      exact (List.sublist_cons_self first rest).filter p
    · rw [List.filter_cons, List.filter_cons]
      split
      · exact ih.cons_cons first
      · exact ih

/-- Nothing is seen of a removal of what is not looked at. -/
theorem filter_remove (hplace : ∀ y ∈ xs, isAt ns name y = true → p y = false) :
    (xs.remove ns name).filter p = xs.filter p := by
  rw [remove, List.filter_filter]
  refine List.filter_congr fun y hy ↦ ?_
  by_cases hat : isAt ns name y = true
  · simp [hplace y hy hat]
  · simp [hat]

theorem isAt_comm : isAt (namespaceOf x) (nameOf x) y = isAt (namespaceOf y) (nameOf y) x := by
  rw [Bool.eq_iff_iff, isAt_iff, isAt_iff, eq_comm, @eq_comm _ (nameOf y)]

namespace Distinct

theorem sublist (h : Distinct xs) (hsub : ys.Sublist xs) : Distinct ys := List.Pairwise.sublist hsub h

theorem put (h : Distinct xs) (x : α) : Distinct (xs.put x) := by
  induction xs with
  | nil => exact List.pairwise_singleton _ x
  | cons first rest ih =>
    obtain ⟨hfirst, hrest⟩ := List.pairwise_cons.1 h
    rw [Objects.put]
    split
    · next hat =>
      obtain ⟨hns, hname⟩ := isAt_iff.1 hat
      refine List.pairwise_cons.2 ⟨fun y hy ↦ ?_, hrest⟩
      rw [← hns, ← hname]
      exact hfirst y hy
    · next hat =>
      refine List.pairwise_cons.2 ⟨fun y hy ↦ ?_, ih hrest⟩
      rcases mem_put hy with rfl | hy
      · rw [isAt_comm]
        exact Bool.eq_false_iff.2 hat
      · exact hfirst y hy

/-- Every object is the one that is found at its place. -/
theorem find?_eq_some (h : Distinct xs) (hx : x ∈ xs) (hat : isAt ns name x = true) : xs.find? ns name = some x := by
  obtain ⟨rfl, rfl⟩ := isAt_iff.1 hat
  induction xs with
  | nil => cases hx
  | cons first rest ih =>
    obtain ⟨hfirst, hrest⟩ := List.pairwise_cons.1 h
    rcases List.mem_cons.1 hx with rfl | hx
    · exact List.find?_cons_of_pos hat
    · have hne : ¬isAt (namespaceOf x) (nameOf x) first = true := by
        rw [isAt_comm, hfirst x hx]
        exact Bool.false_ne_true
      exact (List.find?_cons_of_neg hne).trans (ih hrest hx)

/-- At most one object has a place. -/
theorem filter_isAt (h : Distinct xs) (ns name : String) : xs.filter (isAt ns name) = (xs.find? ns name).toList := by
  induction xs with
  | nil => rfl
  | cons first rest ih =>
    obtain ⟨hfirst, hrest⟩ := List.pairwise_cons.1 h
    by_cases hat : isAt ns name first = true
    · have hnone : rest.filter (isAt ns name) = [] := by
        rw [List.filter_eq_nil_iff]
        intro x hx
        obtain ⟨rfl, rfl⟩ := isAt_iff.1 hat
        rw [hfirst x hx]
        exact Bool.false_ne_true
      rw [List.filter_cons_of_pos hat, hnone, Objects.find?, List.find?_cons_of_pos hat]
      rfl
    · rw [List.filter_cons_of_neg hat, ih hrest, Objects.find?, Objects.find?, List.find?_cons_of_neg hat]

end Distinct

end Objects

end GaleraOperator
