import GaleraOperator.Proofs.ClusterAccess
import GaleraOperator.Proofs.Quantity.Alignment
import GaleraOperator.Proofs.Selector
import GaleraOperator.Volume.Reconcile

/-!
# The volumes that a server holds

What a pass over the volumes of a cluster looks up, said of the server's objects, and what the writes of such a pass
change in them: the note of a resize, the requested storage of the cluster, and the requests of claims.
-/

namespace GaleraOperator

open Kube

theorem map_eq_ok_iff {ε α β : Type} {f : α → β} {x : Except ε α} {b : β} :
    x.map f = .ok b ↔ ∃ a, x = .ok a ∧ f a = b := by
  cases x <;> simp [Except.map]

theorem map_eq_error_iff {ε α β : Type} {f : α → β} {x : Except ε α} {e : ε} : x.map f = .error e ↔ x = .error e := by
  cases x <;> simp [Except.map]

theorem mapM_eq_ok_iff {ε α β : Type} {f : α → Except ε β} {xs : List α} {ys : List β} :
    xs.mapM f = .ok ys ↔ List.Forall₂ (fun x y ↦ f x = .ok y) xs ys := by
  induction xs generalizing ys with
  | nil =>
    rw [List.mapM_nil, List.forall₂_nil_left_iff]
    exact ⟨fun h ↦ (Except.ok.inj h).symm, fun h ↦ congrArg _ h.symm⟩
  | cons x xs ih =>
    rw [List.mapM_cons, List.forall₂_cons_left_iff]
    simp only [← ih]
    constructor
    · intro h
      cases hx : f x with
      | error e =>
        rw [hx] at h
        cases h
      | ok y =>
        cases hxs : xs.mapM f with
        | error e =>
          rw [hx, hxs] at h
          cases h
        | ok zs =>
          rw [hx, hxs] at h
          cases h
          exact ⟨y, zs, rfl, rfl, rfl⟩
    · rintro ⟨y, zs, hx, hxs, rfl⟩
      rw [hx, hxs]
      rfl

theorem mem_of_mapM_eq_ok {ε α β : Type} {f : α → Except ε β} {xs : List α} {ys : List β} {y : β}
    (h : xs.mapM f = .ok ys) : y ∈ ys ↔ ∃ x ∈ xs, f x = .ok y := by
  have hforall := mapM_eq_ok_iff.1 h
  clear h
  induction hforall with
  | nil => simp
  | cons hhead _ ih => simp [hhead, ih, eq_comm]

theorem exists_eq_ok_of_mapM_eq_ok {ε α β : Type} {f : α → Except ε β} {xs : List α} {ys : List β} {x : α}
    (h : xs.mapM f = .ok ys) (hx : x ∈ xs) : ∃ y, f x = .ok y := by
  have hforall := mapM_eq_ok_iff.1 h
  clear h
  induction hforall with
  | nil => cases hx
  | cons hhead _ ih =>
    rcases List.mem_cons.1 hx with rfl | hx
    · exact ⟨_, hhead⟩
    · exact ih hx

theorem mapM_eq_error {ε α β : Type} {f : α → Except ε β} {xs : List α} {e : ε} (h : xs.mapM f = .error e) :
    ∃ x ∈ xs, f x = .error e := by
  induction xs with
  | nil => cases h
  | cons x xs ih =>
    rw [List.mapM_cons] at h
    cases hx : f x with
    | error e' =>
      rw [hx] at h
      cases h
      exact ⟨x, by simp, hx⟩
    | ok y =>
      cases hxs : xs.mapM f with
      | error e' =>
        rw [hx, hxs] at h
        cases h
        obtain ⟨z, hz, hfz⟩ := ih hxs
        exact ⟨z, by simp [hz], hfz⟩
      | ok ys =>
        rw [hx, hxs] at h
        cases h

/-- Whether a failure is the verdict on a resize: that it failed, or that it is refused. -/
def Failure.isVerdict : Failure → Bool
  | .error (.resize _) | .error (.shrink ..) => true
  | _ => false

theorem Store.Refused.not_isVerdict {α : Type} {es : List Exchange} {f : Failure}
    (h : Store.Refused (α := α) es (.error f)) : f.isVerdict = false := by
  obtain ⟨_, _, _, hr⟩ := h
  cases hr
  rfl

theorem Quantity.not_isVerdict_of_alignedBytes {value : String} {f : Failure} (h : alignedBytes value = .error f) :
    f.isVerdict = false := by
  rcases f with e | o
  · rw [eq_quantity_of_bytes (alignedBytes_eq_error_iff.1 h)]
    rfl
  · rfl

/-- Bytes in whole allocation units have a text. -/
theorem Quantity.ofBytes_of_alignedBytes {value : String} {n : Nat} (h : alignedBytes value = .ok n) :
    ∃ quantity, ofBytes n = .ok quantity := by
  obtain ⟨bytes, -, hfits, hleast⟩ := alignedBytes_eq_ok_iff.1 h
  obtain rfl := hleast.unique (isLeast_alignedTo bytes)
  exact ⟨_, ofBytes_of_le (alignedTo_le_of_le hfits)⟩

namespace Cluster

variable (c : Cluster) (text : String)

@[simp] theorem resizeMark?_withResizeMark : (c.withResizeMark text).resizeMark? = some text := by
  simp [resizeMark?, withResizeMark]

@[simp] theorem resizeMark?_withoutResizeMark : c.withoutResizeMark.resizeMark? = none := by
  simp [resizeMark?, withoutResizeMark]

@[simp] theorem resizeMark?_withStorage : (c.withStorage text).resizeMark? = c.resizeMark? := rfl

@[simp] theorem name_withResizeMark : (c.withResizeMark text).name = c.name := rfl

@[simp] theorem requestedStorage_withResizeMark : (c.withResizeMark text).requestedStorage = c.requestedStorage := rfl

@[simp] theorem requestedStorage_withoutResizeMark : c.withoutResizeMark.requestedStorage = c.requestedStorage := rfl

@[simp] theorem requestedStorage_withStorage : (c.withStorage text).requestedStorage = text := rfl

end Cluster

/-- Objects of a namespace that carry the labels are all selected by them. -/
theorem Objects.select_eq_self {α : Type} [HasMeta α] {ns : String} {labels : Labels} {xs : Objects α}
    (hlabels : labels.Separable)
    (h : ∀ x ∈ xs, Objects.namespaceOf x = ns ∧ (HasMeta.metadata x).labels = some labels) :
    Objects.select ns labels.selector xs = xs := by
  refine List.filter_eq_self.2 fun x hx ↦ ?_
  obtain ⟨hns, hx⟩ := h x hx
  have haccepts := Selector.accepts_selector_self hlabels
  simp [hns, ObjectMeta.labelsOrNone, hx, haccepts]

namespace Volume

variable {σ : Type} {m m' : σ} {es : List Exchange} {s t : Store} {ns : String} {c : Cluster} {requested : Nat}

open Pass

/-- The data claims that a server holds of a cluster. -/
def dataClaims (s : Store) (ns : String) (c : Cluster) : List Claim :=
  (s.claims.select ns (c.tierLabels .database).selector).filter (isDataClaim c)

/-- The names of the data claims of the pods that a server holds of a cluster. -/
def podClaimNames (s : Store) (ns : String) (c : Cluster) : List String :=
  (s.pods.select ns (c.tierLabels .database).selector).map fun pod ↦ dataClaimName pod.name

/-- The data claims of pods that a server holds of a cluster. -/
def usedClaims (s : Store) (ns : String) (c : Cluster) : List Claim :=
  (dataClaims s ns c).filter fun claim ↦ (podClaimNames s ns c).contains claim.name

/-- Looking up the volumes changes nothing and gives the data claims, if no call is refused. -/
theorem runs_find {r : Except Failure Volumes} (h : (find ns c).Runs m es r m') (hs : s.Serves es t) :
    t = s ∧ m' = m ∧ Reads es ∧ (Store.Refused es r ∨ r = .ok ⟨dataClaims s ns c, usedClaims s ns c⟩) := by
  rcases runs_call_bind.1 h with ⟨e, rfl, rfl, rfl⟩ | ⟨held, rest, rfl, hrest⟩
  · obtain ⟨⟨fault, rfl⟩, rfl⟩ := Store.serves_error.1 hs
    exact ⟨rfl, rfl, by simp [Call.isWrite], .inl Store.refused_self⟩
  · obtain ⟨hheld, hs⟩ := Store.serves_ok.1 hs
    have hall : held.filter (isDataClaim c) = dataClaims s ns c := congrArg _ hheld
    simp only [hall] at hrest
    by_cases hempty : (dataClaims s ns c).isEmpty
    · obtain ⟨rfl, rfl, rfl⟩ := runs_pure.1 (by simpa [hempty] using hrest)
      obtain rfl : t = s := hs
      rw [List.isEmpty_iff] at hempty
      exact ⟨rfl, rfl, by simp [Call.isWrite], .inr (by simp [usedClaims, hempty])⟩
    · simp only [hempty, Bool.false_eq_true, if_false] at hrest
      rcases runs_call_bind.1 hrest with ⟨e, rfl, rfl, rfl⟩ | ⟨pods, rest, rfl, hend⟩
      · obtain ⟨⟨fault, rfl⟩, rfl⟩ := Store.serves_error.1 hs
        exact ⟨rfl, rfl, by simp [Call.isWrite], .inl Store.refused_self.cons⟩
      · obtain ⟨hpods, hs⟩ := Store.serves_ok.1 hs
        obtain ⟨rfl, rfl, rfl⟩ := runs_pure.1 hend
        obtain rfl : t = s := hs
        refine ⟨rfl, rfl, by simp [Call.isWrite], .inr ?_⟩
        rw [hpods]
        rfl

/-- The capacity of a claim does not tell that it has come to the requested bytes. -/
def lags (requested : Nat) (claim : Claim) : Bool :=
  match capacityBytes claim with
  | .ok (some bytes) => bytes ≠ requested
  | _ => true

/-- The claims that do not have the requested bytes, as far as is known. -/
def lagging (requested : Nat) (claims : List Claim) : List Claim := claims.filter (lags requested)

theorem lags_of_capacityBytes (requested : Nat) {claim : Claim} {capacity : Option Nat}
    (h : capacityBytes claim = .ok capacity) :
    lags requested claim = !decide (capacity = some requested) := by
  cases capacity <;> simp [lags, h]

theorem lags_eq_false {claim : Claim} : lags requested claim = false ↔ capacityBytes claim = .ok (some requested) := by
  unfold lags
  split
  · next bytes h => simp [h]
  · next h => simpa using h requested

theorem not_isVerdict_of_capacityBytes {claim : Claim} {f : Failure} (h : capacityBytes claim = .error f) :
    f.isVerdict = false := by
  unfold capacityBytes at h
  split at h
  · cases h
  · exact Quantity.not_isVerdict_of_alignedBytes (map_eq_error_iff.1 h)

end Volume

end GaleraOperator
