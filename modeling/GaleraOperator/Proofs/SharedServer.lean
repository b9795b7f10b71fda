import GaleraOperator.Proofs.Objects
import GaleraOperator.Proofs.Run

/-!
# A server that others write to as well

The cluster resource is shared: between any two calls of the operator others may change it, delete it or make it anew.
The server gives every object that is written a version that was never given before, and accepts a replacement only if
it carries the version of what is stored. So two objects of one name and version are the same object, however much
happened between the two times at which they were looked at.
-/

namespace GaleraOperator

/-- The cluster as a server stores it under a version. -/
def Cluster.withVersion (c : Cluster) (version : String) : Cluster :=
  { c with metadata.resourceVersion := some version }

/-- What a server holds that gives versions: the clusters, each with its version, and all versions ever given. -/
structure VersionedServer where
  clusters : Objects Cluster
  given : List String
  versioned : ∀ c ∈ clusters, ∃ version ∈ given, c.metadata.resourceVersion = some version

namespace VersionedServer

variable {s t u : VersionedServer} {ns name version : String} {c : Cluster} {x : Exchange} {es fs : List Exchange}

/-- The cluster that is stored under a name. -/
def find? (s : VersionedServer) (ns name : String) : Option Cluster := s.clusters.find? ns name

/-- Store a cluster under a new version. -/
def store (s : VersionedServer) (c : Cluster) (version : String) : VersionedServer where
  clusters := s.clusters.put (c.withVersion version)
  given := version :: s.given
  versioned := by
    intro x hx
    rcases Objects.mem_put hx with rfl | hmem
    · exact ⟨version, List.mem_cons_self .., rfl⟩
    · obtain ⟨old, hgiven, hold⟩ := s.versioned x hmem
      exact ⟨old, List.mem_cons_of_mem _ hgiven, hold⟩

/-- Delete the cluster of a name. -/
def delete (s : VersionedServer) (ns name : String) : VersionedServer where
  clusters := s.clusters.remove ns name
  given := s.given
  versioned := fun c hc ↦ s.versioned c (List.mem_of_mem_filter hc)

theorem exists_version (h : s.find? ns name = some c) :
    ∃ version ∈ s.given, c.metadata.resourceVersion = some version :=
  s.versioned c (List.mem_of_find?_eq_some h)

theorem isAt_of_find? (h : s.find? ns name = some c) : Objects.isAt ns name c = true := List.find?_some h

theorem find?_store (ns name : String) :
    (s.store c version).find? ns name =
      if Objects.isAt ns name c then some (c.withVersion version) else s.find? ns name :=
  Objects.find?_put (c.withVersion version) ns name s.clusters

theorem find?_delete (ns name ns' name' : String) :
    (s.delete ns name).find? ns' name' = if ns' = ns ∧ name' = name then none else s.find? ns' name' :=
  Objects.find?_remove ns name ns' name' s.clusters

/-- Somebody else changes a cluster or makes one, or deletes one. -/
inductive Elsewhere (s : VersionedServer) : VersionedServer → Prop where
  | stored (c : Cluster) (version : String) (fresh : version ∉ s.given) : Elsewhere s (s.store c version)
  | deleted (ns name : String) : Elsewhere s (s.delete ns name)

/-- A replacement that carries the version of what is stored under its name. -/
def Current (s : VersionedServer) (ns : String) (c : Cluster) : Prop :=
  ∃ stored, s.find? ns (Objects.nameOf c) = some stored ∧
    c.metadata.resourceVersion = stored.metadata.resourceVersion

/-- What a server held when it accepted a replacement, and what it has held from then on. -/
structure Accepted where
  before : VersionedServer
  after : VersionedServer

end VersionedServer

/-- The replacement of a cluster or of its status that an exchange asks for, with the reply. Either puts the cluster
that is sent in the place of the stored one. -/
def Exchange.replacement? : Exchange → Option (String × Cluster × Except Error Cluster)
  | ⟨.call (.replaceCluster ns c), reply⟩ => some (ns, c, reply)
  | ⟨.call (.replaceClusterStatus ns c), reply⟩ => some (ns, c, reply)
  | _ => none

/-- What is not a call replaces nothing. -/
theorem Exchange.replacement?_of_call? {x : Exchange} (h : x.call? = none) : x.replacement? = none := by
  obtain ⟨effect, reply⟩ := x
  cases effect with
  | call c => cases h
  | now | wait | measure | touch => rfl

theorem Exchange.reply_of_replacement? {call : Call} {e : Error} {ns : String} {c : Cluster}
    {reply : Except Error Cluster}
    (h : Exchange.replacement? ⟨.call call, .error e⟩ = some (ns, c, reply)) : reply = .error e := by
  cases call <;> cases h <;> rfl

/-- A replacement that failed is a call that failed. -/
theorem Exchange.exists_call_of_replacement? {x : Exchange} {ns : String} {c : Cluster} {e : Error}
    (h : x.replacement? = some (ns, c, .error e)) : ∃ call, x = ⟨.call call, .error e⟩ := by
  obtain ⟨effect, reply⟩ := x
  cases effect with
  | call call => cases call <;> cases h <;> exact ⟨_, rfl⟩
  | now | wait | measure | touch => cases h

namespace VersionedServer

variable {s t u : VersionedServer} {ns name version : String} {c : Cluster} {x : Exchange} {es fs : List Exchange}
  {ws : List Accepted}

/-- What a server may answer, which replacement it accepts with that, and what it holds then. A replacement that gets
through is accepted exactly if it carries the version of what is stored, and refused as a conflict otherwise. Any call
may fail on its way, and the answer to a replacement may be lost after it was accepted. -/
inductive Answers (s : VersionedServer) : Exchange → Option Accepted → VersionedServer → Prop where
  | read (ns name : String) : Answers s ⟨.call (.getCluster ns name), .ok (s.find? ns name)⟩ none s
  | accepted {x : Exchange} {ns : String} {c : Cluster} (version : String)
      (asks : x.replacement? = some (ns, c, .ok (c.withVersion version))) (current : s.Current ns c)
      (fresh : version ∉ s.given) :
      Answers s x (some ⟨s, s.store c version⟩) (s.store c version)
  | outdated {x : Exchange} {ns : String} {c : Cluster} (refusal : Refusal)
      (asks : x.replacement? = some (ns, c, .error (.call (.refused refusal)))) (outdated : ¬s.Current ns c)
      (code : refusal.code = 409) : Answers s x none s
  | failed (call : Call) (e : Error) (fails : ¬e.isConflict) : Answers s ⟨.call call, .error e⟩ none s
  | unheard {x : Exchange} {ns : String} {c : Cluster} (version : String) (e : Error)
      (asks : x.replacement? = some (ns, c, .error e)) (current : s.Current ns c) (fresh : version ∉ s.given)
      (fails : ¬e.isConflict) :
      Answers s x (some ⟨s, s.store c version⟩) (s.store c version)
  | aside {x : Exchange} (nothing : x.call? = none) : Answers s x none s

/-- What may happen while the operator has the given exchanges with a server, and which of its replacements are
accepted. Before, between and after them others may do anything, and any number of times. -/
inductive History : VersionedServer → List Exchange → List Accepted → VersionedServer → Prop where
  | done (s : VersionedServer) : History s [] [] s
  | elsewhere {s t u : VersionedServer} {es : List Exchange} {ws : List Accepted} (change : s.Elsewhere t)
      (rest : History t es ws u) : History s es ws u
  | exchange {s t u : VersionedServer} {x : Exchange} {es : List Exchange} {w : Option Accepted} {ws : List Accepted}
      (answer : s.Answers x w t) (rest : History t es ws u) : History s (x :: es) (w.toList ++ ws) u

/-- What a server holds may have come from what it held before: versions stay given, and what is stored under an earlier
version has been stored all the time. -/
structure Later (s t : VersionedServer) : Prop where
  given : ∀ version ∈ s.given, version ∈ t.given
  stored : ∀ ns name c version, t.find? ns name = some c → c.metadata.resourceVersion = some version →
    version ∈ s.given → s.find? ns name = some c

namespace Later

theorem refl (s : VersionedServer) : s.Later s := ⟨fun _ h ↦ h, fun _ _ _ _ h _ _ ↦ h⟩

theorem trans (h : s.Later t) (h' : t.Later u) : s.Later u where
  given := fun version hgiven ↦ h'.given version (h.given version hgiven)
  stored := fun ns name c version hfind hversion hgiven ↦
    h.stored ns name c version (h'.stored ns name c version hfind hversion (h.given version hgiven)) hversion hgiven

/-- A cluster that is stored has a version that was not given before. -/
theorem store (fresh : version ∉ s.given) : s.Later (s.store c version) where
  given := fun _ hgiven ↦ List.mem_cons_of_mem _ hgiven
  stored := by
    intro ns name d v hfind hversion hgiven
    rw [find?_store] at hfind
    split at hfind
    · cases hfind
      cases hversion
      exact absurd hgiven fresh
    · exact hfind

theorem delete (s : VersionedServer) (ns name : String) : s.Later (s.delete ns name) where
  given := fun _ hgiven ↦ hgiven
  stored := by
    intro ns' name' d v hfind _ _
    rw [find?_delete] at hfind
    split at hfind
    · cases hfind
    · exact hfind

theorem elsewhere (h : s.Elsewhere t) : s.Later t := by
  cases h with
  | stored c version fresh => exact store fresh
  | deleted ns name => exact delete s ns name

theorem answers {w : Option Accepted} (h : s.Answers x w t) : s.Later t := by
  cases h with
  | accepted version asks current fresh => exact store fresh
  | unheard version e asks current fresh fails => exact store fresh
  | read | outdated | failed | aside => exact refl s

theorem history (h : History s es ws t) : s.Later t := by
  induction h with
  | done s => exact refl s
  | elsewhere change rest ih => exact (elsewhere change).trans ih
  | exchange answer rest ih => exact (answers answer).trans ih

/-- What is stored under the version of something that was stored under its name before is the same thing. -/
theorem eq_of_version {latest stored : Cluster} (h : s.Later t) (hread : s.find? ns name = some latest)
    (hstored : t.find? ns name = some stored)
    (hversion : latest.metadata.resourceVersion = stored.metadata.resourceVersion) : stored = latest := by
  obtain ⟨version, hgiven, hlatest⟩ := exists_version hread
  have hfound := h.stored ns name stored version hstored (hversion ▸ hlatest) hgiven
  rw [hread] at hfound
  exact (Option.some.inj hfound).symm

end Later

namespace History

/-- The first of some exchanges happens after some time in which others may have done something. -/
theorem cons (h : History s (x :: es) ws u) :
    ∃ before w after rest, s.Later before ∧ before.Answers x w after ∧ History after es rest u ∧
      ws = w.toList ++ rest := by
  generalize hall : x :: es = all at h
  induction h with
  | done s => cases hall
  | elsewhere change rest ih =>
    obtain ⟨before, w, after, ws', hlater, hanswer, hrest, hws⟩ := ih hall
    exact ⟨before, w, after, ws', (Later.elsewhere change).trans hlater, hanswer, hrest, hws⟩
  | @exchange s after u y ys w ws' answer rest _ =>
    cases hall
    exact ⟨s, w, after, ws', .refl s, answer, rest, rfl⟩

/-- A history of exchanges is one of the first of them, followed by one of the others. -/
theorem append (h : History s (es ++ fs) ws u) :
    ∃ t ws₁ ws₂, History s es ws₁ t ∧ History t fs ws₂ u ∧ ws = ws₁ ++ ws₂ := by
  generalize hall : es ++ fs = all at h
  induction h generalizing es with
  | done s =>
    obtain ⟨rfl, rfl⟩ := List.append_eq_nil_iff.1 hall
    exact ⟨s, [], [], .done s, .done s, rfl⟩
  | elsewhere change rest ih =>
    obtain ⟨t, ws₁, ws₂, hfirst, hsecond, hws⟩ := ih hall
    exact ⟨t, ws₁, ws₂, .elsewhere change hfirst, hsecond, hws⟩
  | exchange answer rest ih =>
    cases es with
    | nil =>
      cases hall
      exact ⟨_, [], _, .done _, .exchange answer rest, rfl⟩
    | cons y es =>
      cases hall
      obtain ⟨t, ws₁, ws₂, hfirst, hsecond, rfl⟩ := ih rfl
      exact ⟨t, _, ws₂, .exchange answer hfirst, hsecond, (List.append_assoc ..).symm⟩

/-- What asks nothing of the server leads to nothing that it accepts. -/
theorem of_calls_eq_nil (h : History s es ws u) (hnone : calls es = []) : ws = [] ∧ s.Later u := by
  refine ⟨?_, .history h⟩
  induction h with
  | done s => rfl
  | elsewhere change rest ih => exact ih hnone
  | @exchange s t u x es w ws answer rest ih =>
    obtain ⟨hx, hes⟩ : x.call? = none ∧ calls es = [] := by
      rw [calls_cons, List.append_eq_nil_iff] at hnone
      exact ⟨Option.toList_eq_nil_iff.1 hnone.1, hnone.2⟩
    have hasks := Exchange.replacement?_of_call? hx
    rw [ih hes, List.append_nil]
    cases answer with
    | read | failed => cases hx
    | outdated | aside => rfl
    | accepted version asks current fresh =>
      rw [asks] at hasks
      cases hasks
    | unheard version e asks current fresh fails =>
      rw [asks] at hasks
      cases hasks

end History

end VersionedServer

end GaleraOperator
