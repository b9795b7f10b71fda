import GaleraOperator.Api.Store
import GaleraOperator.Api.Subject
import GaleraOperator.Health.Probe
import GaleraOperator.Pass.Basic

/-!
# A testbed

Surroundings for the operator to be tried in: a model of the cluster whose calls can be made to fail, and which others
change in the middle of a pass. Every call is noted. The clock stands still unless it is set, and waiting takes no
time but is added up.
-/

namespace GaleraOperator

/-- A failure that calls are made to meet, with changes of type `ε` that others make at that moment. -/
structure FaultWith (ε : Type) where
  operation : Operation
  /-- What a call has to be directed at; any call of the operation fails if it is not given. -/
  subject : Option String
  /-- How many calls are let through before the first one fails. -/
  skip : Nat
  /-- How many calls fail; there is no limit if it is not given. -/
  times : Option Nat
  error : Error
  changes : List ε

/-- A change of the surroundings that is none of the operator's. -/
inductive Edit where
  | put (resource : Resource)
  | remove (kind : ResourceKind) (ns name : String)
  | log (pod text : String)
  | output (pod : String) (output : ExecOutput)
  | addFault (fault : FaultWith Edit)
  | clearFaults
  | setClock (time : Instant)

/-- A failure that calls are made to meet. -/
abbrev Fault := FaultWith Edit

namespace FaultWith

/-- Whether a call is one of those to fail. -/
def concerns {ε : Type} (f : FaultWith ε) (c : Call) : Bool :=
  f.operation = c.operation && f.subject.all (· = c.subject) && f.times.all (0 < ·)

/-- The fault that a call meets, and the faults as they are for the next call. -/
def meet {ε : Type} (c : Call) : List (FaultWith ε) → Option (FaultWith ε) × List (FaultWith ε)
  | [] => (none, [])
  | f :: rest =>
    if f.concerns c then
      if f.skip = 0 then (some f, { f with times := f.times.map (· - 1) } :: rest)
      else
        let (met, rest) := meet c rest
        (met, { f with skip := f.skip - 1 } :: rest)
    else
      let (met, rest) := meet c rest
      (met, f :: rest)

end FaultWith

/-- Surroundings to try the operator in. -/
structure Testbed where
  store : Store
  faults : List Fault
  clock : Instant
  /-- The calls that were made, the latest first. -/
  made : List Call
  /-- The time that was let pass. -/
  waited : Duration
  health : Option Health

/-- How long a wait takes; `sample` is a random number from 0 up to 1. -/
def Wait.duration {ν : Type} [DelayArithmetic ν] (sample : ν) : Wait → Duration
  | .conflict past => Backoff.betweenWrites.delay sample (.ofNat past)
  | .settle d => d

namespace Testbed

/-- Make a change. -/
def edit (t : Testbed) : Edit → Testbed
  | .put r => { t with store := t.store.put r }
  | .remove kind ns name => { t with store := t.store.remove ns name kind }
  | .log pod text => { t with store.logs := t.store.logs.insert pod text }
  | .output pod output => { t with store.outputs := t.store.outputs.insert pod output }
  | .addFault f => { t with faults := t.faults ++ [f] }
  | .clearFaults => { t with faults := [] }
  | .setClock time => { t with clock := time }

/-- Answer a call: with the fault that it meets, or as the cluster does when all goes well. -/
def answer (c : Call) (t : Testbed) : Except Error c.Answer × Testbed :=
  let (met, faults) := FaultWith.meet c t.faults
  let t := { t with faults := faults, made := c :: t.made }
  match met with
  | some f => (.error f.error, f.changes.foldl edit t)
  | none =>
    let (answer, store) := t.store.perform c
    (.ok answer, { t with store := store })

/-- The testbed as the surroundings of a pass, which takes no time in it. -/
def surroundings : Interaction.Surroundings Testbed
  | .call c, t => t.answer c
  | .now, t => (t.clock, t)
  | .wait w, t => ((), { t with waited := t.waited + w.duration (0.5 : Float) })
  | .measure ns name m, t => ((), { t with health := t.health.map (·.record ns name 0 m) })
  | .touch seconds, t => ((), { t with health := t.health.map ({ · with lastPass := seconds }) })

end Testbed

end GaleraOperator
