import GaleraOperator.Health.Metrics

/-!
# Probes

What the operator tells about itself to those who watch it: that it is alive, whether it is ready, and its metrics.
-/

namespace GaleraOperator

/-- What the operator tells about itself. -/
structure Health where
  ready : Bool
  metrics : Metrics
  /-- The second of Unix time at which a pass last ended well; zero before the first. -/
  lastPass : Nat

/-- A reply to a probe. -/
structure ProbeReply where
  status : Nat
  contentType : Option String
  body : String
  deriving DecidableEq, Repr

namespace Health

/-- The health of an operator that has just started. -/
def initial : Health := ⟨false, .empty, 0⟩

instance : Inhabited Health := ⟨initial⟩

/-- Add up a measurement; `seconds` is how long the pass took that it was made in. -/
def record (h : Health) (ns name : String) (seconds : Float) (m : Measurement) : Health :=
  { h with metrics := h.metrics.record ns name seconds m }

/-- The type of plain replies. -/
def plainText : String := "text/plain; charset=utf-8"

/-- The type of the text in which metrics are collected. -/
def metricsText : String := "text/plain; version=0.0.4; charset=utf-8"

/-- What stands behind the host of an address. -/
def behindHost : List Char → List Char
  | ':' :: '/' :: '/' :: rest => rest.dropWhile fun c ↦ c ≠ '/' && c ≠ '?' && c ≠ '#'
  | _ :: rest => behindHost rest
  | [] => []

/-- The part of a request target that names what is asked for; the target may be a whole address. -/
def targetPath (target : String) : String :=
  let cs := target.toList
  let path := (if cs.head? = some '/' then cs else behindHost cs).takeWhile fun c ↦ c ≠ '?' && c ≠ '#'
  if path.isEmpty then "/" else String.ofList path

/-- The reply to a probe. -/
def probe (h : Health) (target : String) : ProbeReply :=
  match targetPath target with
  | "/healthz" => ⟨200, some plainText, "ok"⟩
  | "/readyz" => if h.ready then ⟨200, some plainText, "ready"⟩ else ⟨503, some plainText, "not ready"⟩
  | "/metrics" => ⟨200, some metricsText, h.metrics.text⟩
  | _ => ⟨404, none, ""⟩

end Health

end GaleraOperator
