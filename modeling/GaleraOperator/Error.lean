import GaleraOperator.Http.StatusCode
import GaleraOperator.Instant.Reader
import GaleraOperator.Json.Decode

/-!
# What can go wrong

The errors of a pass, their wording and what follows from them: whether a pass that failed is worth repeating soon,
whether a write lost against another writer, and whether something does not exist. Arithmetic that has no result at
all is not an error of the domain: it ends the pass at once.
-/

namespace GaleraOperator

/-- What the cluster's interface says about a request that it refuses. -/
structure Refusal where
  status : String
  message : String
  reason : String
  code : Nat
  deriving DecidableEq, Repr

/-- Why a request cannot be formed. -/
inductive RequestFault where
  | emptyName
  | invalidUri
  | longUri
  deriving DecidableEq, Repr

/-- Why a session cannot be opened. -/
inductive UpgradeFault where
  | refused (code : Nat)
  | noUpgrade
  | protocolMismatch
  deriving DecidableEq, Repr

/-- Why a call of the cluster's interface has no answer. -/
inductive CallFault where
  | refused (refusal : Refusal)
  | transport (message : String)
  | unreadable (fault : Json.TextFault)
  | unsendable (fault : RequestFault)
  | notUpgraded (fault : UpgradeFault)
  deriving DecidableEq, Repr

/-- What a pass can fail with. -/
inductive Error where
  | call (fault : CallFault)
  | serialization (fault : Json.TextFault)
  | missingNamespace
  | notFound (what : String)
  | exec (pod message : String)
  | crashLog (pod reason : String)
  | quantity (value : String)
  | resizeMark (value : String) (fault : Instant.Fault)
  | shrink (requested actual : String)
  | resize (reason : String)
  | statusWrite (conflict : String)
  deriving DecidableEq, Repr

/-- The wording of a refusal. -/
def Refusal.wording (r : Refusal) : String :=
  "ApiError: " ++ r.message ++ ": " ++ r.reason ++ " (ErrorResponse \x7b status: " ++ Text.quoted r.status ++
    ", message: " ++ Text.quoted r.message ++ ", reason: " ++ Text.quoted r.reason ++
    ", code: " ++ toString r.code ++ " \x7d)"

/-- The wording of a request fault. -/
def RequestFault.message : RequestFault → String
  | .emptyName => "failed to validate request: A non-empty name is required"
  | .invalidUri => "failed to build request: invalid uri character"
  | .longUri => "failed to build request: uri too long"

/-- The wording of an upgrade fault. -/
def UpgradeFault.message : UpgradeFault → String
  | .refused code => "failed to switch protocol: " ++ Http.statusText code
  | .noUpgrade => "upgrade header was not set to websocket"
  | .protocolMismatch => "Sec-WebSocket-Protocol mismatched"

/-- The wording of a call fault. -/
def CallFault.message : CallFault → String
  | .refused r => r.wording
  | .transport message => "ServiceError: " ++ message
  | .unreadable fault => "Error deserializing response: " ++ fault.message
  | .unsendable fault => "Failed to build request: " ++ fault.message
  | .notUpgraded fault => "failed to upgrade to a WebSocket connection: " ++ fault.message

namespace Error

/-- The wording of an error. -/
def message : Error → String
  | .call fault => "Kubernetes API error: " ++ fault.message
  | .serialization fault => "Serialization error: " ++ fault.message
  | .missingNamespace => "Missing object key: .metadata.namespace"
  | .notFound what => "Resource not found: " ++ what
  | .exec pod message => "Exec error in pod " ++ pod ++ ": " ++ message
  | .crashLog pod reason => "Cannot parse crash log of pod " ++ pod ++ ": " ++ reason
  | .quantity value => "Invalid storage quantity " ++ Text.quoted value
  | .resizeMark value fault => "Invalid resize annotation " ++ Text.quoted value ++ ": " ++ fault.message
  | .shrink requested actual =>
    "Requested storage (" ++ requested ++ ") is less than actual storage (" ++ actual ++ ")"
  | .resize reason => "Volume resize failed: " ++ reason
  | .statusWrite conflict => "Failed to write status: " ++ conflict

/-- The code of the refusal behind an error. -/
def code? : Error → Option Nat
  | .call (.refused r) => some r.code
  | _ => none

/-- Whether repeating the pass soon may help. Of the refusals that blame the request, only a conflict and a limit on
the rate pass by themselves. -/
def isRetryable : Error → Bool
  | .call (.refused r) => !(400 ≤ r.code && r.code < 500) || r.code = 409 || r.code = 429
  | .call _ | .exec .. | .notFound _ | .statusWrite _ => true
  | .shrink .. | .resize _ | .quantity _ | .resizeMark .. | .crashLog .. | .serialization _
  | .missingNamespace => false

/-- Whether a write was refused because the object had changed meanwhile. -/
def isConflict (e : Error) : Bool := e.code? = some 409

/-- Whether something does not exist. -/
def isNotFound : Error → Bool
  | .notFound _ => true
  | e => e.code? = some 404

end Error

/-- Arithmetic that has no result. -/
inductive Overflow where
  | multiplication
  | capacity
  deriving DecidableEq, Repr

/-- The wording of an overflow. -/
def Overflow.message : Overflow → String
  | .multiplication => "attempt to multiply with overflow"
  | .capacity => "capacity overflow"

/-- How a computation ends early: with an error that its caller may handle, or for good. -/
inductive Failure where
  | error (e : Error)
  | overflow (o : Overflow)
  deriving DecidableEq, Repr

end GaleraOperator
