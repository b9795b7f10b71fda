import GaleraOperator.Api.Call
import GaleraOperator.Http.Reply
import GaleraOperator.Text.Utf8

/-!
# Sessions that run a command

A command is run over a connection that carries several channels, one of them for how the command ended. What comes
after that is not read, and a frame without data, which only shows that a channel is open, says nothing. A session may
also end without saying how the command did, which counts as well, but not by breaking off.
-/

namespace GaleraOperator.Exec

open Json

/-- A piece of data on one of the channels. -/
structure Frame where
  channel : Nat
  payload : List UInt8
  deriving DecidableEq, Repr

/-- How a connection ends. -/
inductive Ending where
  | closed
  | dropped
  deriving DecidableEq, Repr

/-- What comes over a connection. -/
structure Session where
  frames : List Frame
  ending : Ending
  deriving DecidableEq, Repr

/-- What answers the request to open a session. -/
inductive Opening where
  | rejected (code : Nat)
  | opened (protocol : String) (session : Session)
  deriving DecidableEq, Repr

/-- The channel of the output. -/
def outputChannel : Nat := 1

/-- The channel of the errors. -/
def errorChannel : Nat := 2

/-- The channel of how the command ended. -/
def statusChannel : Nat := 3

/-- The protocols that are understood. -/
def protocols : List String := ["v4.channel.k8s.io", "v5.channel.k8s.io"]

/-- How a command ended. -/
structure CommandStatus where
  status : Option String
  message : Option String
  deriving DecidableEq, Repr

/-- The details of how a command ended. -/
def details : Shape := .lenient "StatusDetails" <|
  Slot.optionals .text ["group", "kind", "name", "uid"] ++ [
    .optional "causes" (.list (.lenient "StatusCause" (Slot.optionals .text ["field", "message", "reason"]))),
    .optional "retryAfterSeconds" .int32]

/-- The decoder of how commands end. -/
def CommandStatus.decoder : Decoder CommandStatus := Kube.objectDecoder "v1" "Status" <|
  mk <$> Fields.optional "status" .text
    <*> Fields.optional "message" .text
    <* Fields.known [
      .optional "code" .int32, .optional "details" details,
      .optional "metadata" Http.ListMeta.decoder.shape, .optional "reason" .text]

/-- Why a command did not succeed. -/
def CommandStatus.failure? (s : CommandStatus) : Option String :=
  match s.status with
  | none => none
  | some status => if status = "Success" then none else some (s.message.getD status)

namespace Session

/-- The frames before the one that says how the command ended, and that frame. -/
def splitAtStatus : List Frame → List Frame × Option Frame
  | [] => ([], none)
  | f :: rest =>
    if f.channel = statusChannel && !f.payload.isEmpty then ([], some f)
    else
      let (before, status) := splitAtStatus rest
      (f :: before, status)

/-- What came on a channel, as text. -/
def textOf (channel : Nat) (frames : List Frame) : String :=
  String.ofList (Text.ofBytes ((frames.filter (·.channel = channel)).flatMap (·.payload)))

/-- Why a session did not come to its end. -/
def breakMessage (reason : String) : String := "Exec session failed: " ++ reason

/-- Why a command failed, given what says how it ended and how the connection did. -/
def failure? (status : Option Frame) (ending : Ending) : Option String :=
  match status with
  | some f =>
    match CommandStatus.decoder.readOctets (.ofBytes f.payload) with
    | .ok status => status.failure?
    | .error fault => some (breakMessage ("failed to deserialize status object: " ++ fault.message))
  | none =>
    match ending with
    | .closed => none
    | .dropped =>
      some (breakMessage ("failed to receive a WebSocket message: WebSocket protocol error: " ++
        "Connection reset without closing handshake"))

/-- What a command printed, or why it failed. A terminal has no channel for errors. -/
def output (s : Session) (pod : String) (tty : Bool) : Except Error ExecOutput :=
  let (frames, status) := splitAtStatus s.frames
  match failure? status s.ending with
  | some message => .error (.exec pod message)
  | none => .ok ⟨textOf outputChannel frames, if tty then "" else textOf errorChannel frames⟩

end Session

namespace Opening

/-- Whether a session was opened that is understood. -/
def isSession : Opening → Bool
  | .rejected _ => false
  | .opened protocol _ => protocols.contains protocol

/-- Why a rejected request is no session: a server that goes on to another protocol has to say to which one. -/
def rejection (code : Nat) : UpgradeFault := if code = 101 then .noUpgrade else .refused code

/-- What came of the request to run a command. -/
def output (o : Opening) (pod : String) (tty : Bool) : Except Error ExecOutput :=
  match o with
  | .rejected code => .error (.call (.notUpgraded (rejection code)))
  | .opened protocol session =>
    if protocols.contains protocol then session.output pod tty
    else .error (.call (.notUpgraded .protocolMismatch))

end Opening

end GaleraOperator.Exec
