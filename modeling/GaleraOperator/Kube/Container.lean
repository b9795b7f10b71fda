import GaleraOperator.Kube.Volume

/-!
# Containers

The containers of a pod. The operator reads and writes what they run; how they are watched over, what they may do and
where they find their volumes is carried along.
-/

namespace GaleraOperator.Kube

open Json

/-- An environment variable of a container. -/
structure EnvVar where
  name : String
  value : Option String
  carried : Members
  deriving DecidableEq, Repr

/-- A key of a dictionary or of a secret. -/
def EnvVar.keySelector (kind : String) : Shape := .lenient kind <|
  Slot.filledAll .text ["key", "name"] ++ [.optional "optional" .truth]

/-- Where the value of a variable comes from. -/
def EnvVar.source : Shape := .lenient "EnvVarSource" [
  .optional "configMapKeyRef" (keySelector "ConfigMapKeySelector"),
  .optional "fieldRef" Volume.objectField,
  .optional "resourceFieldRef" Volume.resourceField,
  .optional "secretKeyRef" (keySelector "SecretKeySelector")]

/-- The decoder of environment variables. -/
def EnvVar.decoder : Decoder EnvVar := Fields.lenient "EnvVar" <|
  mk <$> Fields.filled "name" .text
    <*> Fields.optional "value" .text
    <*> Fields.carried [.optional "valueFrom" source]

/-- An environment variable as a document. -/
def EnvVar.toJson (v : EnvVar) : Json :=
  objectJson [("name", some (.string v.name)), ("value", v.value.map .string)] v.carried

/-- A container. -/
structure Container where
  args : Option (List String)
  command : Option (List String)
  env : Option (List EnvVar)
  image : Option String
  name : String
  carried : Members
  deriving DecidableEq, Repr

namespace Container

open Slot

/-- A command to run. -/
def execAction : Shape := .lenient "ExecAction" [.optional "command" (.list .text)]

/-- A request to make. -/
def httpGetAction : Shape := .lenient "HTTPGetAction" [
  .optional "host" .text,
  .optional "httpHeaders" (.list (.lenient "HTTPHeader" (filledAll .text ["name", "value"]))),
  .optional "path" .text,
  .filled "port" (.leaf .integerOrText),
  .optional "scheme" .text]

/-- A connection to open. -/
def tcpSocketAction : Shape :=
  .lenient "TCPSocketAction" [.optional "host" .text, .filled "port" (.leaf .integerOrText)]

/-- What to do when a container starts or stops. -/
def lifecycleHandler : Shape := .lenient "LifecycleHandler" [
  .optional "exec" execAction,
  .optional "httpGet" httpGetAction,
  .optional "sleep" (.lenient "SleepAction" [.filled "seconds" .int64]),
  .optional "tcpSocket" tcpSocketAction]

/-- How to find out whether a container is well. -/
def probe : Shape := .lenient "Probe" <|
  optionals .int32 ["failureThreshold", "initialDelaySeconds", "periodSeconds", "successThreshold",
    "timeoutSeconds"] ++ [
    .optional "exec" execAction,
    .optional "grpc" (.lenient "GRPCAction" [.filled "port" .int32, .optional "service" .text]),
    .optional "httpGet" httpGetAction,
    .optional "tcpSocket" tcpSocketAction,
    .optional "terminationGracePeriodSeconds" .int64]

/-- Where a container can be reached. -/
def endpoint : Shape := .lenient "ContainerPort" <|
  optionals .text ["hostIP", "name", "protocol"] ++ [.filled "containerPort" .int32, .optional "hostPort" .int32]

/-- The resources that a container asks for. -/
def resources : Shape := .lenient "ResourceRequirements" [
  .optional "claims" (.list (.lenient "ResourceClaim" [.filled "name" .text, .optional "request" .text])),
  .optional "limits" .texts,
  .optional "requests" .texts]

/-- A profile of what a container may do. -/
def profile (kind : String) : Shape := .lenient kind [.optional "localhostProfile" .text, .filled "type" .text]

/-- What a container and a pod have in common of what they may do. -/
def securityFields : List (Slot Shape) := [
  .optional "appArmorProfile" (profile "AppArmorProfile"),
  .optional "runAsGroup" .int64,
  .optional "runAsNonRoot" .truth,
  .optional "runAsUser" .int64,
  .optional "seLinuxOptions" (.lenient "SELinuxOptions" (optionals .text ["level", "role", "type", "user"])),
  .optional "seccompProfile" (profile "SeccompProfile"),
  .optional "windowsOptions" <| .lenient "WindowsSecurityContextOptions" <|
    .optional "hostProcess" .truth ::
      optionals .text ["gmsaCredentialSpec", "gmsaCredentialSpecName", "runAsUserName"]]

/-- What a container may do. -/
def securityContext : Shape := .lenient "SecurityContext" <|
  securityFields ++ optionals .truth ["allowPrivilegeEscalation", "privileged", "readOnlyRootFilesystem"] ++ [
    .optional "capabilities" (.lenient "Capabilities" (optionals (.list .text) ["add", "drop"])),
    .optional "procMount" .text]

/-- Where a container finds a volume. -/
def volumeMount : Shape := .lenient "VolumeMount" <|
  optionals .text ["mountPropagation", "recursiveReadOnly", "subPath", "subPathExpr"] ++
    filledAll .text ["mountPath", "name"] ++ [.optional "readOnly" .truth]

/-- A dictionary or a secret of environment variables. -/
def envSource (kind : String) : Shape := .lenient kind [.filled "name" .text, .optional "optional" .truth]

/-- The members of a container that the operator does not read. -/
def carriedFields : List (Slot Shape) :=
  optionals .text ["imagePullPolicy", "restartPolicy", "terminationMessagePath", "terminationMessagePolicy",
    "workingDir"] ++
  optionals .truth ["stdin", "stdinOnce", "tty"] ++
  optionals probe ["livenessProbe", "readinessProbe", "startupProbe"] ++ [
    .optional "envFrom" <| .list <| .lenient "EnvFromSource" [
      .optional "configMapRef" (envSource "ConfigMapEnvSource"),
      .optional "prefix" .text,
      .optional "secretRef" (envSource "SecretEnvSource")],
    .optional "lifecycle" (.lenient "Lifecycle" (optionals lifecycleHandler ["postStart", "preStop"])),
    .optional "ports" (.list endpoint),
    .optional "resizePolicy" <| .list <| .lenient "ContainerResizePolicy" <|
      filledAll .text ["resourceName", "restartPolicy"],
    .optional "resources" resources,
    .optional "securityContext" securityContext,
    .optional "volumeDevices" (.list (.lenient "VolumeDevice" (filledAll .text ["devicePath", "name"]))),
    .optional "volumeMounts" (.list volumeMount)]

/-- The decoder of containers of a kind, with members of its own. -/
def decoderOf (kind : String) (others : List (Slot Shape)) : Decoder Container := Fields.lenient kind <|
  mk <$> Fields.optional "args" (.list .text)
    <*> Fields.optional "command" (.list .text)
    <*> Fields.optional "env" (.list EnvVar.decoder)
    <*> Fields.optional "image" .text
    <*> Fields.filled "name" .text
    <*> Fields.carried (carriedFields ++ others)

/-- The decoder of containers. -/
def decoder : Decoder Container := decoderOf "Container" []

/-- The containers that are put into a pod that runs already. -/
def ephemeral : Shape := (decoderOf "EphemeralContainer" [.optional "targetContainerName" .text]).shape

/-- Strings as a document. -/
def stringsJson (ss : List String) : Json := .array (ss.map .string)

/-- A container as a document. -/
def toJson (c : Container) : Json :=
  objectJson [
    ("args", c.args.map stringsJson),
    ("command", c.command.map stringsJson),
    ("env", c.env.map fun vs ↦ .array (vs.map EnvVar.toJson)),
    ("image", c.image.map .string),
    ("name", some (.string c.name))] c.carried

end Container

end GaleraOperator.Kube
