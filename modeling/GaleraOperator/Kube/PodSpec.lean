import GaleraOperator.Kube.Container

/-!
# What pods run

The containers of a pod and the conditions under which they run, and the templates that pods are made from.
-/

namespace GaleraOperator.Kube

open Json

/-- What a pod runs. -/
structure PodSpec where
  containers : List Container
  restartPolicy : Option String
  serviceAccountName : Option String
  carried : Members
  deriving DecidableEq, Repr

namespace PodSpec

open Slot

/-- A condition on a node. -/
def nodeRequirements : Shape := .list <| .lenient "NodeSelectorRequirement" <|
  filledAll .text ["key", "operator"] ++ [.optional "values" (.list .text)]

/-- Conditions on a node. -/
def nodeTerm : Shape := .lenient "NodeSelectorTerm" (optionals nodeRequirements ["matchExpressions", "matchFields"])

/-- Which nodes are wanted. -/
def nodeAffinity : Shape := .lenient "NodeAffinity" [
  .optional "preferredDuringSchedulingIgnoredDuringExecution" <| .list <| .lenient "PreferredSchedulingTerm"
    [.filled "preference" nodeTerm, .filled "weight" .int32],
  .optional "requiredDuringSchedulingIgnoredDuringExecution" <| .lenient "NodeSelector"
    [.filled "nodeSelectorTerms" (.list nodeTerm)]]

/-- Which pods are wanted on the same node. -/
def podTerm : Shape := .lenient "PodAffinityTerm" <|
  optionals (.list .text) ["matchLabelKeys", "mismatchLabelKeys", "namespaces"] ++
    optionals labelSelector ["labelSelector", "namespaceSelector"] ++ [.filled "topologyKey" .text]

/-- Which pods are wanted, or unwanted, on the same node. -/
def podAffinity (kind : String) : Shape := .lenient kind [
  .optional "preferredDuringSchedulingIgnoredDuringExecution" <| .list <| .lenient "WeightedPodAffinityTerm"
    [.filled "podAffinityTerm" podTerm, .filled "weight" .int32],
  .optional "requiredDuringSchedulingIgnoredDuringExecution" (.list podTerm)]

/-- Where a pod is to run. -/
def affinity : Shape := .lenient "Affinity" [
  .optional "nodeAffinity" nodeAffinity,
  .optional "podAffinity" (podAffinity "PodAffinity"),
  .optional "podAntiAffinity" (podAffinity "PodAntiAffinity")]

/-- How a pod finds names. -/
def dnsConfig : Shape := .lenient "PodDNSConfig" <|
  optionals (.list .text) ["nameservers", "searches"] ++
    [.optional "options" (.list (.lenient "PodDNSConfigOption" (optionals .text ["name", "value"])))]

/-- What a pod may do. -/
def securityContext : Shape := .lenient "PodSecurityContext" <|
  Container.securityFields ++
  optionals .text ["fsGroupChangePolicy", "seLinuxChangePolicy", "supplementalGroupsPolicy"] ++ [
    .optional "fsGroup" .int64,
    .optional "supplementalGroups" (.list .int64),
    .optional "sysctls" (.list (.lenient "Sysctl" (filledAll .text ["name", "value"])))]

/-- A taint of nodes that a pod puts up with. -/
def toleration : Shape := .lenient "Toleration" <|
  .optional "tolerationSeconds" .int64 :: optionals .text ["effect", "key", "operator", "value"]

/-- How pods are spread over nodes. -/
def topologySpread : Shape := .lenient "TopologySpreadConstraint" <|
  optionals .text ["nodeAffinityPolicy", "nodeTaintsPolicy"] ++
    filledAll .text ["topologyKey", "whenUnsatisfiable"] ++ [
    .optional "labelSelector" labelSelector,
    .optional "matchLabelKeys" (.list .text),
    .filled "maxSkew" .int32,
    .optional "minDomains" .int32]

/-- A list of records that consist of a name. -/
def named (kind name : String) : Shape := .list (.lenient kind [.filled name .text])

/-- The members of what a pod runs that the operator does not read. -/
def carriedFields : List (Slot Shape) :=
  optionals .text ["dnsPolicy", "hostname", "nodeName", "preemptionPolicy", "priorityClassName", "runtimeClassName",
    "schedulerName", "serviceAccount", "subdomain"] ++
  optionals .truth ["automountServiceAccountToken", "enableServiceLinks", "hostIPC", "hostNetwork", "hostPID",
    "hostUsers", "setHostnameAsFQDN", "shareProcessNamespace"] ++
  optionals .int64 ["activeDeadlineSeconds", "terminationGracePeriodSeconds"] ++
  optionals .texts ["nodeSelector", "overhead"] ++ [
    .optional "affinity" affinity,
    .optional "dnsConfig" dnsConfig,
    .optional "ephemeralContainers" (.list Container.ephemeral),
    .optional "hostAliases" <| .list <| .lenient "HostAlias"
      [.optional "hostnames" (.list .text), .filled "ip" .text],
    .optional "imagePullSecrets" (.list Reference.localObject),
    .optional "initContainers" (.list Container.decoder.shape),
    .optional "os" (.lenient "PodOS" [.filled "name" .text]),
    .optional "priority" .int32,
    .optional "readinessGates" (named "PodReadinessGate" "conditionType"),
    .optional "resourceClaims" <| .list <| .lenient "PodResourceClaim" <|
      .filled "name" .text :: optionals .text ["resourceClaimName", "resourceClaimTemplateName"],
    .optional "resources" Container.resources,
    .optional "schedulingGates" (named "PodSchedulingGate" "name"),
    .optional "securityContext" securityContext,
    .optional "tolerations" (.list toleration),
    .optional "topologySpreadConstraints" (.list topologySpread),
    .optional "volumes" (.list Volume.shape)]

/-- The decoder of what pods run. -/
def decoder : Decoder PodSpec := Fields.lenient "PodSpec" <|
  mk <$> Fields.filled "containers" (.list Container.decoder)
    <*> Fields.optional "restartPolicy" .text
    <*> Fields.optional "serviceAccountName" .text
    <*> Fields.carried carriedFields

/-- What a pod runs, as a document. -/
def toJson (s : PodSpec) : Json :=
  objectJson [
    ("containers", some (.array (s.containers.map Container.toJson))),
    ("restartPolicy", s.restartPolicy.map .string),
    ("serviceAccountName", s.serviceAccountName.map .string)] s.carried

end PodSpec

/-- What pods are made from. -/
structure PodTemplate where
  metadata : Option ObjectMeta
  spec : Option PodSpec
  deriving DecidableEq, Repr

/-- The decoder of what pods are made from. -/
def PodTemplate.decoder : Decoder PodTemplate := Fields.lenient "PodTemplateSpec" <|
  mk <$> Fields.optional "metadata" ObjectMeta.decoder <*> Fields.optional "spec" PodSpec.decoder

/-- What pods are made from, as a document. -/
def PodTemplate.toJson (t : PodTemplate) : Json :=
  .ofFields [("metadata", t.metadata.map ObjectMeta.toJson), ("spec", t.spec.map PodSpec.toJson)]

end GaleraOperator.Kube
