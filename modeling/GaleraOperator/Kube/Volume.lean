import GaleraOperator.Kube.Claim

/-!
# Volumes

The shapes of the volumes of a pod, one for every place that a volume can come from. The operator carries them along.
-/

namespace GaleraOperator.Kube.Volume

open Json Slot

/-- A key of a dictionary as a file. -/
def keyToPath : Shape := .lenient "KeyToPath" (.optional "mode" .int32 :: filledAll .text ["key", "path"])

/-- A member of an object. -/
def objectField : Shape := .lenient "ObjectFieldSelector" [.optional "apiVersion" .text, .filled "fieldPath" .text]

/-- A resource of a container. -/
def resourceField : Shape := .lenient "ResourceFieldSelector" <|
  .filled "resource" .text :: optionals .text ["containerName", "divisor"]

/-- Members of a pod as files. -/
def downwardItems : Shape := .list <| .lenient "DownwardAPIVolumeFile" [
  .optional "fieldRef" objectField,
  .optional "mode" .int32,
  .filled "path" .text,
  .optional "resourceFieldRef" resourceField]

/-- What several sources are projected from. -/
def projection : Shape := .lenient "VolumeProjection" [
  .optional "clusterTrustBundle" <| .lenient "ClusterTrustBundleProjection" <|
    optionals .text ["name", "signerName"] ++
      [.optional "labelSelector" labelSelector, .optional "optional" .truth, .filled "path" .text],
  .optional "configMap" <| .lenient "ConfigMapProjection"
    [.optional "items" (.list keyToPath), .filled "name" .text, .optional "optional" .truth],
  .optional "downwardAPI" <| .lenient "DownwardAPIProjection" [.optional "items" downwardItems],
  .optional "secret" <| .lenient "SecretProjection"
    [.optional "items" (.list keyToPath), .filled "name" .text, .optional "optional" .truth],
  .optional "serviceAccountToken" <| .lenient "ServiceAccountTokenProjection"
    [.optional "audience" .text, .optional "expirationSeconds" .int64, .filled "path" .text]]

/-- Volumes of what the cluster itself keeps. -/
def clusterSources : List (Slot Shape) := [
  .optional "configMap" <| .lenient "ConfigMapVolumeSource"
    [.optional "defaultMode" .int32, .optional "items" (.list keyToPath), .filled "name" .text,
      .optional "optional" .truth],
  .optional "downwardAPI" <| .lenient "DownwardAPIVolumeSource"
    [.optional "defaultMode" .int32, .optional "items" downwardItems],
  .optional "emptyDir" <| .lenient "EmptyDirVolumeSource" (optionals .text ["medium", "sizeLimit"]),
  .optional "ephemeral" <| .lenient "EphemeralVolumeSource" [
    .optional "volumeClaimTemplate" <| .lenient "PersistentVolumeClaimTemplate"
      [.optional "metadata" ObjectMeta.shape, .filled "spec" ClaimSpec.decoder.shape]],
  .optional "hostPath" <| .lenient "HostPathVolumeSource" [.filled "path" .text, .optional "type" .text],
  .optional "image" <| .lenient "ImageVolumeSource" (optionals .text ["pullPolicy", "reference"]),
  .optional "persistentVolumeClaim" <| .lenient "PersistentVolumeClaimVolumeSource"
    [.filled "claimName" .text, .optional "readOnly" .truth],
  .optional "projected" <| .lenient "ProjectedVolumeSource"
    [.optional "defaultMode" .int32, .optional "sources" (.list projection)],
  .optional "secret" <| .lenient "SecretVolumeSource"
    [.optional "defaultMode" .int32, .optional "items" (.list keyToPath), .optional "optional" .truth,
      .optional "secretName" .text]]

/-- A source of which only texts are told, and whether it may be written. -/
def textSource (kind : String) (optional required : List String) : Shape := .lenient kind <|
  optionals .text optional ++ filledAll .text required ++ [.optional "readOnly" .truth]

/-- The same with a secret to sign in with. -/
def secretSource (kind : String) (optional required : List String) (others : List (Slot Shape)) : Shape :=
  .lenient kind <| optionals .text optional ++ filledAll .text required ++
    [.optional "readOnly" .truth, .optional "secretRef" Reference.localObject] ++ others

/-- Volumes of disks. -/
def diskSources : List (Slot Shape) := [
  .optional "awsElasticBlockStore" <| .lenient "AWSElasticBlockStoreVolumeSource"
    [.optional "fsType" .text, .optional "partition" .int32, .optional "readOnly" .truth, .filled "volumeID" .text],
  .optional "azureDisk" <| textSource "AzureDiskVolumeSource" ["cachingMode", "fsType", "kind"] ["diskName", "diskURI"],
  .optional "cinder" <| secretSource "CinderVolumeSource" ["fsType"] ["volumeID"] [],
  .optional "fc" <| .lenient "FCVolumeSource"
    [.optional "fsType" .text, .optional "lun" .int32, .optional "readOnly" .truth,
      .optional "targetWWNs" (.list .text), .optional "wwids" (.list .text)],
  .optional "gcePersistentDisk" <| .lenient "GCEPersistentDiskVolumeSource"
    [.optional "fsType" .text, .optional "partition" .int32, .filled "pdName" .text, .optional "readOnly" .truth],
  .optional "iscsi" <| secretSource "ISCSIVolumeSource" ["fsType", "initiatorName", "iscsiInterface"]
    ["iqn", "targetPortal"] [
      .optional "chapAuthDiscovery" .truth, .optional "chapAuthSession" .truth, .filled "lun" .int32,
      .optional "portals" (.list .text)],
  .optional "photonPersistentDisk" <| .lenient "PhotonPersistentDiskVolumeSource"
    [.optional "fsType" .text, .filled "pdID" .text],
  .optional "portworxVolume" <| textSource "PortworxVolumeSource" ["fsType"] ["volumeID"],
  .optional "rbd" <| secretSource "RBDVolumeSource" ["fsType", "keyring", "pool", "user"] ["image"]
    [.filled "monitors" (.list .text)],
  .optional "scaleIO" <| .lenient "ScaleIOVolumeSource" <|
    optionals .text ["fsType", "protectionDomain", "storageMode", "storagePool", "volumeName"] ++
      filledAll .text ["gateway", "system"] ++
      [.optional "readOnly" .truth, .filled "secretRef" Reference.localObject, .optional "sslEnabled" .truth],
  .optional "vsphereVolume" <| .lenient "VsphereVirtualDiskVolumeSource" <|
    optionals .text ["fsType", "storagePolicyID", "storagePolicyName"] ++ [.filled "volumePath" .text]]

/-- Volumes of file systems. -/
def fileSystemSources : List (Slot Shape) := [
  .optional "azureFile" <| textSource "AzureFileVolumeSource" [] ["secretName", "shareName"],
  .optional "cephfs" <| secretSource "CephFSVolumeSource" ["path", "secretFile", "user"] []
    [.filled "monitors" (.list .text)],
  .optional "flocker" <| .lenient "FlockerVolumeSource" (optionals .text ["datasetName", "datasetUUID"]),
  .optional "gitRepo" <| .lenient "GitRepoVolumeSource" <|
    .filled "repository" .text :: optionals .text ["directory", "revision"],
  .optional "glusterfs" <| textSource "GlusterfsVolumeSource" [] ["endpoints", "path"],
  .optional "nfs" <| textSource "NFSVolumeSource" [] ["path", "server"],
  .optional "quobyte" <| textSource "QuobyteVolumeSource" ["group", "tenant", "user"] ["registry", "volume"],
  .optional "storageos" <| secretSource "StorageOSVolumeSource" ["fsType", "volumeName", "volumeNamespace"] [] []]

/-- Volumes of drivers. -/
def driverSources : List (Slot Shape) := [
  .optional "csi" <| .lenient "CSIVolumeSource"
    [.filled "driver" .text, .optional "fsType" .text, .optional "nodePublishSecretRef" Reference.localObject,
      .optional "readOnly" .truth, .optional "volumeAttributes" .texts],
  .optional "flexVolume" <| secretSource "FlexVolumeSource" ["fsType"] ["driver"] [.optional "options" .texts]]

/-- A volume. -/
def shape : Shape := .lenient "Volume" <|
  .filled "name" .text :: clusterSources ++ diskSources ++ fileSystemSources ++ driverSources

end GaleraOperator.Kube.Volume
