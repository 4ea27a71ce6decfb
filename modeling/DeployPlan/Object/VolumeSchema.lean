import DeployPlan.Object.Schema

/-!
# Volumes

What may be said of the volumes of a pod: where each of them comes from.
-/

namespace DeployPlan.Schema

/-- The name of an object of the same project. -/
def localReference : Schema := .record [.required "name" .text]

def labelSelector : Schema := .record [
  .optional "matchExpressions" (.items (.record [
    .required "key" .text,
    .required "operator" .text,
    .optional "values" (.items .text)])),
  .optional "matchLabels" (.map .text)]

/-- A field of the pod itself. -/
def fieldReference : Schema := .record [
  .optional "apiVersion" .text,
  .required "fieldPath" .text]

/-- An amount that a container may use. -/
def resourceReference : Schema := .record [
  .optional "containerName" .text,
  .optional "divisor" .text,
  .required "resource" .text]

/-! ## Files -/

/-- Entries, each with the file that it goes to. -/
def keyFiles : Schema := .items (.record [
  .required "key" .text,
  .optional "mode" .integer,
  .required "path" .text])

/-- Facts about the pod, each with the file that it goes to. -/
def podFiles : Schema := .items (.record [
  .optional "fieldRef" fieldReference,
  .optional "mode" .integer,
  .required "path" .text,
  .optional "resourceFieldRef" resourceReference])

/-- Files with the entries of an object of that name. -/
def namedFiles : Schema := .record [
  .optional "items" keyFiles,
  .required "name" .text,
  .optional "optional" .flag]

def configVolume : Schema := .record [
  .optional "defaultMode" .integer,
  .optional "items" keyFiles,
  .required "name" .text,
  .optional "optional" .flag]

def secretVolume : Schema := .record [
  .optional "defaultMode" .integer,
  .optional "items" keyFiles,
  .optional "optional" .flag,
  .optional "secretName" .text]

def podVolume : Schema := .record [
  .optional "defaultMode" .integer,
  .optional "items" podFiles]

def projectedVolume : Schema := .record [
  .optional "defaultMode" .integer,
  .optional "sources" (.items (.record [
    .optional "clusterTrustBundle" (.record [
      .optional "labelSelector" labelSelector,
      .optional "name" .text,
      .optional "optional" .flag,
      .required "path" .text,
      .optional "signerName" .text]),
    .optional "configMap" namedFiles,
    .optional "downwardAPI" (.record [.optional "items" podFiles]),
    .optional "secret" namedFiles,
    .optional "serviceAccountToken" (.record [
      .optional "audience" .text,
      .optional "expirationSeconds" .integer,
      .required "path" .text])]))]

/-! ## Claims -/

/-- A volume that is claimed for the pod. -/
def ephemeralVolume : Schema := .record [
  .optional "volumeClaimTemplate" (.record [
    .optional "metadata" .metadata,
    .required "spec" (.record [
      .optional "accessModes" (.items .text),
      .optional "dataSource" (.record [
        .optional "apiGroup" .text,
        .required "kind" .text,
        .required "name" .text]),
      .optional "dataSourceRef" (.record [
        .optional "apiGroup" .text,
        .required "kind" .text,
        .required "name" .text,
        .optional "namespace" .text]),
      .optional "resources" (.record [
        .optional "limits" (.map .text),
        .optional "requests" (.map .text)]),
      .optional "selector" labelSelector,
      .optional "storageClassName" .text,
      .optional "volumeAttributesClassName" .text,
      .optional "volumeMode" .text,
      .optional "volumeName" .text])])]

/-! ## Storage -/

def cephVolume : Schema := .record [
  .required "monitors" (.items .text),
  .optional "path" .text,
  .optional "readOnly" .flag,
  .optional "secretFile" .text,
  .optional "secretRef" localReference,
  .optional "user" .text]

def driverVolume : Schema := .record [
  .required "driver" .text,
  .optional "fsType" .text,
  .optional "nodePublishSecretRef" localReference,
  .optional "readOnly" .flag,
  .optional "volumeAttributes" (.map .text)]

def blockVolume : Schema := .record [
  .optional "chapAuthDiscovery" .flag,
  .optional "chapAuthSession" .flag,
  .optional "fsType" .text,
  .optional "initiatorName" .text,
  .required "iqn" .text,
  .optional "iscsiInterface" .text,
  .required "lun" .integer,
  .optional "portals" (.items .text),
  .optional "readOnly" .flag,
  .optional "secretRef" localReference,
  .required "targetPortal" .text]

def deviceVolume : Schema := .record [
  .optional "fsType" .text,
  .required "image" .text,
  .optional "keyring" .text,
  .required "monitors" (.items .text),
  .optional "pool" .text,
  .optional "readOnly" .flag,
  .optional "secretRef" localReference,
  .optional "user" .text]

def scaleVolume : Schema := .record [
  .optional "fsType" .text,
  .required "gateway" .text,
  .optional "protectionDomain" .text,
  .optional "readOnly" .flag,
  .required "secretRef" localReference,
  .optional "sslEnabled" .flag,
  .optional "storageMode" .text,
  .optional "storagePool" .text,
  .required "system" .text,
  .optional "volumeName" .text]

/-- A volume, with the one source that it has. -/
def volume : Schema := .record [
  .optional "awsElasticBlockStore" (.record [
    .optional "fsType" .text,
    .optional "partition" .integer,
    .optional "readOnly" .flag,
    .required "volumeID" .text]),
  .optional "azureDisk" (.record [
    .optional "cachingMode" .text,
    .required "diskName" .text,
    .required "diskURI" .text,
    .optional "fsType" .text,
    .optional "kind" .text,
    .optional "readOnly" .flag]),
  .optional "azureFile" (.record [
    .optional "readOnly" .flag,
    .required "secretName" .text,
    .required "shareName" .text]),
  .optional "cephfs" cephVolume,
  .optional "cinder" (.record [
    .optional "fsType" .text,
    .optional "readOnly" .flag,
    .optional "secretRef" localReference,
    .required "volumeID" .text]),
  .optional "configMap" configVolume,
  .optional "csi" driverVolume,
  .optional "downwardAPI" podVolume,
  .optional "emptyDir" (.record [
    .optional "medium" .text,
    .optional "sizeLimit" .text]),
  .optional "ephemeral" ephemeralVolume,
  .optional "fc" (.record [
    .optional "fsType" .text,
    .optional "lun" .integer,
    .optional "readOnly" .flag,
    .optional "targetWWNs" (.items .text),
    .optional "wwids" (.items .text)]),
  .optional "flexVolume" (.record [
    .required "driver" .text,
    .optional "fsType" .text,
    .optional "options" (.map .text),
    .optional "readOnly" .flag,
    .optional "secretRef" localReference]),
  .optional "flocker" (.record [
    .optional "datasetName" .text,
    .optional "datasetUUID" .text]),
  .optional "gcePersistentDisk" (.record [
    .optional "fsType" .text,
    .optional "partition" .integer,
    .required "pdName" .text,
    .optional "readOnly" .flag]),
  .optional "gitRepo" (.record [
    .optional "directory" .text,
    .required "repository" .text,
    .optional "revision" .text]),
  .optional "glusterfs" (.record [
    .required "endpoints" .text,
    .required "path" .text,
    .optional "readOnly" .flag]),
  .optional "hostPath" (.record [
    .required "path" .text,
    .optional "type" .text]),
  .optional "image" (.record [
    .optional "pullPolicy" .text,
    .optional "reference" .text]),
  .optional "iscsi" blockVolume,
  .required "name" .text,
  .optional "nfs" (.record [
    .required "path" .text,
    .optional "readOnly" .flag,
    .required "server" .text]),
  .optional "persistentVolumeClaim" (.record [
    .required "claimName" .text,
    .optional "readOnly" .flag]),
  .optional "photonPersistentDisk" (.record [
    .optional "fsType" .text,
    .required "pdID" .text]),
  .optional "portworxVolume" (.record [
    .optional "fsType" .text,
    .optional "readOnly" .flag,
    .required "volumeID" .text]),
  .optional "projected" projectedVolume,
  .optional "quobyte" (.record [
    .optional "group" .text,
    .optional "readOnly" .flag,
    .required "registry" .text,
    .optional "tenant" .text,
    .optional "user" .text,
    .required "volume" .text]),
  .optional "rbd" deviceVolume,
  .optional "scaleIO" scaleVolume,
  .optional "secret" secretVolume,
  .optional "storageos" (.record [
    .optional "fsType" .text,
    .optional "readOnly" .flag,
    .optional "secretRef" localReference,
    .optional "volumeName" .text,
    .optional "volumeNamespace" .text]),
  .optional "vsphereVolume" (.record [
    .optional "fsType" .text,
    .optional "storagePolicyID" .text,
    .optional "storagePolicyName" .text,
    .required "volumePath" .text])]

end DeployPlan.Schema
