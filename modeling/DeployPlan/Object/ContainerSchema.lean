import DeployPlan.Object.VolumeSchema

/-!
# Containers

What may be said of a container beside its name, its image, its ports and its variables.
-/

namespace DeployPlan.Schema

/-! ## Variables -/

/-- An entry of an object of that name. -/
def keyReference : Schema := .record [
  .required "key" .text,
  .required "name" .text,
  .optional "optional" .flag]

def variableSource : Schema := .record [
  .optional "configMapKeyRef" keyReference,
  .optional "fieldRef" fieldReference,
  .optional "resourceFieldRef" resourceReference,
  .optional "secretKeyRef" keyReference]

/-- All entries of an object of that name. -/
def entriesReference : Schema := .record [
  .required "name" .text,
  .optional "optional" .flag]

def variablesSource : Schema := .record [
  .optional "configMapRef" entriesReference,
  .optional "prefix" .text,
  .optional "secretRef" entriesReference]

/-! ## What the platform does to a container -/

def command : Schema := .record [.optional "command" (.items .text)]

def httpRequest : Schema := .record [
  .optional "host" .text,
  .optional "httpHeaders" (.items (.record [
    .required "name" .text,
    .required "value" .text])),
  .optional "path" .text,
  .required "port" .intOrText,
  .optional "scheme" .text]

def connection : Schema := .record [
  .optional "host" .text,
  .required "port" .intOrText]

/-- What is done at some time in the life of a container. -/
def handler : Schema := .record [
  .optional "exec" command,
  .optional "httpGet" httpRequest,
  .optional "sleep" (.record [.required "seconds" .integer]),
  .optional "tcpSocket" connection]

/-- How the platform finds out whether a container is well. -/
def probe : Schema := .record [
  .optional "exec" command,
  .optional "failureThreshold" .integer,
  .optional "grpc" (.record [
    .required "port" .integer,
    .optional "service" .text]),
  .optional "httpGet" httpRequest,
  .optional "initialDelaySeconds" .integer,
  .optional "periodSeconds" .integer,
  .optional "successThreshold" .integer,
  .optional "tcpSocket" connection,
  .optional "terminationGracePeriodSeconds" .integer,
  .optional "timeoutSeconds" .integer]

/-! ## What a container may do and use -/

def profile : Schema := .record [
  .optional "localhostProfile" .text,
  .required "type" .text]

def securityLabels : Schema := .record [
  .optional "level" .text,
  .optional "role" .text,
  .optional "type" .text,
  .optional "user" .text]

def windowsOptions : Schema := .record [
  .optional "gmsaCredentialSpec" .text,
  .optional "gmsaCredentialSpecName" .text,
  .optional "hostProcess" .flag,
  .optional "runAsUserName" .text]

def securityContext : Schema := .record [
  .optional "allowPrivilegeEscalation" .flag,
  .optional "appArmorProfile" profile,
  .optional "capabilities" (.record [
    .optional "add" (.items .text),
    .optional "drop" (.items .text)]),
  .optional "privileged" .flag,
  .optional "procMount" .text,
  .optional "readOnlyRootFilesystem" .flag,
  .optional "runAsGroup" .integer,
  .optional "runAsNonRoot" .flag,
  .optional "runAsUser" .integer,
  .optional "seLinuxOptions" securityLabels,
  .optional "seccompProfile" profile,
  .optional "windowsOptions" windowsOptions]

/-- How much may be used at most, and how much is needed. -/
def resources : Schema := .record [
  .optional "claims" (.items (.record [
    .required "name" .text,
    .optional "request" .text])),
  .optional "limits" (.map .text),
  .optional "requests" (.map .text)]

/-- A place at which a volume is seen. -/
def mount : Schema := .record [
  .required "mountPath" .text,
  .optional "mountPropagation" .text,
  .required "name" .text,
  .optional "readOnly" .flag,
  .optional "recursiveReadOnly" .text,
  .optional "subPath" .text,
  .optional "subPathExpr" .text]

/-! ## Containers -/

/-- What may be said of a port beside its number and its protocol. -/
def portFields : List Field := [
  .optional "hostIP" .text,
  .optional "hostPort" .integer,
  .optional "name" .text]

/-- What may be said of a container beside its name, its image, its ports and its variables. -/
def containerFields : List Field := [
  .optional "args" (.items .text),
  .optional "command" (.items .text),
  .optional "envFrom" (.items variablesSource),
  .optional "imagePullPolicy" .text,
  .optional "lifecycle" (.record [
    .optional "postStart" handler,
    .optional "preStop" handler]),
  .optional "livenessProbe" probe,
  .optional "readinessProbe" probe,
  .optional "resizePolicy" (.items (.record [
    .required "resourceName" .text,
    .required "restartPolicy" .text])),
  .optional "resources" resources,
  .optional "restartPolicy" .text,
  .optional "securityContext" securityContext,
  .optional "startupProbe" probe,
  .optional "stdin" .flag,
  .optional "stdinOnce" .flag,
  .optional "terminationMessagePath" .text,
  .optional "terminationMessagePolicy" .text,
  .optional "tty" .flag,
  .optional "volumeDevices" (.items (.record [
    .required "devicePath" .text,
    .required "name" .text])),
  .optional "volumeMounts" (.items mount),
  .optional "workingDir" .text]

def port : Schema :=
  .record (.required "containerPort" .integer :: .optional "protocol" .text :: portFields)

def envVariable : Schema := .record [
  .required "name" .text,
  .optional "value" .text,
  .optional "valueFrom" variableSource]

/-- All that may be said of a container. -/
def allContainerFields : List Field :=
  .required "name" .text :: .optional "image" .text :: .optional "ports" (.items port) ::
    .optional "env" (.items envVariable) :: containerFields

def container : Schema := .record allContainerFields

/-- A container that is put into a pod to look at another one. -/
def ephemeralContainer : Schema :=
  .record (.optional "targetContainerName" .text :: allContainerFields)

end DeployPlan.Schema
