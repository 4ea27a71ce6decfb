import DeployPlan.Object.ContainerSchema

/-!
# Pods

What may be said of a pod beside its containers.
-/

namespace DeployPlan.Schema

/-! ## Where a pod runs -/

def nodeConditions : Schema := .items (.record [
  .required "key" .text,
  .required "operator" .text,
  .optional "values" (.items .text)])

def nodeTerm : Schema := .record [
  .optional "matchExpressions" nodeConditions,
  .optional "matchFields" nodeConditions]

def nodeAffinity : Schema := .record [
  .optional "preferredDuringSchedulingIgnoredDuringExecution" (.items (.record [
    .required "preference" nodeTerm,
    .required "weight" .integer])),
  .optional "requiredDuringSchedulingIgnoredDuringExecution" (.record [
    .required "nodeSelectorTerms" (.items nodeTerm)])]

/-- Which other pods count. -/
def podTerm : Schema := .record [
  .optional "labelSelector" labelSelector,
  .optional "matchLabelKeys" (.items .text),
  .optional "mismatchLabelKeys" (.items .text),
  .optional "namespaceSelector" labelSelector,
  .optional "namespaces" (.items .text),
  .required "topologyKey" .text]

/-- To which other pods, or away from which, a pod goes. -/
def podAffinity : Schema := .record [
  .optional "preferredDuringSchedulingIgnoredDuringExecution" (.items (.record [
    .required "podAffinityTerm" podTerm,
    .required "weight" .integer])),
  .optional "requiredDuringSchedulingIgnoredDuringExecution" (.items podTerm)]

def toleration : Schema := .record [
  .optional "effect" .text,
  .optional "key" .text,
  .optional "operator" .text,
  .optional "tolerationSeconds" .integer,
  .optional "value" .text]

/-- How far apart pods are kept. -/
def spread : Schema := .record [
  .optional "labelSelector" labelSelector,
  .optional "matchLabelKeys" (.items .text),
  .required "maxSkew" .integer,
  .optional "minDomains" .integer,
  .optional "nodeAffinityPolicy" .text,
  .optional "nodeTaintsPolicy" .text,
  .required "topologyKey" .text,
  .required "whenUnsatisfiable" .text]

/-! ## Pods -/

def dnsConfig : Schema := .record [
  .optional "nameservers" (.items .text),
  .optional "options" (.items (.record [
    .optional "name" .text,
    .optional "value" .text])),
  .optional "searches" (.items .text)]

def podSecurityContext : Schema := .record [
  .optional "appArmorProfile" profile,
  .optional "fsGroup" .integer,
  .optional "fsGroupChangePolicy" .text,
  .optional "runAsGroup" .integer,
  .optional "runAsNonRoot" .flag,
  .optional "runAsUser" .integer,
  .optional "seLinuxChangePolicy" .text,
  .optional "seLinuxOptions" securityLabels,
  .optional "seccompProfile" profile,
  .optional "supplementalGroups" (.items .integer),
  .optional "supplementalGroupsPolicy" .text,
  .optional "sysctls" (.items (.record [
    .required "name" .text,
    .required "value" .text])),
  .optional "windowsOptions" windowsOptions]

/-- What may be said of a pod beside its containers. -/
def podFields : List Field := [
  .optional "activeDeadlineSeconds" .integer,
  .optional "affinity" (.record [
    .optional "nodeAffinity" nodeAffinity,
    .optional "podAffinity" podAffinity,
    .optional "podAntiAffinity" podAffinity]),
  .optional "automountServiceAccountToken" .flag,
  .optional "dnsConfig" dnsConfig,
  .optional "dnsPolicy" .text,
  .optional "enableServiceLinks" .flag,
  .optional "ephemeralContainers" (.items ephemeralContainer),
  .optional "hostAliases" (.items (.record [
    .optional "hostnames" (.items .text),
    .required "ip" .text])),
  .optional "hostIPC" .flag,
  .optional "hostNetwork" .flag,
  .optional "hostPID" .flag,
  .optional "hostUsers" .flag,
  .optional "hostname" .text,
  .optional "imagePullSecrets" (.items localReference),
  .optional "initContainers" (.items container),
  .optional "nodeName" .text,
  .optional "nodeSelector" (.map .text),
  .optional "os" (.record [.required "name" .text]),
  .optional "overhead" (.map .text),
  .optional "preemptionPolicy" .text,
  .optional "priority" .integer,
  .optional "priorityClassName" .text,
  .optional "readinessGates" (.items (.record [.required "conditionType" .text])),
  .optional "resourceClaims" (.items (.record [
    .required "name" .text,
    .optional "resourceClaimName" .text,
    .optional "resourceClaimTemplateName" .text])),
  .optional "resources" resources,
  .optional "restartPolicy" .text,
  .optional "runtimeClassName" .text,
  .optional "schedulerName" .text,
  .optional "schedulingGates" (.items (.record [.required "name" .text])),
  .optional "securityContext" podSecurityContext,
  .optional "serviceAccount" .text,
  .optional "serviceAccountName" .text,
  .optional "setHostnameAsFQDN" .flag,
  .optional "shareProcessNamespace" .flag,
  .optional "subdomain" .text,
  .optional "terminationGracePeriodSeconds" .integer,
  .optional "tolerations" (.items toleration),
  .optional "topologySpreadConstraints" (.items spread),
  .optional "volumes" (.items volume)]

def pod : Schema := .record (.required "containers" (.items container) :: podFields)

def podTemplate : Schema := .record [
  .optional "metadata" .metadata,
  .optional "spec" pod]

end DeployPlan.Schema
