import DeployPlan.Object.Schema

/-!
# Services

What may be said of a service beside its ports and its selector, and what the platform reports of
one.
-/

namespace DeployPlan.Schema

/-- What may be said of a port of a service beside its number, the port behind it and the
protocol. -/
def servicePortFields : List Field := [
  .optional "appProtocol" .text,
  .optional "name" .text,
  .optional "nodePort" .integer]

def servicePort : Schema :=
  .record (.required "port" .integer :: .optional "targetPort" .intOrText ::
    .optional "protocol" .text :: servicePortFields)

/-- What may be said of a service beside its ports and its selector. -/
def serviceFields : List Field := [
  .optional "allocateLoadBalancerNodePorts" .flag,
  .optional "clusterIP" .text,
  .optional "clusterIPs" (.items .text),
  .optional "externalIPs" (.items .text),
  .optional "externalName" .text,
  .optional "externalTrafficPolicy" .text,
  .optional "healthCheckNodePort" .integer,
  .optional "internalTrafficPolicy" .text,
  .optional "ipFamilies" (.items .text),
  .optional "ipFamilyPolicy" .text,
  .optional "loadBalancerClass" .text,
  .optional "loadBalancerIP" .text,
  .optional "loadBalancerSourceRanges" (.items .text),
  .optional "publishNotReadyAddresses" .flag,
  .optional "sessionAffinity" .text,
  .optional "sessionAffinityConfig" (.record [
    .optional "clientIP" (.record [.optional "timeoutSeconds" .integer])]),
  .optional "trafficDistribution" .text,
  .optional "type" .text]

def serviceSpec : Schema :=
  .record (.optional "ports" (.items servicePort) :: .optional "selector" (.map .text) ::
    serviceFields)

/-- What the platform reports of a service. -/
def serviceStatus : Schema := .record [
  .optional "conditions" (.items (.record [
    .required "lastTransitionTime" .moment,
    .required "message" .text,
    .optional "observedGeneration" .integer,
    .required "reason" .text,
    .required "status" .text,
    .required "type" .text])),
  .optional "loadBalancer" (.record [
    .optional "ingress" (.items (.record [
      .optional "hostname" .text,
      .optional "ip" .text,
      .optional "ipMode" .text,
      .optional "ports" (.items (.record [
        .optional "error" .text,
        .required "port" .integer,
        .required "protocol" .text]))]))])]

end DeployPlan.Schema
