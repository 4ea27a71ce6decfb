import DeployPlan.Json.Shape

/-!
# Resources of the platform in JSON

Every resource of the platform has metadata of one shape; what else it has is its own. An error of
the platform gives a reason in one word.
-/

namespace DeployPlan.Encoding

open Json Json.Shape

/-- An object with fields that may be missing or null. Of a field that is repeated the last one
counts. -/
def looseObject (fields : Fields) : Shape :=
  .object false fields .ignored

def managedFieldsShape : Shape :=
  looseObject [
    field "apiVersion" .text, field "fieldsType" .text, field "fieldsV1" .any,
    field "manager" .text, field "operation" .text, field "subresource" .text,
    field "time" .moment]

def ownerShape : Shape :=
  looseObject [
    field "apiVersion" .text, field "blockOwnerDeletion" .bool, field "controller" .bool,
    field "kind" .text, field "name" .text, field "uid" .text]

/-- What the platform notes about a resource. -/
def metadataShape : Shape :=
  looseObject [
    field "annotations" (.map .text), field "creationTimestamp" .moment,
    field "deletionGracePeriodSeconds" .integer, field "deletionTimestamp" .moment,
    field "finalizers" (.list .text), field "generateName" .text, field "generation" .integer,
    field "labels" (.map .text), field "managedFields" (.list managedFieldsShape),
    field "name" .text, field "namespace" .text, field "ownerReferences" (.list ownerShape),
    field "resourceVersion" .text, field "selfLink" .text, field "uid" .text]

def resourceShape : Shape :=
  .object true [("metadata", .defaulted, metadataShape)] .any

def platformErrorShape : Shape :=
  .record [
    ("status", .required, .text), ("message", .defaulted, .text), ("reason", .defaulted, .text),
    ("code", .required, .status)]

def errorReason (j : Json) : String :=
  ((j.member? "reason").bind str?).getD ""

end DeployPlan.Encoding
