import DeployPlan.Encoding.Image
import DeployPlan.Object.Metadata

/-!
# Metadata in JSON

How the metadata of objects is written as JSON and read back. Parts that are missing are left out,
and all of it is only read from objects.
-/

namespace DeployPlan.Encoding

/-- A member that is only there if it has a value. -/
def given {α : Type} (key : String) (value : Option α) (encode : α → Json) : List (String × Json) :=
  match value with
  | some v => [(key, encode v)]
  | none => []

def texts (l : List String) : Json :=
  .arr (l.map .str)

def texts? (j : Json) : Option (List String) :=
  j.list? Json.str?

/-- An integer of sixty-four bits. -/
def int64? : Json → Option Int
  | .int n => if n < 0x8000000000000000 then some n else none
  | _ => none

def timestamp (t : Timestamp) : Json :=
  .str t.write

def timestamp? (j : Json) : Option Timestamp :=
  j.str?.bind Timestamp.read

def managedFields (m : ManagedFields) : Json :=
  .obj <|
    given "apiVersion" m.apiVersion .str ++
    given "fieldsType" m.fieldsType .str ++
    given "fieldsV1" m.fields id ++
    given "manager" m.manager .str ++
    given "operation" m.operation .str ++
    given "subresource" m.subresource .str ++
    given "time" m.time timestamp

/-- The fields of an object, which may not be written as a list. -/
def fieldsOf? (j : Json) : Option Json.Record :=
  j.members?.map Json.Record.mk

def managedFields? (j : Json) : Option ManagedFields := do
  let r ← fieldsOf? j
  return {
    apiVersion := ← r.optional "apiVersion" Json.str?
    fieldsType := ← r.optional "fieldsType" Json.str?
    fields := ← r.optional "fieldsV1" some
    manager := ← r.optional "manager" Json.str?
    operation := ← r.optional "operation" Json.str?
    subresource := ← r.optional "subresource" Json.str?
    time := ← r.optional "time" timestamp? }

def owner (o : Owner) : Json :=
  .obj <|
    ("apiVersion", .str o.apiVersion) ::
    given "blockOwnerDeletion" o.blockOwnerDeletion .bool ++
    given "controller" o.controller .bool ++
    [("kind", .str o.kind), ("name", .str o.name), ("uid", .str o.uid)]

def owner? (j : Json) : Option Owner := do
  let r ← fieldsOf? j
  let text? (name : String) : Option String := (r.optional name Json.str?).map (·.getD "")
  return {
    apiVersion := ← text? "apiVersion"
    blockOwnerDeletion := ← r.optional "blockOwnerDeletion" Json.bool?
    controller := ← r.optional "controller" Json.bool?
    kind := ← text? "kind"
    name := ← text? "name"
    uid := ← text? "uid" }

def metadata (m : Metadata) : Json :=
  .obj <|
    given "annotations" m.annotations stringMap ++
    given "creationTimestamp" m.creationTimestamp timestamp ++
    given "deletionGracePeriodSeconds" m.deletionGracePeriodSeconds .int ++
    given "deletionTimestamp" m.deletionTimestamp timestamp ++
    given "finalizers" m.finalizers texts ++
    given "generateName" m.generateName .str ++
    given "generation" m.generation .int ++
    given "labels" m.labels stringMap ++
    given "managedFields" m.managedFields (fun l => .arr (l.map managedFields)) ++
    given "name" m.name .str ++
    given "namespace" m.project .str ++
    given "ownerReferences" m.owners (fun l => .arr (l.map owner)) ++
    given "resourceVersion" m.resourceVersion .str ++
    given "selfLink" m.selfLink .str ++
    given "uid" m.uid .str

def metadata? (j : Json) : Option Metadata := do
  let r ← fieldsOf? j
  return {
    annotations := ← r.optional "annotations" stringMap?
    creationTimestamp := ← r.optional "creationTimestamp" timestamp?
    deletionGracePeriodSeconds := ← r.optional "deletionGracePeriodSeconds" int64?
    deletionTimestamp := ← r.optional "deletionTimestamp" timestamp?
    finalizers := ← r.optional "finalizers" texts?
    generateName := ← r.optional "generateName" Json.str?
    generation := ← r.optional "generation" int64?
    labels := ← r.optional "labels" stringMap?
    managedFields := ← r.optional "managedFields" (Json.list? managedFields?)
    name := ← r.optional "name" Json.str?
    project := ← r.optional "namespace" Json.str?
    owners := ← r.optional "ownerReferences" (Json.list? owner?)
    resourceVersion := ← r.optional "resourceVersion" Json.str?
    selfLink := ← r.optional "selfLink" Json.str?
    uid := ← r.optional "uid" Json.str? }

end DeployPlan.Encoding
