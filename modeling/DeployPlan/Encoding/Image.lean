import DeployPlan.Image
import DeployPlan.Json.Record

/-!
# Images in JSON

How image names, origins and images are written as JSON and read back.
-/

namespace DeployPlan.Encoding

def stringMap (m : StringMap String) : Json :=
  .obj (m.entries.map fun (k, v) => (k, .str v))

/-- A map of texts; of members with one name the last one counts. -/
def stringMap? (j : Json) : Option (StringMap String) := do
  let members ← j.members?
  return .ofList (← members.mapM fun (k, v) => v.str?.map (k, ·))

/-- Ports in ascending order. -/
def portSet (s : PortSet) : Json :=
  .arr (s.toList.map fun p => .int p.toNat)

def portSet? (j : Json) : Option PortSet :=
  (j.list? Json.port?).map PortSet.ofList

def imageName (n : ImageName) : Json :=
  .obj [("registry", .ofOption n.registry), ("namespace", .ofOption n.group), ("name", .str n.name),
    ("tag", .ofOption n.tag), ("digest", .ofOption n.digest)]

def imageName? (j : Json) : Option ImageName := do
  let r ← Json.Record.of? ["registry", "namespace", "name", "tag", "digest"] j
  return {
    registry := ← r.optional "registry" Json.str?
    group := ← r.optional "namespace" Json.str?
    name := ← r.required "name" Json.str?
    tag := ← r.optional "tag" Json.str?
    digest := ← r.optional "digest" Json.str? }

def imageOrigin : ImageOrigin → Json
  | .localRuntime => .str "localRuntime"
  | .platform project => .obj [("platform", .obj [("namespace", .str project)])]
  | .registry => .str "registry"
  | .declared => .str "declared"

/-- An origin is a word, or an object whose one member is named by the word and holds the
details. -/
def imageOrigin? : Json → Option ImageOrigin
  | .str word => plain word
  | .obj [("platform", details)] => do
    let r ← Json.Record.of? ["namespace"] details
    return .platform (← r.required "namespace" Json.str?)
  | .obj [(word, .null)] => plain word
  | _ => none
where
  plain : String → Option ImageOrigin
    | "localRuntime" => some .localRuntime
    | "registry" => some .registry
    | "declared" => some .declared
    | _ => none

def image (i : Image) : Json :=
  .obj [("name", imageName i.name), ("id", .ofOption i.id), ("exposed_ports", portSet i.ports),
    ("env", stringMap i.env), ("labels", stringMap i.labels), ("source", imageOrigin i.origin)]

def image? (j : Json) : Option Image := do
  let r ← Json.Record.of? ["name", "id", "exposed_ports", "env", "labels", "source"] j
  return {
    name := ← r.required "name" imageName?
    id := ← r.optional "id" Json.str?
    ports := ← r.required "exposed_ports" portSet?
    env := ← r.required "env" stringMap?
    labels := ← r.required "labels" stringMap?
    origin := ← r.required "source" imageOrigin? }

end DeployPlan.Encoding
