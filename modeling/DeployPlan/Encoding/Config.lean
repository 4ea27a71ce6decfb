import DeployPlan.Config.Settings
import DeployPlan.Encoding.Image

/-!
# Settings in JSON

How settings are written as JSON and read back.
-/

namespace DeployPlan.Encoding

def imageSources (s : ImageSources) : Json :=
  .obj [("docker", .bool s.docker), ("cluster", .bool s.cluster),
    ("registry", .ofOption s.registry)]

def imageSources? (j : Json) : Option ImageSources := do
  let r ← Json.Record.of? ["docker", "cluster", "registry"] j
  return {
    docker := ← r.required "docker" Json.bool?
    cluster := ← r.required "cluster" Json.bool?
    registry := ← r.optional "registry" Json.str? }

def config (c : Config) : Json :=
  .obj [("namespace", .ofOption c.project), ("default_namespace", .str c.sharedProject),
    ("resolvers", imageSources c.sources), ("builders", stringMap c.builders)]

def config? (j : Json) : Option Config := do
  let r ← Json.Record.of? ["namespace", "default_namespace", "resolvers", "builders"] j
  return {
    project := ← r.optional "namespace" Json.str?
    sharedProject := ← r.required "default_namespace" Json.str?
    sources := ← r.required "resolvers" imageSources?
    builders := ← r.required "builders" stringMap? }

end DeployPlan.Encoding
