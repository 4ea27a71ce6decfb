import DeployPlan.Encoding.Image

/-!
# The settings of containers in JSON

Registries, the local runtime and the platform write the settings of a container in one form: an
object with the members `ExposedPorts`, whose member names declare ports, `Env` and `Labels`. The
first two are held to that form; what the platform hands on is read as far as it has it.
-/

namespace DeployPlan.Encoding

def containerSettings? (j : Json) : Option ContainerSettings := do
  let ports? (j : Json) : Option (List String) := j.members?.map (·.map (·.1))
  let r ← Json.Record.of? ["ExposedPorts", "Env", "Labels"] j
  return {
    ports := (← r.optional "ExposedPorts" ports?).getD []
    env := (← r.optional "Env" (Json.list? Json.str?)).getD []
    labels := (← r.optional "Labels" stringMap?).getD .empty }

/-- The settings in a value, as far as it has them. -/
def looseSettings (j : Json) : ContainerSettings where
  ports := (((j.member? "ExposedPorts").bind Json.members?).getD []).map (·.1)
  env := (((j.member? "Env").bind Json.items?).getD []).filterMap Json.str?
  labels :=
    let labels := StringMap.ofList (((j.member? "Labels").bind Json.members?).getD [])
    .ofList (labels.entries.filterMap fun (k, v) => v.str?.map (k, ·))

end DeployPlan.Encoding
