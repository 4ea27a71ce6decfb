import DeployPlan.Encoding.Schema
import DeployPlan.Encoding.Source
import DeployPlan.Json.Printer
import DeployPlan.Object.Types

/-!
# Objects in JSON

How the objects of the platform are written as JSON, and how those that come back from it are read.
Parts that are missing are left out. `objectList` is the text of a whole plan.
-/

namespace DeployPlan.Encoding

def imageReference (i : ImageReference) : Json :=
  .obj <| [("kind", .str i.kind), ("name", .str i.name)] ++ given "namespace" i.project .str

def imageReference? (j : Json) : Option ImageReference := do
  let r ← Json.Record.of? ["kind", "name", "namespace"] j
  return {
    kind := ← r.required "kind" Json.str?
    name := ← r.required "name" Json.str?
    project := ← r.optional "namespace" Json.str? }

def gitSource (g : GitSource) : Json :=
  .obj <| ("uri", .str g.uri) :: given "ref" g.ref .str

def gitSource? (j : Json) : Option GitSource := do
  let r ← Json.Record.of? ["uri", "ref"] j
  return { uri := ← r.required "uri" Json.str?, ref := ← r.optional "ref" Json.str? }

def buildSource (s : BuildSource) : Json :=
  .obj <| ("type", .str s.kind) :: given "git" s.git gitSource ++
    given "contextDir" s.contextDir .str

def buildSource? (j : Json) : Option BuildSource := do
  let r ← Json.Record.of? ["type", "git", "contextDir"] j
  return {
    kind := ← r.required "type" Json.str?
    git := ← r.optional "git" gitSource?
    contextDir := ← r.optional "contextDir" Json.str? }

def buildFileStrategy (s : BuildFileStrategy) : Json :=
  .obj <| ("noCache", .bool s.noCache) :: given "from" s.from? imageReference

def buildFileStrategy? (j : Json) : Option BuildFileStrategy := do
  let r ← Json.Record.of? ["noCache", "from"] j
  return {
    noCache := ← r.required "noCache" Json.bool?
    from? := ← r.optional "from" imageReference? }

def builderStrategy (s : BuilderStrategy) : Json :=
  .obj [("from", imageReference s.base), ("incremental", .bool s.incremental)]

def builderStrategy? (j : Json) : Option BuilderStrategy := do
  let r ← Json.Record.of? ["from", "incremental"] j
  return {
    base := ← r.required "from" imageReference?
    incremental := ← r.required "incremental" Json.bool? }

def customStrategy (s : CustomStrategy) : Json :=
  .obj <| [("from", imageReference s.base), ("exposeDockerSocket", .bool s.exposeSocket)] ++
    if s.env.isEmpty then [] else [("env", stringMap s.env)]

def customStrategy? (j : Json) : Option CustomStrategy := do
  let r ← Json.Record.of? ["from", "exposeDockerSocket", "env"] j 1
  return {
    base := ← r.required "from" imageReference?
    exposeSocket := ← r.required "exposeDockerSocket" Json.bool?
    env := ← r.orElse "env" .empty stringMap? }

def buildStrategy (s : BuildStrategy) : Json :=
  .obj <| ("type", .str s.kind.word) ::
    given "dockerStrategy" s.buildFile buildFileStrategy ++
    given "sourceStrategy" s.builder builderStrategy ++
    given "customStrategy" s.custom customStrategy

def buildStrategy? (j : Json) : Option BuildStrategy := do
  let r ← Json.Record.of? ["type", "dockerStrategy", "sourceStrategy", "customStrategy"] j
  return {
    kind := ← r.required "type" strategyKind?
    buildFile := ← r.optional "dockerStrategy" buildFileStrategy?
    builder := ← r.optional "sourceStrategy" builderStrategy?
    custom := ← r.optional "customStrategy" customStrategy? }

def buildTrigger : BuildTrigger → Json
  | .imageChange base tag =>
    .obj [("type", .str "ImageChange"), ("from", imageReference base), ("tag", .str tag)]
  | .configChange => .obj [("type", .str "ConfigChange")]

/-- The word that tells the kind of a value, and the rest of the value. The word is a member of an
object or the first item of a list. A kind that needs nothing more passes over further members, and
takes no further item. -/
def tagged? : Json → Option (String × Json)
  | .obj members =>
    match members.filter (·.1 = "type") with
    | [(_, .str word)] => some (word, .obj (members.filter (·.1 ≠ "type")))
    | _ => none
  | .arr (.str word :: items) => some (word, .arr items)
  | _ => none

def buildTrigger? (j : Json) : Option BuildTrigger := do
  match ← tagged? j with
  | ("ImageChange", rest) =>
    let r ← Json.Record.of? ["from", "tag"] rest
    return .imageChange (← r.required "from" imageReference?) (← r.required "tag" Json.str?)
  | ("ConfigChange", .arr (_ :: _)) => none
  | ("ConfigChange", _) => return .configChange
  | _ => none

def deploymentTrigger : DeploymentTrigger → Json
  | .configChange => .obj [("type", .str "ConfigChange")]
  | .imageChange automatic containers image tag =>
    .obj [("type", .str "ImageChange"), ("automatic", .bool automatic),
      ("containerNames", texts containers), ("from", imageReference image), ("tag", .str tag)]

def deploymentTrigger? (j : Json) : Option DeploymentTrigger := do
  match ← tagged? j with
  | ("ImageChange", rest) =>
    let r ← Json.Record.of? ["automatic", "containerNames", "from", "tag"] rest
    return .imageChange (← r.required "automatic" Json.bool?)
      (← r.required "containerNames" texts?) (← r.required "from" imageReference?)
      (← r.required "tag" Json.str?)
  | ("ConfigChange", .arr (_ :: _)) => none
  | ("ConfigChange", _) => return .configChange
  | _ => none

def buildConfig (b : BuildConfig) : Json :=
  .obj [("apiVersion", .str b.apiVersion), ("kind", .str b.kind), ("metadata", metadata b.metadata),
    ("triggers", .arr (b.triggers.map buildTrigger)),
    ("parameters", .obj [("source", buildSource b.source), ("strategy", buildStrategy b.strategy),
      ("output", .obj [("to", imageReference b.output)])])]

def buildConfig? (j : Json) : Option BuildConfig := do
  let r ← Json.Record.of? ["apiVersion", "kind", "metadata", "triggers", "parameters"] j
  let p ← r.required "parameters" (Json.Record.of? ["source", "strategy", "output"])
  let o ← p.required "output" (Json.Record.of? ["to"])
  return {
    apiVersion := ← r.required "apiVersion" Json.str?
    kind := ← r.required "kind" Json.str?
    metadata := ← r.required "metadata" metadata?
    triggers := ← r.required "triggers" (Json.list? buildTrigger?)
    source := ← p.required "source" buildSource?
    strategy := ← p.required "strategy" buildStrategy?
    output := ← o.required "to" imageReference? }

/-! The values of schemas that pods and services are. -/

def portValue (p : ContainerPort) : Schema.port.Value :=
  (p.number, p.protocol, p.others)

def variableValue (v : Variable) : Schema.envVariable.Value :=
  (v.name, v.value, v.source, ())

def containerValue (c : Container) : Schema.container.Value :=
  (c.name, c.image, c.ports.map (·.map portValue), c.env.map (·.map variableValue), c.others)

def podValue (t : PodTemplate) : Schema.podTemplate.Value :=
  (t.metadata, t.containers.map fun cs => (cs.map containerValue, t.others), ())

def servicePortValue (p : ServicePort) : Schema.servicePort.Value :=
  (p.port, p.targetPort, p.protocol, p.others)

def serviceValue (s : ServiceSpec) : Schema.serviceSpec.Value :=
  (s.ports.map (·.map servicePortValue), s.selector, s.others)

def deploymentConfig (d : DeploymentConfig) : Json :=
  .obj [("apiVersion", .str d.apiVersion), ("kind", .str d.kind), ("metadata", metadata d.metadata),
    ("triggers", .arr (d.triggers.map deploymentTrigger)),
    ("template", .obj [("strategy", .str d.rollout), ("replicas", .int d.replicas),
      ("selector", stringMap d.selector),
      ("template", value Schema.podTemplate (podValue d.template))])]

def service (s : Service) : Json :=
  .obj <| [("apiVersion", .str apiVersion), ("kind", .str ObjectKind.service.word),
    ("metadata", metadata s.metadata)] ++
    given "spec" s.spec (fun spec => value Schema.serviceSpec (serviceValue spec)) ++
    given "status" s.status (value Schema.serviceStatus)

def imageRepository (r : ImageRepository) : Json :=
  .obj <| [("apiVersion", .str r.apiVersion), ("kind", .str r.kind),
    ("metadata", metadata r.metadata)] ++ given "dockerImageRepository" r.follows .str

def imageRepository? (j : Json) : Option ImageRepository := do
  let r ← Json.Record.of? ["apiVersion", "kind", "metadata", "dockerImageRepository"] j
  return {
    apiVersion := ← r.required "apiVersion" Json.str?
    kind := ← r.required "kind" Json.str?
    metadata := ← r.required "metadata" metadata?
    follows := ← r.optional "dockerImageRepository" Json.str? }

def object : Object → Json
  | .buildConfig b => buildConfig b
  | .deploymentConfig d => deploymentConfig d
  | .service s => service s
  | .imageRepository r => imageRepository r

def listOf (os : List Object) : Json :=
  .obj [("kind", .str "List"), ("apiVersion", .str apiVersion), ("items", .arr (os.map object))]

/-- The text of a plan, which ends with a line feed. -/
def objectList (layout : Json.Layout) (os : List Object) : String :=
  Json.write layout (listOf os) ++ "\n"

def objectKind? : Json → Option ObjectKind :=
  constant? [.buildConfig, .deploymentConfig, .service, .imageRepository] ObjectKind.word

end DeployPlan.Encoding
