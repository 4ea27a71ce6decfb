import DeployPlan.Object.Acceptance
import DeployPlan.Source

/-!
# Pipelines

A pipeline ties a source to the strategy that builds it. `Pipeline.new` refuses parts that do not
fit together, `Pipeline.needsDeployment` decides whether the result runs, and `Pipeline.drafts` are
the objects that make the platform build and run it.
-/

namespace DeployPlan

/-- What a deployment runs with. -/
structure DeploymentPlan where
  env : StringMap String
  ports : List UInt16
  deriving DecidableEq

/-- A source, what builds it, and what runs the result. -/
structure Pipeline where
  name : String
  base : Option Image
  source : Source
  strategy : Strategy
  deployment : Option DeploymentPlan := none
  deriving DecidableEq

namespace Pipeline

/-- The label by which the pods of a deployment are found. -/
def deploymentLabel : String := "deploymentconfig"

/-- The tag under which the result of a build is kept and deployed. -/
def outputTag : String := "latest"

/-- A text without anything but blanks. -/
def isBlankText (s : String) : Bool :=
  Text.trim s.toList == []

/-- The pipeline of these parts, if they fit together: the name is there, a strategy that needs a
base has one, a context directory says something, and both say the same about the base. -/
def new (name : String) (base : Option Image) (strategy : Strategy) (source : Source) :
    Except Error Pipeline := do
  if name = "" then .error (.pipelineConsistency "pipeline name is empty")
  match strategy.kind with
  | .builderImage | .customTooling =>
    if base.isNone then
      .error (.pipelineConsistency
        (strategy.kind.word ++ " strategy for " ++ name ++ " has no base image"))
  | .buildFile =>
    if strategy.contextDir.any isBlankText then
      .error (.pipelineConsistency
        ("container-native strategy for " ++ name ++ " has no context"))
  if let (some b, some sb) := (base, strategy.base) then
    if b.name ≠ sb.name then
      .error (.pipelineConsistency
        ("base image " ++ b.pullSpec ++ " does not match strategy base " ++ sb.pullSpec))
  return { name, base, source, strategy }

/-- Decides whether the result runs, and with what: the variables of the base, those of `env`
counting where both have one. -/
def needsDeployment (p : Pipeline) (env : StringMap String) : Bool × Pipeline :=
  if p.strategy.isBuildOnly then (false, { p with deployment := none })
  else
    let inherited := p.base.elim .empty (·.env)
    (true, { p with
      deployment := some { env := inherited.overlay env, ports := p.strategy.exposedPorts } })

/-- How a build refers to its base: by the stream or repository of the platform that follows it,
else by pull specification. -/
def baseReference (base : Image) : ImageReference :=
  match base.origin with
  | .platform project => .repository base.name.name (some project)
  | .registry => .repository base.name.name none
  | .localRuntime | .declared => .pulled base.pullSpec

/-- Two context directories, one below the other, if there is anything left of them. -/
def joinContext (outer inner : Option String) : Option String :=
  let trimSlashes (s : String) : List Char :=
    Text.trimEndWhere (· == '/') (s.toList.dropWhile (· == '/'))
  match (outer.toList ++ inner.toList).map trimSlashes |>.filter fun s => s ≠ [] ∧ s ≠ ['.'] with
  | [] => none
  | parts => some (String.ofList (Text.joinWith '/' parts))

def buildSource (p : Pipeline) : BuildSource :=
  let git := p.source.uri?.map fun uri => { uri, ref := p.source.ref : GitSource }
  { kind := if git.isSome then "Git" else "Binary"
    git
    contextDir := joinContext p.source.contextDir p.strategy.contextDir }

def buildStrategy (p : Pipeline) : BuildStrategy :=
  let kind := p.strategy.kind
  let options := p.strategy.options
  match kind, p.base.map baseReference with
  | .buildFile, from? => { kind, buildFile := some { noCache := options.noCache, from? } }
  | .builderImage, some base =>
    { kind, builder := some { base, incremental := options.incremental } }
  | .customTooling, some base =>
    { kind, custom := some { base, exposeSocket := true, env := .empty } }
  | _, none => { kind }

/-- What starts the build: a change of the base if the platform follows it, and a change of the
definition. -/
def buildTriggers (p : Pipeline) : List BuildTrigger :=
  match p.base with
  | some base =>
    if base.isTracked then
      [.imageChange (baseReference base) base.name.tagOrDefault, .configChange]
    else [.configChange]
  | none => [.configChange]

def outputReference (p : Pipeline) : ImageReference :=
  .repository p.name none

def buildConfig (p : Pipeline) : BuildConfig where
  metadata := .named p.name
  triggers := p.buildTriggers
  source := p.buildSource
  strategy := p.buildStrategy
  output := p.outputReference

/-- The labels of the pods that run the result. -/
def selector (p : Pipeline) : StringMap String :=
  StringMap.empty.insert deploymentLabel p.name

/-- The list, or nothing instead of an empty one. -/
def unlessEmpty {α : Type} : List α → Option (List α)
  | [] => none
  | l => some l

def container (p : Pipeline) (plan : DeploymentPlan) : Container where
  name := p.name
  image := some (p.name ++ ":" ++ outputTag)
  ports := unlessEmpty <|
    plan.ports.map fun port => { number := (port.toNat : Int), protocol := some "TCP" }
  env := unlessEmpty (plan.env.entries.map .ofEntry)

def deploymentConfig (p : Pipeline) (plan : DeploymentPlan) : DeploymentConfig where
  metadata := .named p.name
  triggers := [.configChange, .imageChange true [p.name] p.outputReference outputTag]
  selector := p.selector
  template :=
    { metadata := some { labels := some p.selector }
      containers := some [p.container plan] }

def outputRepository (p : Pipeline) : ImageRepository where
  metadata := .named p.name

/-- The repository that follows the base, if the base lies in a registry. Streams of the platform
are there already. -/
def baseRepository? (p : Pipeline) : Option ImageRepository :=
  match p.base with
  | some base =>
    if base.origin = .registry then
      some { metadata := .named base.name.name, follows := some base.name.location }
    else none
  | none => none

/-- The objects of the pipeline, in the order in which the platform needs them. -/
def drafts (p : Pipeline) : List Object :=
  .imageRepository p.outputRepository ::
    p.baseRepository?.toList.map .imageRepository ++
    .buildConfig p.buildConfig ::
    p.deployment.toList.map fun plan => .deploymentConfig (p.deploymentConfig plan)

end Pipeline

end DeployPlan
