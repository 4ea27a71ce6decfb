import DeployPlan.Object.PodSchema
import DeployPlan.Object.ServiceSchema
import DeployPlan.Strategy

/-!
# Objects of the platform

The objects that a plan consists of: what is built and when (`BuildConfig`), what runs
(`DeploymentConfig`), where it can be reached (`Service`) and where its images are kept
(`ImageRepository`). `Object.key` identifies an object, `Object.signatures` and
`Object.containerPorts` are the ports that it serves and declares. What a plan does not look at in
pods and services is held in `others`, by the schema of its fields.
-/

namespace DeployPlan

def apiVersion : String := "v1"

/-- The kinds of objects. -/
inductive ObjectKind
  | buildConfig
  | deploymentConfig
  | service
  | imageRepository
  deriving DecidableEq, Repr, Inhabited

def ObjectKind.word : ObjectKind → String
  | .buildConfig => "BuildConfig"
  | .deploymentConfig => "DeploymentConfig"
  | .service => "Service"
  | .imageRepository => "ImageRepository"

/-- What identifies an object: there is one of each kind and name. -/
structure ObjectKey where
  kind : ObjectKind
  name : String
  deriving DecidableEq, Repr

/-- The key as a text. -/
protected def ObjectKey.toString (k : ObjectKey) : String :=
  k.kind.word ++ "/" ++ k.name

/-- A reference to an image: to one that the platform keeps, or by pull specification. -/
structure ImageReference where
  kind : String
  name : String
  project : Option String := none
  deriving DecidableEq, Repr, Inhabited

def ImageReference.repository (name : String) (project : Option String) : ImageReference :=
  { kind := ObjectKind.imageRepository.word, name, project }

def ImageReference.pulled (pullSpec : String) : ImageReference :=
  { kind := "DockerImage", name := pullSpec }

/-- A remote repository to build from. -/
structure GitSource where
  uri : String
  ref : Option String
  deriving DecidableEq, Repr, Inhabited

/-- What is built. -/
structure BuildSource where
  /-- `Git` for remote repositories, `Binary` for what is uploaded. -/
  kind : String
  git : Option GitSource
  contextDir : Option String
  deriving DecidableEq, Repr, Inhabited

/-- A build from a build file. -/
structure BuildFileStrategy where
  noCache : Bool
  /-- The image that counts in place of the one that the build file names. -/
  from? : Option ImageReference
  deriving DecidableEq, Repr, Inhabited

/-- A build with a builder image. -/
structure BuilderStrategy where
  base : ImageReference
  incremental : Bool
  deriving DecidableEq, Repr, Inhabited

/-- A build by an image with its own tooling. -/
structure CustomStrategy where
  base : ImageReference
  exposeSocket : Bool
  env : StringMap String
  deriving DecidableEq, Inhabited

/-- How something is built. -/
structure BuildStrategy where
  kind : StrategyKind
  buildFile : Option BuildFileStrategy := none
  builder : Option BuilderStrategy := none
  custom : Option CustomStrategy := none
  deriving DecidableEq, Inhabited

/-- What starts a build. -/
inductive BuildTrigger
  /-- A change of the image that the build starts from. -/
  | imageChange (base : ImageReference) (tag : String)
  /-- The definition itself: it is new or was changed. -/
  | configChange
  deriving DecidableEq, Repr

/-- The definition of a build. -/
structure BuildConfig where
  apiVersion : String := DeployPlan.apiVersion
  kind : String := ObjectKind.buildConfig.word
  metadata : Metadata
  triggers : List BuildTrigger
  source : BuildSource
  strategy : BuildStrategy
  output : ImageReference
  deriving DecidableEq, Inhabited

/-- What starts a rollout. -/
inductive DeploymentTrigger
  | configChange
  | imageChange (automatic : Bool) (containers : List String) (image : ImageReference)
    (tag : String)
  deriving DecidableEq, Repr

/-- A port that a container listens on. -/
structure ContainerPort where
  number : Int
  protocol : Option String := none
  others : Field.Values Schema.portFields := default
  deriving DecidableEq

/-- A variable that a container sees. -/
structure Variable where
  name : String
  value : Option String := none
  /-- Where the value comes from if it is not given. -/
  source : Option Schema.variableSource.Value := none
  deriving DecidableEq

/-- The variable with that name and value. -/
def Variable.ofEntry (entry : String × String) : Variable :=
  { name := entry.1, value := some entry.2 }

/-- A container that runs. -/
structure Container where
  name : String
  image : Option String := none
  ports : Option (List ContainerPort) := none
  env : Option (List Variable) := none
  others : Field.Values Schema.containerFields := default
  deriving DecidableEq

/-- What each running copy looks like. -/
structure PodTemplate where
  metadata : Option Metadata := none
  /-- The containers, or nothing when the copies are not specified. -/
  containers : Option (List Container) := none
  others : Field.Values Schema.podFields := default
  /-- Copies that are not specified have no other fields either. -/
  specified : containers = none → others = default := by exact fun _ => rfl
  deriving DecidableEq

instance : Inhabited PodTemplate :=
  ⟨{}⟩

/-- The definition of a deployment. -/
structure DeploymentConfig where
  apiVersion : String := DeployPlan.apiVersion
  kind : String := ObjectKind.deploymentConfig.word
  metadata : Metadata
  triggers : List DeploymentTrigger
  /-- How one version replaces another. -/
  rollout : String := "Recreate"
  replicas : Int := 1
  selector : StringMap String
  template : PodTemplate
  deriving DecidableEq, Inhabited

/-- A port of a service, and the port behind it. -/
structure ServicePort where
  port : Int
  targetPort : Option IntOrText := none
  protocol : Option String := none
  others : Field.Values Schema.servicePortFields := default
  deriving DecidableEq

/-- Where a service leads. -/
structure ServiceSpec where
  ports : Option (List ServicePort) := none
  selector : Option (StringMap String) := none
  others : Field.Values Schema.serviceFields := default
  deriving DecidableEq, Inhabited

/-- An address under which pods are reached. -/
structure Service where
  metadata : Metadata
  spec : Option ServiceSpec
  status : Option Schema.serviceStatus.Value := none
  deriving DecidableEq, Inhabited

/-- A place that keeps the versions of an image. -/
structure ImageRepository where
  apiVersion : String := DeployPlan.apiVersion
  kind : String := ObjectKind.imageRepository.word
  metadata : Metadata
  /-- The outside repository that this one follows. -/
  follows : Option String := none
  deriving DecidableEq, Inhabited

/-- An object of a plan. -/
inductive Object
  | buildConfig (o : BuildConfig)
  | deploymentConfig (o : DeploymentConfig)
  | service (o : Service)
  | imageRepository (o : ImageRepository)
  deriving DecidableEq

/-- A port and the labels of the pods behind it. -/
abbrev Signature := Int × StringMap String

/-- The service that leads `port` to the same port of the pods with the labels `selector`. -/
def Service.forward (name : String) (port : Int) (selector : StringMap String) : Service where
  metadata := .named name
  spec := some
    { ports := some [{ port, targetPort := some (.int port), protocol := some "TCP" }]
      selector := some selector }

/-- The ports and labels that a service covers. -/
def Service.signatures (s : Service) : List Signature :=
  match s.spec with
  | none => []
  | some spec => (spec.ports.getD []).map fun p => (p.port, spec.selector.getD .empty)

/-- The ports without those seen before, each once. -/
def distinctPorts (seen : List Int) : List Int → List Int
  | [] => []
  | p :: r => if seen.contains p then distinctPorts seen r else p :: distinctPorts (p :: seen) r

/-- The ports that the containers declare, each once, in the order of their first mention. -/
def DeploymentConfig.containerPorts (d : DeploymentConfig) : List Int :=
  distinctPorts [] <|
    (d.template.containers.getD []).flatMap fun c => (c.ports.getD []).map (·.number)

namespace Object

def kind : Object → ObjectKind
  | .buildConfig _ => .buildConfig
  | .deploymentConfig _ => .deploymentConfig
  | .service _ => .service
  | .imageRepository _ => .imageRepository

def metadata : Object → Metadata
  | .buildConfig o => o.metadata
  | .deploymentConfig o => o.metadata
  | .service o => o.metadata
  | .imageRepository o => o.metadata

/-- The name, empty if the object has none. -/
def name (o : Object) : String :=
  o.metadata.name.getD ""

def key (o : Object) : ObjectKey :=
  ⟨o.kind, o.name⟩

/-- The ports that the object declares. -/
def containerPorts : Object → List Int
  | .deploymentConfig d => d.containerPorts
  | _ => []

def selector? : Object → Option (StringMap String)
  | .deploymentConfig d => if d.selector.isEmpty then none else some d.selector
  | .service s => s.spec.bind (·.selector)
  | _ => none

/-- The ports and labels that the object covers. -/
def signatures : Object → List Signature
  | .service s => s.signatures
  | _ => []

def isService : Object → Bool
  | .service _ => true
  | _ => false

end Object

end DeployPlan
