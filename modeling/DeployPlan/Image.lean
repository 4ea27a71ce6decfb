import DeployPlan.ImageName
import DeployPlan.PortSet
import DeployPlan.StringMap
import DeployPlan.EnvVar
import DeployPlan.ExposedPort

/-!
# Images

What is known about an image: its name, where it was found, and the settings it carries. The labels
`io.appgen.*` say how an image can be used.
-/

namespace DeployPlan

/-- Where an image was found. -/
inductive ImageOrigin
  /-- In the image store of the local container runtime. -/
  | localRuntime
  /-- In an image stream of the platform, in this project. -/
  | platform (project : String)
  /-- In a remote registry. -/
  | registry
  /-- It is only named by a build file. -/
  | declared
  deriving DecidableEq, Repr, Inhabited

/-- An image and what is known about it. -/
structure Image where
  name : ImageName
  /-- How the place where it was found identifies it: an image id or a digest. -/
  id : Option String := none
  ports : PortSet := .empty
  env : StringMap String := .empty
  labels : StringMap String := .empty
  origin : ImageOrigin
  deriving DecidableEq, Inhabited

/-- The settings of a container as its image records them. -/
structure ContainerSettings where
  /-- Declarations such as `8080/tcp`. -/
  ports : List String := []
  /-- Entries such as `KEY=VALUE`. -/
  env : List String := []
  labels : StringMap String := .empty
  deriving DecidableEq, Inhabited

namespace Image

/-- The label of images whose output cannot run. -/
def nonRunnableLabel : String := "io.appgen.non-runnable"

/-- The label of images that only produce artifacts. -/
def buildOnlyLabel : String := "io.appgen.build-only"

/-- The label of images that bring their own build tooling. -/
def customBuilderLabel : String := "io.appgen.custom-builder"

/-- The image that a build file names. -/
def declared (name : ImageName) (ports : PortSet) : Image :=
  { name, ports, origin := .declared }

/-- An image with the given settings. -/
def ofSettings (name : ImageName) (origin : ImageOrigin) (id : Option String)
    (s : ContainerSettings) : Image :=
  { name, origin, id
    ports := .ofList (s.ports.filterMap ExposedPort.read)
    env := EnvVar.ofEntries s.env
    labels := s.labels }

/-- The text by which the image is pulled. -/
def pullSpec (i : Image) : String :=
  i.name.toString

/-- Whether the platform follows this image through an image repository. -/
def isTracked (i : Image) : Bool :=
  match i.origin with
  | .platform _ | .registry => true
  | .localRuntime | .declared => false

def labelIsTrue (i : Image) (key : String) : Bool :=
  match i.labels.get? key with
  | some v => Text.equalIgnoringCase v.toList "true".toList
  | none => false

def isRunnable (i : Image) : Bool :=
  !i.labelIsTrue nonRunnableLabel

/-- Whether building with this image produces artifacts only. -/
def isBuildOnly (i : Image) : Bool :=
  i.labelIsTrue buildOnlyLabel

/-- Whether the image brings its own build tooling. -/
def isCustomBuilder (i : Image) : Bool :=
  i.labelIsTrue customBuilderLabel

end Image

end DeployPlan
