import DeployPlan.Image

/-!
# Build strategies

How the image of a source is built, from which base, and which ports the result will listen on.
-/

namespace DeployPlan

/-- The ways to build an image. -/
inductive StrategyKind
  /-- From a build file in the source. -/
  | buildFile
  /-- By putting the source into a builder image. -/
  | builderImage
  /-- By an image that brings its own tooling. -/
  | customTooling
  deriving DecidableEq, Repr, Inhabited

/-- The word for a strategy in the objects of the platform. -/
def StrategyKind.word : StrategyKind → String
  | .buildFile => "Docker"
  | .builderImage => "Source"
  | .customTooling => "Custom"

/-- What a caller may ask of a build. -/
structure StrategyOptions where
  /-- Build without the layer cache. -/
  noCache : Bool := false
  /-- Use artifacts of the build before. -/
  incremental : Bool := false
  /-- Only build, never deploy. -/
  buildOnly : Bool := false
  deriving DecidableEq, Repr, Inhabited

/-- A chosen strategy and what it needs. -/
structure Strategy where
  kind : StrategyKind
  /-- The builder image, or the image that a build file starts from. -/
  base : Option Image := none
  /-- The directory to build in, below the source's own. -/
  contextDir : Option String := none
  options : StrategyOptions := {}
  /-- The ports that the build file declares. -/
  detectedPorts : PortSet := .empty
  /-- The port that counts in place of all others. -/
  portOverride : Option UInt16 := none
  deriving DecidableEq, Inhabited

namespace Strategy

/-- Whether the build only produces artifacts and there is nothing to run. -/
def isBuildOnly (s : Strategy) : Bool :=
  s.options.buildOnly ||
    match s.kind, s.base with
    | .builderImage, some base => !base.isRunnable || base.isBuildOnly
    | .customTooling, some base => base.isBuildOnly
    | _, _ => false

/-- The ports that the result listens on: the one asked for, else those of the base, else those of
the build file. -/
def exposedPorts (s : Strategy) : List UInt16 :=
  match s.portOverride with
  | some port => [port]
  | none =>
    match s.base with
    | some base => if base.ports.isEmpty then s.detectedPorts.toList else base.ports.toList
    | none => s.detectedPorts.toList

end Strategy

end DeployPlan
