import DeployPlan.Detection
import DeployPlan.Resolver.Chain
import DeployPlan.Strategy

/-!
# Choosing a strategy

A caller may say how to build a source: from the build file in a directory of it, or with an image.
Otherwise the source itself is looked at, locally if that is possible and else in a snapshot that is
fetched and released again.
-/

namespace DeployPlan

/-- What a caller may say about how to build. -/
inductive StrategyOverride
  /-- With the build file in this directory of the source. -/
  | context (dir : String)
  /-- With this image. -/
  | builderImage (name : String)
  deriving DecidableEq, Repr

namespace Strategy

/-- Checks a directory that a caller names: a path that stays inside of the source. -/
def validateContext (dir : String) : Except Error Unit :=
  if Text.trim dir.toList = [] then .error (.validation "context" "may not be empty")
  else if (Path.steps dir).any fun s => s == .root || s == .parent then
    .error (.validation "context"
      (Text.quoted dir ++ " must be a relative path inside the source"))
  else .ok ()

/-- The strategy for a build file. Its ports are kept even if its base cannot be named. -/
def ofBuildFile (contextDir : Option String) (file : BuildFile) : Strategy :=
  { kind := .buildFile
    base := file.base.map (Image.declared · file.ports)
    contextDir
    detectedPorts := file.ports }

variable {m : Type → Type} [Monad m]

/-- The strategy with the build file in a directory of a source. Nothing is fetched: without a local
root the build file remains unknown. -/
def ofContext (files : Files m) (source : Source) (dir : String) : ExceptT Error m Strategy := do
  validateContext dir
  match source.buildRoot? with
  | none => return ofBuildFile (some dir) {}
  | some root =>
    match ← Snapshot.readFile files (Path.join (Path.join root dir) buildFileName) with
    | none => return ofBuildFile (some dir) {}
    | some content =>
      let file ← BuildFile.parse content
      return ofBuildFile (some dir) file

def ofBuilder (resolver : Resolver m) (name : String) : ExceptT Error m Strategy := do
  let image ← resolver.resolve name
  let kind := if image.isCustomBuilder then StrategyKind.customTooling else .builderImage
  return { kind, base := some image }

def ofSnapshot (resolver : Resolver m) (detectors : List Detector) (source : Source)
    (snapshot : Snapshot m) : ExceptT Error m Strategy := do
  match ← detect detectors snapshot with
  | some (.buildFile file) => return ofBuildFile none file
  | some (.builderImage _ name) =>
    let image ← resolver.resolve name
    return { kind := .builderImage, base := some image }
  | none => throw (.noStrategyMatch source.toString)

/-- A snapshot of a source, of its local directory if it has one. -/
def snapshotOf (files : Files m) (fetcher : Fetcher m) (source : Source) :
    ExceptT Error m (Snapshot m) :=
  match source.buildRoot? with
  | some root => return .ofDirectory files root
  | none => fetcher.fetch source

/-- The strategy that a source calls for. However that ends, the snapshot is released last. -/
def ofSource (files : Files m) (resolver : Resolver m) (fetcher : Fetcher m)
    (detectors : List Detector) (source : Source) : ExceptT Error m Strategy := do
  let snapshot ← snapshotOf files fetcher source
  ExceptT.mk do
    let result ← (ofSnapshot resolver detectors source snapshot).run
    snapshot.release
    return result

/-- The strategy for a source, as the caller says or as the source calls for. -/
def select (files : Files m) (resolver : Resolver m) (fetcher : Fetcher m)
    (detectors : List Detector) (source : Source) (choice : Option StrategyOverride)
    (options : StrategyOptions) : ExceptT Error m Strategy := do
  let strategy ← match choice with
    | some (.context dir) => ofContext files source dir
    | some (.builderImage name) => ofBuilder resolver name
    | none => ofSource files resolver fetcher detectors source
  return { strategy with options }

end Strategy

end DeployPlan
