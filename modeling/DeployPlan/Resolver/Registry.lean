import DeployPlan.Resolver.Chain

/-!
# Images in a registry

`Resolver.registry` asks a registry for an image. The public hub goes by two names and keeps images
without a group in the group `library`; `Registry.question` is what is asked, `Registry.answerName`
the name of what is found.
-/

namespace DeployPlan

/-- An image as a registry describes it. -/
structure RegistryImage where
  digest : Option String := none
  settings : ContainerSettings := {}
  deriving DecidableEq, Inhabited

/-- A registry: its host, and the image of a repository with a tag or digest, if it has it. -/
structure RegistryClient (m : Type → Type) where
  host : String
  fetch : (repository reference : String) → ExceptT Error m (Option RegistryImage)

namespace Registry

def hubHost : String := "registry-1.docker.io"

/-- The name of the public hub in image names. -/
def hubName : String := "docker.io"

/-- The group of images of the hub that have none. -/
def hubGroup : String := "library"

def nameOf (host : String) : String :=
  if host = hubHost then hubName else host

/-- Whether a registry in an image name is the one with this host. -/
def serves (host registry : String) : Bool :=
  registry = host || registry = nameOf host

def repositoryOf (host : String) (name : ImageName) : String :=
  if name.group.isNone ∧ nameOf host = hubName then hubGroup ++ "/" ++ name.name
  else name.repository

def referenceOf (name : ImageName) : String :=
  name.digest.getD name.tagOrDefault

/-- The name of the image that is found: with the registry, and with the tag that was meant. -/
def answerName (host : String) (name : ImageName) : ImageName :=
  { name with
    registry := some (nameOf host)
    tag := if name.tag.isNone ∧ name.digest.isNone then some (referenceOf name) else name.tag }

end Registry

/-- Finds images in a registry. -/
def Resolver.registry {m : Type → Type} [Monad m] (client : RegistryClient m) : Resolver m where
  name := "registry"
  resolve text := do
    let name ← ImageName.parse text
    if name.registry.any (!Registry.serves client.host ·) then throw (.resolverNoMatch text)
    match ← client.fetch (Registry.repositoryOf client.host name) (Registry.referenceOf name) with
    | none => throw (.resolverNoMatch text)
    | some found =>
      let answered := Registry.answerName client.host name
      return .ofSettings answered .registry found.digest found.settings

end DeployPlan
