import DeployPlan.Resolver.Chain

/-!
# Images that the platform follows

`Resolver.imageStream` looks for an image in projects of the platform: in the one that its name
says, or in the caller's own project and then in the shared one.
-/

namespace DeployPlan

/-- Looks for an image in one project. Nothing is found if the platform answers that it is not
there. -/
structure StreamLookup (m : Type → Type) where
  find : String → ImageName → ExceptT Error m (Option Image)

namespace ImageStream

/-- The shared project when none is configured. -/
def fallbackProject : String := "default"

/-- The projects to look in, each once: the caller's own, if there is one, and the shared one. -/
def projects (own : Option String) (shared : String) : List String :=
  let shared := if shared = "" then fallbackProject else shared
  match own with
  | none | some "" => [shared]
  | some own => if own = shared then [own] else [own, shared]

/-- The projects in which a name is looked for. -/
def probes (projects : List String) (name : ImageName) : List String :=
  match name.group with
  | some group => [group]
  | none => projects

variable {m : Type → Type} [Monad m]

/-- The first image found in some projects. A project that cannot be asked is passed over, but
remembered for the case that nothing is found. -/
def search (lookup : StreamLookup m) (text : String) (name : ImageName)
    (unavailable : Option String) : List String → ExceptT Error m Image
  | [] =>
    match unavailable with
    | some message => throw (.resolverTransient message)
    | none => throw (.resolverNoMatch text)
  | project :: rest => ExceptT.mk do
    match ← (lookup.find project name).run with
    | .ok (some image) => return .ok image
    | .ok none => (search lookup text name unavailable rest).run
    | .error (.resolverTransient message) => (search lookup text name (some message) rest).run
    | .error e => return .error e

end ImageStream

/-- Finds images in the projects of the platform. Names with a registry are never there. -/
def Resolver.imageStream {m : Type → Type} [Monad m] (lookup : StreamLookup m)
    (projects : List String) : Resolver m where
  name := "imagestream"
  resolve text := do
    let name ← ImageName.parse text
    if name.registry.isSome then throw (.resolverNoMatch text)
    ImageStream.search lookup text name none (ImageStream.probes projects name)

end DeployPlan
