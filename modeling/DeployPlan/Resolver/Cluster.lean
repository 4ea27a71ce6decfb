import DeployPlan.Encoding.Resource
import DeployPlan.Encoding.Settings
import DeployPlan.Http.Client
import DeployPlan.Resolver.ImageStream

/-!
# Image streams of a cluster

The platform records for each tag of an image stream which images it has stood for, the latest one
first. `StreamLookup.ofCluster` asks the platform for the stream and then for the image, which may
tell its settings.
-/

namespace DeployPlan

namespace Cluster

/-- The path of the platform's resources for images. -/
def resources : String := "/apis/image.openshift.io/v1/"

def streamPath (project stream : String) : String :=
  resources ++ "namespaces/" ++ project ++ "/imagestreams/" ++ stream

def imagePath (id : String) : String :=
  resources ++ "images/" ++ id

/-- A character that may stand in the path of a request as it is. -/
def isPathChar (c : Char) : Bool :=
  let n := c.toNat
  n == 0x21 || n == 0x22 || (0x24 ≤ n && n ≤ 0x3b) || n == 0x3d || (0x40 ≤ n && n ≤ 0x5f) ||
    (0x61 ≤ n && n ≤ 0x7e) || 0x80 ≤ n

def unavailable (reason : String) : Error :=
  .resolverTransient ("cluster: " ++ reason)

/-- What an answer says about a resource: there is none, or what it holds. -/
def readResource (answer : Except HttpFailure HttpResponse) : Except Error (Option Json) :=
  match answer with
  | .error failure => .error (unavailable failure.message)
  | .ok r =>
    if r.isError then
      match (Encoding.platformErrorShape.parse r.body).map Encoding.errorReason with
      | .ok "NotFound" => .ok none
      | _ => .error (unavailable (HttpStatus.text r.status))
    else (r.decode Encoding.resourceShape fun j => some (some j)).mapError fun failure =>
      unavailable failure.message

/-- The latest image that a tag has stood for. -/
structure TagEvent where
  /-- The text by which the image is pulled. -/
  reference : String
  /-- The name of the image in the platform. -/
  image : Option String := none
  deriving DecidableEq, Repr, Inhabited

/-- The latest image that a stream records for a tag. -/
def latest? (stream : Json) (tag : String) : Option TagEvent := do
  let tags ← (← stream.at? ["status", "tags"]).items?
  let entry ← tags.find? fun t => (t.member? "tag").bind Json.str? = some tag
  let item ← (← (← entry.member? "items").items?).head?
  let reference ← (← item.member? "dockerImageReference").str?
  return { reference, image := (item.member? "image").bind Json.str? }

/-- The name of the image that a tag stands for. A reference that is no image name is replaced by
the stream's own name; a reference without a tag, as to one fixed image, gets the tag that was asked
for. -/
def nameOf (project : String) (asked : ImageName) (event : TagEvent) : ImageName :=
  let name := match ImageName.parse event.reference with
    | .ok name => name
    | .error _ => { group := some project, name := asked.name }
  { name with tag := some (name.tag.getD asked.tagOrDefault) }

/-- The settings of an image, as far as the platform tells them. -/
def settingsOf (image : Option Json) : ContainerSettings :=
  ((image.bind (·.at? ["dockerImageMetadata", "Config"])).map Encoding.looseSettings).getD {}

def imageOf (project : String) (asked : ImageName) (event : TagEvent) (image : Option Json) :
    Image :=
  .ofSettings (nameOf project asked event) (.platform project) event.image (settingsOf image)

variable {m : Type → Type} [Monad m] (api : HttpClient m)

/-- The resource of that name, at a path that ends in the name. -/
def fetch (path name : String) : ExceptT Error m (Option Json) := do
  if name = "" then throw (unavailable "a resource name cannot be empty")
  let target := path.toList.takeWhile fun c => c ≠ '?' ∧ c ≠ '#'
  if !target.all isPathChar then throw (unavailable "invalid uri character")
  readResource (← api.get { url := String.ofList target })

/-- The image that a stream of a project has for the tag of a name. -/
def find (project : String) (name : ImageName) : ExceptT Error m (Option Image) := do
  match ← fetch api (streamPath project name.name) name.name with
  | none => return none
  | some stream =>
    match latest? stream name.tagOrDefault with
    | none => return none
    | some event =>
      let image ← match event.image with
        | none => pure none
        | some id => fetch api (imagePath id) id
      return some (imageOf project name event image)

end Cluster

/-- Looks in the image streams of a cluster. -/
def StreamLookup.ofCluster {m : Type → Type} [Monad m] (api : HttpClient m) : StreamLookup m where
  find := Cluster.find api

end DeployPlan
