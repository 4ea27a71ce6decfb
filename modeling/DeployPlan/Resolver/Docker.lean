import DeployPlan.Encoding.ImageDescription
import DeployPlan.Http.Client
import DeployPlan.Resolver.Chain

/-!
# Images of the local container runtime

`Resolver.docker` asks the daemon of the local runtime. Its answer that an image is not there is no
failure; whatever else goes wrong makes the daemon unavailable.
-/

namespace DeployPlan

namespace LocalRuntime

def inspectPath (image : String) : String :=
  match Url.parse ("unix://daemon/images/" ++ image ++ "/json") with
  | .ok url => url.path ++ url.query.elim "" ("?" ++ ·)
  | .error _ => "/images/" ++ image ++ "/json"

/-- The complaint in an error of the daemon: its message, or the whole text. A text that breaks off
tells nothing. -/
def complaint? (r : HttpResponse) : Option String :=
  if r.body = "" then some ""
  else match Encoding.daemonErrorShape.parse r.body with
    | .error .unfinished => none
    | .error .malformed => some r.body
    | .ok j => (j.member? "message").bind Json.str?

def unavailable (reason : String) : Error :=
  .resolverTransient ("docker: " ++ reason)

def readAnswer (image : String) (answer : Except HttpFailure HttpResponse) :
    Except Error (Option String × ContainerSettings) :=
  match answer with
  | .error failure => .error (unavailable failure.message)
  | .ok r =>
    if r.isSuccess ∨ r.status = 304 then
      (r.decode Encoding.imageDescriptionShape Encoding.imageDescription?).mapError fun failure =>
        unavailable failure.message
    else match complaint? r with
      | none => .error (unavailable HttpFailure.undecodable.message)
      | some complaint =>
        if r.status = 404 then .error (.resolverNoMatch image)
        else .error (unavailable
          ("Docker responded with status code " ++ toString r.status ++ ": " ++ complaint))

end LocalRuntime

/-- Finds images in the store of the local container runtime. -/
def Resolver.docker {m : Type → Type} [Monad m] (daemon : HttpClient m) : Resolver m where
  name := "docker"
  resolve image := do
    let name ← ImageName.parse image
    let answer ← daemon.get { url := LocalRuntime.inspectPath image }
    let (id, settings) ← LocalRuntime.readAnswer image answer
    return .ofSettings name .localRuntime id settings

end DeployPlan
