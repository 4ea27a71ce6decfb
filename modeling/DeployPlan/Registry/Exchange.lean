import DeployPlan.Http.Client
import DeployPlan.Registry.Challenge
import DeployPlan.Registry.Manifest
import DeployPlan.Resolver.Registry

/-!
# Asking a registry

`RegistryServer.fetchImage` reads the manifest of an image, the manifest for its platform if there
are several, and the document with its settings. A server may first want a token: then one is asked
for where the server says, without any credentials, and sent from then on.
-/

namespace DeployPlan

/-- A registry that is asked over HTTP. -/
structure RegistryServer where
  /-- The address in front of all paths, without slashes at its end. -/
  base : String
  /-- Host and port; the port only if it is not the usual one. -/
  host : String
  deriving DecidableEq, Repr, Inhabited

namespace RegistryServer

/-- The registry at an address. -/
def ofAddress (address : String) : Except Error RegistryServer :=
  match Url.parse address with
  | .error e => .error (.validation "registry" (address ++ ": " ++ e.message))
  | .ok url =>
    if url.host.isNone then .error (.validation "registry" (address ++ " has no host"))
    else .ok {
      base := String.ofList (Text.trimEndWhere (· == '/') address.toList)
      host := url.hostAndPort }

def manifestKinds : String :=
  "application/vnd.docker.distribution.manifest.v2+json, " ++
  "application/vnd.docker.distribution.manifest.list.v2+json, " ++
  "application/vnd.oci.image.manifest.v1+json, " ++
  "application/vnd.oci.image.index.v1+json"

def manifestUrl (s : RegistryServer) (repository reference : String) : String :=
  s.base ++ "/v2/" ++ repository ++ "/manifests/" ++ reference

def blobUrl (s : RegistryServer) (repository digest : String) : String :=
  s.base ++ "/v2/" ++ repository ++ "/blobs/" ++ digest

def unavailable (s : RegistryServer) (reason : String) : Error :=
  .resolverTransient ("registry " ++ s.host ++ ": " ++ reason)

/-- A result, with a failure as an error of this registry. -/
def orUnavailable {α : Type} (s : RegistryServer) (r : Except HttpFailure α) : Except Error α :=
  r.mapError fun failure => s.unavailable failure.message

/-- The address at which a challenge is met: the realm, asked for service and scope. -/
def tokenUrl (c : BearerChallenge) : Except Url.Fault Url := do
  let url ← Url.parse c.realm
  let url := { url with query := some (url.query.getD "") }
  let url := c.service.elim url (url.addPair "service")
  return c.scope.elim url (url.addPair "scope")

variable {m : Type → Type} [Monad m] (s : RegistryServer) (http : HttpClient m)

def ask (r : HttpRequest) : ExceptT Error m HttpResponse := do
  s.orUnavailable (← http.get r)

/-- A token for a challenge, unless it is refused. -/
def fetchToken (c : BearerChallenge) : ExceptT Error m (Option String) := do
  match tokenUrl c with
  | .error e => throw (s.unavailable e.message)
  | .ok url =>
    let response ← s.ask http { url := url.toString }
    if !response.isSuccess then return none
    s.orUnavailable (response.decode Encoding.tokenShape Encoding.token?)

def challenge? (r : HttpResponse) : Option BearerChallenge :=
  if r.status = 401 then (r.header? "www-authenticate").bind BearerChallenge.parse else none

/-- The answer to a request, and the token to use from now on. Without a token so far, a challenge
is met once. -/
def send (token : Option String) (url : String) (accept : Option String) :
    ExceptT Error m (HttpResponse × Option String) := do
  let response ← s.ask http { url, accept, bearer := token }
  match token, challenge? response with
  | none, some challenge =>
    match ← s.fetchToken http challenge with
    | none => return (response, none)
    | some fresh => return (← s.ask http { url, accept, bearer := some fresh }, some fresh)
  | token, _ => return (response, token)

/-- What an answer to a request for a manifest says: the manifest and its digest, unless the
registry does not have it. -/
def readManifest (r : HttpResponse) : Except Error (Option (Option String × Manifest)) :=
  if r.isSuccess then
    s.orUnavailable ((r.decode Encoding.manifestShape Encoding.manifest?).map fun manifest =>
      some (r.header? "docker-content-digest", manifest))
  else if r.status = 404 ∨ r.status = 401 ∨ r.status = 403 then .ok none
  else
    .error (.resolverTransient
      ("registry " ++ s.host ++ " answered " ++ HttpStatus.text r.status))

/-- A manifest and its digest, and the token to use from now on. -/
def fetchManifest (token : Option String) (repository reference : String) :
    ExceptT Error m (Option (Option String × Manifest) × Option String) := do
  let (response, token) ←
    s.send http token (s.manifestUrl repository reference) (some manifestKinds)
  return (← s.readManifest response, token)

def readSettings (url : String) (r : HttpResponse) : Except Error ContainerSettings :=
  s.orUnavailable <|
    if r.isError then .error (.refused r.status { url : HttpRequest }.shownUrl)
    else r.decode Encoding.imageSettingsShape Encoding.imageSettings?

def fetchSettings (token : Option String) (repository : String) (digest : Option String)
    (manifest : Manifest) : ExceptT Error m RegistryImage := do
  match manifest.config with
  | none => return { digest }
  | some config =>
    let url := s.blobUrl repository config
    let (response, _) ← s.send http token url none
    return { digest, settings := ← s.readSettings url response }

/-- The image of a repository with a tag or digest, if the registry has it. -/
def fetchImage (repository reference : String) : ExceptT Error m (Option RegistryImage) := do
  match ← s.fetchManifest http none repository reference with
  | (none, _) => return none
  | (some (digest, manifest), token) =>
    match manifest.entries with
    | none => return some (← s.fetchSettings http token repository digest manifest)
    | some entries =>
      match PlatformEntry.choose entries with
      | none => return none
      | some chosen =>
        match ← s.fetchManifest http token repository chosen with
        | (none, _) => return none
        | (some (_, manifest), token) =>
          return some (← s.fetchSettings http token repository (some chosen) manifest)

end RegistryServer

def RegistryClient.overHttp {m : Type → Type} [Monad m] (http : HttpClient m) (s : RegistryServer) :
    RegistryClient m where
  host := s.host
  fetch := s.fetchImage http

end DeployPlan
