import DeployPlan.DnsName
import DeployPlan.Source
import DeployPlan.Url.Parser

/-!
# Remote repositories

Which texts name a remote repository (`isRemote`), and the source that such a text stands for
(`Source.ofAddress`): its part after a number sign is the ref to build.
-/

namespace DeployPlan

namespace Remote

/-- The schemes of addresses from which repositories are fetched. -/
def schemes : List String := ["http", "https", "git", "ssh", "file"]

def isUserChar (c : Char) : Bool :=
  c.isAlphanum || c == '.' || c == '_' || c == '-'

def isHostChar (c : Char) : Bool :=
  c.isAlphanum || c == '.' || c == '-'

/-- Whether a text has the short form `user@host:path`, the path starting with no slash of either
kind. -/
def isShort (s : List Char) : Bool :=
  match Text.cut '@' s with
  | none => false
  | some (user, r) =>
    match Text.cut ':' r with
    | none => false
    | some (host, path) =>
      user ≠ [] && user.all isUserChar && host ≠ [] && host.all isHostChar &&
        match path with
        | [] => false
        | c :: rest => c != '/' && c != '\\' && !rest.contains '\n'

/-- Whether a text names a remote repository and not a local path. -/
def isRemote (address : String) : Bool :=
  isShort address.toList ||
    match Url.parse address with
    | .ok url => schemes.contains url.scheme
    | .error _ => false

/-- A name from the last segment of an address, without the ending of repositories. -/
def nameOf (address : String) : Option String :=
  let trimmed := Text.trimEndWhere (· == '/') address.toList
  let last := (Text.splitWhere (fun c => c == '/' || c == ':') trimmed).getLastD []
  DnsName.normalize (String.ofList ((Text.stripTail? ".git".toList last).getD last))

/-- Whether an address may stand without a host. -/
def needsHost (u : Url) : Bool :=
  u.scheme != "file"

/-- Checks an address that is followed by further text in `input`. -/
def check (input address : String) : Except Error Unit := do
  if !isRemote address then
    .error (.sourceDetection (input ++ " is not a valid repository URL"))
  if !isShort address.toList then
    match Url.parse address with
    | .error e => .error (.sourceDetection (input ++ ": " ++ e.message))
    | .ok url =>
      if needsHost url && url.hostText?.getD "" == "" then
        .error (.sourceDetection (input ++ " has no host"))

end Remote

/-- The source in a remote repository. Nothing is fetched. -/
def Source.ofAddress (input : String) : Except Error Source := do
  let (address, ref) := match Text.cut '#' input.toList with
    | some (address, ref) => (String.ofList address, String.ofList ref)
    | none => (input, "")
  Remote.check input address
  match Remote.nameOf address with
  | none => .error (.sourceDetection ("cannot derive a name from " ++ input))
  | some name =>
    return { name, location := .url address, ref := if ref = "" then none else some ref }

end DeployPlan
