import DeployPlan.Config.Error
import DeployPlan.DnsName
import DeployPlan.Files
import DeployPlan.Kdl.Parser
import DeployPlan.StringMap
import DeployPlan.Url.Parser

/-!
# Settings

What a configuration file says: in which projects of the platform to look for images, which image
sources to ask, and which images build which languages. `Config.ofNodes` reads the settings from the
nodes of a document one after the other; a later node counts more than an earlier one.
-/

namespace DeployPlan

/-- The registry that is asked when none is named. -/
def defaultRegistry : String := "https://registry-1.docker.io"

/-- Which image sources are asked. -/
structure ImageSources where
  /-- The local container runtime. -/
  docker : Bool := true
  /-- The platform. -/
  cluster : Bool := true
  /-- The address of a registry. -/
  registry : Option String := some defaultRegistry
  deriving DecidableEq, Repr, Inhabited

/-- The settings of the program. -/
structure Config where
  /-- The caller's own project, where images are looked for first. -/
  project : Option String := none
  /-- The project where images are looked for next. -/
  sharedProject : String := "default"
  sources : ImageSources := {}
  /-- The images that build sources, by language. -/
  builders : StringMap String := .empty
  deriving DecidableEq, Inhabited

namespace Config

/-- The first value of a node, which has to be a text. -/
def requiredText (node : Kdl.Node) (field : String) : Except ConfigError String :=
  match node.text? with
  | some s => .ok s
  | none => .error (.missingField field)

def checkProject (field project : String) : Except ConfigError String :=
  if DnsName.isLabel project then .ok project
  else .error (.invalidValue field (Text.quoted project ++ " is not a valid namespace"))

/-- Checks the address of a registry, and takes the slashes at its end away. -/
def checkRegistry (address : String) : Except ConfigError String :=
  match Url.parse address with
  | .error e => .error (.invalidValue "registry" (address ++ ": " ++ e.message))
  | .ok url =>
    if url.scheme = "http" ∨ url.scheme = "https" then
      .ok (String.ofList (Text.trimEndWhere (· == '/') address.toList))
    else .error (.invalidValue "registry" ("unsupported scheme " ++ Text.quoted url.scheme))

/-- The image sources with what one node says about one of them. -/
def addSource (s : ImageSources) (node : Kdl.Node) : Except ConfigError ImageSources := do
  let enabled := (node.flag? "enabled").getD true
  match node.name with
  | "docker" => return { s with docker := enabled }
  | "cluster" => return { s with cluster := enabled }
  | "registry" =>
    if enabled then
      let address ← checkRegistry (node.text?.getD defaultRegistry)
      return { s with registry := some address }
    else return { s with registry := none }
  | other => .error (.invalidValue "resolvers" ("unknown resolver: " ++ other))

/-- The image sources that the children of a node describe. -/
def readSources (node : Kdl.Node) : Except ConfigError ImageSources :=
  (node.children.getD []).foldlM addSource {}

def addBuilder (builders : StringMap String) (node : Kdl.Node) :
    Except ConfigError (StringMap String) := do
  let image ← requiredText node ("builder image for '" ++ node.name ++ "'")
  if (builders.get? node.name).isSome then
    .error (.duplicate ("builder '" ++ node.name ++ "'"))
  return builders.insert node.name image

def readBuilders (node : Kdl.Node) : Except ConfigError (StringMap String) :=
  (node.children.getD []).foldlM addBuilder .empty

/-- The settings with what one node says. Nodes that are not known say nothing. -/
def addNode (c : Config) (node : Kdl.Node) : Except ConfigError Config := do
  match node.name with
  | "namespace" =>
    let project ← checkProject "namespace" (← requiredText node "namespace value")
    return { c with project := some project }
  | "default-namespace" =>
    let project ←
      checkProject "default-namespace" (← requiredText node "default-namespace value")
    return { c with sharedProject := project }
  | "resolvers" => return { c with sources := ← readSources node }
  | "builders" => return { c with builders := ← readBuilders node }
  | _ => return c

/-- The settings that the nodes of a document describe. -/
def ofNodes (nodes : List Kdl.Node) : Except ConfigError Config :=
  nodes.foldlM addNode {}

/-- The settings that the text of a document describes. -/
def parse (text : String) : Except ConfigError Config :=
  match Kdl.parse text with
  | none => .error .parse
  | some nodes => ofNodes nodes

def withProject (c : Config) (project : Option String) : Except ConfigError Config :=
  match project with
  | none => .ok c
  | some p => (checkProject "namespace" p).map fun p => { c with project := some p }

/-- The settings in a file. Without the file, everything is as usual. -/
def load {m : Type → Type} [Monad m] (files : Files m) (path : String) :
    m (Except ConfigError Config) := do
  match ← files.read path with
  | .ok text => return parse text
  | .error .notFound => return .ok {}
  | .error e => return .error (.io e)

end Config

end DeployPlan
