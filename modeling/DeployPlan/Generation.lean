import DeployPlan.Object.Services
import DeployPlan.Pipeline
import DeployPlan.SourceDetection
import DeployPlan.StrategySelection

/-!
# From a request to a plan

`generate` makes the objects that build and run a source: it finds the source, chooses the strategy,
drafts the objects, keeps one of each key and adds services. The first error ends the run.
-/

namespace DeployPlan

/-- Where the caller says that the source lies. -/
inductive SourceInput
  | url (address : String)
  | directory (path : String)
  deriving DecidableEq, Repr

/-- What a caller asks for. -/
structure Request where
  location : SourceInput
  /-- The name of all objects, in place of the source's own. -/
  name : Option String := none
  ref : Option String := none
  strategy : Option StrategyOverride := none
  /-- The port that counts in place of all that are found. -/
  port : Option UInt16 := none
  env : StringMap String := .empty
  options : StrategyOptions := {}
  deriving DecidableEq

/-- Whom a run asks for what it cannot know by itself. -/
structure Collaborators (m : Type → Type) where
  files : Files m
  inspector : Inspector m
  fetcher : Fetcher m
  resolver : Resolver m
  detectors : List Detector

variable {m : Type → Type} [Monad m]

def findSource (c : Collaborators m) (r : Request) : ExceptT Error m Source := do
  let source ← match r.location with
    | .url address => liftM (Source.ofAddress address)
    | .directory path => Source.ofDirectory c.files c.inspector path
  source.override r.name r.ref

def plan (source : Source) (strategy : Strategy) (env : StringMap String) :
    Except Error (List Object) := do
  let pipeline ← Pipeline.new source.name strategy.base strategy source
  return addServices (keepFirst [] (pipeline.needsDeployment env).2.drafts).1

/-- The objects that a request asks for. -/
def generate (c : Collaborators m) (r : Request) : ExceptT Error m (List Object) := do
  if r.port = some 0 then throw (.validation "port" "must be between 1 and 65535")
  let source ← findSource c r
  let strategy ←
    Strategy.select c.files c.resolver c.fetcher c.detectors source r.strategy r.options
  plan source { strategy with portOverride := r.port } r.env

end DeployPlan
