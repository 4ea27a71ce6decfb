import DeployPlan.Encoding.Image
import DeployPlan.Source
import DeployPlan.Strategy

/-!
# Sources and strategies in JSON

How sources, strategies and their options are written as JSON and read back.
-/

namespace DeployPlan.Encoding

def sourceLocation : SourceLocation → Json
  | .url address => .obj [("url", .str address)]
  | .directory path => .obj [("directory", .str path)]

def sourceLocation? : Json → Option SourceLocation
  | .obj [("url", .str address)] => some (.url address)
  | .obj [("directory", .str path)] => some (.directory path)
  | _ => none

def source (s : Source) : Json :=
  .obj [("name", .str s.name), ("location", sourceLocation s.location),
    ("git_ref", .ofOption s.ref), ("context_dir", .ofOption s.contextDir),
    ("local_dir", .ofOption s.localDir)]

def source? (j : Json) : Option Source := do
  let r ← Json.Record.of? ["name", "location", "git_ref", "context_dir", "local_dir"] j
  return {
    name := ← r.required "name" Json.str?
    location := ← r.required "location" sourceLocation?
    ref := ← r.optional "git_ref" Json.str?
    contextDir := ← r.optional "context_dir" Json.str?
    localDir := ← r.optional "local_dir" Json.str? }

/-- The constant among some that a word or an object with this one member and nothing in it
names. -/
def constant? {α : Type} (values : List α) (word : α → String) : Json → Option α
  | .str s | .obj [(s, .null)] => values.find? (word · = s)
  | _ => none

def strategyKind? : Json → Option StrategyKind :=
  constant? [.buildFile, .builderImage, .customTooling] StrategyKind.word

def strategyOptions (o : StrategyOptions) : Json :=
  .obj [("no_cache", .bool o.noCache), ("incremental", .bool o.incremental),
    ("build_only", .bool o.buildOnly)]

def strategyOptions? (j : Json) : Option StrategyOptions := do
  let r ← Json.Record.of? ["no_cache", "incremental", "build_only"] j
  return {
    noCache := ← r.required "no_cache" Json.bool?
    incremental := ← r.required "incremental" Json.bool?
    buildOnly := ← r.required "build_only" Json.bool? }

def strategy (s : Strategy) : Json :=
  .obj [("kind", .str s.kind.word), ("base", s.base.elim .null image),
    ("context_dir", .ofOption s.contextDir), ("options", strategyOptions s.options),
    ("detected_ports", portSet s.detectedPorts),
    ("port_override", s.portOverride.elim .null fun p => .int p.toNat)]

def strategy? (j : Json) : Option Strategy := do
  let r ← Json.Record.of?
    ["kind", "base", "context_dir", "options", "detected_ports", "port_override"] j
  return {
    kind := ← r.required "kind" strategyKind?
    base := ← r.optional "base" image?
    contextDir := ← r.optional "context_dir" Json.str?
    options := ← r.required "options" strategyOptions?
    detectedPorts := ← r.orElse "detected_ports" .empty portSet?
    portOverride := ← r.optional "port_override" Json.port? }

end DeployPlan.Encoding
