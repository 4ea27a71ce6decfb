import DeployPlan.CommandLine.Switch
import DeployPlan.Generation
import DeployPlan.Remote

/-!
# Commands

What the program can be told: to generate objects for a source, or to check a configuration file.
Two settings of `generate` may also come from the environment; an argument counts more.
-/

namespace DeployPlan.CommandLine

/-- What `generate` is told. -/
structure GenerateOptions where
  /-- The address of a repository or the path of a directory. -/
  source : String := "."
  name : Option String := none
  ref : Option String := none
  /-- Where to look for the build file. -/
  context : Option String := none
  builder : Option String := none
  port : Option UInt16 := none
  env : List String := []
  /-- The project where images are looked for first. -/
  project : Option String := none
  /-- The path of the configuration file. -/
  config : String := "appgen.kdl"
  options : StrategyOptions := {}
  /-- The path of the file that gets the objects. -/
  output : Option String := none
  deriving DecidableEq

/-- What the program is told. -/
inductive Command
  | generate (options : GenerateOptions)
  | validateConfig (path : String)
  deriving DecidableEq

/-- The switch for messages in another form, known everywhere. -/
def Switch.logJson : Switch := { name := "log-json" }

/-- The arguments of `generate`. -/
def Grammar.generate : Grammar where
  switches :=
    [{ name := "name", takes := .text },
      { name := "ref", takes := .text },
      { name := "docker-context", takes := .text },
      { name := "builder-image", takes := .text },
      { name := "port", letter := some 'p', takes := .port },
      { name := "env", letter := some 'e', takes := .text, repeats := true },
      { name := "namespace", takes := .text },
      { name := "config", takes := .path },
      { name := "no-cache" },
      { name := "incremental" },
      { name := "build-only" },
      { name := "output", letter := some 'o', takes := .path },
      .logJson, .help]
  operand := .text

/-- The arguments of `validate-config`. -/
def Grammar.validateConfig : Grammar where
  switches := [.logJson, .help]
  operand := .path

/-- Reads the arguments of `generate`. The build file and the builder image exclude each other. -/
def readGenerate (environment : String → Option String) (args : List String) :
    Except Stop GenerateOptions := do
  let a ← Grammar.generate.scan {} args
  let config := (a.get? "config").or (environment "APPGEN_CONFIG")
  if config = some "" ∨ (a.has "docker-context" ∧ a.has "builder-image") then .error .misuse
  else return {
    source := a.operand.getD "."
    name := a.get? "name"
    ref := a.get? "ref"
    context := a.get? "docker-context"
    builder := a.get? "builder-image"
    port := (a.get? "port").bind readPort
    env := a.all "env"
    project := (a.get? "namespace").or (environment "APPGEN_NAMESPACE")
    config := config.getD "appgen.kdl"
    options := {
      noCache := a.has "no-cache"
      incremental := a.has "incremental"
      buildOnly := a.has "build-only" }
    output := a.get? "output" }

def readValidateConfig (args : List String) : Except Stop String := do
  let a ← Grammar.validateConfig.scan {} args
  return a.operand.getD "appgen.kdl"

def commandNames : List String := ["generate", "validate-config", "help"]

/-- Reads the arguments of the program. `logJson` tells whether that switch has been given. -/
def Command.read (environment : String → Option String) (args : List String)
    (logJson : Bool := false) : Except Stop Command :=
  match args with
  | [] => .error .misuse
  | "generate" :: rest => (readGenerate environment rest).map .generate
  | "validate-config" :: rest => (readValidateConfig rest).map .validateConfig
  | "help" :: topics =>
    .error (if topics.length ≤ 1 ∧ topics.all commandNames.contains then .help else .misuse)
  | "--log-json" :: rest => if logJson then .error .misuse else Command.read environment rest true
  | "--help" :: _ => .error .help
  | arg :: _ => .error (if arg.toList.take 2 = ['-', 'h'] then .help else .misuse)

namespace GenerateOptions

/-- How the caller wants to build, if that is said. -/
def strategy (o : GenerateOptions) : Option StrategyOverride :=
  match o.context, o.builder with
  | some dir, _ => some (.context dir)
  | none, some image => some (.builderImage image)
  | none, none => none

/-- What is asked for, with the variables that are defined. -/
def request (o : GenerateOptions) (env : StringMap String) : Request where
  location := if Remote.isRemote o.source then .url o.source else .directory o.source
  name := o.name
  ref := o.ref
  strategy := o.strategy
  port := o.port
  env := env
  options := o.options

end GenerateOptions

end DeployPlan.CommandLine
