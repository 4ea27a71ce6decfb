import DeployPlan.Clone
import DeployPlan.CommandLine.Command
import DeployPlan.CommandLine.Outcome
import DeployPlan.Config.Environment
import DeployPlan.Encoding.Object
import DeployPlan.Resolver.Configured

/-!
# Carrying out commands

`generate` reads the settings, generates the objects and writes them as one list; `validateConfig`
tells whether a configuration file can be used.
-/

namespace DeployPlan.CommandLine

/-- What a run finds around it. -/
structure Surroundings (m : Type → Type) where
  files : Files m
  git : Git m
  backends : Backends m
  /-- Where clones are made. -/
  workDir : String

/-- Where clones are made: where the environment says, or among the temporary files. -/
def workDir (environment : String → Option String) : String :=
  (environment "APPGEN_WORK_DIR").getD
    (Path.join ((environment "TMPDIR").getD "/tmp") "appgen-sources")

/-- The detectors with the images that the settings name. -/
def detectorsOf (c : Config) : Except Error (List Detector) :=
  Detector.overrideAll Detector.standard c.builders

/-- A result, with an error in the settings as the reason of a failure. -/
def orConfigFailure {α : Type} (message : String) (r : Except ConfigError α) : Except Failure α :=
  r.mapError fun e => ⟨message, configReasons e⟩

/-- A result, with an error as the reason of a failure. -/
def orFailure {α : Type} (message : String) (r : Except Error α) : Except Failure α :=
  r.mapError fun e => ⟨message, errorReasons e⟩

variable {m : Type → Type} [Monad m] (around : Surroundings m)

def objectsFor (o : GenerateOptions) : ExceptT Failure m (List Object) := do
  let loaded : Except ConfigError Config ← liftM (Config.load around.files o.config)
  let config ← orConfigFailure ("Failed to load config: " ++ o.config) loaded
  let config ← orConfigFailure "Invalid namespace" (config.withProject o.project)
  let env ← orConfigFailure "Invalid environment" (Environment.parse o.env)
  let detectors ← orFailure "Invalid builder configuration" (detectorsOf config)
  let collaborators : Collaborators m := {
    files := around.files
    inspector := .ofGit around.git
    fetcher := .ofGit around.files around.git around.workDir
    resolver := .chain (Resolver.configured around.backends config)
    detectors }
  orFailure ("Failed to generate objects for " ++ o.source)
    (← (DeployPlan.generate collaborators (o.request env)).run)

/-- Generates objects and writes them. -/
def generate (o : GenerateOptions) : m Outcome := do
  match ← (objectsFor around o).run with
  | .error failure => return failure.outcome
  | .ok objects =>
    let text := Encoding.objectList Json.pretty objects
    match o.output with
    | none => return { output := text }
    | some path =>
      match ← around.files.write path text with
      | .ok _ => return {}
      | .error e => return (⟨"Failed to create " ++ path, [e.message]⟩ : Failure).outcome

/-- What is wrong with the text of a configuration file, if anything is. -/
def complaint? (text : String) : Option String :=
  match Config.parse text with
  | .error e => some e.message
  | .ok config =>
    match detectorsOf config with
    | .error e => some e.message
    | .ok _ => none

/-- Tells whether a configuration file can be used. -/
def validateConfig (path : String) : m Outcome := do
  match ← around.files.read path with
  | .error e => return (⟨e.message, []⟩ : Failure).outcome
  | .ok text =>
    match complaint? text with
    | none => return { output := "Configuration is valid\n" }
    | some complaint =>
      return { code := 1, output := "Configuration error: " ++ complaint ++ "\n" }

def help : String :=
  "Generate build and deployment objects from source code\n\n" ++
  "Usage: appgen [OPTIONS] <COMMAND>\n\n" ++
  "Commands:\n" ++
  "  generate         Generate objects for a repository URL or local directory\n" ++
  "  validate-config  Validate a generator configuration file\n" ++
  "  help             Print this message or the help of the given subcommand(s)\n\n" ++
  "Options:\n" ++
  "      --log-json  Emit logs as JSON\n" ++
  "  -h, --help      Print help\n"

/-- What is said when the arguments are not in order. -/
def misuse : String :=
  "error: invalid arguments\n\nFor more information, try '--help'.\n"

def run (environment : String → Option String) (args : List String) : m Outcome :=
  match Command.read environment args with
  | .ok (.generate o) => generate around o
  | .ok (.validateConfig path) => validateConfig around path
  | .error .help => return { output := help }
  | .error .misuse => return { code := 2, errors := misuse }

end DeployPlan.CommandLine
