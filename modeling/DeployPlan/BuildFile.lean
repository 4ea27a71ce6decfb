import DeployPlan.Image
import DeployPlan.Text.Pieces

/-!
# Build files

A `Dockerfile` builds an image in stages. `BuildFile.parse` finds what the last stage starts from
and which ports it declares: text becomes lines (`logicalLines`), lines become instructions
(`instructions`), and the instructions are followed one after the other (`follow`).
-/

namespace DeployPlan

/-- What a build file says about the image that it builds. -/
structure BuildFile where
  /-- The image that the last stage starts from, unless it cannot be named. -/
  base : Option ImageName := none
  /-- The TCP ports that the last stage declares. -/
  ports : PortSet := .empty
  deriving DecidableEq, Inhabited

namespace BuildFile

/-- An instruction with what matters of it. -/
inductive Instruction
  /-- `FROM`: a stage starts; its arguments without options. -/
  | stage (args : List (List Char))
  /-- `EXPOSE`: ports are declared. -/
  | expose (ports : List (List Char))
  /-- Any other instruction. -/
  | other
  deriving DecidableEq, Repr

/-- The lines of a build file after `current`, the beginning of a line that goes on. A backslash at
its end continues a line on the next one; comments do not count, and neither do blank lines outside
of a continued line. -/
def logicalFrom (current : List Char) : List (List Char) → List (List Char)
  | [] => if Text.trim current = [] then [] else [current]
  | raw :: rest =>
    let line := Text.trim raw
    if line.head? = some '#' ∨ (line = [] ∧ current = []) then logicalFrom current rest
    else
      match Text.stripTail? ['\\'] line with
      | some part => logicalFrom (current ++ part ++ [' ']) rest
      | none => (current ++ line) :: logicalFrom [] rest

/-- The lines of a build file, continued lines joined, comments and blank lines left out. -/
def logicalLines (content : List Char) : List (List Char) :=
  logicalFrom [] (Text.lines content)

/-- Whether a word is an option of an instruction. -/
def isOption (word : List Char) : Bool :=
  (Text.stripLead? ['-', '-'] word).isSome

def instructionOf : List (List Char) → Instruction
  | [] => .other
  | keyword :: words =>
    if Text.equalIgnoringCase keyword "FROM".toList then .stage (words.filter (!isOption ·))
    else if Text.equalIgnoringCase keyword "EXPOSE".toList then .expose words
    else .other

/-- The instructions of a build file. -/
def instructions (content : List Char) : List Instruction :=
  (logicalLines content).map fun line => instructionOf (Text.words line)

/-- What is known while the instructions are followed. -/
structure Progress where
  /-- The bases of the stages that have a name, the last one in front. -/
  stages : List (List Char × Option ImageName) := []
  /-- The stage that is being built. -/
  current : BuildFile := {}
  deriving Inhabited

/-- The base of the last stage of that name. -/
def stageBase? (stages : List (List Char × Option ImageName)) (name : List Char) :
    Option (Option ImageName) :=
  (stages.find? (·.1 = name)).map (·.2)

/-- The base that the image of a stage stands for: that of an earlier stage, none for `scratch` and
for images that depend on variables, else the image that is named. -/
def baseOf (stages : List (List Char × Option ImageName)) (image : List Char) :
    Except Error (Option ImageName) :=
  match stageBase? stages (Text.lower image) with
  | some base => .ok base
  | none =>
    if image.contains '$' ∨ Text.equalIgnoringCase image "scratch".toList then .ok none
    else (ImageName.parse (String.ofList image)).map some

/-- The name that the arguments after an image give to a stage. -/
def aliasOf : List (List Char) → Option (List Char)
  | keyword :: name :: _ =>
    if Text.equalIgnoringCase keyword "AS".toList then some (Text.lower name) else none
  | _ => none

/-- Follows one instruction. -/
def follow (p : Progress) : Instruction → Except Error Progress
  | .stage [] => .error (.validation "Dockerfile" "FROM without an image")
  | .stage (image :: args) => do
    let base ← baseOf p.stages image
    let stages := match aliasOf args with
      | some name => (name, base) :: p.stages
      | none => p.stages
    return { stages, current := { base } }
  | .expose words =>
    let ports := (words.filterMap ExposedPort.readChars).foldl PortSet.insert p.current.ports
    .ok { p with current := { p.current with ports } }
  | .other => .ok p

/-- Reads a build file. -/
def parse (content : String) : Except Error BuildFile :=
  ((instructions content.toList).foldlM follow {}).map (·.current)

end BuildFile

end DeployPlan
