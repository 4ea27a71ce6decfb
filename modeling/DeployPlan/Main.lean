import DeployPlan.CommandLine.Run

/-!
# The program

Carries out its arguments on the files of the disk. It starts no other program and reaches no other
machine: `git` is missing, there is no local runtime and no cluster, and registries cannot be
reached.
-/

namespace DeployPlan.Program

def numberOf : IO.Error → UInt32
  | .alreadyExists _ n _ | .noFileOrDirectory _ n _ | .inappropriateType _ n _
  | .noSuchThing _ n _ | .invalidArgument _ n _ | .permissionDenied _ n _
  | .resourceExhausted _ n _ | .unsatisfiedConstraints n _ => n
  | .resourceBusy n _ | .otherError n _ => n
  | _ => 0

/-- A number without its sign; some operations report the number of an error as a negative one. -/
def magnitude (n : UInt32) : UInt32 :=
  if n < 0x80000000 then n else 0 - n

def fileError (e : IO.Error) : FileError :=
  match magnitude (numberOf e) with
  | 2 => .notFound
  | 17 => .exists
  | 20 => .notDirectory
  | 21 => .isDirectory
  | 36 => .nameTooLong
  | 39 => .notEmpty
  | 40 => .tooManyLinks
  | _ => .other e.toString

/-- What an action yields, or why the file system refuses it. -/
def attempt {α : Type} (action : IO α) : IO (Except FileError α) := do
  match ← action.toBaseIO with
  | .ok a => return .ok a
  | .error e => return .error (fileError e)

/-- Removes an entry of a directory with all that is in it. A link is removed itself. -/
partial def removeEntry (e : IO.FS.DirEntry) : IO Unit := do
  match (← e.path.symlinkMetadata).type with
  | .dir =>
    for inner in ← e.path.readDir do removeEntry inner
    IO.FS.removeDir e.path
  | _ => IO.FS.removeFile e.path

/-- The files of the disk. -/
def disk : Files IO where
  canonicalize path := attempt do return (← IO.FS.realPath path).toString
  isDirectory path := attempt do (← IO.FS.realPath path).isDir
  exists? path := do
    match ← attempt (IO.FS.realPath path) with
    | .ok _ => return .ok true
    | .error .notFound => return .ok false
    | .error e => return .error e
  openDirectory path := attempt do
    let _ ← (← IO.FS.realPath path).readDir
  read path := do
    match ← attempt (IO.FS.readBinFile path) with
    | .error e => return .error e
    | .ok bytes => return (String.fromUTF8? bytes).elim (.error .invalidUtf8) .ok
  write path text := attempt (IO.FS.writeFile path text)
  createDirectories path := attempt (IO.FS.createDirAll path)
  removeTree path := attempt do
    let entry : IO.FS.DirEntry := { root := ".", fileName := path }
    match (← entry.path.symlinkMetadata).type with
    | .dir | .symlink => removeEntry entry
    | _ => discard entry.path.readDir

/-- What the program finds around it. -/
def surroundings (workDir : String) : CommandLine.Surroundings IO where
  files := disk
  git := ⟨fun _ _ => return .missing⟩
  backends := { daemon := none, cluster := none, network := .overNetwork fun _ => return none }
  workDir := workDir

def environmentOf (names : List String) : IO (String → Option String) := do
  let values ← names.mapM fun name => return (name, ← IO.getEnv name)
  return fun name => (values.find? (·.1 = name)).bind (·.2)

end DeployPlan.Program

def main (args : List String) : IO UInt32 := do
  let environment ← DeployPlan.Program.environmentOf
    ["APPGEN_NAMESPACE", "APPGEN_CONFIG", "APPGEN_WORK_DIR", "TMPDIR"]
  let around := DeployPlan.Program.surroundings (DeployPlan.CommandLine.workDir environment)
  let outcome ← DeployPlan.CommandLine.run around environment args
  IO.print outcome.output
  IO.eprint outcome.errors
  return outcome.code.toUInt32
