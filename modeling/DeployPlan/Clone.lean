import DeployPlan.Checkout
import DeployPlan.Digest.Md5
import DeployPlan.Snapshot

/-!
# Clones

A remote source is looked at in a shallow clone below a work directory. The clone is made afresh,
and it is removed when its snapshot is released.
-/

namespace DeployPlan

namespace Clone

/-- Where a source is cloned to: a directory named by the digest of the source's text. -/
def path (workDir : String) (source : Source) : String :=
  Path.join workDir (Digest.md5 source.toString)

/-- What `git` is told to make a clone. -/
def arguments (source : Source) (uri path : String) : List String :=
  ["clone", "--depth", "1", "--single-branch"] ++
    (match source.ref with
      | some ref => ["--branch", ref]
      | none => []) ++
    [uri, path]

variable {m : Type → Type} [Monad m]

/-- What a step on files yields, its failure as an error of the run. -/
def orThrow {α : Type} (r : Except FileError α) : Except Error α :=
  r.mapError .io

/-- The snapshot of a clone, from the context directory of the source on. -/
def snapshot (files : Files m) (path : String) (contextDir : Option String) : Snapshot m :=
  { Snapshot.ofDirectory files (contextDir.elim path (Path.join path)) with
    release := do
      let _ ← files.removeTree path
      return () }

/-- Makes room for a clone: the work directory is there, and nothing is at the path. -/
def prepare (files : Files m) (workDir path : String) : ExceptT Error m Unit := do
  orThrow (← files.createDirectories workDir)
  if ← orThrow (← files.exists? path) then
    orThrow (← files.removeTree path)

def fetch (files : Files m) (git : Git m) (workDir : String) (source : Source) :
    ExceptT Error m (Snapshot m) := do
  match source.uri? with
  | none => throw (.sourceDetection (source.toString ++ " has no remote to fetch"))
  | some uri =>
    let path := path workDir source
    prepare files workDir path
    match ← git.run none (arguments source uri path) with
    | .missing => throw (.io .notFound)
    | .failed cause => throw (.io cause)
    | .ended 0 _ _ => return snapshot files path source.contextDir
    | .ended _ _ errors =>
      throw (.sourceDetection
        ("cloning " ++ uri ++ ": " ++ String.ofList (Text.trim errors.toList)))

end Clone

/-- Fetches sources by cloning them below a work directory. -/
def Fetcher.ofGit {m : Type → Type} [Monad m] (files : Files m) (git : Git m) (workDir : String) :
    Fetcher m where
  fetch := Clone.fetch files git workDir

end DeployPlan
