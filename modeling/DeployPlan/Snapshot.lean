import DeployPlan.Files
import DeployPlan.Source

/-!
# Snapshots of a source

What the detection of a strategy sees of a source: whether paths exist and what files say. A
snapshot that holds something for its time, such as a clone, gives it back on `release`.
-/

namespace DeployPlan

/-- A view of the files of a source, with paths below its root. -/
structure Snapshot (m : Type → Type) where
  exists? : String → m Bool
  /-- The text of a file, or nothing if there is no such file. -/
  read : String → ExceptT Error m (Option String)
  /-- Gives back what the snapshot holds. -/
  release : m Unit

/-- Fetches a source that has no local root. -/
structure Fetcher (m : Type → Type) where
  fetch : Source → ExceptT Error m (Snapshot m)

namespace Snapshot

variable {m : Type → Type} [Monad m]

def readFile (files : Files m) (path : String) : ExceptT Error m (Option String) := do
  match ← files.read path with
  | .ok text => return some text
  | .error .notFound => return none
  | .error e => throw (.io e)

def ofDirectory (files : Files m) (root : String) : Snapshot m where
  exists? path := do
    match ← files.exists? (Path.join root path) with
    | .ok there => return there
    | .error _ => return false
  read path := readFile files (Path.join root path)
  release := pure ()

end Snapshot

end DeployPlan
