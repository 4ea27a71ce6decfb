import DeployPlan.Error

/-!
# Access to files

What a plan needs of a file system, as operations in a monad `m`: a tree in memory or the disk
provides them.
-/

namespace DeployPlan

/-- Operations on files and directories, named by paths. -/
structure Files (m : Type → Type) where
  /-- The path from the root without links and without steps back. -/
  canonicalize : String → m (Except FileError String)
  /-- Whether what the path leads to is a directory. -/
  isDirectory : String → m (Except FileError Bool)
  /-- Whether there is something at the path. -/
  exists? : String → m (Except FileError Bool)
  /-- Opens a directory to see what is in it. -/
  openDirectory : String → m (Except FileError Unit)
  /-- The text of a file. -/
  read : String → m (Except FileError String)
  /-- Sets the text of a file, which may be new. -/
  write : String → String → m (Except FileError Unit)
  /-- Makes a directory and those above it. -/
  createDirectories : String → m (Except FileError Unit)
  /-- Removes a directory with all that is in it. -/
  removeTree : String → m (Except FileError Unit)

/-- The operations, carried from one monad to another. -/
def Files.lift {m n : Type → Type} (f : {α : Type} → m α → n α) (files : Files m) : Files n where
  canonicalize p := f (files.canonicalize p)
  isDirectory p := f (files.isDirectory p)
  exists? p := f (files.exists? p)
  openDirectory p := f (files.openDirectory p)
  read p := f (files.read p)
  write p t := f (files.write p t)
  createDirectories p := f (files.createDirectories p)
  removeTree p := f (files.removeTree p)

end DeployPlan
