import DeployPlan.FileTree.Walk
import DeployPlan.Files

/-!
# A tree as a file system

`FileTree.files` provides the operations of `Files` on a tree in memory, for a program that runs in
the directory `here`.
-/

namespace DeployPlan.FileTree

def isDirectory (t : FileTree) (here : Place) (path : String) : Except FileError Bool :=
  (t.entryAt here path).map fun e =>
    match e with
    | .directory => true
    | _ => false

def exists? (t : FileTree) (here : Place) (path : String) : Except FileError Bool :=
  match t.entryAt here path with
  | .ok _ => .ok true
  | .error .notFound => .ok false
  | .error e => .error e

def openDirectory (t : FileTree) (here : Place) (path : String) : Except FileError Unit := do
  match ← t.entryAt here path with
  | .directory => .ok ()
  | _ => .error .notDirectory

/-- The text of a file. -/
def read (t : FileTree) (here : Place) (path : String) : Except FileError String := do
  match ← t.entryAt here path with
  | .file content =>
    match String.fromUTF8? content with
    | some text => .ok text
    | none => .error .invalidUtf8
  | _ => .error .isDirectory

def withoutSlash (path : String) : String :=
  match Text.trimEndWhere (· == '/') path.toList with
  | [] => path
  | cs => String.ofList cs

/-- The path of the directory above. -/
def parentPath (path : String) : String :=
  Path.ofSteps (Path.steps path).dropLast

/-- The tree with a text in the file that a path leads to. -/
def write (t : FileTree) (here : Place) (path text : String) : Except FileError FileTree := do
  if path ≠ "/" ∧ path.toList.getLast? = some '/' then
    let _ ← t.walk here true (withoutSlash path)
    .error .isDirectory
  else
    match ← t.walk here true path with
    | .vacant p => .ok (t.put p (.file text.toUTF8))
    | .found p =>
      match t.get? p with
      | some (.file _) => .ok (t.put p (.file text.toUTF8))
      | _ => .error .isDirectory

def createDirectory (t : FileTree) (here : Place) (path : String) : Except FileError FileTree := do
  match ← t.walk here false (withoutSlash path) with
  | .vacant p => .ok (t.put p .directory)
  | .found _ => .error .exists

/-- The tree with directories where a path leads and on the way to it; `depth` bounds their
number. -/
def createDirectories (t : FileTree) (here : Place) (depth : Nat) (path : String) :
    Except FileError FileTree :=
  if path = "" then .ok t
  else
    match t.createDirectory here path with
    | .ok t => .ok t
    | .error .notFound =>
      match depth with
      | 0 => .error .notFound
      | depth + 1 =>
        match t.createDirectories here depth (parentPath path) with
        | .error e => .error e
        | .ok t => keepDirectory t (t.createDirectory here path)
    | .error e => keepDirectory t (.error e)
where
  /-- A directory that is there already is as good as a new one. -/
  keepDirectory (t : FileTree) : Except FileError FileTree → Except FileError FileTree
    | .ok t => .ok t
    | .error e => if (t.isDirectory here path).toOption = some true then .ok t else .error e

/-- The tree without the directory that a path leads to. A link there is removed itself. -/
def removeTree (t : FileTree) (here : Place) (path : String) : Except FileError FileTree := do
  match ← t.walk here false path with
  | .vacant _ => .error .notFound
  | .found p =>
    match t.get? p with
    | some (.file _) => .error .notDirectory
    | _ => .ok (t.erase p)

/-- Changes the tree, unless that fails. -/
def change (f : FileTree → Except FileError FileTree) : StateM FileTree (Except FileError Unit) :=
  fun t =>
    match f t with
    | .ok t => (.ok (), t)
    | .error e => (.error e, t)

/-- The operations on a tree. -/
def files (here : Place) : Files (StateM FileTree) where
  canonicalize path := return ((← get).locate here path).map pathOf
  isDirectory path := return (← get).isDirectory here path
  exists? path := return (← get).exists? here path
  openDirectory path := return (← get).openDirectory here path
  read path := return (← get).read here path
  write path text := change (·.write here path text)
  createDirectories path := change (·.createDirectories here (Path.segments path).length path)
  removeTree path := change (·.removeTree here path)

end DeployPlan.FileTree
