import DeployPlan.Checkout
import DeployPlan.Files
import DeployPlan.Remote

/-!
# Sources from directories

A directory that belongs to a checkout of a hosted repository is built from there, at the branch
that is checked out; any other directory is built as it is. What the caller says about name and ref
counts more than what is found (`Source.override`).
-/

namespace DeployPlan

/-- A name from the last segment of a path. -/
def nameOfPath (path : String) : Option String :=
  (Path.fileName? path).bind DnsName.normalize

def withSlashes (s : String) : String :=
  String.ofList (s.toList.map fun c => if c = '\\' then '/' else c)

namespace Source

variable {m : Type → Type} [Monad m]

/-- What a step on files yields, its failure told with the path that it is about. -/
def located {α : Type} (path : String) (r : Except FileError α) : Except Error α :=
  r.mapError fun e => .sourceDetection (path ++ ": " ++ e.message)

/-- The name, or the complaint that none can be found for a directory. -/
def nameFor (dir : String) (name : Option String) : Except Error String :=
  match name with
  | some name => .ok name
  | none => .error (.sourceDetection ("cannot derive a name from " ++ dir))

/-- The directory in its canonical form, if it is one that can be opened. -/
def openDirectory (files : Files m) (path : String) : ExceptT Error m String := do
  let dir ← located path (← files.canonicalize path)
  let isDirectory ← located dir (← files.isDirectory dir)
  if !isDirectory then throw (.sourceDetection (dir ++ " is not a directory"))
  located dir (← files.openDirectory dir)
  return dir

/-- The source in a directory that belongs to no checkout. -/
def plain (dir : String) : Except Error Source := do
  let name ← nameFor dir (nameOfPath dir)
  return { name, location := .directory dir, localDir := some dir }

/-- The source in a directory of a checkout with the given root. -/
def ofCheckout (dir root : String) (checkout : Checkout) : Except Error Source := do
  let name ← nameFor dir ((checkout.origin.bind Remote.nameOf).or (nameOfPath root))
  return {
    name
    location := match checkout.origin with
      | some origin => .url origin
      | none => .directory root
    ref := checkout.branch
    contextDir := ((Path.relativeTo? root dir).map withSlashes).filter (· ≠ "")
    localDir := some root }

def ofDirectory (files : Files m) (inspector : Inspector m) (path : String) :
    ExceptT Error m Source := do
  let dir ← openDirectory files path
  match ← inspector.inspect dir with
  | none => plain dir
  | some checkout =>
    let root := match ← files.canonicalize checkout.root with
      | .ok root => root
      | .error _ => checkout.root
    ofCheckout dir root checkout

/-- The source with the name and the ref that a caller asks for. An empty ref asks for nothing. -/
def override (s : Source) (name ref : Option String) : Except Error Source := do
  let s ← match name with
    | some name => do
      DnsName.validate "name" name
      pure { s with name }
    | none => pure s
  match ref with
  | none | some "" => return s
  | some ref => return { s with ref := some ref }

end Source

end DeployPlan
