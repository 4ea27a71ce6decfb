/-!
# Node documents

A KDL document is a list of nodes. A node has a name, entries (values, some of them under a name)
and possibly children. `Node.argument?` is the first value without a name, `Node.property?` the
value of a name, of which the last mention counts.
-/

namespace DeployPlan.Kdl

/-- A value of a node. -/
inductive Value
  | text (s : String)
  /-- A number, as it is written. -/
  | number (written : String)
  | bool (b : Bool)
  | null
  deriving DecidableEq, Repr

/-- A value, with its name if it has one. -/
structure Entry where
  name : Option String
  value : Value
  deriving DecidableEq, Repr

/-- A node. -/
inductive Node
  | mk (name : String) (entries : List Entry) (children : Option (List Node))

namespace Node

def name : Node → String
  | mk n _ _ => n

def entries : Node → List Entry
  | mk _ es _ => es

/-- The nodes in the braces of a node, if there are braces. -/
def children : Node → Option (List Node)
  | mk _ _ cs => cs

/-- The first value without a name. -/
def argument? (n : Node) : Option Value :=
  (n.entries.find? (·.name.isNone)).map (·.value)

def text? (n : Node) : Option String :=
  match n.argument? with
  | some (.text s) => some s
  | _ => none

/-- The value of a name; the last one if there are several. -/
def property? (n : Node) (key : String) : Option Value :=
  (n.entries.reverse.find? (·.name = some key)).map (·.value)

def flag? (n : Node) (key : String) : Option Bool :=
  match n.property? key with
  | some (.bool b) => some b
  | _ => none

end Node

end DeployPlan.Kdl
