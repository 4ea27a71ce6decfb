import DeployPlan.Object.Types
import DeployPlan.Text.Decimal

/-!
# Services for declared ports

`addServices` adds a service for each port that an object declares and no service covers yet. The
first port of an object names its service after the object, the others get the port after the name;
a first port whose name is taken goes by the longer name as well, and a port whose names are all
taken stays without a service.
-/

namespace DeployPlan

def portName (name : String) (port : Int) : String :=
  name ++ "-" ++ toString port

/-- How far the ports are served while services are added. -/
structure Coverage where
  /-- What is covered by a service. -/
  covered : List Signature
  /-- The names that services have. -/
  taken : List String
  /-- The new services, the last one in front. -/
  added : List Service

namespace Coverage

/-- What the services among some objects cover. -/
def ofObjects (os : List Object) : Coverage where
  covered := os.flatMap Object.signatures
  taken := (os.filter Object.isService).map Object.name
  added := []

/-- The names for the service of a port, best one first. -/
def candidates (name : String) (first : Bool) (port : Int) : List String :=
  if first then [name, portName name port] else [portName name port]

/-- The coverage with one port of an object served, unless it is already or has no name left. -/
def serve (name : String) (selector : StringMap String) (first : Bool) (port : Int)
    (c : Coverage) : Coverage :=
  if c.covered.contains (port, selector) then c
  else
    match (candidates name first port).find? (!c.taken.contains ·) with
    | none => c
    | some free =>
      { covered := (port, selector) :: c.covered
        taken := free :: c.taken
        added := .forward free port selector :: c.added }

/-- The coverage with some ports of an object served; `first` tells whether the object's first port
is among them. -/
def serveAll (name : String) (selector : StringMap String) (first : Bool) :
    List Int → Coverage → Coverage
  | [], c => c
  | port :: ports, c => serveAll name selector false ports (c.serve name selector first port)

/-- The coverage with the ports of an object served. Services declare none, and an object without
labels for its pods cannot be served. -/
def serveObject (c : Coverage) (o : Object) : Coverage :=
  if o.isService then c
  else
    match o.selector? with
    | none => c
    | some selector => c.serveAll o.name selector true o.containerPorts

end Coverage

/-- The objects, followed by services for the ports that they leave uncovered. -/
def addServices (os : List Object) : List Object :=
  os ++ ((os.foldl Coverage.serveObject (.ofObjects os)).added.reverse.map .service)

end DeployPlan
