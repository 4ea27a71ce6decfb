import DeployPlan.Json.Value
import DeployPlan.StringMap
import DeployPlan.Timestamp

/-!
# Metadata

What the platform notes about an object, whatever its kind: its name, its labels, when it was made
and by whom. A plan itself only gives names.
-/

namespace DeployPlan

/-- Who set which fields of an object, and when. -/
structure ManagedFields where
  apiVersion : Option String := none
  fieldsType : Option String := none
  fields : Option Json := none
  manager : Option String := none
  operation : Option String := none
  subresource : Option String := none
  time : Option Timestamp := none
  deriving DecidableEq, Inhabited

/-- An object that another one belongs to. -/
structure Owner where
  apiVersion : String := ""
  blockOwnerDeletion : Option Bool := none
  controller : Option Bool := none
  kind : String := ""
  name : String := ""
  uid : String := ""
  deriving DecidableEq, Repr, Inhabited

/-- What the platform notes about an object. -/
structure Metadata where
  annotations : Option (StringMap String) := none
  creationTimestamp : Option Timestamp := none
  deletionGracePeriodSeconds : Option Int := none
  deletionTimestamp : Option Timestamp := none
  finalizers : Option (List String) := none
  generateName : Option String := none
  generation : Option Int := none
  labels : Option (StringMap String) := none
  managedFields : Option (List ManagedFields) := none
  name : Option String := none
  project : Option String := none
  owners : Option (List Owner) := none
  resourceVersion : Option String := none
  selfLink : Option String := none
  uid : Option String := none
  deriving DecidableEq, Inhabited

/-- The metadata of an object of which only the name is known. -/
def Metadata.named (name : String) : Metadata :=
  { name := some name }

end DeployPlan
