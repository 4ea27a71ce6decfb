import DeployPlan.Json.Value

/-!
# Records in JSON

A record is written as an object with a member for each field, or as the list of its fields in
order. `Record.of?` brings both to one form; unknown members do not count, and a field may occur
once only.
-/

namespace DeployPlan.Json

/-- The fields of a record that are there, each with its name. -/
structure Record where
  fields : List (String × Json)

namespace Record

/-- Whether some name occurs twice. -/
def repeats : List (String × Json) → Bool
  | [] => false
  | (key, _) :: rest => rest.any (·.1 = key) || repeats rest

/-- The record with fields of these names. In a list the last `spare` fields may be missing. -/
def of? (names : List String) (j : Json) (spare : Nat := 0) : Option Record :=
  match j with
  | .obj members =>
    let known := members.filter fun m => names.contains m.1
    if repeats known then none else some ⟨known⟩
  | .arr items =>
    if names.length ≤ items.length + spare ∧ items.length ≤ names.length then
      some ⟨names.zip items⟩
    else none
  | _ => none

def get? (r : Record) (name : String) : Option Json :=
  (r.fields.find? (·.1 = name)).map (·.2)

def required {α : Type} (r : Record) (name : String) (decode : Json → Option α) : Option α :=
  (r.get? name).bind decode

/-- A field that may be missing or null. -/
def optional {α : Type} (r : Record) (name : String) (decode : Json → Option α) :
    Option (Option α) :=
  match r.get? name with
  | none | some .null => some none
  | some j => (decode j).map some

/-- A field with a value that counts when it is missing. -/
def orElse {α : Type} (r : Record) (name : String) (default : α) (decode : Json → Option α) :
    Option α :=
  match r.get? name with
  | none => some default
  | some j => decode j

end Record

def bool? : Json → Option Bool
  | .bool b => some b
  | _ => none

def port? : Json → Option UInt16
  | .int n => if 0 ≤ n ∧ n < 65536 then some (UInt16.ofNat n.toNat) else none
  | _ => none

def list? {α : Type} (decode : Json → Option α) : Json → Option (List α)
  | .arr items => items.mapM decode
  | _ => none

end DeployPlan.Json
