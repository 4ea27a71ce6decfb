import DeployPlan.Encoding.Metadata
import DeployPlan.Object.Schema

/-!
# Values of schemas in JSON

How a value of a schema is written as JSON: the fields of a record stand in ascending order of their
names, and those that are missing are left out.
-/

namespace DeployPlan.Encoding

/-- The members that are there, of names that each have a value or none. -/
def present (parts : List (String × Option Json)) : List (String × Json) :=
  parts.filterMap fun part => part.2.map (part.1, ·)

/-- An object of the parts that are there, in ascending order of their names. -/
def sorted (parts : List (String × Option Json)) : Json :=
  .obj (present (StringMap.ofList parts).entries)

def intOrText : IntOrText → Json
  | .int n => .int n
  | .text s => .str s

mutual

/-- What is written of a value. -/
def value : (s : Schema) → s.Value → Json
  | .text, v => .str v
  | .flag, v => .bool v
  | .integer, v => .int v
  | .moment, v => timestamp v
  | .intOrText, v => intOrText v
  | .metadata, v => metadata v
  | .items s, v => .arr (List.map (value s) v)
  | .map s, v => .obj (v.entries.map fun e => (e.1, value s e.2))
  | .record fields, v => sorted (parts fields v)

/-- What is written of a field, if it is there. -/
def part : (f : Field) → f.Value → Option Json
  | .required _ s, v => some (value s v)
  | .optional _ s, v => Option.map (value s) v

/-- What is written of fields, each with its name. -/
def parts : (fields : List Field) → Field.Values fields → List (String × Option Json)
  | [], _ => []
  | f :: fields, (v, vs) => (f.key, part f v) :: parts fields vs

end

end DeployPlan.Encoding
