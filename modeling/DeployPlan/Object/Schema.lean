import DeployPlan.Object.Metadata

/-!
# Schemas

A `Schema` says of which kind a value of the platform is: a text, a number, a list, or a record with
named fields, some of which may be missing. `Schema.Value` is the type of these values. Where the
fields of a record do not matter for a plan they are given by a schema alone.
-/

namespace DeployPlan

/-- A number or a text: the number of a port or its name. -/
inductive IntOrText
  | int (n : Int)
  | text (s : String)
  deriving DecidableEq

mutual

/-- What kind of value something is. -/
inductive Schema
  | text
  | flag
  | integer
  | moment
  | intOrText
  | metadata
  | items (s : Schema)
  | map (s : Schema)
  | record (fields : List Field)

/-- A field of a record. -/
inductive Field
  | required (key : String) (s : Schema)
  | optional (key : String) (s : Schema)

end

def Field.key : Field → String
  | .required key _ | .optional key _ => key

mutual

/-- The values of a schema. -/
def Schema.Value : Schema → Type
  | .text => String
  | .flag => Bool
  | .integer => Int
  | .moment => Timestamp
  | .intOrText => IntOrText
  | .metadata => Metadata
  | .items s => List s.Value
  | .map s => StringMap s.Value
  | .record fields => Field.Values fields

/-- The values of a field. -/
def Field.Value : Field → Type
  | .required _ s => s.Value
  | .optional _ s => Option s.Value

/-- The values of fields, one for each. -/
def Field.Values : List Field → Type
  | [] => Unit
  | f :: fields => f.Value × Field.Values fields

end

/-! ## Values that say nothing -/

mutual

/-- The empty value of a schema. -/
def Schema.blank : (s : Schema) → s.Value
  | .text => ""
  | .flag => false
  | .integer => (0 : Int)
  | .moment => (default : Timestamp)
  | .intOrText => IntOrText.int 0
  | .metadata => ({} : Metadata)
  | .items s => ([] : List s.Value)
  | .map s => (.empty : StringMap s.Value)
  | .record fields => Field.blanks fields

/-- The empty value of a field: nothing, unless it is required. -/
def Field.blank : (f : Field) → f.Value
  | .required _ s => s.blank
  | .optional _ s => (none : Option s.Value)

/-- The empty values of fields. -/
def Field.blanks : (fields : List Field) → Field.Values fields
  | [] => ()
  | f :: fields => (f.blank, Field.blanks fields)

end

instance (fields : List Field) : Inhabited (Field.Values fields) :=
  ⟨Field.blanks fields⟩

/-! ## Equality -/

mutual

def Schema.decEq : (s : Schema) → DecidableEq s.Value
  | .text => inferInstanceAs (DecidableEq String)
  | .flag => inferInstanceAs (DecidableEq Bool)
  | .integer => inferInstanceAs (DecidableEq Int)
  | .moment => inferInstanceAs (DecidableEq Timestamp)
  | .intOrText => inferInstanceAs (DecidableEq IntOrText)
  | .metadata => inferInstanceAs (DecidableEq Metadata)
  | .items s =>
    have := s.decEq
    inferInstanceAs (DecidableEq (List s.Value))
  | .map s =>
    have := s.decEq
    inferInstanceAs (DecidableEq (StringMap s.Value))
  | .record fields => Field.decEqs fields

def Field.decEq : (f : Field) → DecidableEq f.Value
  | .required _ s => s.decEq
  | .optional _ s =>
    have := s.decEq
    inferInstanceAs (DecidableEq (Option s.Value))

def Field.decEqs : (fields : List Field) → DecidableEq (Field.Values fields)
  | [] => inferInstanceAs (DecidableEq Unit)
  | f :: fields =>
    have := f.decEq
    have := Field.decEqs fields
    inferInstanceAs (DecidableEq (f.Value × Field.Values fields))

end

instance (s : Schema) : DecidableEq s.Value :=
  s.decEq

instance (fields : List Field) : DecidableEq (Field.Values fields) :=
  Field.decEqs fields

end DeployPlan
