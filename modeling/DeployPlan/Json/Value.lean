/-!
# JSON values

A value of the JSON format. The members of an object are kept in the order in which they are
written, and a number keeps its digits unless it is an integer of at most sixty-four bits.
-/

namespace DeployPlan

/-- A JSON value. -/
inductive Json
  | null
  | bool (b : Bool)
  /-- An integer from -2^63 to 2^64 - 1. -/
  | int (n : Int)
  /-- Any other number, as it is written; an integer with a point and a zero after it. -/
  | number (written : String)
  | str (s : String)
  | arr (items : List Json)
  | obj (members : List (String × Json))
  deriving Inhabited, Repr

namespace Json

/-- The member of that name; the last one if there are several. -/
def member? : Json → String → Option Json
  | .obj members, key => (members.reverse.find? (·.1 = key)).map (·.2)
  | _, _ => none

def str? : Json → Option String
  | .str s => some s
  | _ => none

def items? : Json → Option (List Json)
  | .arr items => some items
  | _ => none

def members? : Json → Option (List (String × Json))
  | .obj members => some members
  | _ => none

/-- The value at the end of a path of member names. -/
def at? (j : Json) : List String → Option Json
  | [] => some j
  | key :: path => (j.member? key).bind (·.at? path)

mutual

/-- Whether two values are equal. -/
protected def decEq : (a b : Json) → Decidable (a = b)
  | .null, .null => isTrue rfl
  | .bool a, .bool b => decidable_of_iff (a = b) (by simp)
  | .int a, .int b => decidable_of_iff (a = b) (by simp)
  | .number a, .number b => decidable_of_iff (a = b) (by simp)
  | .str a, .str b => decidable_of_iff (a = b) (by simp)
  | .arr as, .arr bs =>
    have := Json.decEqItems as bs
    decidable_of_iff (as = bs) (by simp)
  | .obj as, .obj bs =>
    have := Json.decEqMembers as bs
    decidable_of_iff (as = bs) (by simp)
  | .null, .bool _ | .null, .int _ | .null, .number _ | .null, .str _ | .null, .arr _
  | .null, .obj _ | .bool _, .null | .bool _, .int _ | .bool _, .number _ | .bool _, .str _
  | .bool _, .arr _ | .bool _, .obj _ | .int _, .null | .int _, .bool _ | .int _, .number _
  | .int _, .str _ | .int _, .arr _ | .int _, .obj _ | .number _, .null | .number _, .bool _
  | .number _, .int _ | .number _, .str _ | .number _, .arr _ | .number _, .obj _ | .str _, .null
  | .str _, .bool _ | .str _, .int _ | .str _, .number _ | .str _, .arr _ | .str _, .obj _
  | .arr _, .null | .arr _, .bool _ | .arr _, .int _ | .arr _, .number _ | .arr _, .str _
  | .arr _, .obj _ | .obj _, .null | .obj _, .bool _ | .obj _, .int _ | .obj _, .number _
  | .obj _, .str _ | .obj _, .arr _ => isFalse nofun

protected def decEqItems : (as bs : List Json) → Decidable (as = bs)
  | [], [] => isTrue rfl
  | a :: as, b :: bs =>
    have := Json.decEq a b
    have := Json.decEqItems as bs
    decidable_of_iff (a = b ∧ as = bs) (by simp)
  | [], _ :: _ | _ :: _, [] => isFalse nofun

protected def decEqMembers : (as bs : List (String × Json)) → Decidable (as = bs)
  | [], [] => isTrue rfl
  | (key, a) :: as, (key', b) :: bs =>
    have := Json.decEq a b
    have := Json.decEqMembers as bs
    decidable_of_iff ((key = key' ∧ a = b) ∧ as = bs) (by simp)
  | [], _ :: _ | _ :: _, [] => isFalse nofun

end

instance : DecidableEq Json :=
  Json.decEq

mutual

/-- How deep lists and objects are nested in a value. -/
def height : Json → Nat
  | .arr items => itemsHeight items + 1
  | .obj members => membersHeight members + 1
  | _ => 0

def itemsHeight : List Json → Nat
  | [] => 0
  | j :: items => max j.height (itemsHeight items)

def membersHeight : List (String × Json) → Nat
  | [] => 0
  | (_, j) :: members => max j.height (membersHeight members)

end

def ofOption : Option String → Json
  | some s => .str s
  | none => .null

end Json

end DeployPlan
