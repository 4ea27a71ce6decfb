import DeployPlan.Text.Decimal

/-!
# Declared ports

Images and build files declare ports as `8080` or `8080/tcp`. `ExposedPort.read` finds the TCP port
in such a declaration.
-/

namespace DeployPlan.ExposedPort

/-- The port that a number part names: blanks around it do not count, zero and everything that does
not fit into sixteen bits is no port. -/
def readNumber (s : List Char) : Option UInt16 :=
  match Text.readSigned (Text.trim s) with
  | some n => if 1 ≤ n ∧ n ≤ 65535 then some (UInt16.ofNat n) else none
  | none => none

/-- The TCP port that is declared, if it is one. -/
def readChars (s : List Char) : Option UInt16 :=
  match Text.cut '/' s with
  | none => readNumber s
  | some (port, protocol) =>
    if Text.equalIgnoringCase protocol ['t', 'c', 'p'] then readNumber port else none

/-- The TCP port that is declared, if it is one. -/
def read (declaration : String) : Option UInt16 :=
  readChars declaration.toList

end DeployPlan.ExposedPort
