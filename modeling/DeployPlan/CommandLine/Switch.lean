import DeployPlan.Text.Decimal

/-!
# Switches and operands

The form of arguments: switches such as `--port 80`, `--port=80`, `-p 80` or `-p80`, and operands.
After `--` everything is an operand. `Grammar.scan` takes a list of arguments apart; it refuses
switches that are not known, a value that a switch does not take, and a switch that is given too
often.
-/

namespace DeployPlan.CommandLine

/-- Why arguments are not carried out. -/
inductive Stop
  /-- They are not in order. -/
  | misuse
  /-- They ask for help. -/
  | help
  deriving DecidableEq, Repr

/-- The port in a text: a number with an optional sign, not above 65535. -/
def readPort (s : String) : Option UInt16 :=
  match s.toList with
  | '-' :: r => if Text.readDecimal r = some 0 then some 0 else none
  | cs => (Text.readSigned cs).bind fun n => if n ≤ 65535 then some (UInt16.ofNat n) else none

/-- What a switch takes. -/
inductive Value
  | nothing
  | text
  /-- A path, which is never empty. -/
  | path
  | port
  deriving DecidableEq, Repr

/-- Whether a text is such a value. -/
def Value.accepts (s : String) : Value → Bool
  | .nothing | .text => true
  | .path => s ≠ ""
  | .port => (readPort s).isSome

/-- A switch. -/
structure Switch where
  name : String
  /-- The letter that stands for the name. -/
  letter : Option Char := none
  takes : Value := .nothing
  /-- Whether it may be given several times. -/
  repeats : Bool := false
  deriving DecidableEq, Repr

/-- The switch that asks for help. -/
def Switch.help : Switch := { name := "help", letter := some 'h' }

/-- What arguments may consist of. There is at most one operand. -/
structure Grammar where
  switches : List Switch
  operand : Value

/-- Arguments, taken apart. -/
structure Arguments where
  /-- The names of the switches and their values, in order. -/
  switches : List (String × String) := []
  operand : Option String := none
  deriving DecidableEq, Repr

namespace Arguments

/-- All values of a switch. -/
def all (a : Arguments) (name : String) : List String :=
  (a.switches.filter (·.1 = name)).map (·.2)

def get? (a : Arguments) (name : String) : Option String :=
  (a.all name).head?

def has (a : Arguments) (name : String) : Bool :=
  (a.get? name).isSome

def addSwitch (a : Arguments) (s : Switch) (value : String) : Except Stop Arguments :=
  if s = .help then .error .help
  else if !s.repeats ∧ a.has s.name then .error .misuse
  else if s.takes.accepts value then .ok { a with switches := a.switches ++ [(s.name, value)] }
  else .error .misuse

end Arguments

namespace Grammar

def addOperand (g : Grammar) (a : Arguments) (s : String) : Except Stop Arguments :=
  if a.operand.isSome ∨ !g.operand.accepts s then .error .misuse
  else .ok { a with operand := some s }

/-- A switch by its name. If it takes a value that is not attached, it waits for one. -/
def addNamed (g : Grammar) (a : Arguments) (s : List Char) :
    Except Stop (Arguments × Option Switch) := do
  let (name, value) := match Text.cut '=' s with
    | some (name, value) => (name, some (String.ofList value))
    | none => (s, none)
  match g.switches.find? (·.name.toList = name), value with
  | none, _ => .error .misuse
  | some s, none =>
    if s.takes = .nothing then return (← a.addSwitch s "", none) else return (a, some s)
  | some s, some value =>
    if s.takes = .nothing then .error .misuse else return (← a.addSwitch s value, none)

/-- Switches by their letters. What follows the letter of a switch that takes a value is the
value. -/
def addLetters (g : Grammar) (a : Arguments) : List Char → Except Stop (Arguments × Option Switch)
  | [] => .ok (a, none)
  | c :: r =>
    match g.switches.find? (·.letter = some c) with
    | none => .error .misuse
    | some s =>
      if s.takes = .nothing then do g.addLetters (← a.addSwitch s "") r
      else
        match r with
        | [] => .ok (a, some s)
        | '=' :: r => return (← a.addSwitch s (String.ofList r), none)
        | r => return (← a.addSwitch s (String.ofList r), none)

/-- A lone hyphen is an operand; every other text with a hyphen in front is in the form of
switches. -/
def isSwitchForm (s : List Char) : Bool :=
  s.head? = some '-' && s.length > 1

/-- Takes arguments apart, after those that are taken apart already. -/
def scan (g : Grammar) (a : Arguments) : List String → Except Stop Arguments
  | [] => .ok a
  | arg :: rest => do
    if arg = "--" then rest.foldlM g.addOperand a
    else if !isSwitchForm arg.toList then g.scan (← g.addOperand a arg) rest
    else
      let (a, waiting) ← match arg.toList.drop 1 with
        | '-' :: name => g.addNamed a name
        | letters => g.addLetters a letters
      match waiting, rest with
      | none, rest => g.scan a rest
      | some _, [] => .error .misuse
      | some s, value :: rest =>
        if isSwitchForm value.toList then .error .misuse
        else g.scan (← a.addSwitch s value) rest

end Grammar

end DeployPlan.CommandLine
