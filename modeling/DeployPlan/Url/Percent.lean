import DeployPlan.Text.Decimal

/-!
# Percent encoding

Bytes that may not stand in a part of an address are written as a percent sign and two digits. Each
part has its own set of characters that are written so; characters above ASCII always are.
-/

namespace DeployPlan.Url

def utf8 (s : List Char) : List UInt8 :=
  (String.ofList s).toUTF8.toList

def percentByte (b : UInt8) : List Char :=
  let digit (n : Nat) : Char := (Nat.digitChar n).toUpper
  ['%', digit (b.toNat / 16), digit (b.toNat % 16)]

/-- A control character, or one above ASCII. -/
def inControlSet (c : Char) : Bool :=
  c.toNat < 0x20 || 0x7f ≤ c.toNat

/-- What is encoded in a fragment. -/
def inFragmentSet (c : Char) : Bool :=
  inControlSet c || c == ' ' || c == '"' || c == '<' || c == '>' || c.toNat == 0x60

/-- What is encoded in a path. -/
def inPathSet (c : Char) : Bool :=
  inFragmentSet c || c == '#' || c == '?' || c == '\x7b' || c == '\x7d'

def inUserSet (c : Char) : Bool :=
  inPathSet c || c == '/' || c == ':' || c == ';' || c == '=' || c == '@' || c == '[' ||
    c == '\\' || c == ']' || c == '^' || c == '|'

/-- What is encoded in a query; with a host of the web, single quotes are encoded as well. -/
def inQuerySet (special : Bool) (c : Char) : Bool :=
  inControlSet c || c == ' ' || c == '"' || c == '#' || c == '<' || c == '>' ||
    (special && c == '\'')

def percentEncode (inSet : Char → Bool) (s : List Char) : List Char :=
  s.flatMap fun c => if inSet c then (utf8 [c]).flatMap percentByte else [c]

/-- The bytes that a text stands for. A percent sign without two digits stands for itself. -/
def percentDecode : List Char → List UInt8
  | [] => []
  | '%' :: a :: b :: r =>
    match Text.hexValue? a, Text.hexValue? b with
    | some x, some y => UInt8.ofNat (16 * x + y) :: percentDecode r
    | _, _ => 0x25 :: percentDecode (a :: b :: r)
  | c :: r => utf8 [c] ++ percentDecode r

/-- A text as it stands in a form: blanks become plus signs, and all but letters, digits and four
marks is encoded. -/
def formEncode (s : List Char) : List Char :=
  (utf8 s).flatMap fun b =>
    let c := Char.ofNat b.toNat
    if b == 0x20 then ['+']
    else if b < 0x80 && (c.isAlphanum || c == '*' || c == '-' || c == '.' || c == '_') then [c]
    else percentByte b

end DeployPlan.Url
