import DeployPlan.Url.Address
import DeployPlan.Url.Domain

/-!
# Hosts

The host in an address: a domain name in lower case and ASCII, or a numeric address. `Host.parse`
reads the hosts of the web's schemes, `Host.parseOpaque` those of all others.
-/

namespace DeployPlan.Url

/-- What is wrong with an address. -/
inductive Fault
  | emptyHost
  | invalidDomain
  | invalidPort
  | invalidIPv4
  | invalidIPv6
  | invalidDomainCharacter
  | relativeWithoutBase
  deriving DecidableEq, Repr

/-- The wording of a fault. -/
def Fault.message : Fault → String
  | .emptyHost => "empty host"
  | .invalidDomain => "invalid international domain name"
  | .invalidPort => "invalid port number"
  | .invalidIPv4 => "invalid IPv4 address"
  | .invalidIPv6 => "invalid IPv6 address"
  | .invalidDomainCharacter => "invalid domain character"
  | .relativeWithoutBase => "relative URL without a base"

/-- A host. -/
inductive Host
  | domain (name : String)
  | ipv4 (address : UInt32)
  /-- Eight groups of sixteen bits. -/
  | ipv6 (groups : List Nat)
  deriving DecidableEq, Repr

namespace Host

/-- The host as a text. -/
protected def toString : Host → String
  | .domain name => name
  | .ipv4 a => String.ofList (writeIPv4 a)
  | .ipv6 groups => String.ofList ('[' :: writeIPv6 groups ++ [']'])

/-- The numeric address in brackets, if the text starts with a bracket. -/
def parseBracketed (s : List Char) : Option (Except Fault Host) :=
  match s with
  | '[' :: r =>
    match Text.stripTail? [']'] r with
    | some inner =>
      match readIPv6 inner with
      | some groups => some (.ok (.ipv6 groups))
      | none => some (.error .invalidIPv6)
    | none => some (.error .invalidIPv6)
  | _ => none

/-- Reads a host of the web. -/
def parse (s : List Char) : Except Fault Host :=
  match parseBracketed s with
  | some r => r
  | none =>
    match String.fromUTF8? ⟨(percentDecode s).toArray⟩ with
    | none => .error .invalidDomain
    | some decoded =>
      match domainToAscii decoded.toList with
      | none => .error .invalidDomain
      | some [] => .error .emptyHost
      | some ascii =>
        if endsInNumber ascii then
          match readIPv4 ascii with
          | some a => .ok (.ipv4 a)
          | none => .error .invalidIPv4
        else .ok (.domain (String.ofList ascii))

/-- Reads a host of another scheme, which may be empty. -/
def parseOpaque (s : List Char) : Except Fault Host :=
  match parseBracketed s with
  | some r => r
  | none =>
    if s.any fun c => c == '\x00' || " \t\n\r#/:<>?@[\\]^|".toList.contains c then
      .error .invalidDomainCharacter
    else .ok (.domain (String.ofList (percentEncode inControlSet s)))

end Host

end DeployPlan.Url
