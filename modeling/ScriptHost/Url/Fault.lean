/-!
# Faults of addresses

## Main definitions

* `Url.Fault` — why a text is no address; `Url.Fault.message` — how that is reported.
-/

namespace ScriptHost
namespace Url

/-- Why a text is no address. -/
inductive Fault where
  /-- It does not begin with a scheme. -/
  | noScheme
  /-- A host is called for and there is none. -/
  | emptyHost
  | invalidPort
  /-- A name ends in a number and is no address of four bytes. -/
  | invalidInet4
  /-- What stands in brackets is no address of eight groups. -/
  | invalidInet6
  /-- The host is not a name that the name system can have. -/
  | invalidName
  /-- The host has a character that separates parts of an address. -/
  | invalidCharacter
deriving DecidableEq, Repr, Inhabited

/-- How a fault is reported. -/
def Fault.message : Fault → String
  | .noScheme => "relative URL without a base"
  | .emptyHost => "empty host"
  | .invalidPort => "invalid port number"
  | .invalidInet4 => "invalid IPv4 address"
  | .invalidInet6 => "invalid IPv6 address"
  | .invalidName => "invalid international domain name"
  | .invalidCharacter => "invalid domain character"

end Url
end ScriptHost
