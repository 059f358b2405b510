import ScriptHost.Url.DomainName
import ScriptHost.Url.Fault
import ScriptHost.Url.Inet4
import ScriptHost.Url.Inet6

/-!
# Hosts

## Main definitions

* `Host` — a name or an internet address; `Host.text` is its normal form.
* `Host.read` — the host that a text writes in the address of a scheme of the web.
* `Host.readOpaque` — the host that it writes under any other scheme.
-/

namespace ScriptHost
namespace Url

/-- What an address is about. -/
inductive Host where
  | name (text : List Char)
  | inet4 (bits : Nat)
  | inet6 (groups : List Nat)
deriving DecidableEq, Repr, Inhabited

namespace Host

/-- A host in normal form. -/
def text : Host → String
  | .name cs => String.ofList cs
  | .inet4 bits => Inet4.text bits
  | .inet6 groups => Inet6.text groups

/-- The address of eight groups behind an opening bracket. -/
def readBracketed (cs : List Char) : Except Fault Host :=
  match cs.getLast? with
  | some ']' =>
    match Inet6.read? cs.dropLast with
    | some groups => .ok (.inet6 groups)
    | none => .error .invalidInet6
  | _ => .error .invalidInet6

/-- A host under a scheme of the web: an address, or a name in its ASCII form. -/
def read : List Char → Except Fault Host
  | '[' :: rest => readBracketed rest
  | cs =>
    match Percent.decode? cs >>= DomainName.toAscii? with
    | none => .error .invalidName
    | some [] => .error .emptyHost
    | some cs =>
      if Inet4.endsInNumber cs then
        match Inet4.read? cs with
        | some bits => .ok (.inet4 bits)
        | none => .error .invalidInet4
      else .ok (.name cs)

/-- A character that no host has. -/
def isSeparator (c : Char) : Bool :=
  ['\x00', '\t', '\n', '\r', ' ', '#', '/', ':', '<', '>', '?', '@', '[', '\\', ']', '^',
    '|'].contains c

/-- A host under any other scheme, of which nothing is known but the characters. The empty text is
no host. -/
def readOpaque : List Char → Except Fault (Option Host)
  | [] => .ok none
  | '[' :: rest => (readBracketed rest).map some
  | cs =>
    if cs.any isSeparator then .error .invalidCharacter
    else .ok (some (.name (Percent.encode Percent.controls cs)))

end Host
end Url
end ScriptHost
