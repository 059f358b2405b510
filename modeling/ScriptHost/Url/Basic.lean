import ScriptHost.Url.Host
import ScriptHost.Url.Path

/-!
# Addresses with a host

## Main definitions

* `Url` — the parts of an address; `Url.text` writes them.
* `Url.isWeb`, `Url.defaultPort?` — the schemes whose addresses have rules of their own.

## Design notes

All parts are held in normal form: escaped, in lower case where case does not count, without a port
that the scheme implies.
-/

namespace ScriptHost

/-- An address with a host. -/
structure Url where
  scheme : String
  /-- User name and password as they are written, with the sign that ends them. -/
  user : List Char
  host : Url.Host
  port : Option Nat
  path : List (List Char)
  query : Option (List Char)
  fragment : Option (List Char)
deriving DecidableEq, Repr, Inhabited

namespace Url

/-- The port that a scheme implies. -/
def defaultPort? : String → Option Nat
  | "http" | "ws" => some 80
  | "https" | "wss" => some 443
  | "ftp" => some 21
  | _ => none

/-- Whether the addresses of a scheme follow the rules of the web. -/
def isWeb (scheme : String) : Bool := scheme == "file" || (defaultPort? scheme).isSome

/-- A part that is absent, or written behind a sign. -/
def signed (sign : Char) : Option (List Char) → List Char
  | some part => sign :: part
  | none => []

/-- An address as it is written. -/
def text (u : Url) : String :=
  u.scheme ++ "://" ++ String.ofList u.user ++ u.host.text ++
    String.ofList (signed ':' (u.port.map (Nat.toDigits 10)) ++ Path.text u.path ++
      signed '?' u.query ++ signed '#' u.fragment)

end Url
end ScriptHost
