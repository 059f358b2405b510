import ScriptHost.Url.Basic

/-!
# Reading addresses

## Main definitions

* `Url.splitScheme?` — the scheme in front of a colon.
* `Url.Authority` — user, host and port; `Url.readAuthority` reads them.
* `Url.Tail` — path, query and fragment, not yet normalized.
* `Url.read` — the address that a text writes, or none if it names no host.

## Design notes

Blank and control characters around an address do not count, nor do tabs and line breaks within.
Schemes of the web are lenient about slashes and take a backslash for one. An address without a host
is not looked at further.
-/

namespace ScriptHost
namespace Url

/-- The characters of a text that count. -/
def significant (s : String) : List Char :=
  let isMargin := fun c : Char => c.toNat ≤ 32
  let cs := ((s.toList.dropWhile isMargin).reverse.dropWhile isMargin).reverse
  cs.filter fun c => !(c == '\t' || c == '\n' || c == '\r')

/-- A character that may follow the first one of a scheme. -/
def isSchemeChar (c : Char) : Bool := c.isAlphanum || c == '+' || c == '-' || c == '.'

/-- The scheme in front of the first colon, in lower case, and what follows. -/
def splitScheme? (cs : List Char) : Option (String × List Char) :=
  match cs.span isSchemeChar with
  | (first :: scheme, ':' :: rest) =>
    if first.isAlpha then some (String.ofList ((first :: scheme).map Char.toLower), rest) else none
  | _ => none

/-- A character that separates the segments of a path. -/
def isSlash (web : Bool) (c : Char) : Bool := c == '/' || web && c == '\\'

/-- A character that ends the authority. -/
def endsAuthority (web : Bool) (c : Char) : Bool := isSlash web c || c == '?' || c == '#'

/-- What follows the authority, not yet normalized. -/
structure Tail where
  path : List Char
  query : Option (List Char)
  fragment : Option (List Char)
deriving DecidableEq, Repr, Inhabited

/-- Characters up to a sign, and those behind it if there is one. -/
def splitAtSign (sign : Char) (cs : List Char) : List Char × Option (List Char) :=
  match cs.span (· != sign) with
  | (front, []) => (front, none)
  | (front, _ :: back) => (front, some back)

/-- The parts behind the authority. -/
def splitTail (cs : List Char) : Tail :=
  let (front, fragment) := splitAtSign '#' cs
  let (path, query) := splitAtSign '?' front
  ⟨path, query, fragment⟩

/-- A query and a fragment in normal form. -/
def Tail.escaped (web : Bool) (t : Tail) : Option (List Char) × Option (List Char) :=
  (t.query.map (Percent.encode (if web then Percent.inWebQuery else Percent.inQuery)),
   t.fragment.map (Percent.encode Percent.inFragment))

/-- The escaped segments of a path that begins behind its first slash. -/
def segments (web : Bool) (cs : List Char) : List (List Char) :=
  (cs.splitOnP (isSlash web)).map (Percent.encode Percent.inPath)

/-- A path without a slash in front of it. -/
def dropSlash (web : Bool) : List Char → List Char
  | c :: rest => if isSlash web c then rest else c :: rest
  | [] => []

/-- The path of an address that is not that of a file. Under schemes of the web it is never empty.
-/
def readPath (web : Bool) (cs : List Char) : List (List Char) :=
  if cs.isEmpty && !web then [] else Path.walk [] (segments web (dropSlash web cs))

/-- What precedes the path of an address that is not that of a file. -/
structure Authority where
  user : List Char
  host : Option Host
  port : Option Nat
deriving DecidableEq, Repr, Inhabited

/-- User name and password in normal form: without the sign of an empty password, and nothing if
both are empty. -/
def userText (cs : List Char) : List Char :=
  let (name, password) := splitAtSign ':' cs
  let parts := Percent.encode Percent.inUser name ++
    signed ':' ((password.filter (!·.isEmpty)).map (Percent.encode Percent.inUser))
  if parts.isEmpty then [] else parts ++ ['@']

/-- What stands before the last at sign, if there is one, and what stands behind it. -/
def splitUser (cs : List Char) : Option (List Char) × List Char :=
  match cs.reverse.span (· != '@') with
  | (_, []) => (none, cs)
  | (host, _ :: user) => (some user.reverse, host.reverse)

/-- A host and what follows, from the first colon that is not in brackets. -/
def splitHost (inBrackets : Bool) : List Char → List Char × List Char
  | [] => ([], [])
  | c :: rest =>
    if c = ':' ∧ !inBrackets then ([], c :: rest)
    else
      let (host, behind) := splitHost (c = '[' || inBrackets && c != ']') rest
      (c :: host, behind)

/-- The port behind a host, and what follows it. Only a slash may follow the digits. -/
def readPort : List Char → Except Fault (Option Nat × List Char)
  | ':' :: rest =>
    let (digits, behind) := rest.span Char.isDigit
    let port := digits.foldl (fun n c => n * 10 + (c.toNat - 48)) 0
    if 65535 < port || behind.head?.any (· != '\\') then .error .invalidPort
    else .ok (if digits.isEmpty then none else some port, behind)
  | behind => .ok (none, behind)

/-- Reads what stands before the first slash, and returns what is left of it for the path. -/
def readAuthority (scheme : String) (cs : List Char) (isLast : Bool) :
    Except Fault (Authority × List Char) := do
  let (user, located) := splitUser cs
  if user == some [] && located.isEmpty && !isLast then throw .emptyHost
  let user := userText (user.getD [])
  let (hostText, behind) := splitHost false located
  let host ← if isWeb scheme then
      if hostText.isEmpty then throw .emptyHost else some <$> Host.read hostText
    else Host.readOpaque hostText
  if host.isNone && behind.head? == some ':' then throw .emptyHost
  let (port, rest) ← readPort behind
  if host.isNone && !user.isEmpty then throw .emptyHost
  pure (⟨user, host, port.filter (defaultPort? scheme != some ·)⟩, rest)

/-- The address behind the slashes that follow a scheme other than that of files. -/
def readLocated (scheme : String) (cs : List Char) : Except Fault (Option Url) := do
  let web := isWeb scheme
  let (front, rest) := cs.span (!endsAuthority web ·)
  let (authority, behind) ← readAuthority scheme front rest.isEmpty
  let tail := splitTail (behind ++ rest)
  let (query, fragment) := tail.escaped web
  return authority.host.map fun host =>
    ⟨scheme, authority.user, host, authority.port, readPath web tail.path, query, fragment⟩

/-- The host of a file. A drive is no host, and the own machine needs none. -/
def readFileHost (cs : List Char) : Except Fault (Option Host) := do
  if cs.isEmpty || Path.isDrive cs then return none
  let host ← Host.read cs
  return if host = .name "localhost".toList then none else some host

/-- The address behind the two slashes that follow the scheme of files. -/
def readFile (cs : List Char) : Except Fault (Option Url) := do
  let (front, rest) := cs.span (!endsAuthority true ·)
  let tail := splitTail rest
  let (query, fragment) := tail.escaped true
  let host? ← readFileHost front
  return do
    let host ← host?
    let path ← Path.ofFile? (segments true (dropSlash true tail.path))
    some ⟨"file", [], host, none, path, query, fragment⟩

/-- The address that a text writes, or none if it names no host. -/
def read (s : String) : Except Fault (Option Url) :=
  match splitScheme? (significant s) with
  | none => .error .noScheme
  | some (scheme, rest) =>
    if scheme = "file" then
      match rest with
      | a :: b :: behind => if isSlash true a && isSlash true b then readFile behind else .ok none
      | _ => .ok none
    else if isWeb scheme then readLocated scheme (rest.dropWhile (isSlash true))
    else
      match rest with
      | '/' :: '/' :: behind => readLocated scheme behind
      | _ => .ok none

end Url
end ScriptHost
