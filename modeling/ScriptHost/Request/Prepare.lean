import ScriptHost.Request.Basic
import ScriptHost.Url.Reader

/-!
# Preparing requests

## Main definitions

* `Address.resolve` — what a request needs to know of an address.
* `Request.prepare` — the checks and the normal form of a request.
-/

namespace ScriptHost

/-- What a request needs to know of the address that a text writes; none if it names no host. -/
def Address.resolve (target : String) : Except String (Option Address) :=
  match Url.read target with
  | .ok url => .ok (url.map fun u => ⟨u.text, u.scheme, u.host.text⟩)
  | .error fault => .error fault.message

/-- The first reason to refuse a request, or its normal form. -/
def Request.prepare (r : Request) : Except Failure Prepared := r.prepareWith Address.resolve

end ScriptHost
