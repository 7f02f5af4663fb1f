/-!
# Faults of URLs

* **`Url.Error`** — why a text is no absolute URL.
* **`Url.Error.message`** — the wording.
-/

namespace ProfileGuard.Url

/-- Why a text is no absolute URL. -/
inductive Error where
  | relative
  | emptyHost
  | invalidPort
  | invalidIpv4
  | invalidIpv6
  | invalidDomain
  | invalidOpaqueHost
  deriving DecidableEq

/-- The wording. -/
def Error.message : Error → String
  | relative => "relative URL without a base"
  | emptyHost => "empty host"
  | invalidPort => "invalid port number"
  | invalidIpv4 => "invalid IPv4 address"
  | invalidIpv6 => "invalid IPv6 address"
  | invalidDomain => "invalid international domain name"
  | invalidOpaqueHost => "invalid domain character"

end ProfileGuard.Url
