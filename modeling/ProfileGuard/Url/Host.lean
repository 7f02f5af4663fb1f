import ProfileGuard.DomainName.Basic
import ProfileGuard.Text.Percent
import ProfileGuard.Url.Address
import ProfileGuard.Url.Error

/-!
# Hosts of URLs

What stands between the two slashes of a URL and its path: user information, a host and a port.  Where
a scheme is known to name hosts of the internet, the host is an address or a domain name; elsewhere it
is any text without the characters that end it.

* **`Url.readHost`** — the host that a text writes.
* **`Url.Authority`** / **`Url.readAuthority`** — host and port, after user information that is dropped.
-/

namespace ProfileGuard.Url

/-! ### The host -/

/-- The host of a scheme that names hosts of the internet, percent-encoding undone and mapped. -/
def readDomain (host : List Char) : Except Error (List Char) :=
  match (Bytes.text? (Text.Percent.decode host)).bind fun text => DomainName.read? text.toList with
  | none => .error .invalidDomain
  | some [] => .error .emptyHost
  | some name => if endsInNumber name ∧ !isIpv4 name then .error .invalidIpv4 else .ok name

/-- A character that no host may hold. -/
def endsHost (c : Char) : Bool :=
  c ∈ ['\x00', ' ', '#', '/', ':', '<', '>', '?', '@', '[', '\\', ']', '^', '|']

/-- An address in brackets or a host; `hosted` says that the scheme names hosts of the internet. -/
def readHost (hosted : Bool) : (host : List Char) → Except Error (List Char)
  | '[' :: rest =>
    if rest.getLast? = some ']' ∧ isIpv6 rest.dropLast then .ok ('[' :: rest)
    else .error .invalidIpv6
  | host =>
    if hosted then readDomain host
    else if host.any endsHost then .error .invalidOpaqueHost
    else .ok host

/-! ### The authority -/

/-- A host, and the port if one is named. -/
structure Authority where
  host : List Char
  port : Option Nat

/-- The port that digits name; none if there are no digits. -/
def readPort (cs : List Char) : Except Error (Option Nat) :=
  if cs = [] then .ok none
  else
    match digitsIn? 10 cs with
    | some port => if port < 65536 then .ok (some port) else .error .invalidPort
    | none => .error .invalidPort

/-- Whether a character ends the authority. -/
def endsAuthority (hosted : Bool) (c : Char) : Bool :=
  c == '/' || c == '?' || c == '#' || (hosted && c == '\\')

/-- The user information in front of the last `@`, if there is one, and what follows. -/
def splitUserInfo (cs : List Char) : Option (List Char) × List Char :=
  let rest := (cs.reverse.takeWhile (· != '@')).reverse
  (if cs.contains '@' then some (cs.take (cs.length - rest.length - 1)) else none, rest)

/-- The host in front of a port: up to the first colon outside brackets, and what follows. -/
def splitHost : (inBrackets : Bool) → List Char → List Char × List Char
  | _, [] => ([], [])
  | inBrackets, c :: cs =>
    if c = ':' ∧ !inBrackets then ([], c :: cs)
    else
      let (host, rest) := splitHost (if c = '[' then true else if c = ']' then false else inBrackets) cs
      (c :: host, rest)

/-- Whether user information asks for a host.  A single colon is neither a name nor a password, and
nothing at all counts only if a path, a query or a fragment follows. -/
def needsHost (isFollowed : Bool) : (userInfo : Option (List Char)) → Bool
  | none => false
  | some [] => isFollowed
  | some info => info ≠ [':']

/-- The authority at the beginning of a text. -/
def readAuthority (hosted : Bool) (cs : List Char) : Except Error Authority := do
  let isFollowed := cs.any (endsAuthority hosted)
  let (userInfo, rest) := splitUserInfo (cs.takeWhile fun c => !endsAuthority hosted c)
  let (host, port) := splitHost false rest
  if host = [] ∧ (hosted ∨ port ≠ [] ∨ needsHost isFollowed userInfo) then throw .emptyHost
  let host ← readHost hosted host
  return { host, port := ← readPort (port.tail.takeWhile (· != '\\')) }

/-! ### Files -/

/-- Whether a text is the letter of a drive: a letter and a colon, or a bar for it. -/
def isDriveLetter : List Char → Bool
  | [letter, colon] => letter.isAlpha && (colon == ':' || colon == '|')
  | _ => false

/-- The host in front of the path of a file.  There need be none, and the letter of a drive belongs to
the path. -/
def readFileHost (cs : List Char) : Except Error (List Char) :=
  let host := cs.takeWhile fun c => !endsAuthority true c
  if host = [] ∨ isDriveLetter host then .ok [] else readHost true host

end ProfileGuard.Url
