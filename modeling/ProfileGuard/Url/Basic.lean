import ProfileGuard.Text.Decimal
import ProfileGuard.Url.Path

/-!
# Absolute URLs

The parts of an absolute URL that decide what is asked of a server and whether it can be asked at all.
User information is dropped.  Reading follows the URL standard: blanks at the ends are dropped,
backslashes are slashes where a scheme names hosts of the internet, dots in paths are resolved, and
what may not stand in a path, a query or a fragment is percent-encoded.

* **`Url`** — scheme, host, port, path, query and fragment.
* **`Url.parse`** — the URL written by a text.
* **`Url.target`** — what a request for the URL asks the server for.
* **`Url.isRequestable`** — whether there can be a request for the URL.
-/

namespace ProfileGuard

/-- An absolute URL without user information. -/
structure Url where
  scheme : String
  host : List Char
  /-- The port, unless it is the one that the scheme stands for. -/
  port : Option Nat
  /-- The path, percent-encoded; it begins with a slash if the scheme names hosts. -/
  path : List Char
  /-- The query after its question mark. -/
  query : Option (List Char)
  /-- The fragment after its number sign. -/
  fragment : Option (List Char)

namespace Url

/-- Whether a character stands for itself in the query of a scheme that names hosts. -/
def isQueryChar (c : Char) : Bool := isPlain c && !(c ∈ [' ', '"', '#', '<', '>', '\''])

/-- Whether a character stands for itself in a fragment. -/
def isFragmentChar (c : Char) : Bool := isPlain c && !(c ∈ [' ', '"', '<', '>', '\x60'])

/-- The characters before the first one that is `sep`, and those after it if there is one. -/
def cut (sep : Char) (cs : List Char) : List Char × Option (List Char) :=
  match cs.dropWhile (· != sep) with
  | [] => (cs, none)
  | _ :: rest => (cs.takeWhile (· != sep), some rest)

/-- The schemes that name hosts of the internet, files apart, with the ports that they stand for. -/
def hostedSchemes : List (String × Nat) :=
  [("http", 80), ("https", 443), ("ws", 80), ("wss", 443), ("ftp", 21)]

/-- The scheme in small letters and what follows its colon. -/
def scheme? (cs : List Char) : Option (String × List Char) :=
  match cut ':' cs with
  | (first :: name, some rest) =>
    if first.isAlpha ∧ name.all fun c => c.isAlphanum || c == '+' || c == '-' || c == '.' then
      some (String.ofList ((first :: name).map Char.toLower), rest)
    else none
  | _ => none

/-- The characters that count: none at the two ends that are blanks or controls, and no tabs or line
breaks. -/
def significant (text : String) : List Char :=
  let isEdge (c : Char) : Bool := c.toNat ≤ 0x20
  let cs := ((text.toList.dropWhile isEdge).reverse.dropWhile isEdge).reverse
  cs.filter fun c => !(c ∈ ['\t', '\n', '\r'])

/-- Whether a character is a slash or stands for one. -/
def isSlash (c : Char) : Bool := c == '/' || c == '\\'

/-- The URL of a scheme that names hosts and stands for a port, from what follows the scheme. -/
def parseHosted (scheme : String) (usual : Nat) (cs : List Char) : Except Error Url := do
  let cs := cs.dropWhile isSlash
  let authority ← readAuthority true cs
  let (rest, fragment) := cut '#' (cs.dropWhile fun c => !endsAuthority true c)
  let (path, query) := cut '?' rest
  return {
    scheme
    host := authority.host
    port := authority.port.filter (· != usual)
    path := readPath path
    query := query.map (Text.Percent.encode isQueryChar)
    fragment := fragment.map (Text.Percent.encode isFragmentChar) }

/-- A URL whose parts nobody asks for. -/
def unasked (scheme : String) (host path : List Char) : Url :=
  { scheme, host, port := none, path, query := none, fragment := none }

/-- The URL of a file. -/
def parseFile (cs : List Char) : Except Error Url :=
  if (cs.take 2).length = 2 ∧ (cs.take 2).all isSlash then
    (readFileHost (cs.drop 2)).map fun host => unasked "file" host cs
  else .ok (unasked "file" [] cs)

/-- A URL of any other scheme. -/
def parseOther (scheme : String) (cs : List Char) : Except Error Url :=
  if cs.take 2 = ['/', '/'] then
    (readAuthority false (cs.drop 2)).map fun authority => unasked scheme authority.host cs
  else .ok (unasked scheme [] cs)

/-- The URL written by a text. -/
def parse (text : String) : Except Error Url :=
  match scheme? (significant text) with
  | none => .error .relative
  | some (scheme, rest) =>
    match hostedSchemes.lookup scheme with
    | some usual => parseHosted scheme usual rest
    | none => if scheme = "file" then parseFile rest else parseOther scheme rest

/-- What a request for the URL asks the server for. -/
def target (url : Url) : String :=
  String.ofList (url.path ++
    match url.query with
    | some query => '?' :: query
    | none => [])

/-! ### Requests -/

/-- Whether the URL can be asked for over HTTP. -/
def isHttp (url : Url) : Bool := url.scheme == "http" || url.scheme == "https"

/-- The URL of a scheme that names hosts, with its host as it is read. -/
def text (url : Url) : String :=
  url.scheme ++ "://" ++ String.ofList url.host ++
    (match url.port with
    | some port => ":" ++ Text.Decimal.text port
    | none => "") ++
    url.target ++
    match url.fragment with
    | some fragment => "#" ++ String.ofList fragment
    | none => ""

/-- The most bytes that the URL of a request has. -/
def longestRequest : Nat := 65534

/-- Whether a character of a host may stand in a request. -/
def isRequestChar (c : Char) : Bool := !(c ∈ ['"', '\x60', '\x7b', '\x7d'])

/-- Whether there can be a request for the URL: over HTTP, for a host that requests can name, and of a
URL that is not too long. -/
def isRequestable (url : Url) : Bool :=
  url.isHttp && url.host.all isRequestChar && url.text.utf8ByteSize ≤ longestRequest

end Url

end ProfileGuard
