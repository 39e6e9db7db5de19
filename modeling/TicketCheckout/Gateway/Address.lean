import TicketCheckout.Gateway.Host
import TicketCheckout.Text.Base64Url
import TicketCheckout.Text.IntLiteral
import TicketCheckout.Text.Utf8

/-!
# Processor addresses

The card processor is reached below a base address (RFC 3986): a scheme, an authority with
maybe user information, a path, a query and a fragment. A request path is resolved against the
base the way the HTTP client does it:

* An address is split at the colon after a scheme name, a `//` authority up to `/ ? #`, a path
  up to `? #`, a query up to `#` and the fragment (`parse`).
* When an address has a scheme or an authority, its path loses its dot segments: `.` is
  dropped and `..` drops the segment before it, but never the leading empty one
  (`removeDotSegments`).
* The base's raw path (its path, `/` when empty, then `?` and the query if it has one) is made
  to end in `/`, the request path without its leading slashes is appended, and the result is
  split again at its first `?` into path and query (`join`). So a request below a base with a
  query lands in the query, and the path stays the base's.
* A request reports its path percent-decoded: `%XX` escapes are bytes, read as UTF-8 with
  replacement characters (`decodedPath`).
* User information `user:password` is sent as basic authentication, the standard base 64 of
  both parts percent-decoded and joined by a colon, when either part is nonempty
  (`basicCredentials`).
* An address whose text does not start with a scheme name and a colon cannot be fetched: the
  request goes out, and reading its reply fails (`fetchable`).

The HTTP client refuses a base address outright (`wellFormed`) when its text is longer than
65536 characters or holds an ASCII control character; when its host is not acceptable
(`hostAcceptable`); when the text after its host (after one colon) is neither empty nor an
integer literal, the port; or when it has neither a scheme nor an authority with some part and
its path starts with `//` or `:`.
-/

namespace TicketCheckout.Gateway

/-- A web address split into its parts. -/
structure Address where
  scheme : String
  authority : Option String
  path : String
  query : Option String
  fragment : Option String
  deriving DecidableEq, Repr

namespace Address

/-- Whether a character may follow the first letter of a scheme name. -/
def isSchemeChar (c : Char) : Bool := c.isAlphanum || c == '+' || c == '.' || c == '-'

/-- The scheme of an address and the text after its colon, or no scheme and the whole text. A
colon at the very start ends an empty scheme. -/
def splitScheme (cs : List Char) : String × List Char :=
  match cs with
  | ':' :: rest => ("", rest)
  | c :: rest =>
    if c.isAlpha then
      let name := rest.takeWhile isSchemeChar
      match rest.drop name.length with
      | ':' :: after => (String.ofList (c :: name), after)
      | _ => ("", cs)
    else ("", cs)
  | [] => ("", [])

/-- The user information of an authority (before its last `@`, empty without one) and the host
after it, with the number it listens on. -/
def splitUserinfo (authority : String) : List Char × List Char :=
  let r := authority.toList.reverse
  if r.contains '@' then
    let hostPort := r.takeWhile (· != '@')
    ((r.drop (hostPort.length + 1)).reverse, hostPort.reverse)
  else ([], authority.toList)

/-- Whether an address has an authority with some part: user information, a host or the number
it listens on. -/
def hasAuthority (a : Address) : Bool :=
  match a.authority with
  | none => false
  | some auth =>
    let (info, hostPort) := splitUserinfo auth
    !info.isEmpty || !(hostPort.isEmpty || hostPort == [':'])

/-- Whether an address is absolute enough for its path to be normalized. -/
def normalizes (a : Address) : Bool := !a.scheme.isEmpty || a.hasAuthority

/-- The segments of a path between its slashes; there is one more than there are slashes. -/
def segments : List Char → List (List Char)
  | [] => [[]]
  | c :: rest =>
    match c, segments rest with
    | '/', parts => [] :: parts
    | c, p :: ps => (c :: p) :: ps
    | c, [] => [[c]]

/-- Drops the dot segments of a path; see the module comment. -/
def removeDotSegments (path : String) : String :=
  let kept := (segments path.toList).foldl (fun out part =>
    if part == ['.'] then out
    else if part == ['.', '.'] then (if out.isEmpty || out == [[]] then out else out.dropLast)
    else out ++ [part]) []
  String.ofList (['/'].intercalate kept)

/-- The address with its path normalized when it has a scheme or an authority. -/
def normalize (a : Address) : Address :=
  if a.normalizes then { a with path := removeDotSegments a.path } else a

/-- Reads an address; see the module comment. -/
def parse (url : String) : Address :=
  let (scheme, rest) := splitScheme url.toList
  let (authority, rest) := match rest with
    | '/' :: '/' :: more =>
      let auth := more.takeWhile fun c => c != '/' && c != '?' && c != '#'
      (some (String.ofList auth), more.drop auth.length)
    | _ => (none, rest)
  let path := rest.takeWhile fun c => c != '?' && c != '#'
  let rest := rest.drop path.length
  let (query, rest) := match rest with
    | '?' :: more =>
      let q := more.takeWhile (· != '#')
      (some (String.ofList q), more.drop q.length)
    | _ => (none, rest)
  let fragment := match rest with
    | '#' :: more => some (String.ofList more)
    | _ => none
  normalize ⟨scheme, authority, String.ofList path, query, fragment⟩

/-- The path and query of an address as one text: the path (`/` when empty), then `?` and the
query if there is one. -/
def rawPath (a : Address) : String :=
  (if a.path.isEmpty then "/" else a.path) ++ (a.query.map ("?" ++ ·)).getD ""

/-- The address with a new raw path, split at its first `?` into path and query. -/
def withRawPath (a : Address) (raw : String) : Address :=
  let path := raw.toList.takeWhile (· != '?')
  let query := match raw.toList.drop path.length with
    | '?' :: q => some (String.ofList q)
    | _ => none
  normalize { a with path := String.ofList path, query := query }

/-- The address with a raw path that ends in `/`. -/
def withTrailingSlash (a : Address) : Address :=
  if a.rawPath.endsWith "/" then a else a.withRawPath (a.rawPath ++ "/")

/-- The address of a request path below a base; see the module comment. -/
def join (base : Address) (target : String) : Address :=
  let b := base.withTrailingSlash
  b.withRawPath (b.rawPath ++ String.ofList (target.toList.dropWhile (· == '/')))

/-- The value of a hexadecimal digit. -/
def hexValue? (c : Char) : Option Nat :=
  if '0' ≤ c && c ≤ '9' then some (c.toNat - 48)
  else if 'a' ≤ c && c ≤ 'f' then some (c.toNat - 87)
  else if 'A' ≤ c && c ≤ 'F' then some (c.toNat - 55)
  else none

/-- The bytes of a text with its `%XX` escapes read as bytes; any other character stands for
its UTF-8 bytes. -/
def percentBytes : List Char → List UInt8
  | [] => []
  | '%' :: h :: l :: rest =>
    match hexValue? h, hexValue? l with
    | some a, some b => (a * 16 + b).toUInt8 :: percentBytes rest
    | _, _ => Text.utf8Bytes "%" ++ percentBytes (h :: l :: rest)
  | c :: rest => Text.utf8Bytes (String.singleton c) ++ percentBytes rest

/-- A percent-decoded text; see the module comment. -/
def percentDecode (s : String) : String :=
  String.ofList (Text.utf8DecodeLossy (percentBytes s.toList))

/-- The path a request to the address reports. -/
def decodedPath (a : Address) : String :=
  percentDecode (if a.path.isEmpty then "/" else a.path)

/-- The basic credentials in an address's user information, if it has a user or a password. -/
def basicCredentials (a : Address) : Option String :=
  let info := (splitUserinfo (a.authority.getD "")).1
  let user := percentDecode (String.ofList (info.takeWhile (· != ':')))
  let password := percentDecode (String.ofList ((info.dropWhile (· != ':')).drop 1))
  if user.isEmpty && password.isEmpty then none
  else some (Text.base64Encode (Text.utf8Bytes (user ++ ":" ++ password)))

/-- Whether a request to the address can be fetched: its text starts with a name free of `/`
and `:` and then a colon, which holds with a scheme, never with an authority and no scheme,
and otherwise depends on the path. -/
def fetchable (a : Address) : Bool :=
  if !a.scheme.isEmpty then true
  else if a.hasAuthority then false
  else
    let name := a.path.toList.takeWhile fun c => c != '/' && c != ':'
    !name.isEmpty && (a.path.toList.drop name.length).head? == some ':'

/-- The host of an authority's host part, and the text after it where the port stands: a host
in brackets runs to the last `]`, any other host to the first colon, and one colon after the
host is dropped. -/
def splitHostPort (hostPort : List Char) : List Char × List Char :=
  let (host, rest) :=
    if hostPort.head? == some '[' && hostPort.contains ']' then
      let n := hostPort.length - (hostPort.reverse.takeWhile (· != ']')).length
      (hostPort.take n, hostPort.drop n)
    else
      let h := hostPort.takeWhile (· != ':')
      (h, hostPort.drop h.length)
  (host, match rest with
    | ':' :: port => port
    | port => port)

/-- The port written after a host: nothing when the text is empty, and `none` when it is no
integer literal. -/
def portOf? (port : List Char) : Option (Option Int) :=
  if port.isEmpty then some none else (Text.readInt? (String.ofList port)).map some

/-- Whether a character is an ASCII control character. -/
def isControl (c : Char) : Bool := c.toNat < 32 || c.toNat == 127

/-- Whether the HTTP client takes a text as an address; see the module comment. -/
def wellFormed (url : String) : Bool :=
  let cs := url.toList
  let (scheme, rest) := splitScheme cs
  let scheme := String.ofList (scheme.toList.map Char.toLower)
  let (authority, rest) := match rest with
    | '/' :: '/' :: more =>
      let auth := more.takeWhile fun c => c != '/' && c != '?' && c != '#'
      (some auth, more.drop auth.length)
    | _ => (none, rest)
  let path := rest.takeWhile fun c => c != '?' && c != '#'
  let pathOk (hasAuthority : Bool) : Bool :=
    !scheme.isEmpty || hasAuthority || !(path.take 2 == ['/', '/'] || path.head? == some ':')
  cs.length ≤ 65536 && !cs.any isControl &&
    match authority with
    | none => pathOk false
    | some auth =>
      let (info, hostPort) := splitUserinfo (String.ofList auth)
      let (host, port) := splitHostPort hostPort
      match portOf? port with
      | none => false
      | some p =>
        hostAcceptable host &&
          pathOk (!info.isEmpty || !host.isEmpty || p.isSome)

example : wellFormed "https://gw.test:abc/" = false := by decide +kernel
example : wellFormed "https://[::1]:8080/p" = true := by decide +kernel
example : (parse "https://gw.test/p/./q/").path = "/p/q/" := by decide +kernel
example : ((parse "https://gw.test/a%20b/").join "/v1").decodedPath = "/a b/v1" := by
  decide +kernel

end Address

end TicketCheckout.Gateway
