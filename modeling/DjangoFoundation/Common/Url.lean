/-
`urllib.parse.urlparse`, as far as the scheme and the network location go.

Every `ValueError` it raises, at once or in the `port` of what it returns, is a `none` here.
What NFKC makes of a text and which texts are IPv6 addresses are parameters.
-/
import DjangoFoundation.Common.Text

namespace DjangoFoundation

namespace Url

structure Tables where
  /-- `unicodedata.normalize("NFKC", s)`. -/
  nfkc : List Char → List Char
  /-- `ipaddress.ip_address(s)` is an `IPv6Address`. -/
  ipv6Address : List Char → Bool

/-- `s.partition(c)`, without the second part where there is no `c`. -/
def partition (c : Char) (s : List Char) : List Char × Option (List Char) :=
  match s.dropWhile fun d => d ≠ c with
  | [] => (s, none)
  | _ :: rest => (s.takeWhile fun d => d ≠ c, some rest)

/-- `scheme_chars`. -/
def schemeChar (c : Char) : Bool := c.isAlphanum || c ∈ ['+', '-', '.']

/-- The scheme in lower case, and what follows it. -/
def splitScheme (url : List Char) : List Char × List Char :=
  match partition ':' url with
  | (scheme, some rest) =>
      if scheme.head?.any Char.isAlpha && scheme.all schemeChar then
        (scheme.map Char.toLower, rest)
      else ([], url)
  | (_, none) => ([], url)

/-- `_splitnetloc`, of what follows the scheme. -/
def splitNetloc : List Char → List Char
  | '/' :: '/' :: rest => rest.takeWhile fun c => c ∉ ['/', '?', '#']
  | _ => []

/-- `netloc.rpartition("@")[2]`. -/
def hostinfo (netloc : List Char) : List Char :=
  ((Unicode.rsplitAt netloc).map Prod.snd).getD netloc

/-- `_check_bracketed_host`: `v`, hexadecimal digits, a dot and more, or an IPv6 address. -/
def checkBracketedHost (tables : Tables) : List Char → Bool
  | 'v' :: version =>
      let digit (c : Char) : Bool := c.isDigit || c.toLower ∈ ['a', 'b', 'c', 'd', 'e', 'f']
      version.head?.any digit && match version.dropWhile digit with
        | '.' :: _ :: _ => true
        | _ => false
  | host => tables.ipv6Address host

/-- `_check_bracketed_netloc`. -/
def checkBracketedNetloc (tables : Tables) (netloc : List Char) : Bool :=
  match partition '[' (hostinfo netloc) with
  | (before, some bracketed) =>
      let (host, port) := partition ']' bracketed
      before = [] && (port.getD []).head?.all (fun c => c = ':') && checkBracketedHost tables host
  | (_, none) => checkBracketedHost tables (partition ':' (hostinfo netloc)).1

/-- `_checknetloc`: nothing in it becomes a delimiter under NFKC. -/
def checkNetloc (tables : Tables) (netloc : List Char) : Bool :=
  let n := netloc.filter fun c => c ∉ ['@', ':', '#', '?']
  netloc.all Unicode.isAscii || tables.nfkc n = n ||
    (tables.nfkc n).all fun c => c ∉ ['/', '?', '#', '@', ':']

structure ParseResult where
  scheme : List Char
  netloc : List Char
  deriving DecidableEq, Repr

/-- `urlparse(url)`.  Control characters and spaces before it, and tabs and line ends in it, are
taken out first. -/
def urlparse (tables : Tables) (url : String) : Option ParseResult :=
  let url := (url.toList.dropWhile fun c => c.toNat ≤ 32).filter fun c => c ∉ ['\t', '\r', '\n']
  let (scheme, rest) := splitScheme url
  let netloc := splitNetloc rest
  let hasOpen := decide ('[' ∈ netloc)
  let hasClose := decide (']' ∈ netloc)
  if hasOpen ≠ hasClose then none
  else if hasOpen && !checkBracketedNetloc tables netloc then none
  else if !checkNetloc tables netloc then none
  else some ⟨scheme, netloc⟩

namespace ParseResult

variable (parsed : ParseResult)

/-- `_userinfo`: nothing stands for `None` as for the empty text. -/
def userinfo : List Char × List Char :=
  match Unicode.rsplitAt parsed.netloc with
  | none => ([], [])
  | some (userinfo, _) =>
      let (username, password) := partition ':' userinfo
      (username, password.getD [])

def username : List Char := parsed.userinfo.1

def password : List Char := parsed.userinfo.2

/-- `_hostinfo`: the host, and the port as text. -/
def hostAndPort : List Char × List Char :=
  match partition '[' (hostinfo parsed.netloc) with
  | (_, some bracketed) =>
      let (host, rest) := partition ']' bracketed
      (host, ((partition ':' (rest.getD [])).2).getD [])
  | (host, none) =>
      let (host, port) := partition ':' host
      (host, port.getD [])

/-- In lower case, but for the zone of an IPv6 address. -/
def hostname (unicode : Unicode) : List Char :=
  match partition '%' parsed.hostAndPort.1 with
  | (host, none) => unicode.lower host
  | (host, some zone) => unicode.lower host ++ '%' :: zone

/-- `int(port)`. -/
def portNumber (port : List Char) : Nat :=
  port.foldl (fun n c => 10 * n + (c.toNat - '0'.toNat)) 0

/-- `parsed.port`: `some none` for `None`. -/
def port : Option (Option Nat) :=
  let port := parsed.hostAndPort.2
  if port = [] then some none
  else if port.all Char.isDigit && portNumber port ≤ 65535 then some (some (portNumber port))
  else none

end ParseResult

end Url

end DjangoFoundation
