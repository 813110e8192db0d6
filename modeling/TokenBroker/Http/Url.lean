import TokenBroker.Text.Integer
import TokenBroker.Text.Lowercase
import TokenBroker.Text.Percent
import TokenBroker.Text.Punycode
import TokenBroker.Text.Quoted

/-!
# Addresses of requests

The address that a request is sent to. Reading one puts it into a normal form: scheme and host in
lower case, the usual port of the scheme left out, dot segments resolved, and characters that an
address cannot hold escaped. A site is the address below which requests are made; a reference
without a host is appended to its path.
-/

namespace TokenBroker

/-- The address of a request. -/
structure RequestUrl where
  scheme : String
  userInfo : String := ""
  host : String
  port? : Option Int := none
  path : String
  query? : Option String := none
  fragment? : Option String := none
  deriving DecidableEq, Inhabited, Repr

/-- Why a text is no address. -/
inductive AddressError
  | tooLong
  | partTooLong (part : String)
  | control (c : Char) (position : Nat)
  | badIPv4 (host : String)
  | badIPv6 (host : String)
  | badPort (port : String)
  | unrooted
  | doubleSlash
  | leadingColon
  deriving DecidableEq, Inhabited, Repr

def AddressError.message : AddressError → String
  | .tooLong => "URL too long"
  | .partTooLong part => "URL component " ++ quoted part ++ " too long"
  | .control c position =>
    "Invalid non-printable ASCII character in URL, " ++ quoted (String.singleton c)
      ++ " at position " ++ toString position ++ "."
  | .badIPv4 host => "Invalid IPv4 address: " ++ quoted host
  | .badIPv6 host => "Invalid IPv6 address: " ++ quoted host
  | .badPort port => "Invalid port: " ++ quoted port
  | .unrooted => "For absolute URLs, path must be empty or begin with '/'"
  | .doubleSlash => "Relative URLs cannot have a path starting with '//'"
  | .leadingColon => "Relative URLs cannot have a path starting with ':'"

namespace RequestUrl

/-! ### Parts of the text -/

/-- The number of characters that an address may have, or a part from which one is made. -/
def maximumLength : Nat :=
  65536

def isSchemeChar (c : Char) : Bool :=
  ('a' ≤ c && c ≤ 'z') || ('A' ≤ c && c ≤ 'Z') || ('0' ≤ c && c ≤ '9')
    || c == '+' || c == '.' || c == '-'

/-- The scheme, which may be empty, and what follows its colon. -/
def splitScheme (cs : List Char) : List Char × List Char :=
  match cs.span isSchemeChar with
  | ([], ':' :: rest) => ([], rest)
  | (first :: name, ':' :: rest) =>
    if first.isAlpha then (first :: name, rest) else ([], cs)
  | _ => ([], cs)

/-- The authority, if there is one, and what follows it. -/
def splitAuthority (cs : List Char) : List Char × List Char :=
  match cs with
  | '/' :: '/' :: rest => rest.span fun c => c != '/' && c != '?' && c != '#'
  | _ => ([], cs)

/-- The user information, the host and the port in an authority. A host in brackets reaches to the
last bracket, any other one to the colon. -/
def splitHost (authority : List Char) : List Char × List Char × List Char :=
  let (userInfo, rest) := (Text.cutLast? '@' authority).getD ([], authority)
  let (host, rest) :=
    match rest, Text.cutLast? ']' rest with
    | '[' :: _, some (before, after) => (before ++ [']'], after)
    | _, _ => rest.span (· != ':')
  match rest with
  | ':' :: port => (userInfo, host, port)
  | port => (userInfo, host, port)

/-! ### Normal forms of the parts -/

/-- The characters besides the unreserved ones that some part may hold: the printable ones of ASCII
except a few that no part may. -/
def isPlain (c : Char) : Bool :=
  '!' ≤ c && c ≤ '~' && c != '"' && c != '<' && c != '>'

def isQuerySafe (c : Char) : Bool :=
  isPlain c && c != '#'

def isFragmentSafe (c : Char) : Bool :=
  isPlain c && c != '`'

def isPathSafe (c : Char) : Bool :=
  isQuerySafe c && !(['?', '`', '\x7b', '\x7d'].contains c)

def isUserInfoSafe (c : Char) : Bool :=
  isPathSafe c && !(['/', ';', '=', '@', '[', '\\', ']', '^', '|'].contains c)

def isHostSafe (c : Char) : Bool :=
  Percent.isUnreserved c
    || ['!', '$', '&', '\'', '(', ')', '*', '+', ',', ';', '=', '"', '`', '\x7b', '\x7d', '%', '|',
      '\\'].contains c

/-- The states that a character leads to in the reading of four numbers with one character of any
kind between each and the next: an even state waits for a number, an odd one is within it. -/
def stepNumbers (c : Char) (state : Nat) : List Nat :=
  (if Address.isDecimal c then [state / 2 * 2 + 1] else [])
    ++ (if state % 2 = 1 && state < 7 then [state + 1] else [])

/-- Whether a host looks like an IPv4 address: four numbers with one character between each and the
next. -/
def looksLikeIPv4 (cs : List Char) : Bool :=
  (cs.foldl (fun states c => (states.flatMap (stepNumbers c)).eraseDups) [0]).contains 7

/-- A label of a host name as it is sent. -/
def asciiLabel (label : List Char) : List Char :=
  if label.all fun c => c.toNat < 128 then label
  else ['x', 'n', '-', '-'] ++ Punycode.encode label

/-- The full stops between the labels of a host name, the usual one among them. -/
def isLabelStop (c : Char) : Bool :=
  c == '.' || c == '\u3002' || c == '\uff0e' || c == '\uff61'

/-- A host name with characters beyond ASCII, label by label. -/
def asciiName (host : List Char) : List Char :=
  let labels := Text.splitOn '.' ((Text.lower host).map fun c => if isLabelStop c then '.' else c)
  List.intercalate ['.'] (labels.map asciiLabel)

/-- The normal form of a host. -/
def normalHost (host : List Char) : Except AddressError (List Char) :=
  if host.isEmpty then .ok []
  else if looksLikeIPv4 host then
    if Address.isIPv4 host then .ok host else .error (.badIPv4 (String.ofList host))
  else
    match host, host.getLast? with
    | '[' :: inner, some ']' =>
      if Address.isIPv6 inner.dropLast then .ok inner.dropLast
      else .error (.badIPv6 (String.ofList host))
    | _, _ =>
      if host.all fun c => c.toNat < 128 then .ok (Percent.encode isHostSafe (Text.lower host))
      else .ok (asciiName host)

/-- The port that goes without saying for a scheme. -/
def usualPort? : String → Option Int
  | "ftp" => some 21
  | "http" | "ws" => some 80
  | "https" | "wss" => some 443
  | _ => none

/-- The normal form of a port. -/
def normalPort (scheme : String) (port : List Char) : Except AddressError (Option Int) :=
  if port.isEmpty then .ok none
  else
    match Text.integer? port with
    | none => .error (.badPort (String.ofList port))
    | some n => .ok (if usualPort? scheme = some n then none else some n)

/-- Leaves dot segments out; a double dot takes the segment before it away, but never the empty one
before a leading slash. -/
def resolveDots (segments : List (List Char)) : List (List Char) :=
  segments.foldl (fun kept segment =>
    if segment = ['.'] then kept
    else if segment = ['.', '.'] then if kept = [[]] then kept else kept.dropLast
    else kept ++ [segment]) []

/-- The normal form of a path. -/
def normalPath (path : List Char) : List Char :=
  List.intercalate ['/'] (resolveDots (Text.splitOn '/' path))

/-- Refuses the paths that cannot stand beside the other parts. -/
def checkPath (path : List Char) (hasScheme hasAuthority : Bool) : Except AddressError Unit :=
  match path with
  | '/' :: '/' :: _ => if hasScheme || hasAuthority then .ok () else .error .doubleSlash
  | '/' :: _ | [] => .ok ()
  | c :: _ =>
    if hasAuthority then .error .unrooted
    else if c = ':' && !hasScheme then .error .leadingColon
    else .ok ()

/-! ### Reading and writing -/

/-- Puts the parts of an address into their normal forms. -/
def ofParts (scheme authority path : List Char) (query? fragment? : Option (List Char)) :
    Except AddressError RequestUrl := do
  let (userInfo, host, port) := splitHost authority
  let host ← normalHost host
  let port? ← normalPort (String.ofList scheme) port
  let hasAuthority := !userInfo.isEmpty || !host.isEmpty || port?.isSome
  checkPath path (!scheme.isEmpty) hasAuthority
  let path := if !scheme.isEmpty || hasAuthority then normalPath path else path
  return {
    scheme := String.ofList (Text.lower scheme)
    userInfo := String.ofList (Percent.encode isUserInfoSafe userInfo)
    host := String.ofList host
    port? := port?
    path := String.ofList (Percent.encode isPathSafe path)
    query? := query?.map fun q => String.ofList (Percent.encode isQuerySafe q)
    fragment? := fragment?.map fun f => String.ofList (Percent.encode isFragmentSafe f) }

/-- Whether a character is a control character of ASCII. -/
def isControl (c : Char) : Bool :=
  c.toNat < 32 || c.toNat = 127

/-- Reads an address. -/
def parse (text : String) : Except AddressError RequestUrl := do
  let cs := text.toList
  if maximumLength < cs.length then throw .tooLong
  if let some position := cs.findIdx? isControl then
    throw (.control (cs.getD position '\x00') position)
  let (scheme, rest) := splitScheme cs
  let (authority, rest) := splitAuthority rest
  let (path, rest) := rest.span fun c => c != '?' && c != '#'
  match rest with
  | '?' :: rest =>
    let (query, rest) := rest.span (· != '#')
    ofParts scheme authority path (some query) (rest.tail?)
  | '#' :: fragment => ofParts scheme authority path none (some fragment)
  | _ => ofParts scheme authority path none none

/-- The host between brackets if it is an IPv6 address. -/
def writtenHost (url : RequestUrl) : String :=
  if url.host.toList.contains ':' then "[" ++ url.host ++ "]" else url.host

/-- The user information, the host and the port. -/
def authority (url : RequestUrl) : String :=
  (if url.userInfo.isEmpty then "" else url.userInfo ++ "@") ++ url.writtenHost
    ++ (match url.port? with
      | some port => ":" ++ toString port
      | none => "")

/-- The whole address. -/
def toString (url : RequestUrl) : String :=
  (if url.scheme.isEmpty then "" else url.scheme ++ ":")
    ++ (if url.authority.isEmpty then "" else "//" ++ url.authority) ++ url.path
    ++ (match url.query? with
      | some query => "?" ++ query
      | none => "")
    ++ (match url.fragment? with
      | some fragment => "#" ++ fragment
      | none => "")

/-! ### Sites and references -/

/-- What a server is asked for: the path, which is at least a slash, and the query. -/
def target (url : RequestUrl) : String :=
  (if url.path.isEmpty then "/" else url.path)
    ++ (match url.query? with
      | some query => "?" ++ query
      | none => "")

/-- Refuses the parts of an address, with their names, that are too long. -/
def checkLengths : List (String × List Char) → Except AddressError Unit
  | [] => .ok ()
  | (name, part) :: rest =>
    if maximumLength < part.length then .error (.partTooLong name) else checkLengths rest

/-- The parts of an address with another path and query, under their names. -/
def namedParts (url : RequestUrl) (path : List Char) (query? : Option (List Char)) :
    List (String × List Char) :=
  [("scheme", url.scheme.toList), ("authority", url.authority.toList), ("path", path)]
    ++ (query?.map fun query => ("query", query)).toList
    ++ (url.fragment?.map fun fragment => ("fragment", fragment.toList)).toList

/-- The address at the same place that asks for something else. -/
def withTarget (url : RequestUrl) (target : List Char) : Except AddressError RequestUrl := do
  let (path, query?) :=
    match Text.cutFirst? '?' target with
    | some (path, query) => (path, some query)
    | none => (target, none)
  checkLengths (url.namedParts path query?)
  ofParts url.scheme.toList url.authority.toList path query? (url.fragment?.map String.toList)

/-- The same address with another host. -/
def withHost (url : RequestUrl) (host : String) : Except AddressError RequestUrl := do
  let query? := url.query?.map String.toList
  checkLengths (url.namedParts url.path.toList query? ++ [("host", host.toList)])
  ofParts url.scheme.toList ({ url with host := host }).authority.toList url.path.toList query?
    (url.fragment?.map String.toList)

/-- The address below which requests are made: it asks for something that ends with a slash. -/
def site (text : String) : Except AddressError RequestUrl := do
  let url ← parse text
  if url.target.toList.getLast? = some '/' then return url
  url.withTarget (url.target.toList ++ ['/'])

/-- Whether an address says by itself where it leads. -/
def isAbsolute (url : RequestUrl) : Bool :=
  !url.scheme.isEmpty && !url.host.isEmpty

/-- The address that a reference leads to from a site. -/
def refer (site : RequestUrl) (reference : String) : Except AddressError RequestUrl := do
  let url ← parse reference
  if url.isAbsolute then return url
  site.withTarget (site.target.toList ++ url.target.toList.dropWhile (· == '/'))

end RequestUrl

end TokenBroker
