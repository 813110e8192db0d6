import TokenBroker.Http.Url

/-!
# Addresses as browsers read them

The address of a server as people type it. Blanks around it and line breaks in it do not count, any
number of slashes of either kind may follow the scheme, a host may be an IPv4 address in any of its
old spellings, and dot segments may be escaped. What comes out is in normal form. Only addresses of
web servers are accepted.
-/

namespace TokenBroker

/-- Why a text is not the address of a web server. -/
inductive WebAddressError
  | tooLong
  | malformed
  | otherScheme
  deriving DecidableEq, Inhabited, Repr

namespace WebAddress

/-! ### Hosts -/

/-- The number that a part of an IPv4 address writes, in base ten, eight or sixteen. -/
def partValue? (cs : List Char) : Option Nat :=
  let valueIn (base : Nat) (digits : List Char) : Option Nat :=
    digits.foldlM (fun n c => do
      let d ← Percent.digitValue? c
      if d < base then some (n * base + d) else none) 0
  match cs with
  | [] => none
  | '0' :: 'x' :: digits | '0' :: 'X' :: digits => valueIn 16 digits
  | '0' :: digits => valueIn 8 digits
  | digits => valueIn 10 digits

/-- The value of an IPv4 address of up to four parts; the last one fills the bytes that are left. -/
def addressValue? (bytesLeft : Nat) : List (List Char) → Option Nat
  | [] => none
  | [last] => (partValue? last).filter (· < Nat.pow 256 bytesLeft)
  | part :: rest => do
    let n ← (partValue? part).filter (· < 256)
    match bytesLeft with
    | 0 | 1 => none
    | k + 1 => return n * Nat.pow 256 k + (← addressValue? k rest)

/-- An IPv4 address as four decimal numbers. -/
def dotted (n : Nat) : List Char :=
  (".".intercalate ([3, 2, 1, 0].map fun k => toString (n / Nat.pow 256 k % 256))).toList

/-- The parts of a host name between dots; a dot at its end does not count. -/
def hostParts (cs : List Char) : List (List Char) :=
  let parts := Text.splitOn '.' cs
  if 1 < parts.length && parts.getLast? = some [] then parts.dropLast else parts

/-- Whether a host name ends in a number, so that it has to be an IPv4 address. -/
def endsInNumber (cs : List Char) : Bool :=
  match (hostParts cs).getLast? with
  | some last => (!last.isEmpty && last.all Address.isDecimal) || isHexadecimalPart last
  | none => false
where
  isHexadecimalPart : List Char → Bool
    | '0' :: 'x' :: digits | '0' :: 'X' :: digits => digits.all Address.isHexadecimal
    | _ => false

/-- Whether a host name cannot hold a character. -/
def isForbiddenInHost (c : Char) : Bool :=
  c.toNat ≤ 32 || c.toNat = 127
    || ['#', '/', ':', '<', '>', '?', '@', '[', '\\', ']', '^', '|', '%'].contains c

/-- The groups of an IPv6 address that may end with an IPv4 address. -/
def groupValues (cs : List Char) : List Nat :=
  if cs.isEmpty then []
  else
    (Text.splitOn ':' cs).flatMap fun group =>
      if group.contains '.' then
        let n := (addressValue? 4 (Text.splitOn '.' group)).getD 0
        [n / 65536, n % 65536]
      else [group.foldl (fun n c => n * 16 + (Percent.digitValue? c).getD 0) 0]

/-- The parts of a text before and after the first pair of colons. -/
def cutGap? : List Char → Option (List Char × List Char)
  | ':' :: ':' :: rest => some ([], rest)
  | c :: rest => (cutGap? rest).map fun (before, after) => (c :: before, after)
  | [] => none

/-- The eight groups of an IPv6 address. -/
def allGroups (cs : List Char) : List Nat :=
  match cutGap? cs with
  | some (before, after) =>
    let (before, after) := (groupValues before, groupValues after)
    before ++ List.replicate (8 - before.length - after.length) 0 ++ after
  | none => groupValues cs

/-- The length of the run of zeros at the start of some groups. -/
def zeroRun (groups : List Nat) : Nat :=
  (groups.takeWhile (· == 0)).length

/-- The place and the length of the first of the longest runs of zeros. -/
def longestZeros : List Nat → Nat × Nat
  | [] => (0, 0)
  | n :: groups =>
    let run := zeroRun (n :: groups)
    let (place, longest) := longestZeros groups
    if longest ≤ run then (0, run) else (place + 1, longest)

/-- An IPv6 address in its shortest form: a run of two zero groups or more is left out. -/
def shortForm (groups : List Nat) : List Char :=
  let write (groups : List Nat) :=
    List.intercalate [':'] (groups.map fun n => Nat.toDigits 16 n)
  let (place, run) := longestZeros groups
  if run < 2 then write groups
  else write (groups.take place) ++ [':', ':'] ++ write (groups.drop (place + run))

/-- The normal form of a host, without the brackets of an IPv6 address. -/
def host? (cs : List Char) : Option (List Char) := do
  match cs with
  | '[' :: inner =>
    if inner.getLast? = some ']' && Address.isUnscopedIPv6 inner.dropLast then
      some (shortForm (allGroups inner.dropLast))
    else none
  | cs =>
    let decoded ← String.fromUTF8? ⟨(Percent.decode cs).toArray⟩
    let labels := Text.splitOn '.' (decoded.toList.flatMap Text.lowerChar)
    let name := List.intercalate ['.'] (labels.map RequestUrl.asciiLabel)
    if name.isEmpty || name.any isForbiddenInHost then none
    else if endsInNumber name then
      if (hostParts name).length ≤ 4 then (addressValue? 4 (hostParts name)).map dotted else none
    else some name

/-! ### Paths and the rest -/

/-- Whether a segment stands for its own level or the one above; the dots may be escaped. -/
def dotCount? (segment : List Char) : Option Nat :=
  match String.ofList (segment.map Char.toLower) with
  | "." | "%2e" => some 1
  | ".." | "%2e." | ".%2e" | "%2e%2e" => some 2
  | _ => none

/-- Leaves dot segments out; one at the end leaves an empty segment. -/
def resolveDots (kept : List (List Char)) : List (List Char) → List (List Char)
  | [] => kept
  | segment :: rest =>
    let kept := match dotCount? segment with
      | some 1 => kept
      | some _ => kept.dropLast
      | none => kept ++ [segment]
    if rest.isEmpty && (dotCount? segment).isSome then kept ++ [[]] else resolveDots kept rest

/-- Whether a character stands as it is in a path; an escape is kept. -/
def isPathSafe (c : Char) : Bool :=
  '!' ≤ c && c ≤ '~' && !(['"', '#', '<', '>', '?', '`', '\x7b', '\x7d'].contains c)

def isUserInfoSafe (c : Char) : Bool :=
  isPathSafe c && !(['/', ':', ';', '=', '@', '[', '\\', ']', '^', '|'].contains c)

def isQuerySafe (c : Char) : Bool :=
  '!' ≤ c && c ≤ '~' && !(['"', '#', '<', '>', '\''].contains c)

def isFragmentSafe (c : Char) : Bool :=
  '!' ≤ c && c ≤ '~' && !(['"', '<', '>', '`'].contains c)

/-- The normal form of a path, in which a backslash counts as a slash. -/
def normalPath (cs : List Char) : List Char :=
  let segments := Text.splitOn '/' ((cs.map fun c => if c = '\\' then '/' else c).drop 1)
  '/' :: List.intercalate ['/'] ((resolveDots [] segments).map (Percent.encode isPathSafe))

/-- The normal form of a name and a password, of which an empty password is left out. -/
def normalUserInfo (cs : List Char) : List Char :=
  match Text.cutFirst? ':' cs with
  | some (name, []) => Percent.encode isUserInfoSafe name
  | some (name, password) =>
    Percent.encode isUserInfoSafe name ++ ':' :: Percent.encode isUserInfoSafe password
  | none => Percent.encode isUserInfoSafe cs

/-- The host and the port in what follows the user information. The port is empty if there is
none. -/
def splitPort (inBrackets : Bool) : List Char → List Char × List Char
  | [] => ([], [])
  | c :: rest =>
    if c = ':' && !inBrackets then ([], rest)
    else
      let (host, port) := splitPort (c = '[' || (inBrackets && c != ']')) rest
      (c :: host, port)

/-- The normal form of a port, which is left out if it goes without saying. -/
def port? (scheme : String) (digits : List Char) : Option (Option Int) :=
  if digits.isEmpty then some none
  else if digits.all Address.isDecimal && Address.decimalValue digits < 65536 then
    let n : Int := Address.decimalValue digits
    some (if RequestUrl.usualPort? scheme = some n then none else some n)
  else none

/-! ### Addresses -/

/-- The authority of an address and what follows it. -/
def splitAuthority (backslashEnds : Bool) (cs : List Char) : List Char × List Char :=
  cs.span fun c => c != '/' && c != '?' && c != '#' && !(backslashEnds && c = '\\')

/-- The user information before the last at sign, and the rest. -/
def splitUserInfo (authority : List Char) : List Char × List Char :=
  (Text.cutLast? '@' authority).getD ([], authority)

/-- The address with a scheme of the web, from what follows the colon. -/
def ofScheme? (scheme : String) (cs : List Char) : Option RequestUrl := do
  let (authority, rest) := splitAuthority true (cs.dropWhile fun c => c == '/' || c == '\\')
  let (userInfo, place) := splitUserInfo authority
  let (host, digits) := splitPort false place
  let host ← host? host
  let port? ← port? scheme digits
  let (path, rest) := rest.span fun c => c != '?' && c != '#'
  let (query?, fragment?) : Option (List Char) × Option (List Char) := match rest with
    | '?' :: rest =>
      let (query, rest) := rest.span (· != '#')
      (some query, rest.tail?)
    | rest => (none, rest.tail?)
  return {
    scheme := scheme
    userInfo := String.ofList (normalUserInfo userInfo)
    host := String.ofList host
    port? := port?
    path := String.ofList (normalPath path)
    query? := query?.map fun q => String.ofList (Percent.encode isQuerySafe q)
    fragment? := fragment?.map fun f => String.ofList (Percent.encode isFragmentSafe f) }

/-- Whether what follows the colon of another scheme makes an address. -/
def isOtherAddress (cs : List Char) : Bool :=
  match cs with
  | '/' :: '/' :: rest =>
    let authority := (splitAuthority false rest).1
    let (host, digits) := splitPort false (splitUserInfo authority).2
    let isHost := match host with
      | '[' :: _ => (host? host).isSome
      | host => host.all fun c => c == '%' || !isForbiddenInHost c
    isHost && (port? "" digits).isSome && (!host.isEmpty || authority.isEmpty)
  | _ => true

/-- The schemes that are read like those of the web. -/
def specialSchemes : List String :=
  ["http", "https", "ws", "wss", "ftp"]

/-- A text without blanks around it and without tabs and line breaks. -/
def cleaned (cs : List Char) : List Char :=
  let isEdge (c : Char) := c.toNat ≤ 32
  (((cs.dropWhile isEdge).reverse.dropWhile isEdge).reverse).filter fun c =>
    c != '\t' && c != '\n' && c != '\r'

/-- The most bytes that an address may have. -/
def maximumBytes : Nat :=
  2083

/-- Reads the address of a web server. -/
def parse (text : String) : Except WebAddressError RequestUrl :=
  if maximumBytes < text.utf8ByteSize then .error .tooLong
  else
    match RequestUrl.splitScheme (cleaned text.toList) with
    | ([], _) => .error .malformed
    | (scheme, rest) =>
      let scheme := String.ofList (scheme.map Char.toLower)
      if specialSchemes.contains scheme then
        match ofScheme? scheme rest with
        | some url => if scheme = "http" || scheme = "https" then .ok url else .error .otherScheme
        | none => .error .malformed
      else if isOtherAddress rest then .error .otherScheme
      else .error .malformed

end WebAddress

end TokenBroker
