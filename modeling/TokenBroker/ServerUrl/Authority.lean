import TokenBroker.ServerUrl.Address
import TokenBroker.Text.Lowercase
import TokenBroker.Text.Quoted

/-!
# The authority of a URL

The part after `//`: user information up to the last `@`, a host, and a port after a colon. A host
between brackets is an IPv6 address or an address of a later version. An authority is refused when
a character in it looks, under compatibility normalization, like one that would end it elsewhere.
-/

namespace TokenBroker

/-- Why an authority is refused. -/
inductive AuthorityError
  | unbalancedBrackets
  | notAnAddress (host : String)
  | bracketedIPv4
  | laterVersion
  | compatibilityCharacter (authority : String)
  deriving DecidableEq, Repr

def AuthorityError.message : AuthorityError → String
  | .unbalancedBrackets => "Invalid IPv6 URL"
  | .notAnAddress host => quoted host ++ " does not appear to be an IPv4 or IPv6 address"
  | .bracketedIPv4 => "An IPv4 address cannot be in brackets"
  | .laterVersion => "IPvFuture address is invalid"
  | .compatibilityCharacter authority =>
    "netloc '" ++ authority ++ "' contains invalid characters under NFKC normalization"

namespace Authority

/-- What stands before the first occurrence of a character, or everything. -/
def before (c : Char) (cs : List Char) : List Char :=
  cs.takeWhile (· != c)

/-- What stands after the first occurrence of a character, or nothing. -/
def after (c : Char) (cs : List Char) : List Char :=
  (cs.dropWhile (· != c)).drop 1

/-- An authority without its user information. -/
def hostAndPort (authority : List Char) : List Char :=
  match Text.cutLast? '@' authority with
  | some (_, rest) => rest
  | none => authority

/-- The text of the host. -/
def host (authority : List Char) : List Char :=
  let cs := hostAndPort authority
  if cs.contains '[' then before ']' (after '[' cs) else before ':' cs

/-- The text of the port, empty if there is none. -/
def port (authority : List Char) : List Char :=
  let cs := hostAndPort authority
  if cs.contains '[' then after ':' (after ']' (after '[' cs)) else after ':' cs

/-- The host in lower case; the scope of an address is left for `ServerUrl` to lower. -/
def lowerHost (authority : List Char) : List Char :=
  match Text.cutFirst? '%' (host authority) with
  | some (address, scope) => Text.lower address ++ '%' :: scope
  | none => Text.lower (host authority)

/-! ### Brackets -/

/-- An address of a later version: `v`, hexadecimal digits, a point and something more. -/
def isLaterVersion (cs : List Char) : Bool :=
  match cs with
  | 'v' :: rest =>
    match rest.span Address.isHexadecimal with
    | (_ :: _, '.' :: _ :: _) => true
    | _ => false
  | _ => false

/-- Checks a host as one between brackets. -/
def checkBracketed (host : List Char) : Except AuthorityError Unit :=
  if host.head? = some 'v' then
    if isLaterVersion host then .ok () else .error .laterVersion
  else if Address.isIPv4 host then .error .bracketedIPv4
  else if Address.isIPv6 host then .ok ()
  else .error (.notAnAddress (String.ofList host))

/-- Checks an authority that has brackets: nothing may stand between the user information and the
opening bracket, nor between the closing one and the colon of the port. -/
def checkBrackets (authority : List Char) : Except AuthorityError Unit :=
  let cs := hostAndPort authority
  if cs.contains '[' then
    let rest := after ']' (after '[' cs)
    if cs.head? != some '[' || (!rest.isEmpty && rest.head? != some ':') then
      .error .unbalancedBrackets
    else checkBracketed (host authority)
  else checkBracketed (host authority)

/-! ### Compatibility characters -/

/-- The code points outside ASCII whose compatibility decomposition has one of `/ ? # @ :`. -/
def delimiterLookalikes : List Nat :=
  [0x2047, 0x2048, 0x2049, 0x2100, 0x2101, 0x2105, 0x2106, 0x2a74, 0xfe13, 0xfe16, 0xfe55, 0xfe56,
   0xfe5f, 0xfe6b, 0xff03, 0xff0f, 0xff1a, 0xff1f, 0xff20]

def hasLookalike (cs : List Char) : Bool :=
  cs.any fun c => delimiterLookalikes.contains c.toNat

/-- Whether an authority may stand in a URL. -/
def check (authority : List Char) : Except AuthorityError Unit := do
  let opening := authority.contains '['
  let closing := authority.contains ']'
  if opening != closing then throw .unbalancedBrackets
  if opening then checkBrackets authority
  if hasLookalike authority then throw (.compatibilityCharacter (String.ofList authority))

/-- The number of a port: decimal digits, not too many, and at most 65535. -/
def portNumber? (digits : List Char) : Option Nat :=
  if !digits.isEmpty && digits.all Address.isDecimal && digits.length ≤ Address.maximumDigits then
    let n := Address.decimalValue digits
    if n ≤ 65535 then some n else none
  else none

end Authority

end TokenBroker
