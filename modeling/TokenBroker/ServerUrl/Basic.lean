import TokenBroker.ServerUrl.Authority
import TokenBroker.Text.Blank

/-!
# Server URLs

`ServerUrl.parse` reads the scheme, host, port and path of a URL; user information, query and
fragment have no influence. Blanks around the text, control characters before it, and tabs and line
breaks anywhere in it are dropped first. The scheme and the host are lower case in the result.
-/

namespace TokenBroker

/-- The parts of a URL that choose credentials. -/
structure ServerUrl where
  scheme : String
  host : String
  port? : Option Nat
  path : String
  deriving DecidableEq, Repr

/-- Why a text is not a server URL; the first two blame the text as it was given. -/
inductive UrlError
  | noSchemeOrHost (text : String)
  | badPort (text : String)
  | authority (cause : AuthorityError)
  deriving DecidableEq, Repr

def UrlError.message : UrlError → String
  | .noSchemeOrHost text => "Invalid server URL: " ++ quoted text
  | .badPort text => "Invalid port in server URL: " ++ quoted text
  | .authority cause => cause.message

namespace ServerUrl

/-! ### Splitting -/

def isLetter (c : Char) : Bool :=
  ('a' ≤ c && c ≤ 'z') || ('A' ≤ c && c ≤ 'Z')

def isSchemeChar (c : Char) : Bool :=
  isLetter c || Address.isDecimal c || c = '+' || c = '-' || c = '.'

/-- A scheme is a letter followed by letters, digits, `+`, `-` and `.`. -/
def isScheme (cs : List Char) : Bool :=
  match cs with
  | [] => false
  | c :: _ => isLetter c && cs.all isSchemeChar

/-- A text without the characters that a URL may hold but that do not count. -/
def clean (cs : List Char) : List Char :=
  ((Text.strip cs).dropWhile (· ≤ ' ')).filter fun c => c != '\t' && c != '\r' && c != '\n'

/-- The scheme, empty if there is none, and what follows its colon. -/
def splitScheme (cs : List Char) : List Char × List Char :=
  match Text.cutFirst? ':' cs with
  | some (scheme, rest) => if isScheme scheme then (Text.lower scheme, rest) else ([], cs)
  | none => ([], cs)

def endsAuthority (c : Char) : Bool :=
  c = '/' || c = '?' || c = '#'

/-- The authority, empty if there is none, and what follows it. -/
def splitAuthority : List Char → List Char × List Char
  | '/' :: '/' :: rest => rest.span (!endsAuthority ·)
  | cs => ([], cs)

/-- The path at the beginning of a text that goes on with a query and a fragment. -/
def pathOf (cs : List Char) : List Char :=
  cs.takeWhile fun c => c != '?' && c != '#'

/-! ### Reading -/

/-- The port, none if its text is empty. -/
def readPort (text : String) (digits : List Char) : Except UrlError (Option Nat) :=
  if digits.isEmpty then .ok none
  else
    match Authority.portNumber? digits with
    | some n => .ok (some n)
    | none => .error (.badPort text)

/-- Reads a server URL. A refused authority is reported first, then a missing scheme or host, then
the port. -/
def parse (text : String) : Except UrlError ServerUrl := do
  let (scheme, rest) := splitScheme (clean text.toList)
  let (authority, rest) := splitAuthority rest
  (Authority.check authority).mapError UrlError.authority
  let host := Authority.lowerHost authority
  if scheme.isEmpty || host.isEmpty then throw (.noSchemeOrHost text)
  let port? ← readPort text (Authority.port authority)
  return {
    scheme := String.ofList scheme
    host := String.ofList (Text.lower host)
    port? := port?
    path := String.ofList (pathOf rest) }

end ServerUrl

end TokenBroker
