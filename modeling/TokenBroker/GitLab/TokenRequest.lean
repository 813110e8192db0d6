import TokenBroker.Date
import TokenBroker.Json.Display

/-!
# Requests for access tokens

What has to be known to make a personal access token: a login, the server, and the name, scopes and
expiry of the token. The login comes from a store document or from a caller and is kept as it is.
-/

namespace TokenBroker

/-- What a token allows its bearer to do. -/
inductive TokenScope
  | api
  | readUser
  deriving DecidableEq, Inhabited, Repr

namespace TokenScope

def all : List TokenScope :=
  [.api, .readUser]

/-- The written name. -/
def name : TokenScope → String
  | .api => "api"
  | .readUser => "read_user"

def ofName? (name : String) : Option TokenScope :=
  all.find? (·.name == name)

/-- The scopes of every token that the broker asks for. -/
def required : List TokenScope :=
  [.api, .readUser]

end TokenScope

/-- A request for a personal access token. -/
structure TokenRequest where
  username : Json
  password : Json
  serverUrl : String
  tokenName : String
  scopes : List TokenScope := TokenScope.required
  expires? : Option Date := none
  deriving DecidableEq, Inhabited, Repr

end TokenBroker
