import TokenBroker.Outcome
import TokenBroker.Store.Basic

/-!
# Logins for a server

Which stored logins an administrator may exchange on a server: those of the system, then the
administrator's own. The list for a selection and the lookup of a chosen one search in this order.

Callers who may not administer see of the list nothing but what they have selected.
-/

namespace TokenBroker

/-- The server that the broker itself is made for. -/
def gitlabUrl : String :=
  "https://gitlab.com"

/-- What is fixed for all exchanges: the server that a blank URL stands for, the name of tokens made
with stored logins, and for how many days tokens are valid. -/
structure Exchange where
  defaultServerUrl : String := gitlabUrl
  tokenName : String := "mytoken"
  lifetime? : Option Int := none
  deriving DecidableEq, Inhabited, Repr

namespace Exchange

def currentLabel : String :=
  "- current -"

def noneLabel : String :=
  "- none -"

/-- The URL that is meant: the one given, without blanks at its ends, or the default. -/
def serverUrlOr (exchange : Exchange) : Option String → String
  | none => exchange.defaultServerUrl
  | some url => if blank url then exchange.defaultServerUrl else stripped url

/-- The identities whose logins are offered to a caller, in the order of the search. -/
def searched (caller : Authentication) : List Authentication :=
  [.system, caller]

/-- The logins that a store offers to an identity at a place. -/
def loginsFor (store : Store) (requirements : List Requirement) (who : Authentication) :
    Except Fault (List Credential) :=
  (store.lookup (some .login) who requirements).mapError .kind

/-! ### The selection -/

/-- The choice that keeps the present selection. -/
def currentChoice (current : String) : Choice :=
  { label := .str currentLabel, value := .str current, selected := true }

def noneChoice (current : String) : Choice :=
  { label := .str noneLabel, value := .str "", selected := current.isEmpty }

/-- Adds choices for the logins whose ids are not among the choices so far. An id that cannot be
compared with the others is refused. -/
def addLogins (current : String) :
    List Choice → List Credential → Except Fault (List Choice)
  | choices, [] => .ok choices
  | choices, login :: rest =>
    if !login.id.hashable then .error (.kind .refused)
    else if choices.any fun choice => Json.same choice.value login.id then
      addLogins current choices rest
    else
      let choice : Choice :=
        { label := login.displayName, value := login.id
          selected := Json.same login.id (.str current) }
      addLogins current (choices ++ [choice]) rest

/-- The choices for the logins of several identities. -/
def loginChoices (store : Store) (requirements : List Requirement) (current : String) :
    List Choice → List Authentication → Except Fault (List Choice)
  | choices, [] => .ok choices
  | choices, who :: rest => do
    let logins ← loginsFor store requirements who
    loginChoices store requirements current (← addLogins current choices logins) rest

/-- The choices of an administrator at a place: none, the logins, and the present selection if it is
not one of them. -/
def administratorChoices (store : Store) (caller : Authentication) (current : String)
    (requirements : List Requirement) : Except Fault (List Choice) := do
  let choices ← loginChoices store requirements current [] (searched caller)
  let listed := choices.any fun choice => Json.same choice.value (.str current)
  return noneChoice current :: choices
    ++ (if current.isEmpty || listed then [] else [currentChoice current])

/-- The choices without those for logins, for a URL that cannot be used. -/
def choicesWithoutLogins (current : String) : List Choice :=
  noneChoice current :: (if current.isEmpty then [] else [currentChoice current])

/-- The list for the selection of a login for a server. -/
def choices (exchange : Exchange) (acl : AccessControl) (store : Store)
    (serverUrl? selection? : Option String) : Except Fault (List Choice) :=
  let current := stripped (selection?.getD "")
  if !acl.has .administer then
    .ok (if current.isEmpty then [] else [currentChoice current])
  else
    match requirementsOf (exchange.serverUrlOr serverUrl?) with
    | .ok requirements => administratorChoices store acl.caller current requirements
    | .error error =>
      match error.fault with
      | .failure (.configuration _) => .ok (choicesWithoutLogins current)
      | fault => .error fault

/-! ### The chosen login -/

/-- The first login with an id that a store offers to one of several identities. -/
def findLogin (store : Store) (requirements : List Requirement) (id : Json) :
    List Authentication → Except Fault (Option Credential)
  | [] => .ok none
  | who :: rest => do
    match Credential.firstWithId? id (← loginsFor store requirements who) with
    | some login => return some login
    | none => findLogin store requirements id rest

/-- The login with an id for a server. -/
def lookupLogin (acl : AccessControl) (store : Store) (serverUrl : String) (id : Json) :
    Except Fault (Option Credential) := do
  let requirements ← (requirementsOf serverUrl).mapError (·.fault)
  findLogin store requirements id (searched acl.caller)

end Exchange

end TokenBroker
