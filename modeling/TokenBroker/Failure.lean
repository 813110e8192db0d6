import TokenBroker.Json.Display
import TokenBroker.Json.Limits
import TokenBroker.Permission

/-!
# Failures

How an operation can end other than with its result. A `Failure` is one that the broker reports in
its own words, with what it knows about the cause; a `Fault` is any abnormal end, the failures
among them. `Failure.text` is the whole report: the message with the reference, suggestion or HTTP
status that belongs to it.
-/

namespace TokenBroker

/-- The kinds of failure around secrets and their references. -/
inductive CredentialFailure
  | general
  | notFound
  | format
  | backendNotAvailable
  | encryption
  deriving DecidableEq, Inhabited, Repr

/-- A failure that the broker reports. -/
inductive Failure
  | general (message : String)
  | configuration (message : String)
  | credential (kind : CredentialFailure) (message : String)
      (reference? suggestion? : Option String)
  | storage (message : String) (domain : Json)
  | permissionDenied (permission : Permission) (principal : String)
  | service (message : String) (status? : Option Int) (response? : Option String)
  | tokenCreation (message : String) (status? : Option Int) (response? : Option String)
  deriving DecidableEq, Inhabited, Repr

namespace Failure

def message : Failure → String
  | .general message => message
  | .configuration message => message
  | .credential _ message _ _ => message
  | .storage message _ => message
  | .permissionDenied permission principal =>
    principal ++ " is missing the " ++ permission.name ++ " permission"
  | .service message _ _ => message
  | .tokenCreation message _ _ => message

/-- A message with its HTTP status, unless that is absent or zero. -/
def withStatus (message : String) : Option Int → String
  | none => message
  | some status =>
    if status = 0 then message else message ++ " (HTTP " ++ toString status ++ ")"

/-- A message with the reference that failed and a suggestion, where these are not empty. -/
def withReference (message : String) (reference? suggestion? : Option String) : String :=
  let message :=
    match reference? with
    | some reference =>
      if reference.isEmpty then message else message ++ " (reference: " ++ reference ++ ")"
    | none => message
  match suggestion? with
  | some suggestion =>
    if suggestion.isEmpty then message else message ++ "\nSuggestion: " ++ suggestion
  | none => message

/-- The whole report. -/
def text : Failure → String
  | .credential _ message reference? suggestion? => withReference message reference? suggestion?
  | .service message status? _ => withStatus message status?
  | .tokenCreation message status? _ => withStatus message status?
  | failure => failure.message

end Failure

/-- Why the file system refuses an operation. -/
inductive FileCause
  | notFound
  | denied
  | exists
  | notDirectory
  | isDirectory
  deriving DecidableEq, Inhabited, Repr

namespace FileCause

/-- The number under which the cause is known. -/
def code : FileCause → Nat
  | .notFound => 2
  | .denied => 13
  | .exists => 17
  | .notDirectory => 20
  | .isDirectory => 21

def reason : FileCause → String
  | .notFound => "No such file or directory"
  | .denied => "Permission denied"
  | .exists => "File exists"
  | .notDirectory => "Not a directory"
  | .isDirectory => "Is a directory"

end FileCause

/-- A refusal of the file system: the cause, the path, and the second path of an operation that has
two. -/
structure FileError where
  cause : FileCause
  path : String
  target? : Option String := none
  deriving DecidableEq, Inhabited, Repr

def FileError.message (e : FileError) : String :=
  let target := match e.target? with
    | some target => " -> " ++ quoted target
    | none => ""
  "[Errno " ++ toString e.cause.code ++ "] " ++ e.cause.reason ++ ": " ++ quoted e.path ++ target

/-- A value of the wrong kind was met: it lacks the operation that was asked of it, or the
operation refuses it. -/
inductive KindError
  | lacksOperation
  | refused
  deriving DecidableEq, Inhabited, Repr

/-- Any abnormal end of an operation. -/
inductive Fault
  | failure (report : Failure)
  | value (message : String)
  | missingKey (key : String)
  | kind (cause : KindError)
  | overflow (message : String)
  | runtime (message : String)
  | system (message : String)
  | file (cause : FileError)
  | undecodable
  | unencodable
  | tooDeep
  | badAddress (message : String)
  | indexOutOfRange
  | interrupted
  deriving DecidableEq, Inhabited, Repr

namespace Fault

/-- The text of the report; the faults without words of their own have none. -/
def message : Fault → String
  | .failure report => report.text
  | .value message => message
  | .missingKey key => quoted key
  | .kind _ => ""
  | .overflow message => message
  | .runtime message => message
  | .system message => message
  | .file cause => cause.message
  | .undecodable => ""
  | .unencodable => ""
  | .tooDeep => ""
  | .badAddress message => message
  | .indexOutOfRange => ""
  | .interrupted => ""

/-- How reading ends at something that goes beyond a limit. -/
def ofExcess : Json.Excess → Fault
  | .digits count =>
    .value (Json.Excess.digitsMessage (": value has " ++ toString count ++ " digits"))
  | .depth => .tooDeep

end Fault

end TokenBroker
