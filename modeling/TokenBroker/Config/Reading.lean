import TokenBroker.Config.Issue
import TokenBroker.Config.Value
import TokenBroker.FilePath
import TokenBroker.Http.WebAddress
import TokenBroker.Number.Reading
import TokenBroker.Secret.Resolver

/-!
# Reading configured values

What a configured value stands for where a certain kind of value is wanted. Numbers and truth values
may be written as texts, since environment variables are nothing else; texts may only be texts. A
secret may be anything, and a text that refers to one kept elsewhere is resolved.
-/

namespace TokenBroker.ConfigValue

/-! ### Texts -/

/-- A text of a least length. -/
def readText (minimum : Nat) : ConfigValue → Checked String
  | .text s => if s.length < minimum then .issue .shortText else .valid s
  | _ => .issue .notText

/-- One of several named options. -/
def readOption {α : Type} (options : List (String × α)) : ConfigValue → Checked α
  | .text s =>
    match options.find? (·.1 == s) with
    | some (_, a) => .valid a
    | none => .issue .notAnOption
  | _ => .issue .notAnOption

def readPath : ConfigValue → Checked FilePath
  | .text s => .valid (.ofString s)
  | _ => .issue .notPath

/-- The address of a web server. -/
def readAddress : ConfigValue → Checked RequestUrl
  | .text s =>
    match WebAddress.parse s with
    | .ok url => .valid url
    | .error .tooLong => .issue .longAddress
    | .error .malformed => .issue .malformedAddress
    | .error .otherScheme => .issue .otherScheme
  | _ => .issue .notAddress

/-! ### Numbers and truth values -/

/-- The blanks that may stand around a number in a text: all but the separators of ASCII. -/
def isNumberBlank (c : Char) : Bool :=
  Text.isBlank c && !(0x1c ≤ c.toNat && c.toNat ≤ 0x1f)

def trimNumber (cs : List Char) : List Char :=
  ((cs.dropWhile isNumberBlank).reverse.dropWhile isNumberBlank).reverse

/-- The integer in a text without blanks around it; a fraction of zeros is allowed. -/
def integerInText? (cs : List Char) : Option Int :=
  let (negative, digits) : Bool × List Char := match cs with
    | '-' :: rest => (true, rest)
    | '+' :: rest => (false, rest)
    | rest => (false, rest)
  let whole := match Text.cutFirst? '.' digits with
    | some (whole, fraction) => if fraction.all (· == '0') then whole else digits
    | none => digits
  (Text.groupedDigits? whole).map fun digits =>
    let n : Int := Address.decimalValue digits
    if negative then -n else n

/-- The most digits that an integer in a text may have. -/
def maximumDigits : Nat :=
  4300

/-- The integer that a binary64 number is; beyond 64 bits there is none. -/
def integerOfFloat (x : Binary64) : Checked Int :=
  if !x.isFinite then .issue .infiniteInteger
  else
    match x.toInt? with
    | none => .issue .fractionalInteger
    | some n => if n.natAbs < Nat.pow 2 63 then .valid n else .issue .oversizedInteger

/-- An integer. -/
def readInteger : ConfigValue → Checked Int
  | .bool b => .valid (if b then 1 else 0)
  | .int n => .valid n
  | .float x => integerOfFloat x
  | .text s =>
    let cs := trimNumber s.toList
    if maximumDigits < cs.length then .issue .oversizedInteger
    else
      match integerInText? cs with
      | some n => .valid n
      | none => .issue .malformedInteger
  | _ => .issue .notInteger

/-- An integer within bounds. -/
def readIntegerIn (low high : Int) (value : ConfigValue) : Checked Int :=
  (readInteger value).andThen fun n =>
    if n < low then .issue .belowMinimum
    else if high < n then .issue .aboveMaximum
    else .valid n

/-- The text of a number without its underscores, which may only stand singly and not at an end. -/
def withoutGaps? (cs : List Char) : Option (List Char) :=
  let pieces := Text.splitOn '_' cs
  if pieces.all (!·.isEmpty) then some pieces.flatten else none

/-- A binary64 number. -/
def readNumber : ConfigValue → Checked Binary64
  | .bool b => .valid (.ofInt (if b then 1 else 0))
  | .int n => .valid (.ofInt n)
  | .float x => .valid x
  | .text s =>
    match Binary64.read? (trimNumber s.toList) with
    | some x => .valid x
    | none =>
      match (withoutGaps? s.toList).bind Binary64.read? with
      | some x => .valid x
      | none => .issue .malformedNumber
  | _ => .issue .notNumber

def readPositive (value : ConfigValue) : Checked Binary64 :=
  (readNumber value).andThen fun x => if x.isPositive then .valid x else .issue .notPositive

def affirmations : List String :=
  ["1", "true", "t", "yes", "y", "on"]

def negations : List String :=
  ["0", "false", "f", "no", "n", "off"]

/-- The truth value that a number stands for. -/
def truthOfInt (n : Int) : Checked Bool :=
  if n = 1 then .valid true
  else if n = 0 then .valid false
  else .issue .malformedTruth

/-- A truth value. -/
def readTruth : ConfigValue → Checked Bool
  | .bool b => .valid b
  | .int n => if n.natAbs < Nat.pow 2 63 then truthOfInt n else .issue .notTruth
  | .float x =>
    match integerOfFloat x with
    | .valid n => truthOfInt n
    | .invalid _ => .issue .notTruth
  | .text s =>
    let word := String.ofList (s.toList.map Char.toLower)
    if affirmations.contains word then .valid true
    else if negations.contains word then .valid false
    else .issue .malformedTruth
  | _ => .issue .notTruth

/-! ### Secrets -/

/-- How references to secrets are resolved. -/
abbrev SecretSource := String → Except Fault String

/-- The message of a failure to resolve a reference. -/
def unresolvedMessage : Fault → String
  | .failure (.credential _ message reference? suggestion?) =>
    let text := match suggestion? with
      | some suggestion =>
        if suggestion.isEmpty then message else message ++ "\n\nSuggestion: " ++ suggestion
      | none => message
    let reference := reference?.getD "None"
    String.ofList (Text.replaceAll "\x7breference\x7d".toList reference.toList text.toList)
  | fault => fault.message

/-- A secret: what a text refers to, or any other value as a text. -/
def readSecret (resolve : SecretSource) : ConfigValue → Checked String
  | .secret s => .valid s
  | .text s =>
    match resolve s with
    | .ok found => .valid found
    | .error fault => .issue (.unresolved (unresolvedMessage fault) s)
  | value => .valid value.display

/-! ### Parts of maps -/

/-- A value that may be null. -/
def readNullable {α : Type} (read : ConfigValue → Checked α) : ConfigValue → Checked (Option α)
  | .null => .valid none
  | value => some <$> read value

/-- The value of an entry, which has a default. -/
def readEntry {α : Type} (entries : ConfigEntries) (name : String) (default : α)
    (read : ConfigValue → Checked α) : Checked α :=
  match find? name entries with
  | some value => (read value).below (.name name)
  | none => .valid default

/-- The value of an entry that has to be there. -/
def readRequired {α : Type} (entries : ConfigEntries) (name : String)
    (read : ConfigValue → Checked α) : Checked α :=
  match find? name entries with
  | some value => (read value).below (.name name)
  | none => (Checked.issue .missing).below (.name name)

/-- The entries of a map. -/
def readSection {α : Type} (read : ConfigEntries → Checked α) : ConfigValue → Checked α
  | .map entries => read entries
  | _ => .issue .notSection

def readList {α : Type} (read : ConfigValue → Checked α) : ConfigValue → Checked (List α)
  | .list values => Checked.items read 0 values
  | _ => .issue .notList

end TokenBroker.ConfigValue
