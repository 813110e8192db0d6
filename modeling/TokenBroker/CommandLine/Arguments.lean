import TokenBroker.CommandLine.Prompt
import TokenBroker.CommandLine.Report
import TokenBroker.Text.Integer
import TokenBroker.Text.Similar

/-!
# Arguments

The options and the argument of a command, how they are found on the command line, and how what is
missing is asked for. Options have long names and take a value, in the same word after `=` or in the
next one, except for flags. Two hyphens alone end the options.
-/

namespace TokenBroker.CommandLine

/-! ### What a command takes -/

/-- What an option takes. -/
inductive OptionKind
  | text
  | integer
  | flag
  deriving DecidableEq, Inhabited, Repr

/-- How an option that is not given is asked for. -/
inductive Question
  | hidden (label : String)
  | hiddenTwice (label : String)
  | confirmation (question : String)
  deriving DecidableEq, Inhabited, Repr

/-- An option by its name, which includes the hyphens. -/
structure Parameter where
  name : String
  kind : OptionKind := .text
  required : Bool := false
  question? : Option Question := none
  deriving DecidableEq, Inhabited, Repr

/-- What may follow the words of a command. -/
structure Grammar where
  words : List String
  options : List Parameter := []
  argument? : Option String := none
  takesCommand : Bool := false
  deriving DecidableEq, Inhabited, Repr

/-- The name of the program in its own messages. -/
def programName : String :=
  "cli"

def helpOption : Parameter :=
  { name := "--help", kind := .flag }

namespace Grammar

def isHelpAsked (given : List (String × String)) : Bool :=
  given.any (·.1 == helpOption.name)

/-- The options with the one that every command has. -/
def allOptions (g : Grammar) : List Parameter :=
  g.options ++ [helpOption]

def command (g : Grammar) : String :=
  " ".intercalate (programName :: g.words)

/-- The line that shows how a command is used. -/
def usage (g : Grammar) : String :=
  let tail := if g.takesCommand then " COMMAND [ARGS]..." else (g.argument?.map (" " ++ ·)).getD ""
  "Usage: " ++ g.command ++ " [OPTIONS]" ++ tail ++ "\n"

/-- A run that ends because the command was not used as it should be. -/
def misused (g : Grammar) (message : String) : Report :=
  .exited 2 (g.usage ++ "Try '" ++ g.command ++ " --help' for help.\n\nError: " ++ message)

end Grammar

/-! ### Finding options -/

/-- What was found on a command line: the options with their values, and the other words. -/
structure Found where
  given : List (String × String) := []
  others : List String := []
  deriving DecidableEq, Inhabited, Repr

namespace Found

def withOption (name value : String) (found : Found) : Found :=
  { found with given := (name, value) :: found.given }

def withWord (word : String) (found : Found) : Found :=
  { found with others := word :: found.others }

end Found

/-- The name that a word begins with, and the value after `=`. -/
def splitWord (word : String) : String × Option String :=
  match Text.cutFirst? '=' word.toList with
  | some (name, value) => (String.ofList name, some (String.ofList value))
  | none => (word, none)

/-- Whether a word is an option. -/
def isOption (word : String) : Bool :=
  word.toList.head? == some '-' && 1 < word.length

/-- What somebody may have meant by an unknown word, for the end of a message. -/
def suggestion (word : String) (known : List String) : String :=
  match Text.similarWords word known with
  | [] => ""
  | [other] => " Did you mean " ++ quoted other ++ "?"
  | others => " (Did you mean one of: " ++ ", ".intercalate (others.map quoted) ++ "?)"

/-- The refusal of an unknown option: of a word with one hyphen the first letter counts, and nothing
is similar to it. -/
def noSuchOption (g : Grammar) (word : String) : Report :=
  match word.toList with
  | '-' :: '-' :: _ =>
    let name := (splitWord word).1
    g.misused ("No such option " ++ quoted name ++ "."
      ++ suggestion name (g.allOptions.map (·.name)))
  | cs => g.misused ("No such option " ++ quoted (String.ofList (cs.take 2)) ++ ".")

/-- Finds the options among words. For a command that takes another one they end at the first other
word. -/
def find (g : Grammar) : List String → Except Report Found
  | [] => .ok {}
  | word :: rest =>
    if word = "--" then .ok { others := rest }
    else if isOption word then
      let (name, value?) := splitWord word
      match g.allOptions.find? (·.name == name), value?, rest with
      | none, _, _ => .error (noSuchOption g word)
      | some option, value?, rest =>
        match option.kind, value?, rest with
        | .flag, none, rest => (find g rest).map (Found.withOption name "")
        | .flag, some _, _ =>
          .error (.exited 2 ("Error: Option " ++ quoted name ++ " does not take a value."))
        | _, some value, rest => (find g rest).map (Found.withOption name value)
        | _, none, value :: rest => (find g rest).map (Found.withOption name value)
        | _, none, [] =>
          .error (.exited 2 ("Error: Option " ++ quoted name ++ " requires an argument."))
    else if g.takesCommand then .ok { others := word :: rest }
    else (find g rest).map (Found.withWord word)

end TokenBroker.CommandLine
