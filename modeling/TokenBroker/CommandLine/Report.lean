import TokenBroker.Config.Variables

/-!
# Reports of commands

What a run of the program leaves behind on the terminal: what it printed, its exit code, and what it
broke down with if it did.
-/

namespace TokenBroker

/-- What a run of the program breaks down with. -/
inductive Crash
  | fault (cause : Fault)
  | settings (cause : SettingsError)
  deriving DecidableEq, Inhabited, Repr

/-- Where the service listens. -/
structure Listener where
  host : String
  port : Int
  deriving DecidableEq, Inhabited, Repr

/-- What a run of the program leaves behind. -/
structure Report where
  exitCode : Nat := 0
  output : String := ""
  errors : String := ""
  crash? : Option Crash := none
  listener? : Option Listener := none
  deriving DecidableEq, Inhabited, Repr

namespace Report

/-- A run that printed a line. -/
def said (line : String) : Report :=
  { output := line ++ "\n" }

/-- A run that ended with an exit code after printing a line where errors are printed. -/
def exited (exitCode : Nat) (line : String) : Report :=
  { exitCode := exitCode, errors := line ++ "\n" }

/-- A run that failed. -/
def failed (message : String) : Report :=
  exited 1 ("Error: " ++ message)

/-- A run that broke down. -/
def crashed (cause : Crash) : Report :=
  { exitCode := 1, crash? := some cause }

/-- A run that was given up by the one at the terminal. -/
def aborted : Report :=
  exited 1 "Aborted!"

/-- What a fault makes of a run: what the broker reports is printed, anything else is a
breakdown. -/
def ofFault : Fault → Report
  | .failure failure => failed failure.message
  | fault => crashed (.fault fault)

/-- The report with something printed before. -/
def after (output : String) (report : Report) : Report :=
  { report with output := output ++ report.output }

/-- The report of a run that prints lines until there is none, or one that cannot be made. -/
def lines : List (Except Fault String) → Report
  | [] => {}
  | .ok line :: rest => (lines rest).after (line ++ "\n")
  | .error fault :: _ => crashed (.fault fault)

end Report

end TokenBroker
