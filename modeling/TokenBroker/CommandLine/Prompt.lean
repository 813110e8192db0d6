import TokenBroker.Text.Blank
import TokenBroker.Text.Lowercase

/-!
# Prompts

What is asked for at the terminal. A prompt takes lines from what is typed until it has an answer;
it gives what was printed meanwhile, and the answer with the lines that are left, if the lines did
not run out before.
-/

namespace TokenBroker.Prompt

/-- What a prompt gives. -/
structure Asked (α : Type) where
  output : String
  answer? : Option (α × List String)
  deriving Inhabited, Repr

namespace Asked

variable {α : Type}

/-- The same with something printed before. -/
def after (output : String) (asked : Asked α) : Asked α :=
  { asked with output := output ++ asked.output }

end Asked

/-- Asks for a line that is not shown and not empty. -/
def hidden (label : String) : List String → Asked String
  | [] => ⟨label ++ ": \n\n", none⟩
  | line :: rest =>
    if line.isEmpty then (hidden label rest).after (label ++ ": \n")
    else ⟨label ++ ": \n", some (line, rest)⟩

def repeatLabel : String :=
  "Repeat for confirmation"

def mismatch : String :=
  "Error: The two entered values do not match.\n"

/-- Asks for a line twice, until both are the same. Each attempt takes lines, so as many attempts
as there are lines are enough. -/
def hiddenTwiceWithin (label : String) : Nat → List String → Asked String
  | 0, lines => hidden label lines
  | attempts + 1, lines =>
    let first := hidden label lines
    match first.answer? with
    | none => first
    | some (line, rest) =>
      let second := hidden repeatLabel rest
      match second.answer? with
      | none => ⟨first.output ++ second.output, none⟩
      | some (again, rest) =>
        if line = again then ⟨first.output ++ second.output, some (line, rest)⟩
        else
          (hiddenTwiceWithin label attempts rest).after
            (first.output ++ second.output ++ mismatch)

def hiddenTwice (label : String) (lines : List String) : Asked String :=
  hiddenTwiceWithin label lines.length lines

/-- Asks whether something is to be done; no answer means no. -/
def confirm (question : String) : List String → Asked Bool
  | [] => ⟨question ++ " [y/N]: ", none⟩
  | line :: rest =>
    let shown := question ++ " [y/N]: " ++ line ++ "\n"
    match stripped (lowered line) with
    | "y" | "yes" => ⟨shown, some (true, rest)⟩
    | "n" | "no" | "" => ⟨shown, some (false, rest)⟩
    | _ => (confirm question rest).after (shown ++ "Error: invalid input\n")

end TokenBroker.Prompt
