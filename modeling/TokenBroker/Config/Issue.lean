import TokenBroker.Json.Basic
import TokenBroker.Text.Quoted

/-!
# Issues

What is wrong with values that were given: each issue has a place among them and a kind. Reading
several values collects the issues of all of them, in order, so that `Checked` holds either a value
or everything that is wrong.
-/

namespace TokenBroker

/-- A step on the way to a value: a name in an object, or a position in a list. -/
inductive Step
  | name (text : String)
  | position (n : Nat)
  deriving DecidableEq, Inhabited, Repr

namespace Step

def encode : Step → Json
  | .name text => .str text
  | .position n => .int n

def text : Step → String
  | .name text => text
  | .position n => toString n

end Step

/-- Kinds of issue. -/
inductive IssueKind
  | notText
  | shortText
  | notInteger
  | malformedInteger
  | oversizedInteger
  | fractionalInteger
  | infiniteInteger
  | belowMinimum
  | aboveMaximum
  | notPositive
  | notNumber
  | malformedNumber
  | notTruth
  | malformedTruth
  | notAnOption
  | notPath
  | notList
  | notSection
  | notObject
  | missing
  | unknownName
  | notAddress
  | malformedAddress
  | longAddress
  | otherScheme
  | malformedBody
  | refused (message : String)
  | unresolved (message given : String)
  deriving DecidableEq, Inhabited, Repr

namespace IssueKind

/-- The name under which issues of a kind are reported. -/
def code : IssueKind → String
  | .notText => "string_type"
  | .shortText => "string_too_short"
  | .notInteger => "int_type"
  | .malformedInteger => "int_parsing"
  | .oversizedInteger => "int_parsing_size"
  | .fractionalInteger => "int_from_float"
  | .infiniteInteger => "finite_number"
  | .belowMinimum => "greater_than_equal"
  | .aboveMaximum => "less_than_equal"
  | .notPositive => "greater_than"
  | .notNumber => "float_type"
  | .malformedNumber => "float_parsing"
  | .notTruth => "bool_type"
  | .malformedTruth => "bool_parsing"
  | .notAnOption => "literal_error"
  | .notPath => "path_type"
  | .notList => "list_type"
  | .notSection => "model_type"
  | .notObject => "model_attributes_type"
  | .missing => "missing"
  | .unknownName => "extra_forbidden"
  | .notAddress => "url_type"
  | .malformedAddress => "url_parsing"
  | .longAddress => "url_too_long"
  | .otherScheme => "url_scheme"
  | .malformedBody => "json_invalid"
  | .refused _ => "value_error"
  | .unresolved _ _ => "credential_resolution_error"

/-- The words of an issue, for the kinds that have their own. -/
def message? : IssueKind → Option String
  | .refused message => some ("Value error, " ++ message)
  | .unresolved message _ => some message
  | _ => none

end IssueKind

/-- An issue at a place. -/
structure Issue where
  place : List Step
  kind : IssueKind
  deriving DecidableEq, Inhabited, Repr

/-- An issue as a document. -/
def Issue.encode (issue : Issue) : Json :=
  .obj ([("loc", .arr (issue.place.map Step.encode)), ("type", .str issue.kind.code)]
    ++ (issue.kind.message?.map fun message => ("msg", Json.str message)).toList)

/-! ### Values or issues -/

/-- A value, or what is wrong with what was given for it. -/
inductive Checked (α : Type)
  | valid (value : α)
  | invalid (issues : List Issue)
  deriving DecidableEq, Inhabited, Repr

namespace Checked

variable {α β : Type}

/-- A single issue with the value itself. -/
def issue (kind : IssueKind) : Checked α :=
  .invalid [⟨[], kind⟩]

/-- The issues of both sides count. -/
instance : Applicative Checked where
  pure := .valid
  seq f x :=
    match f, x () with
    | .valid f, .valid a => .valid (f a)
    | .valid _, .invalid issues => .invalid issues
    | .invalid issues, .valid _ => .invalid issues
    | .invalid issues, .invalid others => .invalid (issues ++ others)

/-- A further check of a value that has been read. -/
def andThen (x : Checked α) (check : α → Checked β) : Checked β :=
  match x with
  | .valid a => check a
  | .invalid issues => .invalid issues

/-- What is read at a step below the present place. -/
def below (step : Step) : Checked α → Checked α
  | .valid a => .valid a
  | .invalid issues =>
    .invalid (issues.map fun issue => { issue with place := step :: issue.place })

/-- The results of reading items one by one, with their positions as places. -/
def items (read : β → Checked α) (start : Nat) : List β → Checked (List α)
  | [] => .valid []
  | b :: rest => List.cons <$> (read b).below (.position start) <*> items read (start + 1) rest

def issues : Checked α → List Issue
  | .valid _ => []
  | .invalid issues => issues

def toExcept : Checked α → Except (List Issue) α
  | .valid a => .ok a
  | .invalid issues => .error issues

end Checked

/-! ### Reports -/

/-- The beginning and the end of a long text. -/
def shortened (text : String) : String :=
  let bytes := text.toUTF8
  if bytes.size ≤ 50 then text
  else
    let start := (text.toList.foldl (fun (kept, size) c =>
      let size := size + c.utf8Size
      (if size ≤ 25 then kept ++ [c] else kept, size)) (([] : List Char), 0)).1
    let ending := (text.toList.reverse.foldl (fun (kept, size) c =>
      let size := size + c.utf8Size
      (if size ≤ 24 then c :: kept else kept, size)) (([] : List Char), 0)).1
    String.ofList (start ++ "...".toList ++ ending)

/-- What a report says about an issue besides its place. -/
def IssueKind.lines : IssueKind → String
  | .unresolved message given =>
    message ++ " [type=" ++ (IssueKind.unresolved message given).code ++ ", input_value="
      ++ shortened (quoted given) ++ ", input_type=str]"
  | kind =>
    (kind.message?.map (· ++ " ")).getD "" ++ "[type=" ++ kind.code ++ "]\n"
      ++ "    For further information see the description of the settings"

/-- An issue in the lines of a report. -/
def Issue.lines (issue : Issue) : String :=
  ".".intercalate (issue.place.map Step.text) ++ "\n  " ++ issue.kind.lines

/-- The report of issues with the settings. -/
def Issue.report (issues : List Issue) : String :=
  let count := toString issues.length ++ " validation error"
    ++ (if issues.length = 1 then "" else "s") ++ " for ExchangeSettings"
  "\n".intercalate (count :: issues.map Issue.lines)

end TokenBroker
