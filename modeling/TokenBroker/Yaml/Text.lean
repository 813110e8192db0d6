import TokenBroker.Text.Percent
import TokenBroker.Text.Split

/-!
# Scalars in YAML text

The texts of scalars, written plainly or between quotes, inside lines and across them. Where a
scalar goes on in the next line, the break counts as a space, or as one line break less than there
are if there are several.
-/

namespace TokenBroker.Yaml

/-! ### Lines -/

/-- The text with one character for every kind of line break. -/
def withPlainBreaks : List Char → List Char
  | [] => []
  | '\r' :: '\n' :: rest => '\n' :: withPlainBreaks rest
  | c :: rest =>
    (if c = '\r' || c = '\u0085' || c = '\u2028' || c = '\u2029' then '\n' else c)
      :: withPlainBreaks rest

/-- Whether a character may stand in a text at all. -/
def isAllowed (c : Char) : Bool :=
  let n := c.toNat
  n = 9 || n = 10 || n = 13 || (0x20 ≤ n && n ≤ 0x7e) || n = 0x85 || (0xa0 ≤ n && n ≤ 0xd7ff)
    || (0xe000 ≤ n && n ≤ 0xfffd) || 0x10000 ≤ n

def skipSpaces (cs : List Char) : List Char :=
  cs.dropWhile (· == ' ')

/-- Whether a text is at a blank or at its end. -/
def atBlank : List Char → Bool
  | [] => true
  | c :: _ => c == ' ' || c == '\t' || c == '\n'

/-- The next line, if there is nothing in this one but spaces and a comment. -/
def lineEnd? (cs : List Char) : Option (List Char) :=
  match skipSpaces cs with
  | [] => some []
  | '\n' :: rest => some rest
  | '#' :: rest => some ((rest.dropWhile (· != '\n')).drop 1)
  | _ => none

/-- The first line with more in it than spaces and a comment; `start` is the line that is read. -/
def skipLinesFrom (start : List Char) (comment : Bool) : List Char → List Char
  | [] => []
  | c :: rest =>
    if c = '\n' then skipLinesFrom rest false rest
    else if comment then skipLinesFrom start true rest
    else if c = ' ' then skipLinesFrom start false rest
    else if c = '#' then skipLinesFrom start true rest
    else start

/-- The first line with more in it than spaces and a comment. -/
def skipLines (cs : List Char) : List Char :=
  skipLinesFrom cs false cs

/-- What follows spaces, line breaks and comments. -/
def skipFlowBlanks (comment : Bool) : List Char → List Char
  | [] => []
  | c :: rest =>
    if c = '\n' then skipFlowBlanks false rest
    else if comment then skipFlowBlanks true rest
    else if c = ' ' then skipFlowBlanks false rest
    else if c = '#' then skipFlowBlanks true rest
    else c :: rest

/-- Whether a line is a marker between documents. -/
def isMarker (marker : String) (cs : List Char) : Bool :=
  match Text.dropStart? marker.toList cs with
  | some rest => atBlank rest
  | none => false

def isAnyMarker (cs : List Char) : Bool :=
  isMarker "---" cs || isMarker "..." cs

/-- What stands for line breaks in a scalar. -/
def foldedBreaks (breaks : Nat) : List Char :=
  if breaks ≤ 1 then [' '] else List.replicate (breaks - 1) '\n'

/-! ### Plain scalars -/

/-- The characters that end a plain scalar inside brackets. -/
def flowMarks : List Char :=
  [',', '?', '[', ']', '\x7b', '\x7d']

/-- The characters that no plain scalar begins with. -/
def reservedMarks : List Char :=
  [',', '[', ']', '\x7b', '\x7d', '#', '&', '*', '!', '|', '>', '\'', '"', '%', '@', '`']

/-- Whether a plain scalar begins here, inside brackets or not. -/
def startsPlain (flow : Bool) : List Char → Bool
  | [] => false
  | c :: rest =>
    if c = '-' then !atBlank rest
    else if c = '?' || c = ':' then !flow && !atBlank rest
    else !atBlank (c :: rest) && !reservedMarks.contains c

/-- Whether a text is at the colon after a key. -/
def atColon (flow : Bool) : List Char → Bool
  | ':' :: rest =>
    atBlank rest || (flow && (rest.head?.any fun c => c != '?' && flowMarks.contains c))
  | _ => false

/-- A plain scalar up to the end of its line, without spaces at its end, and what follows; `spaces`
are those that have been passed. -/
def plainLine (flow : Bool) (spaces : List Char) : List Char → List Char × List Char
  | [] => ([], [])
  | c :: rest =>
    if c = ' ' then plainLine flow (c :: spaces) rest
    else if c = '\n' || c = '\t' || (c = '#' && !spaces.isEmpty) || atColon flow (c :: rest)
        || (flow && flowMarks.contains c) then ([], c :: rest)
    else
      let (text, after) := plainLine flow [] rest
      (spaces ++ c :: text, after)

/-- The next line that is not empty, with the number of line breaks before it. -/
def nextLine (start : List Char) (breaks : Nat) : List Char → Nat × List Char
  | [] => (breaks, [])
  | c :: rest =>
    if c = '\n' then nextLine rest (breaks + 1) rest
    else if c = ' ' then nextLine start breaks rest
    else (breaks, start)

/-- A plain scalar with the lines in which it goes on; inside brackets these may begin anywhere,
otherwise to the right of a column. The first argument bounds the number of lines. -/
def plainLines (flow : Bool) (column : Int) : Nat → List Char → List Char × List Char
  | 0, cs => ([], cs)
  | fuel + 1, cs =>
    let (text, after) := plainLine flow [] cs
    match after with
    | '\n' :: _ =>
      let (breaks, line) := nextLine after 0 after
      let content := skipSpaces line
      let indent : Int := (line.length : Int) - content.length
      let goesOn := (flow || column < indent) && !isAnyMarker line && content.head? != some '#'
      if goesOn then
        match plainLines flow column fuel content with
        | ([], _) => (text, after)
        | (more, after) => (text ++ foldedBreaks breaks ++ more, after)
      else (text, after)
    | _ => (text, after)

/-! ### Quoted scalars -/

/-- What has been passed since the last character of a quoted scalar: blanks, or line breaks and
then perhaps blanks, which do not count. -/
inductive Gap
  | blanks (cs : List Char)
  | breaks (n : Nat)
  | joined
  deriving Inhabited, Repr

namespace Gap

def text : Gap → List Char
  | .blanks cs => cs
  | .breaks n => foldedBreaks n
  | .joined => []

/-- The gap with a further blank. -/
def blank (c : Char) : Gap → Gap
  | .blanks cs => .blanks (cs ++ [c])
  | gap => gap

/-- The gap with a further line break. -/
def atBreak : Gap → Gap
  | .blanks _ => .breaks 1
  | .breaks n => .breaks (n + 1)
  | .joined => .breaks 1

end Gap

/-- A scalar after its opening single quote, and what follows it; a quote in it is written twice. -/
def singleQuoted? (gap : Gap) : List Char → Option (List Char × List Char)
  | [] => none
  | '\'' :: '\'' :: rest =>
    (singleQuoted? (.blanks []) rest).map fun (text, after) => (gap.text ++ '\'' :: text, after)
  | c :: rest =>
    if c = '\'' then some (gap.text, rest)
    else if c = '\n' then
      if isAnyMarker rest then none else singleQuoted? gap.atBreak rest
    else if c = ' ' || c = '\t' then singleQuoted? (gap.blank c) rest
    else (singleQuoted? (.blanks []) rest).map fun (text, after) => (gap.text ++ c :: text, after)

/-- The character of an escape with one letter. -/
def escaped? : Char → Option Char
  | '0' => some '\x00'
  | 'a' => some '\x07'
  | 'b' => some '\x08'
  | 't' | '\t' => some '\t'
  | 'n' => some '\n'
  | 'v' => some '\x0b'
  | 'f' => some '\x0c'
  | 'r' => some '\r'
  | 'e' => some '\x1b'
  | ' ' => some ' '
  | '"' => some '"'
  | '\\' => some '\\'
  | '/' => some '/'
  | 'N' => some '\u0085'
  | '_' => some '\u00a0'
  | 'L' => some '\u2028'
  | 'P' => some '\u2029'
  | _ => none

/-- The character whose code point some hexadecimal digits write. -/
def codePoint? (digits : List Char) : Option Char := do
  let values ← digits.mapM Percent.digitValue?
  let n := values.foldl (fun n d => n * 16 + d) 0
  if n.isValidChar then some (Char.ofNat n) else none

/-- A scalar after its opening double quote, and what follows it. -/
def doubleQuoted? (gap : Gap) : List Char → Option (List Char × List Char)
  | [] => none
  | '\\' :: '\n' :: rest =>
    (doubleQuoted? .joined rest).map fun (text, after) => (gap.text ++ text, after)
  | '\\' :: 'x' :: a :: b :: rest => do
    let c ← codePoint? [a, b]
    let (text, after) ← doubleQuoted? (.blanks []) rest
    return (gap.text ++ c :: text, after)
  | '\\' :: 'u' :: a :: b :: c :: d :: rest => do
    let c ← codePoint? [a, b, c, d]
    let (text, after) ← doubleQuoted? (.blanks []) rest
    return (gap.text ++ c :: text, after)
  | '\\' :: 'U' :: a :: b :: c :: d :: e :: f :: g :: h :: rest => do
    let c ← codePoint? [a, b, c, d, e, f, g, h]
    let (text, after) ← doubleQuoted? (.blanks []) rest
    return (gap.text ++ c :: text, after)
  | '\\' :: letter :: rest => do
    let c ← escaped? letter
    let (text, after) ← doubleQuoted? (.blanks []) rest
    return (gap.text ++ c :: text, after)
  | c :: rest =>
    if c = '"' then some (gap.text, rest)
    else if c = '\n' then
      if isAnyMarker rest then none else doubleQuoted? gap.atBreak rest
    else if c = ' ' || c = '\t' then doubleQuoted? (gap.blank c) rest
    else (doubleQuoted? (.blanks []) rest).map fun (text, after) => (gap.text ++ c :: text, after)

end TokenBroker.Yaml
