import TokenBroker.Yaml.Scalar
import TokenBroker.Yaml.Text

/-!
# Documents

A text as the value that it describes: block maps and sequences by their columns, flow collections
in brackets, scalars and comments, with one document in a text. Anchors, tags, block scalars and
explicit keys are refused.

Every reader takes what is left of the text and returns what it has not used. Readers of blocks are
given the column of the block around them, and what they leave begins with a line.
-/

namespace TokenBroker.Yaml

/-! ### Scalars and keys -/

/-- The value of a plain scalar; an equals sign alone has none. -/
def plain? (cs : List Char) : Option ConfigValue :=
  if cs = ['='] then none else some (plainValue cs)

/-- A scalar; outside brackets its lines are to the right of a column. -/
def scalar? (flow : Bool) (column : Int) (cs : List Char) : Option (ConfigValue × List Char) :=
  let quoted (read : Gap → List Char → Option (List Char × List Char)) (rest : List Char) :=
    (read (.blanks []) rest).map fun (text, after) => (ConfigValue.text (.ofList text), after)
  match cs with
  | '\'' :: rest => quoted singleQuoted? rest
  | '"' :: rest => quoted doubleQuoted? rest
  | cs =>
    if startsPlain flow cs then
      let (text, after) := plainLines flow column cs.length cs
      (plain? text).map (·, after)
    else none

/-- The key of an entry, with what follows its colon. A key is a scalar within one line; it may be
missing. -/
def key? (flow : Bool) (cs : List Char) : Option (Json × List Char) :=
  match cs with
  | ':' :: rest => if flow || atBlank rest then some (.null, rest) else none
  | c :: _ =>
    if c = '\'' || c = '"' then
      match scalar? flow 0 cs with
      | some (key, after) =>
        let isOneLine := !(cs.take (cs.length - after.length)).contains '\n'
        match skipSpaces after with
        | ':' :: rest =>
          if isOneLine && (flow || atBlank rest) then some (key.toJson, rest) else none
        | _ => none
      | none => none
    else if startsPlain flow cs then
      match plainLine flow [] cs with
      | (text, ':' :: rest) => (plain? text).map fun key => (key.toJson, rest)
      | _ => none
    else none
  | [] => none

/-! ### Flow collections -/

mutual

/-- A value inside brackets. -/
def flowNode? : Nat → List Char → Option (ConfigValue × List Char)
  | 0, _ => none
  | fuel + 1, cs =>
    match cs with
    | '[' :: rest => (flowItems? fuel rest).map fun (items, after) => (.list items, after)
    | '\x7b' :: rest =>
      (flowEntries? fuel rest).map fun (entries, after) =>
        (.map (ConfigValue.distinct entries), after)
    | cs => scalar? true 0 cs

/-- The value after a colon inside brackets, null if there is none. -/
def flowValue? : Nat → List Char → Option (ConfigValue × List Char)
  | 0, _ => none
  | fuel + 1, cs =>
    match skipFlowBlanks false cs with
    | ',' :: rest => some (.null, ',' :: rest)
    | ']' :: rest => some (.null, ']' :: rest)
    | '\x7d' :: rest => some (.null, '\x7d' :: rest)
    | cs => flowNode? fuel cs

/-- The items of a sequence after its bracket or a comma. An entry among them is a map of its
own. -/
def flowItems? : Nat → List Char → Option (List ConfigValue × List Char)
  | 0, _ => none
  | fuel + 1, cs =>
    match skipFlowBlanks false cs with
    | ']' :: rest => some ([], rest)
    | cs => do
      let (item, after) ← match key? true cs with
        | some (key, after) =>
          (flowValue? fuel after).map fun (value, after) => (ConfigValue.map [(key, value)], after)
        | none => flowNode? fuel cs
      match skipFlowBlanks false after with
      | ',' :: rest =>
        let (items, after) ← flowItems? fuel rest
        return (item :: items, after)
      | ']' :: rest => return ([item], rest)
      | _ => none

/-- The entries of a map after its brace or a comma. An entry without a colon has the value null. -/
def flowEntries? : Nat → List Char → Option (ConfigEntries × List Char)
  | 0, _ => none
  | fuel + 1, cs =>
    match skipFlowBlanks false cs with
    | '\x7d' :: rest => some ([], rest)
    | cs => do
      let (entry, after) ← match key? true cs with
        | some (key, after) =>
          (flowValue? fuel after).map fun (value, after) => ((key, value), after)
        | none => (scalar? true 0 cs).map fun (key, after) => ((key.toJson, .null), after)
      match skipFlowBlanks false after with
      | ',' :: rest =>
        let (entries, after) ← flowEntries? fuel rest
        return (entry :: entries, after)
      | '\x7d' :: rest => return ([entry], rest)
      | _ => none

end

/-! ### Blocks -/

/-- The column at which a line begins. -/
def indentation (cs : List Char) : Nat :=
  (cs.takeWhile (· == ' ')).length

/-- Whether a text is at the dash of an item. -/
def atDash : List Char → Bool
  | '-' :: rest => atBlank rest
  | _ => false

/-- Whether the next line begins at a column, and in it something of a block. -/
def continuesAt (column : Nat) (line : List Char) : Bool :=
  indentation line == column && !line.isEmpty && !isAnyMarker line

/-- A scalar or a flow collection with nothing after it in its last line. -/
def leaf? (fuel : Nat) (indent : Int) (cs : List Char) : Option (ConfigValue × List Char) := do
  let (value, after) ← match cs with
    | '[' :: _ | '\x7b' :: _ => flowNode? fuel cs
    | cs => scalar? false indent cs
  return (value, ← lineEnd? after)

mutual

/-- The value in the next lines to the right of a column, null if there are none. -/
def block? : Nat → Int → List Char → Option (ConfigValue × List Char)
  | 0, _, _ => none
  | fuel + 1, indent, cs =>
    let line := skipLines cs
    let column := indentation line
    if line.isEmpty || isAnyMarker line || (column : Int) ≤ indent then some (.null, line)
    else blockAt? fuel indent column (skipSpaces line)

/-- The value that begins here, at a column. -/
def blockAt? : Nat → Int → Nat → List Char → Option (ConfigValue × List Char)
  | 0, _, _, _ => none
  | fuel + 1, indent, column, cs =>
    if atDash cs then
      (blockItems? fuel column cs).map fun (items, after) => (.list items, after)
    else if (key? false cs).isSome then
      (blockEntries? fuel column cs).map fun (entries, after) =>
        (.map (ConfigValue.distinct entries), after)
    else leaf? fuel indent cs

/-- The items whose dashes are at a column; the text is at the first of them. -/
def blockItems? : Nat → Nat → List Char → Option (List ConfigValue × List Char)
  | 0, _, _ => none
  | fuel + 1, column, cs => do
    let rest := cs.drop 1
    let (item, after) ← match lineEnd? rest with
      | some below => block? fuel column below
      | none => blockAt? fuel column (column + 1 + indentation rest) (skipSpaces rest)
    let line := skipLines after
    if continuesAt column line && atDash (skipSpaces line) then
      let (items, after) ← blockItems? fuel column (skipSpaces line)
      return (item :: items, after)
    else return ([item], line)

/-- The entries whose keys are at a column; the text is at the first of them. The items of a
sequence may be at the column of the key that it belongs to. -/
def blockEntries? : Nat → Nat → List Char → Option (ConfigEntries × List Char)
  | 0, _, _ => none
  | fuel + 1, column, cs => do
    let (key, after) ← key? false cs
    let (value, after) ← match lineEnd? after with
      | some below =>
        let line := skipLines below
        if continuesAt column line && atDash (skipSpaces line) then
          (blockItems? fuel column (skipSpaces line)).map fun (items, after) =>
            (ConfigValue.list items, after)
        else block? fuel column below
      | none => leaf? fuel column (skipSpaces after)
    let line := skipLines after
    if continuesAt column line then
      let (entries, after) ← blockEntries? fuel column (skipSpaces line)
      return ((key, value) :: entries, after)
    else return ([(key, value)], line)

end

/-! ### Texts -/

/-- Whether there is nothing more than the end of a document. -/
def isFinished (cs : List Char) : Bool :=
  match skipLines cs with
  | [] => true
  | line => isMarker "..." line && (lineEnd? (line.drop 3)).any fun rest => (skipLines rest).isEmpty

/-- The value that a text describes, if it is one document. -/
def parse? (text : String) : Option ConfigValue := do
  let cs := withPlainBreaks text.toList
  let cs := match cs with
    | '\ufeff' :: rest => rest
    | cs => cs
  let line := skipLines cs
  let fuel := 4 * cs.length + 8
  let (value, rest) ←
    if isMarker "---" line then
      match lineEnd? (line.drop 3) with
      | some below => block? fuel (-1) below
      | none => leaf? fuel (-1) (skipSpaces (line.drop 3))
    else if isMarker "..." line then none
    else block? fuel (-1) line
  if text.toList.all isAllowed && isFinished rest then some value else none

end TokenBroker.Yaml
