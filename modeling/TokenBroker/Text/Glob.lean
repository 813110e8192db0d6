/-!
# Glob patterns

A pattern is a list of items: `*` stands for any text, `?` for any one character, `[…]` for one
character of a set, and every other character for itself. Matching fills, from the end of the text
to its beginning, the row that says for each end of the pattern whether it matches what is left of
the text, so its cost is the product of the two lengths.

## Sets

A set that is never closed is an ordinary bracket. `!` at the beginning negates. A hyphen between
two characters denotes the range between them; ranges whose ends are in the wrong order are dropped
together with their ends, before the negation is looked for. A hyphen elsewhere is itself.
-/

namespace TokenBroker.Glob

/-- One item of a pattern. -/
inductive Item
  | anyText
  | anyChar
  | char (c : Char)
  | set (negated : Bool) (ranges : List (Char × Char))
  deriving DecidableEq, Repr

/-- Whether an item that stands for one character stands for this one. -/
def Item.admits : Item → Char → Bool
  | .anyText, _ => false
  | .anyChar, _ => true
  | .char d, c => c == d
  | .set negated ranges, c => (ranges.any fun (low, high) => low ≤ c && c ≤ high) != negated

/-! ### Reading a set -/

/-- Cuts the inside of a set at its range hyphens: the first is looked for after `skip`
characters, each later one after two more characters than the hyphen itself. -/
def cutRanges (piece : List Char) (skip : Nat) : List Char → List (List Char)
  | [] => [piece.reverse]
  | c :: rest =>
    match skip with
    | skip + 1 => cutRanges (c :: piece) skip rest
    | 0 => if c = '-' then piece.reverse :: cutRanges [] 2 rest else cutRanges (c :: piece) 0 rest

/-- A hyphen at the very end cuts nothing off: it belongs to the piece before it. -/
def restoreLastHyphen : List (List Char) → List (List Char)
  | [piece, []] => [piece ++ ['-']]
  | piece :: rest => piece :: restoreLastHyphen rest
  | [] => []

/-- Joins, from the last to the first, two pieces whose range runs backwards, dropping its ends. -/
def dropBackward : List (List Char) → List (List Char)
  | [] => []
  | piece :: rest =>
    match dropBackward rest with
    | [] => [piece]
    | next :: later =>
      match piece.getLast?, next.head? with
      | some low, some high =>
        if high < low then (piece.dropLast ++ next.tail) :: later else piece :: next :: later
      | _, _ => piece :: next :: later

/-- The ranges of a set: from the end of each piece to the beginning of the next, and every
character of a piece by itself. -/
def rangesOf : List (List Char) → List (Char × Char)
  | [] => []
  | piece :: rest =>
    let own := piece.map fun c => (c, c)
    let across :=
      match piece.getLast?, rest.head?.bind List.head? with
      | some low, some high => [(low, high)]
      | _, _ => []
    own ++ across ++ rangesOf rest

/-- The item denoted by the text between the brackets of a set. -/
def setItem (inside : List Char) : Item :=
  let skip := if inside.head? = some '!' then 2 else 1
  match dropBackward (restoreLastHyphen (cutRanges [] skip inside)) with
  | ('!' :: piece) :: rest => .set true (rangesOf (piece :: rest))
  | pieces => .set false (rangesOf pieces)

/-- The inside of a set and what follows its closing bracket. A bracket that is the first member
does not close. -/
def closeSet? (cs : List Char) : Option (List Char × List Char) :=
  let (bang, cs) := match cs with
    | '!' :: rest => (['!'], rest)
    | _ => ([], cs)
  let (bracket, cs) := match cs with
    | ']' :: rest => ([']'], rest)
    | _ => ([], cs)
  match cs.span (· != ']') with
  | (_, []) => none
  | (members, _ :: rest) => some (bang ++ bracket ++ members, rest)

/-! ### Reading a pattern -/

/-- Reads as many items as the fuel allows; each takes at least one character. -/
def itemsWithin : Nat → List Char → List Item
  | 0, _ => []
  | _ + 1, [] => []
  | fuel + 1, c :: rest =>
    if c = '*' then .anyText :: itemsWithin fuel rest
    else if c = '?' then .anyChar :: itemsWithin fuel rest
    else if c = '[' then
      match closeSet? rest with
      | some (inside, rest) => setItem inside :: itemsWithin fuel rest
      | none => .char '[' :: itemsWithin fuel rest
    else .char c :: itemsWithin fuel rest

/-- The items of a pattern. -/
def items (pattern : List Char) : List Item :=
  itemsWithin pattern.length pattern

/-! ### Matching -/

/-- For each end of the pattern, whether it matches the empty text. -/
def emptyRow : List Item → List Bool
  | [] => [true]
  | item :: rest =>
    let row := emptyRow rest
    (item == .anyText && row.headD false) :: row

/-- For each end of the pattern, whether it matches the text that begins with `c`, given the row
for the text after `c`. -/
def stepRow (c : Char) : List Item → List Bool → List Bool
  | [], _ => [false]
  | item :: rest, row =>
    let later := row.tail
    let next := stepRow c rest later
    let here :=
      match item with
      | .anyText => next.headD false || row.headD false
      | item => item.admits c && later.headD false
    here :: next

/-- Whether a whole text matches a pattern. -/
def accepts (pattern : List Item) (text : List Char) : Bool :=
  (text.foldr (fun c row => stepRow c pattern row) (emptyRow pattern)).headD false

/-- Whether a whole text matches the pattern written in another text. -/
def isMatch (pattern text : List Char) : Bool :=
  accepts (items pattern) text

end TokenBroker.Glob
