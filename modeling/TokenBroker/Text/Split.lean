/-!
# Splitting text

Cutting a text at a separator, or at the first or last place where a shorter text occurs. Nothing
is lost: the pieces with the separator between them are the text.
-/

namespace TokenBroker.Text

/-- The pieces of a text between occurrences of a character; there is always at least one. -/
def splitOn (separator : Char) : List Char → List (List Char)
  | [] => [[]]
  | c :: rest =>
    if c = separator then [] :: splitOn separator rest
    else
      match splitOn separator rest with
      | [] => [[c]]
      | piece :: pieces => (c :: piece) :: pieces

/-- The text before and after the first occurrence of a character. -/
def cutFirst? (separator : Char) : List Char → Option (List Char × List Char)
  | [] => none
  | c :: rest =>
    if c = separator then some ([], rest)
    else (cutFirst? separator rest).map fun (before, after) => (c :: before, after)

/-- The text before and after the last occurrence of a character. -/
def cutLast? (separator : Char) : List Char → Option (List Char × List Char)
  | [] => none
  | c :: rest =>
    match cutLast? separator rest with
    | some (before, after) => some (c :: before, after)
    | none => if c = separator then some ([], rest) else none

/-- What follows a given beginning of a text, if it has that beginning. -/
def dropStart? : List Char → List Char → Option (List Char)
  | [], rest => some rest
  | _ :: _, [] => none
  | p :: start, c :: rest => if p = c then dropStart? start rest else none

/-- Whether a text occurs somewhere within another. -/
def occursIn (needle : List Char) : List Char → Bool
  | [] => needle.isEmpty
  | c :: rest => (dropStart? needle (c :: rest)).isSome || occursIn needle rest

/-- A text with another one in each place where a needle stands; `passed` characters are left of the
needle that was found last. -/
def replaceFrom (needle replacement : List Char) (passed : Nat) : List Char → List Char
  | [] => []
  | c :: rest =>
    match passed with
    | k + 1 => replaceFrom needle replacement k rest
    | 0 =>
      if (dropStart? needle (c :: rest)).isSome then
        replacement ++ replaceFrom needle replacement (needle.length - 1) rest
      else c :: replaceFrom needle replacement 0 rest

/-- A text with another one in each place where a needle stands, from left to right. -/
def replaceAll (needle replacement cs : List Char) : List Char :=
  replaceFrom needle replacement 0 cs

/-- A text without the given character at its end, however often it stands there. -/
def dropTrailing (c : Char) : List Char → List Char
  | [] => []
  | d :: rest =>
    match dropTrailing c rest with
    | [] => if d = c then [] else [d]
    | kept => d :: kept

end TokenBroker.Text
