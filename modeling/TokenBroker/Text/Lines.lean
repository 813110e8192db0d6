import TokenBroker.Text.Split

/-!
# Lines

The lines of a text. A line ends with a line feed, a carriage return, or both in this order, and the
last one may end with the text.
-/

namespace TokenBroker.Text

/-- The text with a line feed for every line break. -/
def withLineFeeds : List Char → List Char
  | [] => []
  | '\r' :: '\n' :: rest => '\n' :: withLineFeeds rest
  | c :: rest => (if c = '\r' then '\n' else c) :: withLineFeeds rest

/-- The lines of a text without their ends. Nothing after the last line break is no line. -/
def lines (cs : List Char) : List (List Char) :=
  let pieces := splitOn '\n' (withLineFeeds cs)
  if pieces.getLast? = some [] then pieces.dropLast else pieces

end TokenBroker.Text
