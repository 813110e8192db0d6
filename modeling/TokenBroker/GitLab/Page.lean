import TokenBroker.Text.Blank
import TokenBroker.Text.Split

/-!
# Values in pages

The values that a page of the server hands to a browser: the token against forged requests, and a
newly made access token. Pages are not parsed; tags are recognised by their text.

A value is a run of characters other than the double quote, at least one, between double quotes. The
token of the page head wins over those of forms. In an input tag the attribute that is looked for is
the last one that the value can follow, and the value the last one after it.
-/

namespace TokenBroker.Page

/-! ### Searching -/

/-- The answer of a reader at the first place of a text where it has one. -/
def first? {α : Type} (reader : List Char → Option α) : List Char → Option α
  | [] => reader []
  | c :: rest =>
    match reader (c :: rest) with
    | some found => some found
    | none => first? reader rest

/-- The answer of a reader at the last place where it has one, before or at the first `>`. -/
def lastInTag? {α : Type} (reader : List Char → Option α) : List Char → Option α
  | [] => reader []
  | c :: rest =>
    if c = '>' then reader (c :: rest)
    else
      match lastInTag? reader rest with
      | some found => some found
      | none => reader (c :: rest)

/-! ### Pieces of tags -/

/-- The run up to the next double quote, if there is one and the run is not empty. -/
def quotedRun? (cs : List Char) : Option String :=
  match cs.span (· != '"') with
  | (c :: run, '"' :: _) => some (String.ofList (c :: run))
  | _ => none

/-- What follows one blank or more. -/
def afterBlanks? : List Char → Option (List Char)
  | [] => none
  | c :: rest => if Text.isBlank c then some (Text.stripLeft rest) else none

def valueStart : List Char :=
  "value=\"".toList

/-- The last value in the rest of a tag. -/
def lastValue? : List Char → Option String :=
  lastInTag? fun cs => (Text.dropStart? valueStart cs).bind quotedRun?

/-- The value in an input tag with one of some attributes before it. -/
def inputValue? (attributes : List (List Char)) (cs : List Char) : Option String := do
  let tag ← Text.dropStart? "<input".toList cs
  lastInTag? (fun cs => do lastValue? (← attributes.findSome? (Text.dropStart? · cs))) tag

/-- The content of a meta tag with the token of the page. -/
def metaContent? (cs : List Char) : Option String := do
  let cs ← afterBlanks? (← Text.dropStart? "<meta".toList cs)
  let cs ← afterBlanks? (← Text.dropStart? "name=\"csrf-token\"".toList cs)
  quotedRun? (← Text.dropStart? "content=\"".toList cs)

/-! ### Values of a page -/

/-- The token against forged requests in the head of a page. -/
def metaToken? (page : List Char) : Option String :=
  first? metaContent? page

/-- The token against forged requests in a form of a page. -/
def formToken? (page : List Char) : Option String :=
  first? (inputValue? ["name=\"authenticity_token\"".toList]) page

/-- The token against forged requests. -/
def csrfToken? (page : String) : Option String :=
  metaToken? page.toList <|> formToken? page.toList

/-- The access token that a page shows after it has been made. -/
def createdToken? (page : String) : Option String :=
  first? (inputValue? ["id=\"created-personal-access-token\"".toList,
    "name=\"created-personal-access-token\"".toList]) page.toList

end TokenBroker.Page
