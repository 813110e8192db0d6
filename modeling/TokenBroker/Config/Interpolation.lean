import TokenBroker.Secret.Resolver
import TokenBroker.Text.Blank

/-!
# Environment variables in configuration files

Placeholders in a configuration file are replaced by the values of environment variables. A
placeholder is the name of a variable in braces after a dollar sign, and may bring a default after
`:-`. A value that takes the place of a placeholder is not looked at again.

A line is read as a list of pieces, each a single character or a placeholder, from left to right.
Lines whose first character that is not blank is `#` are comments and stay as they are.
-/

namespace TokenBroker.Interpolation

/-- A place of a line: a character that stands for itself, or a placeholder. -/
inductive Piece
  | char (c : Char)
  | placeholder (name : List Char) (default? : Option (List Char))
  deriving DecidableEq, Inhabited, Repr

/-- A piece as it is written. -/
def Piece.written : Piece → List Char
  | .char c => [c]
  | .placeholder name none => '$' :: '\x7b' :: name ++ ['\x7d']
  | .placeholder name (some text) => '$' :: '\x7b' :: name ++ ':' :: '-' :: text ++ ['\x7d']

/-! ### Reading a line -/

/-- The end of a placeholder after its name: its default and what follows it. -/
def placeholderEnd? : List Char → Option (Option (List Char) × List Char)
  | '\x7d' :: rest => some (none, rest)
  | ':' :: '-' :: rest =>
    match rest.dropWhile (· != '\x7d') with
    | [] => none
    | _ :: after => some (some (rest.takeWhile (· != '\x7d')), after)
  | _ => none

/-- The placeholder that a text begins with, and what follows it. -/
def placeholder? : List Char → Option (Piece × List Char)
  | '$' :: '\x7b' :: rest =>
    let name := rest.takeWhile SecretReference.isNamePart
    if SecretReference.isVariable name then
      (placeholderEnd? (rest.dropWhile SecretReference.isNamePart)).map fun (default?, after) =>
        (.placeholder name default?, after)
    else none
  | _ => none

theorem length_dropWhile_le (p : Char → Bool) (cs : List Char) :
    (cs.dropWhile p).length ≤ cs.length :=
  (List.dropWhile_sublist p).length_le

theorem length_placeholderEnd? {cs after : List Char} {default? : Option (List Char)}
    (h : placeholderEnd? cs = some (default?, after)) : after.length < cs.length := by
  unfold placeholderEnd? at h
  split at h
  · simp only [Option.some.injEq, Prod.mk.injEq] at h
    obtain ⟨_, rfl⟩ := h
    simp
  · rename_i rest
    have hle := length_dropWhile_le (· != '\x7d') rest
    split at h
    · simp at h
    · rename_i hd
      simp only [Option.some.injEq, Prod.mk.injEq] at h
      obtain ⟨_, rfl⟩ := h
      rw [hd] at hle
      simp only [List.length_cons] at hle ⊢
      omega
  · simp at h

/-- What follows a placeholder is shorter than the text that begins with it. -/
theorem length_placeholder? {cs after : List Char} {piece : Piece}
    (h : placeholder? cs = some (piece, after)) : after.length < cs.length := by
  unfold placeholder? at h
  split at h
  · rename_i rest
    simp only at h
    split at h
    · simp only [Option.map_eq_some_iff, Prod.mk.injEq, Prod.exists] at h
      obtain ⟨default?, found, hend, _, rfl⟩ := h
      have hlt := length_placeholderEnd? hend
      have hle := length_dropWhile_le SecretReference.isNamePart rest
      simp only [List.length_cons]
      omega
    · simp at h
  · simp at h

/-- The pieces of a line. -/
def pieces : List Char → List Piece
  | [] => []
  | c :: rest =>
    match _found : placeholder? (c :: rest) with
    | some (piece, after) => piece :: pieces after
    | none => .char c :: pieces rest
termination_by cs => cs.length
decreasing_by
  · exact length_placeholder? _found
  · simp

/-! ### Replacing -/

/-- What a piece becomes. The error is the name of a variable that is not set. -/
def substitute (env : Environment) : Piece → Except String (List Char)
  | .char c => .ok [c]
  | .placeholder name default? =>
    match Keyring.valueOf? (String.ofList name) env with
    | some value => .ok value.toList
    | none =>
      match default? with
      | some text => .ok text
      | none => .error (String.ofList name)

def isComment (line : List Char) : Bool :=
  (Text.stripLeft line).head? == some '#'

/-- A line with its placeholders replaced. -/
def line (env : Environment) (cs : List Char) : Except String (List Char) :=
  if isComment cs then .ok cs
  else ((pieces cs).mapM (substitute env)).map List.flatten

/-- A text with its placeholders replaced, line by line. -/
def interpolate (env : Environment) (text : String) : Except Fault String :=
  match (Text.splitOn '\n' text.toList).mapM (line env) with
  | .ok lines => .ok (String.ofList (List.intercalate ['\n'] lines))
  | .error name => .error (.value ("Environment variable " ++ name ++ " is not set"))

/-- The names of the variables that a text refers to. -/
def mentioned (text : String) : List String :=
  (pieces text.toList).filterMap fun
    | .placeholder name _ => some (String.ofList name)
    | .char _ => none

end TokenBroker.Interpolation
