import Mathlib.Data.List.Forall2
import TokenBroker.Config.Interpolation
import TokenBroker.Proofs.Except
import TokenBroker.Proofs.Text.Split

/-!
# What placeholders become

How a text reads is said here without a scanner: line by line, a comment as it stands, and any other
line from left to right, with a placeholder wherever one begins (`TextReads`). A text reads in one
way, and the environment has no part in that. What comes out of it is what its pieces become, one by
one and all at once (`interpolate_simultaneous`), so a value that takes the place of a placeholder
is not looked at again, whatever it holds.
-/

namespace TokenBroker.Interpolation

variable {env : Environment}

/-! ### Placeholders -/

/-- A placeholder as it can be written: its name is that of a variable, and its default, if it has
one, goes up to the brace that closes it. -/
def Piece.IsPlaceholder : Piece → Prop
  | .char _ => False
  | .placeholder name default? =>
    SecretReference.isVariable name = true ∧ ∀ text, default? = some text → '\x7d' ∉ text

/-- The end of a placeholder, after its name, as it is written. -/
def writtenEnd : Option (List Char) → List Char
  | none => ['\x7d']
  | some text => ':' :: '-' :: text ++ ['\x7d']

theorem written_placeholder (name : List Char) (default? : Option (List Char)) :
    (Piece.placeholder name default?).written = '$' :: '\x7b' :: name ++ writtenEnd default? := by
  cases default? <;> simp [Piece.written, writtenEnd]

theorem placeholderEnd?_eq_some_iff {cs after : List Char} {default? : Option (List Char)} :
    placeholderEnd? cs = some (default?, after) ↔
      cs = writtenEnd default? ++ after ∧ ∀ text, default? = some text → '\x7d' ∉ text := by
  constructor
  · intro h
    unfold placeholderEnd? at h
    split at h
    · cases h
      exact ⟨rfl, fun _ htext ↦ by cases htext⟩
    · rename_i rest
      split at h
      · cases h
      · rename_i last later hlast
        cases h
        have hbrace : last = '\x7d' := by
          have hhead := List.head?_dropWhile_not (· != '\x7d') rest
          rw [hlast] at hhead
          simpa using hhead
        have hrest := List.takeWhile_append_dropWhile (p := (· != '\x7d')) (l := rest)
        rw [hlast, hbrace] at hrest
        refine ⟨?_, fun text htext ↦ ?_⟩
        · simp [writtenEnd, hrest]
        · cases htext
          exact fun hmem ↦ by simpa using List.mem_takeWhile_imp hmem
    · cases h
  · rintro ⟨rfl, hdefault⟩
    cases default? with
    | none => rfl
    | some text =>
      have hrun : ∀ c ∈ text, (c != '\x7d') = true := fun c hc ↦
        bne_iff_ne.2 fun heq ↦ hdefault text rfl (heq ▸ hc)
      simp [writtenEnd, placeholderEnd?, List.takeWhile_append_of_pos hrun,
        List.dropWhile_append_of_pos hrun]

theorem isNamePart_of_isVariable {name : List Char}
    (h : SecretReference.isVariable name = true) :
    ∀ c ∈ name, SecretReference.isNamePart c = true := by
  cases name with
  | nil => cases h
  | cons first rest =>
    rw [SecretReference.isVariable, Bool.and_eq_true, List.all_eq_true] at h
    refine List.forall_mem_cons.2 ⟨?_, h.2⟩
    rw [SecretReference.isNamePart, h.1, Bool.true_or]

/-- What ends a placeholder is no part of its name. -/
theorem exists_writtenEnd_cons (default? : Option (List Char)) :
    ∃ c rest, writtenEnd default? = c :: rest ∧ SecretReference.isNamePart c = false := by
  cases default? with
  | none => exact ⟨_, _, rfl, by decide⟩
  | some text => exact ⟨_, _, rfl, by decide⟩

/-- **What is read as a placeholder is one, as it is written.** -/
theorem placeholder?_eq_some_iff {cs after : List Char} {piece : Piece} :
    placeholder? cs = some (piece, after) ↔ piece.IsPlaceholder ∧ cs = piece.written ++ after := by
  constructor
  · intro h
    unfold placeholder? at h
    split at h
    · rename_i rest
      dsimp only at h
      split at h
      · rename_i hname
        obtain ⟨⟨default?, later⟩, hend, heq⟩ := Option.map_eq_some_iff.1 h
        cases heq
        obtain ⟨hrest, hdefault⟩ := placeholderEnd?_eq_some_iff.1 hend
        refine ⟨⟨hname, hdefault⟩, ?_⟩
        rw [written_placeholder, List.append_assoc, ← hrest, List.cons_append, List.cons_append,
          List.takeWhile_append_dropWhile]
      · cases h
    · cases h
  · rintro ⟨hpiece, rfl⟩
    cases piece with
    | char c => exact hpiece.elim
    | placeholder name default? =>
      obtain ⟨hname, hdefault⟩ := hpiece
      obtain ⟨c, rest, hcons, hc⟩ := exists_writtenEnd_cons default?
      have hspan : (name ++ c :: (rest ++ after)).span SecretReference.isNamePart =
          (name, c :: (rest ++ after)) :=
        Text.span_append_cons (isNamePart_of_isVariable hname) hc
      rw [List.span_eq_takeWhile_dropWhile, ← List.cons_append, ← hcons, Prod.mk.injEq] at hspan
      rw [written_placeholder, List.append_assoc, List.cons_append, List.cons_append, placeholder?]
      simp only [hspan, hname, if_true]
      rw [placeholderEnd?_eq_some_iff.2 ⟨rfl, hdefault⟩]
      rfl

/-! ### How a text reads -/

/-- How a line reads that is no comment: from left to right, as a placeholder where one begins and
as a character where none does. -/
inductive Reads : List Char → List Piece → Prop
  | nil : Reads [] []
  | placeholder {piece : Piece} {after : List Char} {pieces : List Piece}
      (hpiece : piece.IsPlaceholder) (hafter : Reads after pieces) :
      Reads (piece.written ++ after) (piece :: pieces)
  | char {c : Char} {rest : List Char} {pieces : List Piece}
      (hnone : ∀ piece : Piece, piece.IsPlaceholder → ¬ piece.written <+: c :: rest)
      (hrest : Reads rest pieces) : Reads (c :: rest) (.char c :: pieces)

/-- The first character of the line that is not blank is `#`. -/
def IsCommentLine (line : List Char) : Prop :=
  ∃ blanks rest, line = blanks ++ '#' :: rest ∧ ∀ c ∈ blanks, Text.isBlank c = true

/-- How a line reads: a comment as its characters. -/
inductive LineReads (line : List Char) : List Piece → Prop
  | comment (h : IsCommentLine line) : LineReads line (line.map .char)
  | other {pieces : List Piece} (h : ¬ IsCommentLine line) (hreads : Reads line pieces) :
      LineReads line pieces

/-- How a text reads: line by line. -/
inductive TextReads : List Char → List Piece → Prop
  | last {line : List Char} {pieces : List Piece} (hline : '\n' ∉ line)
      (hreads : LineReads line pieces) : TextReads line pieces
  | more {line text : List Char} {pieces later : List Piece} (hline : '\n' ∉ line)
      (hreads : LineReads line pieces) (hlater : TextReads text later) :
      TextReads (line ++ '\n' :: text) (pieces ++ .char '\n' :: later)

/-- Nothing is lost in reading. -/
theorem Reads.written {cs : List Char} {pieces : List Piece} (h : Reads cs pieces) :
    pieces.flatMap Piece.written = cs := by
  induction h with
  | nil => rfl
  | placeholder _ _ ih => rw [List.flatMap_cons, ih]
  | char _ _ ih => rw [List.flatMap_cons, ih]; rfl

theorem flatMap_written_chars (cs : List Char) :
    (cs.map Piece.char).flatMap Piece.written = cs := by
  induction cs with
  | nil => rfl
  | cons c rest ih => rw [List.map_cons, List.flatMap_cons, ih]; rfl

theorem TextReads.written {text : List Char} {pieces : List Piece} (h : TextReads text pieces) :
    pieces.flatMap Piece.written = text := by
  have hlines {line : List Char} {pieces : List Piece} (hreads : LineReads line pieces) :
      pieces.flatMap Piece.written = line := by
    cases hreads with
    | comment => exact flatMap_written_chars line
    | other _ hreads => exact hreads.written
  induction h with
  | last _ hreads => exact hlines hreads
  | more _ hreads _ ih =>
    rw [List.flatMap_append, List.flatMap_cons, hlines hreads, ih]
    rfl

/-! ### Every text reads in one way -/

theorem pieces_of_placeholder {cs after : List Char} {piece : Piece}
    (h : placeholder? cs = some (piece, after)) : pieces cs = piece :: pieces after := by
  cases cs with
  | nil => cases h
  | cons c rest =>
    rw [pieces]
    split
    · rename_i found _ hfound
      rw [hfound] at h
      cases h
      rfl
    · rename_i hfound
      rw [hfound] at h
      cases h

theorem pieces_of_char {c : Char} {rest : List Char} (h : placeholder? (c :: rest) = none) :
    pieces (c :: rest) = .char c :: pieces rest := by
  rw [pieces]
  split
  · rename_i hfound
    rw [hfound] at h
    cases h
  · rfl

/-- No placeholder is read where none begins. -/
theorem placeholder?_eq_none_iff {cs : List Char} :
    placeholder? cs = none ↔ ∀ piece : Piece, piece.IsPlaceholder → ¬ piece.written <+: cs := by
  constructor
  · rintro h piece hpiece ⟨after, rfl⟩
    rw [placeholder?_eq_some_iff.2 ⟨hpiece, rfl⟩] at h
    cases h
  · intro h
    refine Option.eq_none_iff_forall_not_mem.2 fun ⟨piece, after⟩ hfound ↦ ?_
    obtain ⟨hpiece, rfl⟩ := placeholder?_eq_some_iff.1 hfound
    exact h piece hpiece (List.prefix_append _ _)

theorem reads_pieces (cs : List Char) : Reads cs (pieces cs) := by
  induction cs using pieces.induct with
  | case1 => simpa only [pieces] using Reads.nil
  | case2 c rest piece after hfound ih =>
    rw [pieces_of_placeholder hfound]
    obtain ⟨hpiece, hcs⟩ := placeholder?_eq_some_iff.1 hfound
    rw [hcs]
    exact .placeholder hpiece ih
  | case3 c rest hfound ih =>
    rw [pieces_of_char hfound]
    exact .char (placeholder?_eq_none_iff.1 hfound) ih

/-- **A line reads as its pieces, and in no other way.** -/
theorem reads_iff {cs : List Char} {found : List Piece} : Reads cs found ↔ found = pieces cs := by
  constructor
  · intro h
    induction h with
    | nil => simp only [pieces]
    | placeholder hpiece _ ih =>
      rw [pieces_of_placeholder (placeholder?_eq_some_iff.2 ⟨hpiece, rfl⟩), ih]
    | char hnone _ ih => rw [pieces_of_char (placeholder?_eq_none_iff.2 hnone), ih]
  · rintro rfl
    exact reads_pieces cs

theorem isComment_eq_true_iff {line : List Char} : isComment line = true ↔ IsCommentLine line := by
  rw [isComment, beq_iff_eq]
  constructor
  · intro h
    obtain ⟨rest, hrest⟩ := List.head?_eq_some_iff.1 h
    refine ⟨line.takeWhile Text.isBlank, rest, ?_, fun c hc ↦ List.mem_takeWhile_imp hc⟩
    rw [← hrest, Text.stripLeft, List.takeWhile_append_dropWhile]
  · rintro ⟨blanks, rest, rfl, hblanks⟩
    rw [Text.stripLeft, List.dropWhile_append_of_pos hblanks,
      List.dropWhile_cons_of_neg (by decide)]
    rfl

/-- The pieces of a line, which for a comment are its characters. -/
def linePieces (line : List Char) : List Piece :=
  if isComment line then line.map .char else pieces line

theorem lineReads_iff {line : List Char} {found : List Piece} :
    LineReads line found ↔ found = linePieces line := by
  rw [linePieces]
  constructor
  · rintro (hcomment | ⟨hcomment, hreads⟩)
    · rw [if_pos (isComment_eq_true_iff.2 hcomment)]
    · rw [if_neg (fun h ↦ hcomment (isComment_eq_true_iff.1 h)), reads_iff.1 hreads]
  · rintro rfl
    split
    · exact .comment (isComment_eq_true_iff.1 ‹_›)
    · exact .other (fun h ↦ ‹¬ _› (isComment_eq_true_iff.2 h)) (reads_pieces line)

/-- The pieces of some lines with line feeds between them. -/
def joinedPieces (lines : List (List Char)) : List Piece :=
  List.intercalate [.char '\n'] (lines.map linePieces)

theorem joinedPieces_cons_cons (line next : List Char) (rest : List (List Char)) :
    joinedPieces (line :: next :: rest) =
      linePieces line ++ .char '\n' :: joinedPieces (next :: rest) := by
  simp only [joinedPieces, List.map_cons]
  rw [List.intercalate_cons_cons, List.append_assoc, List.singleton_append]

theorem textReads_joined {lines : List (List Char)} (hne : lines ≠ [])
    (h : ∀ line ∈ lines, '\n' ∉ line) :
    TextReads (List.intercalate ['\n'] lines) (joinedPieces lines) := by
  induction lines with
  | nil => exact absurd rfl hne
  | cons line rest ih =>
    obtain ⟨hline, hrest⟩ := List.forall_mem_cons.1 h
    cases rest with
    | nil => simpa [joinedPieces, List.intercalate] using TextReads.last hline (lineReads_iff.2 rfl)
    | cons next rest =>
      rw [List.intercalate_cons_cons, joinedPieces_cons_cons, List.append_assoc,
        List.singleton_append]
      exact .more hline (lineReads_iff.2 rfl) (ih (List.cons_ne_nil _ _) hrest)

/-- **A text reads as the pieces of its lines, and in no other way.** -/
theorem textReads_iff {text : List Char} {found : List Piece} :
    TextReads text found ↔ found = joinedPieces (Text.splitOn '\n' text) := by
  constructor
  · intro h
    induction h with
    | last hline hreads =>
      rw [Text.splitOn_of_notMem hline, lineReads_iff.1 hreads]
      simp [joinedPieces, List.intercalate]
    | @more line text _ later hline hreads _ ih =>
      have hsplit : Text.splitOn '\n' (line ++ '\n' :: text) = line :: Text.splitOn '\n' text := by
        have hone := Text.splitOn_of_notMem hline
        rw [Text.splitOn_eq] at hone ⊢
        rw [List.splitOn_append_cons_self, hone, Text.splitOn_eq, List.singleton_append]
      obtain ⟨next, rest, hcons⟩ := List.exists_cons_of_ne_nil
        (fun hnil ↦ List.splitOn_ne_nil '\n' text (Text.splitOn_eq _ _ ▸ hnil))
      rw [hsplit, hcons, joinedPieces_cons_cons, ← hcons, ← ih, lineReads_iff.1 hreads]
  · rintro rfl
    have hne : Text.splitOn '\n' text ≠ [] := by
      rw [Text.splitOn_eq]
      exact List.splitOn_ne_nil _ _
    have hback : List.intercalate ['\n'] (Text.splitOn '\n' text) = text := by
      rw [Text.splitOn_eq, List.intercalate_splitOn]
    have hreads := textReads_joined hne fun line hline ↦ (Text.of_mem_splitOn hline).1
    rwa [hback] at hreads

/-! ### Replacing -/

/-- The value of a variable, if it is set. -/
def value? (env : Environment) (name : List Char) : Option (List Char) :=
  (Keyring.valueOf? (String.ofList name) env).map String.toList

/-- What a piece becomes: a placeholder its value, or else its default. -/
def Piece.becomes (env : Environment) : Piece → List Char
  | .char c => [c]
  | .placeholder name default? => (value? env name).getD (default?.getD [])

/-- The variables that some pieces cannot do without are set. -/
def Satisfied (env : Environment) (pieces : List Piece) : Prop :=
  ∀ name, .placeholder name none ∈ pieces → value? env name ≠ none

/-- The first variable that is not set, of those that some pieces cannot do without. -/
def FirstUnset (env : Environment) (pieces : List Piece) (name : List Char) : Prop :=
  value? env name = none ∧
    ∃ before after, pieces = before ++ .placeholder name none :: after ∧ Satisfied env before

/-- Pieces replaced one by one. -/
def substituteAll (env : Environment) (pieces : List Piece) : Except String (List Char) :=
  (pieces.mapM (substitute env)).map List.flatten

theorem substitute_eq_ok_iff {piece : Piece} {cs : List Char} :
    substitute env piece = .ok cs ↔ Satisfied env [piece] ∧ cs = piece.becomes env := by
  cases piece with
  | char c => simp [substitute, Satisfied, Piece.becomes, eq_comm]
  | placeholder name default? =>
    cases hvalue : Keyring.valueOf? (String.ofList name) env <;> cases default? <;>
      simp [substitute, Satisfied, Piece.becomes, value?, hvalue, eq_comm]

theorem substitute_eq_error_iff {piece : Piece} {missing : String} :
    substitute env piece = .error missing ↔
      ∃ name, piece = .placeholder name none ∧ value? env name = none ∧
        missing = String.ofList name := by
  cases piece with
  | char c => simp [substitute]
  | placeholder name default? =>
    cases hvalue : Keyring.valueOf? (String.ofList name) env <;> cases default? <;>
      simp [substitute, value?, hvalue, eq_comm]

theorem substituteAll_cons_of_ok {piece : Piece} {pieces : List Piece} {cs : List Char}
    (h : substitute env piece = .ok cs) :
    substituteAll env (piece :: pieces) = (substituteAll env pieces).map (cs ++ ·) := by
  rw [substituteAll, substituteAll, List.mapM_cons, h]
  cases pieces.mapM (substitute env) <;> rfl

theorem substituteAll_cons_of_error {piece : Piece} {pieces : List Piece} {missing : String}
    (h : substitute env piece = .error missing) :
    substituteAll env (piece :: pieces) = .error missing := by
  rw [substituteAll, List.mapM_cons, h]
  rfl

theorem satisfied_cons_iff {piece : Piece} {pieces : List Piece} :
    Satisfied env (piece :: pieces) ↔ Satisfied env [piece] ∧ Satisfied env pieces := by
  simp only [Satisfied, List.mem_cons, List.not_mem_nil, or_false, or_imp, forall_and]

/-- **Pieces are replaced together where no variable is missing.** -/
theorem substituteAll_eq_ok_iff {pieces : List Piece} {cs : List Char} :
    substituteAll env pieces = .ok cs ↔
      Satisfied env pieces ∧ cs = pieces.flatMap (·.becomes env) := by
  induction pieces generalizing cs with
  | nil => simp [substituteAll, Satisfied, eq_comm, Except.map, pure, Except.pure]
  | cons piece rest ih =>
    rw [satisfied_cons_iff, List.flatMap_cons]
    cases hpiece : substitute env piece with
    | ok first =>
      obtain ⟨hsatisfied, rfl⟩ := substitute_eq_ok_iff.1 hpiece
      rw [substituteAll_cons_of_ok hpiece, and_iff_right hsatisfied]
      cases hrest : substituteAll env rest with
      | ok later =>
        obtain ⟨hlater, rfl⟩ := ih.1 hrest
        simp [Except.map, hlater, eq_comm]
      | error missing =>
        have hunsatisfied : ¬ Satisfied env rest := fun h ↦ by
          rw [ih.2 ⟨h, rfl⟩] at hrest
          cases hrest
        simp [Except.map, hunsatisfied]
    | error missing =>
      have hunsatisfied : ¬ Satisfied env [piece] := fun h ↦ by
        rw [substitute_eq_ok_iff.2 ⟨h, rfl⟩] at hpiece
        cases hpiece
      simp [substituteAll_cons_of_error hpiece, hunsatisfied]

theorem satisfied_iff {pieces : List Piece} :
    Satisfied env pieces ↔ ∀ piece ∈ pieces, ∃ cs, substitute env piece = .ok cs := by
  simp only [substitute_eq_ok_iff, exists_and_left, exists_eq, and_true]
  simp only [Satisfied, List.mem_singleton]
  constructor
  · exact fun h piece hpiece name hname ↦ h name (hname ▸ hpiece)
  · exact fun h name hname ↦ h _ hname name rfl

/-- **Where a variable is missing, the first one is reported.** -/
theorem substituteAll_eq_error_iff {pieces : List Piece} {missing : String} :
    substituteAll env pieces = .error missing ↔
      ∃ name, FirstUnset env pieces name ∧ missing = String.ofList name := by
  have hmap : substituteAll env pieces = .error missing ↔
      pieces.mapM (substitute env) = .error missing := by
    rw [substituteAll]
    cases pieces.mapM (substitute env) <;> simp [Except.map]
  rw [hmap, Except.mapM_eq_error_iff]
  constructor
  · rintro ⟨before, piece, after, rfl, hbefore, hpiece⟩
    obtain ⟨name, rfl, hunset, rfl⟩ := substitute_eq_error_iff.1 hpiece
    exact ⟨name, ⟨hunset, before, after, rfl, satisfied_iff.2 hbefore⟩, rfl⟩
  · rintro ⟨name, ⟨hunset, before, after, rfl, hbefore⟩, rfl⟩
    exact ⟨before, _, after, rfl, satisfied_iff.1 hbefore,
      substitute_eq_error_iff.2 ⟨name, rfl, hunset, rfl⟩⟩

/-! ### Texts -/

theorem substituteAll_append (pieces later : List Piece) :
    substituteAll env (pieces ++ later) = do
      let first ← substituteAll env pieces
      let second ← substituteAll env later
      return first ++ second := by
  rw [substituteAll, substituteAll, substituteAll, List.mapM_append]
  cases pieces.mapM (substitute env) with
  | error missing => rfl
  | ok first =>
    cases later.mapM (substitute env) with
    | error missing => rfl
    | ok second => exact congrArg Except.ok List.flatten_append

theorem line_eq (cs : List Char) : line env cs = substituteAll env (linePieces cs) := by
  rw [line, linePieces]
  split
  · symm
    rw [substituteAll_eq_ok_iff]
    simp [Satisfied, Piece.becomes, List.flatMap_map]
  · rfl

/-- Lines are replaced as the pieces of the whole text are. -/
theorem mapM_line (lines : List (List Char)) :
    (lines.mapM (line env)).map (List.intercalate ['\n']) =
      substituteAll env (joinedPieces lines) := by
  induction lines with
  | nil => rfl
  | cons first rest ih =>
    rw [List.mapM_cons, line_eq]
    cases rest with
    | nil =>
      simp only [joinedPieces, List.map_cons, List.map_nil, List.intercalate_singleton,
        List.mapM_nil]
      cases substituteAll env (linePieces first) with
      | error missing => rfl
      | ok cs => exact congrArg Except.ok List.intercalate_singleton
    | cons next rest =>
      have hfeed : substitute env (.char '\n') = .ok ['\n'] := rfl
      rw [joinedPieces_cons_cons, substituteAll_append, substituteAll_cons_of_ok hfeed, ← ih]
      cases substituteAll env (linePieces first) with
      | error missing => rfl
      | ok cs =>
        cases hrest : (next :: rest).mapM (line env) with
        | error missing => rfl
        | ok found =>
          rw [List.mapM_cons, Except.bind_eq_ok_iff] at hrest
          obtain ⟨second, -, hrest⟩ := hrest
          obtain ⟨later, -, hdone⟩ := Except.bind_eq_ok_iff.1 hrest
          cases hdone
          refine congrArg Except.ok ?_
          rw [List.intercalate_cons_cons, List.append_assoc]

/-- How a text reads. -/
def textPieces (text : String) : List Piece :=
  joinedPieces (Text.splitOn '\n' text.toList)

theorem interpolate_eq_ok_iff {text result : String} :
    interpolate env text = .ok result ↔
      substituteAll env (textPieces text) = .ok result.toList := by
  rw [interpolate, textPieces, ← mapM_line]
  cases (Text.splitOn '\n' text.toList).mapM (line env) <;>
    simp [Except.map, ← String.toList_inj]

theorem interpolate_eq_error_iff {text : String} {fault : Fault} :
    interpolate env text = .error fault ↔
      ∃ name, substituteAll env (textPieces text) = .error name ∧
        fault = .value ("Environment variable " ++ name ++ " is not set") := by
  rw [interpolate, textPieces, ← mapM_line]
  cases (Text.splitOn '\n' text.toList).mapM (line env) <;> simp [Except.map, eq_comm]

/-- **Placeholders are replaced all at once.** A text reads in one way, whatever the environment,
and nothing of it is lost. It becomes what its pieces become, if the variables without a default
are set; and otherwise the first of them that is not set is reported. -/
theorem interpolate_simultaneous (text : String) :
    ∃ pieces, (∀ found, TextReads text.toList found ↔ found = pieces) ∧
      pieces.flatMap Piece.written = text.toList ∧ ∀ env,
        (∀ result, interpolate env text = .ok result ↔
          Satisfied env pieces ∧ result.toList = pieces.flatMap (·.becomes env)) ∧
        ∀ fault, interpolate env text = .error fault ↔ ∃ name, FirstUnset env pieces name ∧
          fault = .value ("Environment variable " ++ String.ofList name ++ " is not set") := by
  refine ⟨textPieces text, fun _ ↦ textReads_iff, (textReads_iff.2 rfl).written, fun env ↦
    ⟨fun result ↦ interpolate_eq_ok_iff.trans substituteAll_eq_ok_iff, fun fault ↦ ?_⟩⟩
  rw [interpolate_eq_error_iff]
  constructor
  · rintro ⟨missing, hmissing, rfl⟩
    obtain ⟨name, hfirst, rfl⟩ := substituteAll_eq_error_iff.1 hmissing
    exact ⟨name, hfirst, rfl⟩
  · rintro ⟨name, hfirst, rfl⟩
    exact ⟨_, substituteAll_eq_error_iff.2 ⟨name, hfirst, rfl⟩, rfl⟩

end TokenBroker.Interpolation
