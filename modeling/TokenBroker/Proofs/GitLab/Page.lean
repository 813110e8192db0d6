import TokenBroker.GitLab.Page
import TokenBroker.Proofs.Text.Split

/-!
# What is found in pages

A search through a page has no answer exactly if no place of the page has what is searched for, and
what it finds is at such a place. The places of a text are its ends, and those of a tag are the ends
of what follows, up to and with the first `>`.
-/

namespace TokenBroker.Page

variable {α : Type} {reader : List Char → Option α} {cs : List Char}

/-! ### Places of a text -/

theorem first?_eq_none_iff :
    first? reader cs = none ↔ ∀ rest, rest <:+ cs → reader rest = none := by
  induction cs with
  | nil => simp [first?]
  | cons c rest ih =>
    simp only [List.suffix_cons_iff, forall_eq_or_imp, ← ih, first?]
    cases reader (c :: rest) <;> simp

theorem exists_of_first? {found : α} (h : first? reader cs = some found) :
    ∃ rest, rest <:+ cs ∧ reader rest = some found := by
  induction cs with
  | nil => exact ⟨[], List.suffix_refl [], h⟩
  | cons c rest ih =>
    rw [first?] at h
    split at h
    · rename_i hfound
      cases h
      exact ⟨c :: rest, List.suffix_refl _, hfound⟩
    · obtain ⟨place, hplace, hfound⟩ := ih h
      exact ⟨place, hplace.trans (List.suffix_cons c rest), hfound⟩

/-! ### Places of a tag -/

/-- An end of the rest of a tag: no `>` is before it. -/
def InTag (cs place : List Char) : Prop :=
  ∃ before, cs = before ++ place ∧ '>' ∉ before

theorem inTag_refl (cs : List Char) : InTag cs cs :=
  ⟨[], rfl, List.not_mem_nil⟩

theorem inTag_cons_iff {c : Char} {place : List Char} :
    InTag (c :: cs) place ↔ place = c :: cs ∨ c ≠ '>' ∧ InTag cs place := by
  constructor
  · rintro ⟨_ | ⟨d, before⟩, hcs, hbefore⟩
    · exact .inl hcs.symm
    · cases hcs
      rw [List.mem_cons, not_or] at hbefore
      exact .inr ⟨fun hc ↦ hbefore.1 hc.symm, before, rfl, hbefore.2⟩
  · rintro (rfl | ⟨hc, before, rfl, hbefore⟩)
    · exact inTag_refl _
    · refine ⟨c :: before, rfl, ?_⟩
      rw [List.mem_cons, not_or]
      exact ⟨fun h ↦ hc h.symm, hbefore⟩

theorem lastInTag?_eq_none_iff :
    lastInTag? reader cs = none ↔ ∀ place, InTag cs place → reader place = none := by
  induction cs with
  | nil => simp [lastInTag?, InTag]
  | cons c rest ih =>
    simp only [inTag_cons_iff, or_imp, forall_and, forall_eq, lastInTag?]
    by_cases hc : c = '>'
    · simp [hc]
    · simp only [hc, if_false, not_false_eq_true, ne_eq, true_and, ← ih]
      cases lastInTag? reader rest <;> simp

theorem exists_of_lastInTag? {found : α} (h : lastInTag? reader cs = some found) :
    ∃ place, InTag cs place ∧ reader place = some found := by
  induction cs with
  | nil => exact ⟨[], inTag_refl [], h⟩
  | cons c rest ih =>
    rw [lastInTag?] at h
    split at h
    · exact ⟨c :: rest, inTag_refl _, h⟩
    · rename_i hc
      split at h
      · rename_i hlater
        cases h
        obtain ⟨place, hplace, hfound⟩ := ih hlater
        exact ⟨place, inTag_cons_iff.2 (.inr ⟨hc, hplace⟩), hfound⟩
      · exact ⟨c :: rest, inTag_refl _, h⟩

/-! ### Values -/

/-- The text begins with a run of characters other than the double quote, at least one, and a
double quote. -/
def OpensRun (cs : List Char) (run : String) : Prop :=
  ∃ after, cs = run.toList ++ '"' :: after ∧ run ≠ "" ∧ '"' ∉ run.toList

theorem quotedRun?_eq_some_iff {run : String} : quotedRun? cs = some run ↔ OpensRun cs run := by
  constructor
  · intro h
    rw [quotedRun?] at h
    split at h
    · rename_i c others after hspan
      cases h
      rw [List.span_eq_takeWhile_dropWhile, Prod.mk.injEq] at hspan
      obtain ⟨hrun, hafter⟩ := hspan
      refine ⟨after, ?_, by simp [← String.toList_inj], ?_⟩
      · rw [String.toList_ofList, ← hrun, ← hafter, List.takeWhile_append_dropWhile]
      · rw [String.toList_ofList, ← hrun]
        intro hquote
        simpa using List.mem_takeWhile_imp hquote
    · cases h
  · rintro ⟨after, rfl, hrun, hquote⟩
    have hspan : (run.toList ++ '"' :: after).span (· != '"') = (run.toList, '"' :: after) :=
      Text.span_append_cons (by simpa using fun d hd (heq : d = '"') ↦ hquote (heq ▸ hd)) (by simp)
    rw [quotedRun?, hspan]
    cases hlist : run.toList with
    | nil => exact absurd (String.toList_eq_nil_iff.1 hlist) hrun
    | cons c others =>
      have hback : String.ofList (c :: others) = run := by rw [← hlist, String.ofList_toList]
      exact congrArg some hback

theorem quotedRun?_eq_none_iff : quotedRun? cs = none ↔ ∀ run, ¬ OpensRun cs run := by
  simp only [← quotedRun?_eq_some_iff, Option.eq_none_iff_forall_not_mem, Option.mem_def]

/-- The rest of a tag has a value. -/
def HasValue (cs : List Char) (run : String) : Prop :=
  ∃ text, InTag cs (valueStart ++ text) ∧ OpensRun text run

/-- An input tag with one of some attributes and a value after it. -/
def HasInput (attributes : List (List Char)) (cs : List Char) (run : String) : Prop :=
  ∃ tag, cs = "<input".toList ++ tag ∧ ∃ mark ∈ attributes, ∃ rest,
    InTag tag (mark ++ rest) ∧ HasValue rest run

theorem hasValue_of_lastValue? {run : String} (h : lastValue? cs = some run) : HasValue cs run := by
  obtain ⟨place, hplace, hread⟩ := exists_of_lastInTag? h
  obtain ⟨text, htext, hrun⟩ := Option.bind_eq_some_iff.1 hread
  rw [Text.dropStart?_eq_some_iff.1 htext] at hplace
  exact ⟨text, hplace, quotedRun?_eq_some_iff.1 hrun⟩

theorem lastValue?_eq_none_iff : lastValue? cs = none ↔ ∀ run, ¬ HasValue cs run := by
  constructor
  · rintro h run ⟨text, hplace, hrun⟩
    have hread := lastInTag?_eq_none_iff.1 h _ hplace
    rw [Text.dropStart?_eq_some_iff.2 rfl, Option.bind_some] at hread
    exact quotedRun?_eq_none_iff.1 hread run hrun
  · intro h
    refine Option.eq_none_iff_forall_not_mem.2 fun run hrun ↦ h run (hasValue_of_lastValue? hrun)

theorem hasInput_of_inputValue? {attributes : List (List Char)} {run : String}
    (h : inputValue? attributes cs = some run) : HasInput attributes cs run := by
  obtain ⟨tag, htag, hlast⟩ := Option.bind_eq_some_iff.1 h
  obtain ⟨place, hplace, hread⟩ := exists_of_lastInTag? hlast
  obtain ⟨rest, hrest, hvalue⟩ := Option.bind_eq_some_iff.1 hread
  obtain ⟨mark, hmark, hdrop⟩ := List.exists_of_findSome?_eq_some hrest
  rw [Text.dropStart?_eq_some_iff.1 hdrop] at hplace
  exact ⟨tag, Text.dropStart?_eq_some_iff.1 htag, mark, hmark, rest, hplace,
    hasValue_of_lastValue? hvalue⟩

/-- Where no attribute begins another one, a tag is only passed over if it has no value after any of
the attributes. -/
theorem inputValue?_eq_none_iff {attributes : List (List Char)}
    (hapart : ∀ first ∈ attributes, ∀ second ∈ attributes, first <+: second → first = second) :
    inputValue? attributes cs = none ↔ ∀ run, ¬ HasInput attributes cs run := by
  constructor
  · rintro h run ⟨tag, rfl, mark, hmark, rest, hplace, hvalue⟩
    rw [inputValue?, Text.dropStart?_eq_some_iff.2 rfl] at h
    have hread := lastInTag?_eq_none_iff.1 h _ hplace
    have hfound : attributes.findSome? (Text.dropStart? · (mark ++ rest)) = some rest := by
      refine List.findSome?_eq_some_of_forall hmark (Text.dropStart?_eq_some_iff.2 rfl)
        fun other hother found hdrop ↦ ?_
      -- both attributes begin the same text, so one begins the other
      have heq : mark ++ rest = other ++ found := Text.dropStart?_eq_some_iff.1 hdrop
      have hsame : mark = other := by
        rcases List.prefix_or_prefix_of_prefix (heq ▸ List.prefix_append mark rest)
          (List.prefix_append other found) with hbegins | hbegins
        · exact hapart mark hmark other hother hbegins
        · exact (hapart other hother mark hmark hbegins).symm
      rw [hsame, List.append_cancel_left_eq] at heq
      exact heq.symm
    rw [hfound] at hread
    exact lastValue?_eq_none_iff.1 hread run hvalue
  · intro h
    exact Option.eq_none_iff_forall_not_mem.2 fun run hrun ↦ h run (hasInput_of_inputValue? hrun)

/-! ### The new token -/

/-- The page shows a value in a tag for the new token. -/
def Shows (page token : String) : Prop :=
  ∃ place, place <:+ page.toList ∧ HasInput ["id=\"created-personal-access-token\"".toList,
    "name=\"created-personal-access-token\"".toList] place token

theorem shows_of_createdToken? {page token : String} (h : createdToken? page = some token) :
    Shows page token := by
  obtain ⟨place, hplace, hread⟩ := exists_of_first? h
  exact ⟨place, hplace, hasInput_of_inputValue? hread⟩

theorem createdToken?_eq_none_iff {page : String} :
    createdToken? page = none ↔ ∀ token, ¬ Shows page token := by
  rw [createdToken?, first?_eq_none_iff]
  constructor
  · rintro h token ⟨place, hplace, hinput⟩
    exact (inputValue?_eq_none_iff (by decide)).1 (h place hplace) token hinput
  · exact fun h place hplace ↦ (inputValue?_eq_none_iff (by decide)).2 fun token hinput ↦
      h token ⟨place, hplace, hinput⟩

/-- What a page shows is a text of one character at least, without double quotes. -/
theorem Shows.ne_empty {page token : String} (h : Shows page token) : token ≠ "" := by
  obtain ⟨-, -, -, -, -, -, -, -, -, -, -, -, hrun, -⟩ := h
  exact hrun

end TokenBroker.Page
