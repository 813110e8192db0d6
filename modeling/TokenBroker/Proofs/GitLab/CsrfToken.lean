import TokenBroker.Proofs.GitLab.Page

/-!
# The token against forged requests

Which token is found in a page that may have several, or tags that only look like the right ones. A
meta tag with a token counts before any input tag, wherever they stand, and the first one counts.
Else the first input tag counts in which a value follows the name, and of its values the last one
after the last name that a value follows (`csrfToken?_found`).

A place of a text is one of its ends, so that the first place is the longest end and the last one
the shortest.
-/

namespace TokenBroker.Page

variable {α : Type} {reader : List Char → Option α} {cs : List Char}

/-! ### First and last places -/

/-- The first place of a text at which something holds. -/
def FirstPlace (P : List Char → Prop) (cs place : List Char) : Prop :=
  place <:+ cs ∧ P place ∧ ∀ other, other <:+ cs → P other → other.length ≤ place.length

/-- The last place of a tag at which something holds. -/
def LastPlace (P : List Char → Prop) (tag place : List Char) : Prop :=
  InTag tag place ∧ P place ∧ ∀ other, InTag tag other → P other → place.length ≤ other.length

theorem FirstPlace.unique {P : List Char → Prop} {place place' : List Char}
    (h : FirstPlace P cs place) (h' : FirstPlace P cs place') : place = place' := by
  have hlength : place.length = place'.length :=
    Nat.le_antisymm (h'.2.2 place h.1 h.2.1) (h.2.2 place' h'.1 h'.2.1)
  exact (List.suffix_of_suffix_length_le h.1 h'.1 hlength.le).eq_of_length hlength

theorem InTag.suffix {tag place : List Char} (h : InTag tag place) : place <:+ tag := by
  obtain ⟨before, rfl, -⟩ := h
  exact List.suffix_append before place

theorem LastPlace.unique {P : List Char → Prop} {place place' : List Char}
    (h : LastPlace P cs place) (h' : LastPlace P cs place') : place = place' := by
  have hlength : place.length = place'.length :=
    Nat.le_antisymm (h.2.2 place' h'.1 h'.2.1) (h'.2.2 place h.1 h.2.1)
  exact (List.suffix_of_suffix_length_le h.1.suffix h'.1.suffix hlength.le).eq_of_length hlength

section

variable {R : List Char → α → Prop}
  (hread : ∀ place found, reader place = some found ↔ R place found)
  {found : α}

include hread

theorem firstPlace_of_first? (h : first? reader cs = some found) :
    ∃ place, FirstPlace (fun place ↦ ∃ found, R place found) cs place ∧ R place found := by
  induction cs with
  | nil =>
    have hnil := (hread [] found).1 h
    exact ⟨[], ⟨List.suffix_refl [], ⟨found, hnil⟩, fun _ hother _ ↦ hother.length_le⟩, hnil⟩
  | cons c rest ih =>
    rw [first?] at h
    split at h
    · rename_i hfound
      cases h
      have hhere := (hread _ found).1 hfound
      exact ⟨c :: rest, ⟨List.suffix_refl _, ⟨found, hhere⟩, fun _ hother _ ↦ hother.length_le⟩,
        hhere⟩
    · rename_i hnone
      obtain ⟨place, ⟨hplace, hsome, hfirst⟩, hfound⟩ := ih h
      refine ⟨place, ⟨hplace.trans (List.suffix_cons c rest), hsome, ?_⟩, hfound⟩
      rintro other hother ⟨before, hbefore⟩
      rcases List.suffix_cons_iff.1 hother with rfl | hother
      · rw [(hread _ before).2 hbefore] at hnone
        cases hnone
      · exact hfirst other hother ⟨before, hbefore⟩

/-- **A search finds what there is at the first place.** -/
theorem first?_eq_some_iff : first? reader cs = some found ↔
    ∃ place, FirstPlace (fun place ↦ ∃ found, R place found) cs place ∧ R place found := by
  refine ⟨firstPlace_of_first? hread, ?_⟩
  rintro ⟨place, hfirst, hfound⟩
  cases hsearch : first? reader cs with
  | none =>
    have hnone := first?_eq_none_iff.1 hsearch place hfirst.1
    rw [(hread place found).2 hfound] at hnone
    cases hnone
  | some other =>
    obtain ⟨place', hfirst', hother⟩ := firstPlace_of_first? hread hsearch
    rw [hfirst'.unique hfirst, ← hread, (hread place found).2 hfound] at hother
    exact hother.symm

theorem lastPlace_of_lastInTag? (h : lastInTag? reader cs = some found) :
    ∃ place, LastPlace (fun place ↦ ∃ found, R place found) cs place ∧ R place found := by
  -- a place with an answer is the last one if no place after it has one
  have honly {tag : List Char} (htag : reader tag = some found)
      (hlast : ∀ other, InTag tag other → other ≠ tag → reader other = none) :
      ∃ place, LastPlace (fun place ↦ ∃ found, R place found) tag place ∧ R place found := by
    have hhere := (hread tag found).1 htag
    refine ⟨tag, ⟨inTag_refl tag, ⟨found, hhere⟩, ?_⟩, hhere⟩
    rintro other hother ⟨later, hlater⟩
    by_cases heq : other = tag
    · rw [heq]
    · rw [← hread, hlast other hother heq] at hlater
      cases hlater
  induction cs with
  | nil =>
    exact honly h fun other hother hne ↦ absurd (List.suffix_nil.1 hother.suffix) hne
  | cons c rest ih =>
    rw [lastInTag?] at h
    split at h
    · rename_i hc
      refine honly h fun other hother hne ↦ ?_
      rcases inTag_cons_iff.1 hother with heq | ⟨hne', -⟩
      · exact absurd heq hne
      · exact absurd hc hne'
    · rename_i hc
      split at h
      · rename_i hlater
        cases h
        obtain ⟨place, ⟨hplace, hsome, hlast⟩, hfound⟩ := ih hlater
        refine ⟨place, ⟨inTag_cons_iff.2 (.inr ⟨hc, hplace⟩), hsome, ?_⟩, hfound⟩
        rintro other hother hother'
        rcases inTag_cons_iff.1 hother with rfl | ⟨-, hother⟩
        · exact hplace.suffix.length_le.trans (Nat.le_succ _)
        · exact hlast other hother hother'
      · rename_i hnone
        refine honly h fun other hother hne ↦ ?_
        rcases inTag_cons_iff.1 hother with heq | ⟨-, hother⟩
        · exact absurd heq hne
        · exact lastInTag?_eq_none_iff.1 hnone other hother

/-- **A search within a tag finds what there is at the last place.** -/
theorem lastInTag?_eq_some_iff : lastInTag? reader cs = some found ↔
    ∃ place, LastPlace (fun place ↦ ∃ found, R place found) cs place ∧ R place found := by
  refine ⟨lastPlace_of_lastInTag? hread, ?_⟩
  rintro ⟨place, hlast, hfound⟩
  cases hsearch : lastInTag? reader cs with
  | none =>
    have hnone := lastInTag?_eq_none_iff.1 hsearch place hlast.1
    rw [(hread place found).2 hfound] at hnone
    cases hnone
  | some other =>
    obtain ⟨place', hlast', hother⟩ := lastPlace_of_lastInTag? hread hsearch
    rw [hlast'.unique hlast, ← hread, (hread place found).2 hfound] at hother
    exact hother.symm

end

/-! ### Meta tags -/

/-- One blank or more. -/
def Blanks (cs : List Char) : Prop :=
  cs ≠ [] ∧ ∀ c ∈ cs, Text.isBlank c = true

/-- A meta tag with the token of the page begins the text. -/
def MetaTag (cs : List Char) (token : String) : Prop :=
  ∃ blanks blanks' text, Blanks blanks ∧ Blanks blanks' ∧ OpensRun text token ∧
    cs = "<meta".toList ++ blanks ++ "name=\"csrf-token\"".toList ++ blanks' ++
      "content=\"".toList ++ text

theorem blanks_of_afterBlanks? {rest : List Char} (h : afterBlanks? cs = some rest) :
    ∃ blanks, Blanks blanks ∧ cs = blanks ++ rest := by
  cases cs with
  | nil => cases h
  | cons c others =>
    rw [afterBlanks?] at h
    split at h
    · rename_i hc
      cases h
      refine ⟨c :: others.takeWhile Text.isBlank, ⟨List.cons_ne_nil _ _,
        List.forall_mem_cons.2 ⟨hc, fun d hd ↦ List.mem_takeWhile_imp hd⟩⟩, ?_⟩
      rw [List.cons_append, Text.stripLeft, List.takeWhile_append_dropWhile]
    · cases h

theorem afterBlanks?_append {blanks mark : List Char} (hblanks : Blanks blanks)
    (hmark : mark.head?.map Text.isBlank = some false) (rest : List Char) :
    afterBlanks? (blanks ++ (mark ++ rest)) = some (mark ++ rest) := by
  obtain ⟨hne, hall⟩ := hblanks
  cases blanks with
  | nil => exact absurd rfl hne
  | cons b blanks =>
    obtain ⟨hb, hrest⟩ := List.forall_mem_cons.1 hall
    cases mark with
    | nil => cases hmark
    | cons c mark =>
      have hstop : ¬ Text.isBlank c = true := by
        rw [Option.some.inj hmark]
        decide
      rw [List.cons_append, afterBlanks?, if_pos hb, Text.stripLeft,
        List.dropWhile_append_of_pos hrest, List.cons_append, List.dropWhile_cons_of_neg hstop]

theorem metaContent?_eq_some_iff {token : String} :
    metaContent? cs = some token ↔ MetaTag cs token := by
  constructor
  · intro h
    obtain ⟨tag, htag, hmeta⟩ := Option.bind_eq_some_iff.1 h
    obtain ⟨name, hname, hmeta⟩ := Option.bind_eq_some_iff.1 hmeta
    obtain ⟨mark, hmark, hmeta⟩ := Option.bind_eq_some_iff.1 hmeta
    obtain ⟨content, hcontent, hmeta⟩ := Option.bind_eq_some_iff.1 hmeta
    obtain ⟨text, htext, hrun⟩ := Option.bind_eq_some_iff.1 hmeta
    obtain ⟨blanks, hblanks, rfl⟩ := blanks_of_afterBlanks? hname
    obtain ⟨blanks', hblanks', rfl⟩ := blanks_of_afterBlanks? hcontent
    rw [Text.dropStart?_eq_some_iff] at htag hmark htext
    refine ⟨blanks, blanks', text, hblanks, hblanks', quotedRun?_eq_some_iff.1 hrun, ?_⟩
    rw [htag, hmark, htext]
    simp only [List.append_assoc]
  · rintro ⟨blanks, blanks', text, hblanks, hblanks', htext, rfl⟩
    have hdrop (start rest : List Char) : Text.dropStart? start (start ++ rest) = some rest :=
      Text.dropStart?_eq_some_iff.2 rfl
    have hname := afterBlanks?_append hblanks
      (show ("name=\"csrf-token\"".toList.head?.map Text.isBlank) = some false by decide)
    have hcontent := afterBlanks?_append hblanks'
      (show ("content=\"".toList.head?.map Text.isBlank) = some false by decide)
    simp only [metaContent?, List.append_assoc, hdrop, hname, hcontent, bind, Option.bind_some]
    exact quotedRun?_eq_some_iff.2 htext

/-! ### Input tags -/

/-- The attribute that names the token of a form. -/
def tokenName : List Char :=
  "name=\"authenticity_token\"".toList

/-- A value begins the text. -/
def BeginsValue (cs : List Char) : Prop :=
  ∃ text token, cs = valueStart ++ text ∧ OpensRun text token

/-- The name of the token begins the text, and a value follows in the tag. -/
def BeginsName (cs : List Char) : Prop :=
  ∃ rest token, cs = tokenName ++ rest ∧ HasValue rest token

/-- An input tag with the token of a form begins the text: a value follows the name, and the token
is the last value after the last name. -/
def InputTag (cs : List Char) (token : String) : Prop :=
  ∃ tag rest text, cs = "<input".toList ++ tag ∧ LastPlace BeginsName tag (tokenName ++ rest) ∧
    LastPlace BeginsValue rest (valueStart ++ text) ∧ OpensRun text token

theorem lastValue?_eq_some_iff {token : String} :
    lastValue? cs = some token ↔
      ∃ text, LastPlace BeginsValue cs (valueStart ++ text) ∧ OpensRun text token := by
  have hread (place : List Char) (token : String) :
      (Text.dropStart? valueStart place).bind quotedRun? = some token ↔
        ∃ text, place = valueStart ++ text ∧ OpensRun text token := by
    simp only [Option.bind_eq_some_iff, Text.dropStart?_eq_some_iff, quotedRun?_eq_some_iff]
  have hplaces : (fun place ↦ ∃ token text, place = valueStart ++ text ∧ OpensRun text token) =
      BeginsValue := funext fun _ ↦ propext exists_comm
  rw [lastValue?, lastInTag?_eq_some_iff hread, hplaces]
  constructor
  · rintro ⟨_, hlast, text, rfl, hrun⟩
    exact ⟨text, hlast, hrun⟩
  · rintro ⟨text, hlast, hrun⟩
    exact ⟨_, hlast, text, rfl, hrun⟩

/-- What answers nowhere but where there is something answers wherever there is something. -/
theorem exists_eq_some_iff {answer : Option α} {P : α → Prop} (h : answer = none ↔ ∀ a, ¬ P a) :
    (∃ a, answer = some a) ↔ ∃ a, P a := by
  rw [← not_iff_not, not_exists, not_exists, ← h, Option.eq_none_iff_forall_not_mem]
  rfl

theorem inputValue?_eq_some_iff {token : String} :
    inputValue? [tokenName] cs = some token ↔ InputTag cs token := by
  have hread (place : List Char) (token : String) :
      ([tokenName].findSome? (Text.dropStart? · place)).bind lastValue? = some token ↔
        ∃ rest, place = tokenName ++ rest ∧ lastValue? rest = some token := by
    simp only [List.findSome?_singleton, Option.bind_eq_some_iff, Text.dropStart?_eq_some_iff]
  have hplaces : (fun place ↦ ∃ token rest, place = tokenName ++ rest ∧
      lastValue? rest = some token) = BeginsName := by
    funext place
    rw [BeginsName, exists_comm]
    simp only [exists_and_left, exists_eq_some_iff lastValue?_eq_none_iff]
  simp only [inputValue?, bind, Option.bind_eq_some_iff, Text.dropStart?_eq_some_iff,
    lastInTag?_eq_some_iff hread, hplaces]
  simp only [lastValue?_eq_some_iff]
  constructor
  · rintro ⟨tag, rfl, _, hname, rest, rfl, text, hvalue, hrun⟩
    exact ⟨tag, rest, text, rfl, hname, hvalue, hrun⟩
  · rintro ⟨tag, rest, text, rfl, hname, hvalue, hrun⟩
    exact ⟨tag, rfl, _, hname, rest, rfl, text, hvalue, hrun⟩

/-! ### The token of a page -/

/-- A page has a meta tag with a token at a place. -/
def HasMetaTag (place : List Char) : Prop :=
  ∃ token, MetaTag place token

/-- A page has an input tag with a token of a form at a place. -/
def HasInputTag (place : List Char) : Prop :=
  ∃ token, HasInput [tokenName] place token

theorem metaToken?_eq_some_iff {token : String} : metaToken? cs = some token ↔
    ∃ place, FirstPlace HasMetaTag cs place ∧ MetaTag place token :=
  first?_eq_some_iff fun _ _ ↦ metaContent?_eq_some_iff

theorem metaToken?_eq_none_iff :
    metaToken? cs = none ↔ ∀ place, place <:+ cs → ¬ HasMetaTag place := by
  rw [metaToken?, first?_eq_none_iff]
  simp only [HasMetaTag, Option.eq_none_iff_forall_not_mem, Option.mem_def,
    metaContent?_eq_some_iff, not_exists]

theorem inputValue?_tokenName_eq_none_iff :
    inputValue? [tokenName] cs = none ↔ ∀ token, ¬ HasInput [tokenName] cs token :=
  inputValue?_eq_none_iff (by decide)

theorem formToken?_eq_some_iff {token : String} : formToken? cs = some token ↔
    ∃ place, FirstPlace HasInputTag cs place ∧ InputTag place token := by
  have hplaces : (fun place ↦ ∃ token, InputTag place token) = HasInputTag := by
    funext place
    rw [HasInputTag, ← exists_eq_some_iff inputValue?_tokenName_eq_none_iff]
    simp only [inputValue?_eq_some_iff]
  rw [formToken?, ← hplaces]
  exact first?_eq_some_iff fun _ _ ↦ inputValue?_eq_some_iff

theorem formToken?_eq_none_iff :
    formToken? cs = none ↔ ∀ place, place <:+ cs → ¬ HasInputTag place := by
  rw [formToken?, first?_eq_none_iff]
  simp only [HasInputTag, not_exists]
  exact forall₂_congr fun place _ ↦ inputValue?_tokenName_eq_none_iff

theorem MetaTag.run {token : String} (h : MetaTag cs token) : token ≠ "" ∧ '"' ∉ token.toList := by
  obtain ⟨-, -, -, -, -, ⟨-, -, hrun⟩, -⟩ := h
  exact hrun

theorem InputTag.run {token : String} (h : InputTag cs token) :
    token ≠ "" ∧ '"' ∉ token.toList := by
  obtain ⟨-, -, -, -, -, -, -, -, hrun⟩ := h
  exact hrun

/-- **Which token is found in a page.** It is that of the first meta tag that has one, or else that
of the first input tag that has one; there is none if no tag has one. -/
theorem csrfToken?_found (page : String) :
    (∀ token, csrfToken? page = some token ↔
      (∃ place, FirstPlace HasMetaTag page.toList place ∧ MetaTag place token) ∨
      (∀ place, place <:+ page.toList → ¬ HasMetaTag place) ∧
        ∃ place, FirstPlace HasInputTag page.toList place ∧ InputTag place token) ∧
    (csrfToken? page = none ↔
      ∀ place, place <:+ page.toList → ¬ HasMetaTag place ∧ ¬ HasInputTag place) ∧
    ∀ token, csrfToken? page = some token → token ≠ "" ∧ '"' ∉ token.toList := by
  have hfound (token : String) : csrfToken? page = some token ↔
      (∃ place, FirstPlace HasMetaTag page.toList place ∧ MetaTag place token) ∨
      (∀ place, place <:+ page.toList → ¬ HasMetaTag place) ∧
        ∃ place, FirstPlace HasInputTag page.toList place ∧ InputTag place token := by
    rw [← metaToken?_eq_some_iff, ← metaToken?_eq_none_iff, ← formToken?_eq_some_iff, csrfToken?]
    cases metaToken? page.toList <;> simp
  refine ⟨hfound, ?_, fun token htoken ↦ ?_⟩
  · simp only [imp_and, forall_and]
    rw [← metaToken?_eq_none_iff, ← formToken?_eq_none_iff, csrfToken?]
    cases metaToken? page.toList <;> simp
  · obtain ⟨_, -, hmeta⟩ | ⟨-, _, -, hinput⟩ := (hfound token).1 htoken
    · exact hmeta.run
    · exact hinput.run

/-- A meta tag without a token does not count, and of two values in a tag the last one does. -/
theorem csrfToken?_found_second_value :
    let page := "<meta name=\"csrf-token\">" ++
      "<input name=\"authenticity_token\" value=\"a\" value=\"b\">" ++
      "<input name=\"authenticity_token\" value=\"c\">"
    csrfToken? page = some "b" ∧ "b" ≠ "" ∧ '"' ∉ "b".toList := by
  intro page
  have htoken : csrfToken? page = some "b" := by decide +kernel
  exact ⟨htoken, (csrfToken?_found page).2.2 "b" htoken⟩

end TokenBroker.Page
