import Mathlib.Data.List.TakeWhile
import TokenBroker.Proofs.Except
import TokenBroker.ServerUrl.Basic

/-!
# Blanks around server URLs

A URL that can be used has a scheme, so something remains of it when the blanks at its ends are
dropped; and it says the same without them. Where a blank URL stands for a default one, a usable URL
therefore stands for itself.
-/

namespace TokenBroker

namespace Text

theorem stripLeft_eq_nil_of_isAllBlank {cs : List Char} (h : isAllBlank cs = true) :
    stripLeft cs = [] := by
  simpa [stripLeft, isAllBlank, List.dropWhile_eq_nil_iff] using h

theorem strip_eq_nil_of_isAllBlank {cs : List Char} (h : isAllBlank cs = true) : strip cs = [] := by
  rw [strip, stripLeft_eq_nil_of_isAllBlank h]
  rfl

theorem stripRight_stripRight (cs : List Char) : stripRight (stripRight cs) = stripRight cs := by
  induction cs with
  | nil => rfl
  | cons c rest ih =>
    rw [stripRight]
    split
    · split
      · rfl
      · rename_i hc
        simp [stripRight, hc]
    · rename_i kept hkept
      rw [stripRight, ih]
      cases hrest : stripRight rest with
      | nil => exact absurd hrest hkept
      | cons d later => rfl

/-- What is left of a text begins with no blank. -/
theorem stripLeft_strip (cs : List Char) : stripLeft (strip cs) = strip cs := by
  rw [strip]
  cases hleft : stripLeft cs with
  | nil => rfl
  | cons c rest =>
    have hc : isBlank c = false := by
      have hhead := List.head?_dropWhile_not isBlank cs
      rwa [← stripLeft, hleft] at hhead
    have hkept : ∃ later, stripRight (c :: rest) = c :: later := by
      rw [stripRight]
      split
      · exact ⟨[], by simp [hc]⟩
      · exact ⟨_, rfl⟩
    obtain ⟨later, hlater⟩ := hkept
    rw [hlater, stripLeft, List.dropWhile_cons_of_neg (by simp [hc])]

theorem strip_strip (cs : List Char) : strip (strip cs) = strip cs := by
  rw [strip, stripLeft_strip]
  exact stripRight_stripRight _

theorem stripRight_append_of_blank {cs blanks : List Char} (h : ∀ c ∈ blanks, isBlank c = true) :
    stripRight (cs ++ blanks) = stripRight cs := by
  induction cs with
  | nil =>
    induction blanks with
    | nil => rfl
    | cons c rest ih =>
      obtain ⟨hc, hrest⟩ := List.forall_mem_cons.1 h
      have hnil : stripRight rest = [] := ih hrest
      simp [stripRight, hnil, hc]
  | cons c rest ih => rw [List.cons_append, stripRight, stripRight, ih]

theorem stripRight_of_not_blank {cs : List Char} (h : ∀ c ∈ cs, isBlank c = false) :
    stripRight cs = cs := by
  induction cs with
  | nil => rfl
  | cons c rest ih =>
    obtain ⟨hc, hrest⟩ := List.forall_mem_cons.1 h
    rw [stripRight, ih hrest]
    cases rest with
    | nil => simp [hc]
    | cons d later => rfl

/-- Blanks around a text without blanks are what is stripped. -/
theorem strip_surrounded {before cs after : List Char} (hbefore : ∀ c ∈ before, isBlank c = true)
    (hcs : ∀ c ∈ cs, isBlank c = false) (hafter : ∀ c ∈ after, isBlank c = true) :
    strip (before ++ cs ++ after) = cs := by
  rw [strip, stripLeft, List.append_assoc, List.dropWhile_append_of_pos hbefore]
  cases cs with
  | nil =>
    rw [List.nil_append, List.dropWhile_eq_nil_iff.2 hafter]
    rfl
  | cons c rest =>
    have hc : ¬ isBlank c = true := by
      rw [hcs c List.mem_cons_self]
      decide
    rw [List.cons_append, List.dropWhile_cons_of_neg hc, ← List.cons_append,
      stripRight_append_of_blank hafter, stripRight_of_not_blank hcs]

end Text

namespace ServerUrl

theorem parse_blank {text : String} (h : blank text = true) :
    parse text = .error (.noSchemeOrHost text) := by
  have hclean : clean text.toList = [] := by
    rw [clean, Text.strip_eq_nil_of_isAllBlank h]
    rfl
  rw [parse, hclean]
  rfl

/-- A usable URL is not blank. -/
theorem blank_eq_false_of_parse {text : String} {url : ServerUrl} (h : parse text = .ok url) :
    blank text = false := by
  by_contra hblank
  rw [parse_blank (by simpa using hblank)] at h
  cases h

/-- The port of a text does not depend on what the text is blamed for. -/
theorem readPort_eq_ok {text other : String} {digits : List Char} {port? : Option Nat}
    (h : readPort text digits = .ok port?) : readPort other digits = .ok port? := by
  rw [readPort] at h ⊢
  split
  · rwa [if_pos ‹_›] at h
  · rw [if_neg ‹_›] at h
    split at h
    · exact h
    · cases h

/-- A usable URL says the same without the blanks at its ends. -/
theorem parse_stripped {text : String} {url : ServerUrl} (h : parse text = .ok url) :
    parse (stripped text) = .ok url := by
  have hclean : clean (stripped text).toList = clean text.toList := by
    rw [stripped, String.toList_ofList, clean, clean, Text.strip_strip]
  rw [parse, Except.bind_eq_ok_iff] at h
  obtain ⟨_, hcheck, h⟩ := h
  rw [parse, hclean, Except.bind_eq_ok_iff]
  refine ⟨_, hcheck, ?_⟩
  dsimp only at h ⊢
  split at h
  · cases h
  · rename_i hparts
    rw [if_neg hparts, Except.bind_eq_ok_iff]
    obtain ⟨port?, hport, h⟩ := Except.bind_eq_ok_iff.1 h
    exact ⟨port?, readPort_eq_ok hport, h⟩

end ServerUrl

end TokenBroker
