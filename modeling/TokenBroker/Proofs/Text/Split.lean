import Mathlib.Data.List.TakeDrop
import Mathlib.Data.List.TakeWhile
import TokenBroker.Text.Blank
import TokenBroker.Text.Split

/-!
# What cutting and searching find

`cutFirst?` cuts where `takeWhile` stops, `splitOn` is the library function, `dropStart?` takes
prefixes away, and `occursIn` looks for infixes, so that facts about them come from those about
lists. What is dropped at the end of a text stands at its end.
-/

/-- What is found first is the only thing that there is to find. -/
theorem List.findSome?_eq_some_of_forall {α β : Type} {read : α → Option β} {xs : List α} {x : α}
    {found : β} (hmem : x ∈ xs) (hread : read x = some found)
    (hall : ∀ y ∈ xs, ∀ other, read y = some other → other = found) :
    xs.findSome? read = some found := by
  cases hfirst : xs.findSome? read with
  | none =>
    rw [List.findSome?_eq_none_iff.1 hfirst x hmem] at hread
    cases hread
  | some other =>
    obtain ⟨y, hy, hother⟩ := List.exists_of_findSome?_eq_some hfirst
    rw [hall y hy other hother]

namespace TokenBroker.Text

/-! ### Cutting -/

/-- A run ends at the first element that does not belong to it. -/
theorem span_append_cons {α : Type} {p : α → Bool} {run rest : List α} {c : α}
    (hrun : ∀ d ∈ run, p d = true) (hc : p c = false) :
    (run ++ c :: rest).span p = (run, c :: rest) := by
  have hstop : ¬ p c = true := by rw [hc]; decide
  rw [List.span_eq_takeWhile_dropWhile, List.takeWhile_append_of_pos hrun,
    List.dropWhile_append_of_pos hrun, List.takeWhile_cons_of_neg hstop,
    List.dropWhile_cons_of_neg hstop, List.append_nil]

theorem cutFirst?_eq (separator : Char) (cs : List Char) :
    cutFirst? separator cs =
      if separator ∈ cs then
        some (cs.takeWhile (· != separator), (cs.dropWhile (· != separator)).drop 1)
      else none := by
  induction cs with
  | nil => rfl
  | cons c rest ih =>
    by_cases hc : c = separator
    · simp [cutFirst?, hc]
    · have hmem : separator ∈ c :: rest ↔ separator ∈ rest := by simp [Ne.symm hc]
      simp only [cutFirst?, if_neg hc, ih, hmem]
      split <;> simp [hc]

/-- A cut loses nothing but the separator. -/
theorem eq_append_of_cutFirst {separator : Char} :
    ∀ {cs before after : List Char}, cutFirst? separator cs = some (before, after) →
      cs = before ++ separator :: after
  | [], _, _, h => by cases h
  | c :: rest, before, after, h => by
    rw [cutFirst?] at h
    split at h
    · rename_i hc
      cases h
      rw [hc]
      rfl
    · obtain ⟨⟨start, _⟩, hrest, heq⟩ := Option.map_eq_some_iff.1 h
      cases heq
      rw [eq_append_of_cutFirst hrest]
      rfl

theorem eq_append_of_cutLast {separator : Char} :
    ∀ {cs before after : List Char}, cutLast? separator cs = some (before, after) →
      cs = before ++ separator :: after
  | [], _, _, h => by cases h
  | c :: rest, before, after, h => by
    rw [cutLast?] at h
    split at h
    · rename_i start after' hrest
      cases h
      rw [eq_append_of_cutLast hrest]
      rfl
    · split at h
      · rename_i hc
        cases h
        rw [hc]
        rfl
      · cases h

theorem cutFirst?_append_cons {separator : Char} {before after : List Char}
    (h : separator ∉ before) :
    cutFirst? separator (before ++ separator :: after) = some (before, after) := by
  have hkept : ∀ c ∈ before, (c != separator) = true := fun c hc ↦
    bne_iff_ne.2 fun heq ↦ h (heq ▸ hc)
  rw [cutFirst?_eq, if_pos (List.mem_append_right _ List.mem_cons_self),
    List.takeWhile_append_of_pos hkept, List.dropWhile_append_of_pos hkept]
  simp

theorem cutLast?_of_notMem {separator : Char} {cs : List Char} (h : separator ∉ cs) :
    cutLast? separator cs = none := by
  cases hcut : cutLast? separator cs with
  | none => rfl
  | some parts =>
    rw [eq_append_of_cutLast hcut] at h
    exact absurd (List.mem_append_right _ List.mem_cons_self) h

theorem cutLast?_append_cons {separator : Char} {before after : List Char}
    (h : separator ∉ after) :
    cutLast? separator (before ++ separator :: after) = some (before, after) := by
  induction before with
  | nil => simp [cutLast?, cutLast?_of_notMem h]
  | cons c rest ih => rw [List.cons_append, cutLast?, ih]

/-- What stands before the first occurrence of a separator, or everything. -/
theorem fst_cutFirst?_getD (separator : Char) (cs : List Char) :
    ((cutFirst? separator cs).map Prod.fst).getD cs = cs.takeWhile (· != separator) := by
  rw [cutFirst?_eq]
  split
  · rfl
  · rename_i hmem
    refine (List.takeWhile_eq_self_iff.2 fun c hc ↦ ?_).symm
    rw [bne_iff_ne]
    rintro rfl
    exact hmem hc

/-! ### Splitting -/

/-- The pieces are those of the library function. -/
theorem splitOn_eq (separator : Char) (cs : List Char) :
    splitOn separator cs = cs.splitOn separator := by
  induction cs with
  | nil => rfl
  | cons c rest ih =>
    rw [splitOn, ih, List.splitOn_cons_eq_if_modifyHead]
    by_cases hc : c = separator
    · simp [hc]
    · obtain ⟨piece, pieces, hpieces⟩ :=
        List.exists_cons_of_ne_nil (List.splitOn_ne_nil separator rest)
      simp [hc, hpieces]

/-- The pieces are taken from the text, without the separator. -/
theorem of_mem_splitOn {separator : Char} {cs piece : List Char}
    (h : piece ∈ splitOn separator cs) : separator ∉ piece ∧ piece ⊆ cs := by
  induction cs generalizing piece with
  | nil =>
    rw [List.mem_singleton.1 h]
    exact ⟨List.not_mem_nil, List.nil_subset _⟩
  | cons c rest ih =>
    rw [splitOn] at h
    split at h
    · rcases List.mem_cons.1 h with rfl | h
      · exact ⟨List.not_mem_nil, List.nil_subset _⟩
      · exact ⟨(ih h).1, List.subset_cons_of_subset c (ih h).2⟩
    · rename_i hc
      split at h
      · rw [List.mem_singleton.1 h]
        exact ⟨by simpa using Ne.symm hc, by simp⟩
      · rename_i first pieces hpieces
        rw [hpieces, List.forall_mem_cons] at ih
        rcases List.mem_cons.1 h with rfl | h
        · rw [List.mem_cons, not_or]
          exact ⟨⟨Ne.symm hc, ih.1.1⟩, List.cons_subset_cons c ih.1.2⟩
        · exact ⟨(ih.2 piece h).1, List.subset_cons_of_subset c (ih.2 piece h).2⟩

theorem splitOn_of_notMem {separator : Char} :
    ∀ {cs : List Char}, separator ∉ cs → splitOn separator cs = [cs]
  | [], _ => rfl
  | c :: rest, h => by
    have hc : c ≠ separator := fun heq ↦ h (heq ▸ List.mem_cons_self)
    have hrest : separator ∉ rest := fun hmem ↦ h (List.mem_cons_of_mem _ hmem)
    rw [splitOn, if_neg hc, splitOn_of_notMem hrest]

theorem intercalate_splitOn (separator : Char) (cs : List Char) :
    List.intercalate [separator] (splitOn separator cs) = cs := by
  rw [splitOn_eq, List.intercalate_splitOn]

theorem splitOn_intercalate {separator : Char} {pieces : List (List Char)} (hne : pieces ≠ [])
    (h : ∀ piece ∈ pieces, separator ∉ piece) :
    splitOn separator (List.intercalate [separator] pieces) = pieces := by
  rw [splitOn_eq, List.splitOn_intercalate separator h hne]

theorem intercalate_append {separator : Char} {before after : List (List Char)}
    (hbefore : before ≠ []) (hafter : after ≠ []) :
    List.intercalate [separator] (before ++ after) =
      List.intercalate [separator] before ++ separator :: List.intercalate [separator] after := by
  obtain ⟨next, rest, rfl⟩ := List.exists_cons_of_ne_nil hafter
  induction before with
  | nil => exact absurd rfl hbefore
  | cons piece pieces ih =>
    cases pieces with
    | nil => simp [List.intercalate_cons_cons]
    | cons second pieces =>
      rw [List.cons_append, List.cons_append, List.intercalate_cons_cons,
        List.intercalate_cons_cons, ← List.cons_append, ih (List.cons_ne_nil _ _)]
      simp

theorem of_mem_intercalate {separator c : Char} {pieces : List (List Char)}
    (h : c ∈ List.intercalate [separator] pieces) :
    c = separator ∨ ∃ piece ∈ pieces, c ∈ piece := by
  induction pieces with
  | nil => cases h
  | cons piece pieces ih =>
    cases pieces with
    | nil => exact Or.inr ⟨piece, List.mem_cons_self, by simpa using h⟩
    | cons second pieces =>
      rw [List.intercalate_cons_cons, List.append_assoc, List.mem_append, List.singleton_append,
        List.mem_cons] at h
      rcases h with h | h | h
      · exact Or.inr ⟨piece, List.mem_cons_self, h⟩
      · exact Or.inl h
      · exact (ih h).imp_right fun ⟨other, hother, hc⟩ ↦
          ⟨other, List.mem_cons_of_mem _ hother, hc⟩

/-! ### Searching -/

theorem isSome_dropStart?_iff {start cs : List Char} :
    (dropStart? start cs).isSome = true ↔ start <+: cs := by
  induction start generalizing cs with
  | nil => simp [dropStart?]
  | cons p start ih =>
    cases cs with
    | nil => simp [dropStart?]
    | cons c rest =>
      rw [dropStart?, List.cons_prefix_cons]
      split
      · rename_i hp
        rw [ih, and_iff_right hp]
      · rename_i hp
        simp [hp]

theorem dropStart?_eq_some_iff {start cs rest : List Char} :
    dropStart? start cs = some rest ↔ cs = start ++ rest := by
  induction start generalizing cs with
  | nil => simp [dropStart?]
  | cons p start ih =>
    cases cs with
    | nil => simp [dropStart?]
    | cons c others =>
      rw [dropStart?, List.cons_append, List.cons.injEq]
      split
      · rename_i hp
        rw [ih, and_iff_right hp.symm]
      · rename_i hp
        simp [Ne.symm hp]

theorem occursIn_eq_true_iff {needle cs : List Char} :
    occursIn needle cs = true ↔ needle <:+: cs := by
  induction cs with
  | nil => simp [occursIn, List.isEmpty_iff]
  | cons c rest ih =>
    rw [occursIn, Bool.or_eq_true, isSome_dropStart?_iff, ih, List.infix_cons_iff]

/-! ### Dropping at the end -/

theorem dropTrailing_prefix (c : Char) (cs : List Char) : dropTrailing c cs <+: cs := by
  induction cs with
  | nil => exact List.prefix_refl []
  | cons d rest ih =>
    rw [dropTrailing]
    split
    · split
      · exact List.nil_prefix
      · exact ⟨rest, rfl⟩
    · exact List.cons_prefix_cons.2 ⟨rfl, ih⟩

theorem dropTrailing_append_cons {c d : Char} (hne : d ≠ c) (before after : List Char) :
    dropTrailing c (before ++ d :: after) = before ++ d :: dropTrailing c after := by
  induction before with
  | nil =>
    rw [List.nil_append, dropTrailing]
    split
    · rename_i hnil
      rw [if_neg hne, hnil]
      rfl
    · rfl
  | cons e rest ih =>
    rw [List.cons_append, dropTrailing, ih]
    split
    · rename_i hnil
      simp at hnil
    · rfl

end TokenBroker.Text
