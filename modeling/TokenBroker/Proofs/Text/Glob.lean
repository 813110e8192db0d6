import Mathlib.Data.List.TakeDrop
import Mathlib.Data.List.TakeWhile
import TokenBroker.Text.Glob

/-!
# What glob patterns match

`Glob.Matches` says which texts a list of items stands for, one rule for each way in which an item
takes its part of the text. `Glob.accepts_eq_true_iff` shows that filling rows decides it: the row
of a pattern continues as the row of what follows its first item (`Glob.row_cons`), so that the
matcher is the recursion over pattern and text that one would write down first.

**A text without a closed set matches itself.** Wildcards match their own signs, and a bracket that
nothing closes is an ordinary character (`Glob.matches_items_self`). Without wildcards it matches
nothing else (`Glob.matches_items_iff_eq`).
-/

namespace TokenBroker.Glob

/-- The texts that a list of items stands for. -/
inductive Matches : List Item → List Char → Prop
  | nil : Matches [] []
  | anyText (before : List Char) {rest : List Item} {text : List Char} (h : Matches rest text) :
      Matches (.anyText :: rest) (before ++ text)
  | one {item : Item} {c : Char} {rest : List Item} {text : List Char}
      (hadmits : item.admits c = true) (h : Matches rest text) : Matches (item :: rest) (c :: text)

/-! ### The matcher as a recursion -/

/-- The row of a pattern for a text. -/
def row (pattern : List Item) (text : List Char) : List Bool :=
  text.foldr (fun c row ↦ stepRow c pattern row) (emptyRow pattern)

theorem accepts_eq_headD_row (pattern : List Item) (text : List Char) :
    accepts pattern text = (row pattern text).headD false := rfl

/-- The row of a pattern goes on as the row of its rest. -/
theorem row_cons (item : Item) (rest : List Item) (text : List Char) :
    row (item :: rest) text = accepts (item :: rest) text :: row rest text := by
  induction text with
  | nil => rfl
  | cons c text ih =>
    rw [accepts_eq_headD_row]
    show stepRow c (item :: rest) (row (item :: rest) text) =
      (stepRow c (item :: rest) (row (item :: rest) text)).headD false ::
        stepRow c rest (row rest text)
    rw [ih]
    rfl

@[simp] theorem accepts_nil_cons (c : Char) (text : List Char) : accepts [] (c :: text) = false :=
  rfl

@[simp] theorem accepts_cons_nil (item : Item) (rest : List Item) :
    accepts (item :: rest) [] = (item == .anyText && accepts rest []) := rfl

theorem accepts_cons_cons (item : Item) (rest : List Item) (c : Char) (text : List Char) :
    accepts (item :: rest) (c :: text) =
      match item with
      | .anyText => accepts rest (c :: text) || accepts (.anyText :: rest) text
      | item => item.admits c && accepts rest text := by
  rw [accepts_eq_headD_row]
  show (stepRow c (item :: rest) (row (item :: rest) text)).headD false = _
  rw [row_cons]
  cases item <;> rfl

@[simp] theorem accepts_anyText_cons (rest : List Item) (c : Char) (text : List Char) :
    accepts (.anyText :: rest) (c :: text) =
      (accepts rest (c :: text) || accepts (.anyText :: rest) text) :=
  accepts_cons_cons .anyText rest c text

/-- An item other than `*` takes one character. -/
theorem accepts_one_cons {item : Item} (hitem : item ≠ .anyText) (rest : List Item) (c : Char)
    (text : List Char) :
    accepts (item :: rest) (c :: text) = (item.admits c && accepts rest text) := by
  rw [accepts_cons_cons]
  cases item with
  | anyText => exact absurd rfl hitem
  | anyChar => rfl
  | char d => rfl
  | set negated ranges => rfl

/-! ### Deciding a match -/

theorem Matches.anyText_cons {rest : List Item} {text : List Char}
    (h : Matches (.anyText :: rest) text) (c : Char) : Matches (.anyText :: rest) (c :: text) := by
  cases h with
  | anyText before h => exact .anyText (c :: before) h
  | one hadmits h => cases hadmits

/-- What `*` and more matches is matched by what follows `*`, or has one character for `*`. -/
theorem Matches.anyText_inv {rest : List Item} {c : Char} {text : List Char}
    (h : Matches (.anyText :: rest) (c :: text)) :
    Matches rest (c :: text) ∨ Matches (.anyText :: rest) text := by
  generalize htext : c :: text = whole at h
  cases h with
  | anyText before h =>
    cases before with
    | nil => exact Or.inl h
    | cons d before =>
      cases htext
      exact Or.inr (.anyText before h)
  | one hadmits h => cases hadmits

/-- **The matcher decides `Matches`.** -/
theorem accepts_eq_true_iff {pattern : List Item} {text : List Char} :
    accepts pattern text = true ↔ Matches pattern text := by
  induction pattern generalizing text with
  | nil =>
    cases text with
    | nil => exact iff_of_true rfl .nil
    | cons c text => exact iff_of_false (by simp) (by rintro ⟨⟩)
  | cons item rest ih =>
    by_cases hitem : item = .anyText
    · subst hitem
      induction text with
      | nil =>
        rw [accepts_cons_nil, beq_self_eq_true, Bool.true_and, ih]
        refine ⟨fun h ↦ .anyText [] h, fun h ↦ ?_⟩
        generalize htext : ([] : List Char) = whole at h
        cases h with
        | anyText before h =>
          obtain ⟨rfl, rfl⟩ := List.append_eq_nil_iff.1 htext.symm
          exact h
        | one hadmits h => cases hadmits
      | cons c text ihText =>
        rw [accepts_anyText_cons, Bool.or_eq_true, ih, ihText]
        exact ⟨fun h ↦ h.elim (.anyText [] ·) (·.anyText_cons c), Matches.anyText_inv⟩
    · cases text with
      | nil =>
        rw [accepts_cons_nil]
        refine iff_of_false (by simp [hitem]) fun h ↦ ?_
        generalize htext : ([] : List Char) = whole at h
        cases h with
        | anyText before h => exact hitem rfl
        | one hadmits h => cases htext
      | cons c text =>
        rw [accepts_one_cons hitem, Bool.and_eq_true, ih]
        refine ⟨fun ⟨hadmits, h⟩ ↦ .one hadmits h, fun h ↦ ?_⟩
        generalize htext : c :: text = whole at h
        cases h with
        | anyText before h => exact absurd rfl hitem
        | one hadmits h =>
          cases htext
          exact ⟨hadmits, h⟩

/-! ### Matching itself -/

/-- A set that begins here is closed somewhere after here. -/
theorem mem_of_closeSet {cs : List Char} {split : List Char × List Char}
    (h : closeSet? cs = some split) : ']' ∈ cs := by
  by_contra hcs
  unfold closeSet? at h
  split at h
  rename_i bang cs₁ hbang
  have hcs₁ : ']' ∉ cs₁ := by
    split at hbang
    · cases hbang
      exact fun hmem ↦ hcs (List.mem_cons_of_mem _ hmem)
    · cases hbang
      exact hcs
  split at h
  rename_i bracket cs₂ hbracket
  have hcs₂ : ']' ∉ cs₂ := by
    split at hbracket
    · exact absurd List.mem_cons_self hcs₁
    · cases hbracket
      exact hcs₁
  -- what is left has no bracket, so all of it is taken for members
  have hspan : (cs₂.span (· != ']')).2 = [] := by
    rw [List.span_eq_takeWhile_dropWhile, List.dropWhile_eq_nil_iff]
    intro c hc
    have : c ≠ ']' := fun heq ↦ hcs₂ (heq ▸ hc)
    simpa using this
  split at h
  · cases h
  · rename_i heq
    rw [heq] at hspan
    cases hspan

theorem matches_itemsWithin_self :
    ∀ (fuel : Nat) (text : List Char), text.length ≤ fuel → '[' ∉ text ∨ ']' ∉ text →
      Matches (itemsWithin fuel text) text
  | fuel, [], _, _ => by
    cases fuel <;> exact .nil
  | 0, c :: rest, hfuel, _ => absurd hfuel (by simp)
  | fuel + 1, c :: rest, hfuel, hset => by
    have hrest : Matches (itemsWithin fuel rest) rest :=
      matches_itemsWithin_self fuel rest (by simpa using hfuel)
        (hset.imp (fun h hmem ↦ h (List.mem_cons_of_mem _ hmem))
          (fun h hmem ↦ h (List.mem_cons_of_mem _ hmem)))
    rw [itemsWithin]
    split
    · exact .anyText [c] hrest
    split
    · exact .one rfl hrest
    split
    · rename_i hbracket
      subst hbracket
      split
      · rename_i inside after hclose
        refine hset.elim (fun h ↦ absurd List.mem_cons_self h) fun h ↦ ?_
        exact absurd (List.mem_cons_of_mem _ (mem_of_closeSet hclose)) h
      · exact .one (by simp [Item.admits]) hrest
    · exact .one (by simp [Item.admits]) hrest

/-- **A text without a closed set is matched by itself.** -/
theorem matches_items_self {text : List Char} (h : '[' ∉ text ∨ ']' ∉ text) :
    Matches (items text) text :=
  matches_itemsWithin_self _ _ (Nat.le_refl _) h

/-! ### Matching nothing else -/

/-- Without wildcards and closed sets, every character of a pattern stands for itself. -/
theorem itemsWithin_of_literal :
    ∀ {fuel : Nat} {text : List Char}, text.length ≤ fuel → '*' ∉ text → '?' ∉ text →
      '[' ∉ text ∨ ']' ∉ text → itemsWithin fuel text = text.map .char
  | fuel, [], _, _, _, _ => by
    cases fuel <;> rfl
  | 0, c :: rest, hfuel, _, _, _ => absurd hfuel (by simp)
  | fuel + 1, c :: rest, hfuel, hstar, hmark, hset => by
    have hrest : itemsWithin fuel rest = rest.map .char :=
      itemsWithin_of_literal (by simpa using hfuel) (List.not_mem_of_not_mem_cons hstar)
        (List.not_mem_of_not_mem_cons hmark)
        (hset.imp List.not_mem_of_not_mem_cons List.not_mem_of_not_mem_cons)
    rw [itemsWithin, if_neg (Ne.symm (List.ne_of_not_mem_cons hstar)),
      if_neg (Ne.symm (List.ne_of_not_mem_cons hmark)), List.map_cons]
    split
    · rename_i hbracket
      subst hbracket
      split
      · rename_i inside after hclose
        refine hset.elim (fun h ↦ absurd List.mem_cons_self h) fun h ↦ ?_
        exact absurd (List.mem_cons_of_mem _ (mem_of_closeSet hclose)) h
      · rw [hrest]
    · rw [hrest]

theorem matches_map_char_iff {pattern text : List Char} :
    Matches (pattern.map .char) text ↔ text = pattern := by
  induction pattern generalizing text with
  | nil =>
    refine ⟨fun h ↦ ?_, fun h ↦ ?_⟩
    · cases h
      rfl
    · rw [h]
      exact .nil
  | cons d pattern ih =>
    refine ⟨fun h ↦ ?_, ?_⟩
    · cases h with
      | one hadmits h =>
        rw [ih.1 h]
        exact congrArg (· :: pattern) (by simpa [Item.admits] using hadmits)
    · rintro rfl
      exact .one (by simp [Item.admits]) (ih.2 rfl)

/-- **A text without wildcards and closed sets matches itself and nothing else.** -/
theorem matches_items_iff_eq {pattern text : List Char} (hstar : '*' ∉ pattern)
    (hmark : '?' ∉ pattern) (hset : '[' ∉ pattern ∨ ']' ∉ pattern) :
    Matches (items pattern) text ↔ text = pattern := by
  rw [items, itemsWithin_of_literal (Nat.le_refl _) hstar hmark hset, matches_map_char_iff]

end TokenBroker.Glob
