import Mathlib.Data.List.Basic
import TokenBroker.Text.Lowercase

/-!
# What lowercasing leaves alone

Lowercasing makes no brackets: a bracket in a lowercase text was there before
(`Text.mem_of_mem_lower`). And it makes no capitals (`Text.not_isCapital_of_mem_lowerAfter`), so
that characters of a lowercase text stay as they are when lowercasing leads to ASCII
(`Text.lowerAfter_of_ascii`). Outside ASCII these are facts about the table of forms, which are
checked run by run (`Text.avoids_brackets`, `Text.high_forms`).

**Lowercasing twice is lowercasing once** (`Text.lower_lower`): no lowercase form belongs to a run
of the table, which is checked for each two runs (`Text.all_misses`).

The form of a sigma depends on the word around it, so a text is lowercased part by part only where a
word ends (`Text.EndsWord.lower_append`).
-/

namespace TokenBroker.Text

/-- No lowercase form of a run is this code point. -/
def CaseRun.avoids (run : CaseRun) (n : Nat) : Bool :=
  (n : Int) < run.low + run.shift || run.high + run.shift < n

theorem avoids_brackets :
    ∀ run ∈ caseRuns, run.avoids '['.toNat = true ∧ run.avoids ']'.toNat = true := by
  decide +kernel

theorem CaseRun.ne_shift_of_avoids {run : CaseRun} {n m : Nat} (havoids : run.avoids n = true)
    (hcovers : run.covers m = true) : (m + run.shift).toNat ≠ n ∨ (m + run.shift).toNat = 0 := by
  simp only [avoids, covers, Bool.or_eq_true, Bool.and_eq_true, decide_eq_true_eq] at *
  omega

theorem toNat_toLower (c : Char) :
    c.toLower.toNat = c.toNat ∨ 0x61 ≤ c.toLower.toNat ∧ c.toLower.toNat ≤ 0x7a := by
  unfold Char.toLower
  split
  case isTrue hupper =>
    have hlow := hupper.1
    have hhigh := hupper.2
    simp only [ge_iff_le, UInt32.le_iff_toNat_le] at hlow hhigh
    simp only [Char.toNat, UInt32.toNat_add]
    right
    change _ ≤ (c.val.toNat + 32) % _ ∧ (c.val.toNat + 32) % _ ≤ _
    change 65 ≤ _ at hlow
    change _ ≤ 90 at hhigh
    omega
  case isFalse => exact Or.inl rfl

theorem toNat_ofNat (n : Nat) : (Char.ofNat n).toNat = n ∨ (Char.ofNat n).toNat = 0 := by
  by_cases h : n.isValidChar
  · left
    rw [Char.ofNat, dif_pos h]
    rfl
  · right
    simp [Char.ofNat, h]

/-- Only a bracket has a bracket for its lowercase form. -/
theorem eq_of_mem_lowerChar {c d : Char} (hc : c = '[' ∨ c = ']') (h : c ∈ lowerChar d) :
    c = d := by
  have hnat : c.toNat = 0x5b ∨ c.toNat = 0x5d := by rcases hc with rfl | rfl <;> decide
  unfold lowerChar at h
  simp only at h
  split at h
  · rw [List.mem_singleton] at h
    have hlower := toNat_toLower d
    rw [← h] at hlower
    exact Char.toNat_inj.1 (by omega)
  split at h
  · rcases hc with rfl | rfl <;> simp at h
  split at h
  · rename_i run hrun
    rw [List.mem_singleton] at h
    have hcovers := List.find?_some hrun
    obtain ⟨hopen, hclose⟩ := avoids_brackets run (List.mem_of_find?_eq_some hrun)
    have havoids : run.avoids c.toNat = true := by rcases hc with rfl | rfl <;> assumption
    have hne := CaseRun.ne_shift_of_avoids havoids hcovers
    have hform := toNat_ofNat (d.toNat + run.shift).toNat
    rw [← h] at hform
    omega
  · exact List.mem_singleton.1 h

/-- Only a character itself has this one in its lowercase form. -/
def IsUncased (c : Char) : Prop :=
  (∀ d, c ∈ lowerChar d → c = d) ∧ c ≠ 'ς' ∧ c ≠ 'σ'

theorem IsUncased.mem_of_mem_lowerAfter {c : Char} (hc : IsUncased c) :
    ∀ {before cs : List Char}, c ∈ lowerAfter before cs → c ∈ cs
  | _, [], h => h
  | before, d :: rest, h => by
    rw [lowerAfter] at h
    rcases List.mem_append.1 h with h | h
    · split at h
      · rw [List.mem_singleton] at h
        split at h
        · exact absurd h hc.2.1
        · exact absurd h hc.2.2
      · rw [hc.1 d h]
        exact List.mem_cons_self
    · exact List.mem_cons_of_mem _ (hc.mem_of_mem_lowerAfter h)

/-- **Lowercasing makes no brackets.** -/
theorem mem_of_mem_lower {c : Char} (hc : c = '[' ∨ c = ']') {cs : List Char}
    (h : c ∈ lower cs) : c ∈ cs := by
  have huncased : IsUncased c := by
    refine ⟨fun d ↦ eq_of_mem_lowerChar hc, ?_⟩
    rcases hc with rfl | rfl <;> decide
  exact huncased.mem_of_mem_lowerAfter h

/-! ### Texts in lowercase -/

/-- A character other than an ASCII letter in lowercase that has one for its lowercase form: a
capital letter of ASCII, or the Kelvin sign. -/
def IsCapital (c : Char) : Prop :=
  0x41 ≤ c.toNat ∧ c.toNat ≤ 0x5a ∨ c.toNat = 0x212a

/-- No form of a run is a capital, and only that of the Kelvin sign is ASCII. -/
theorem high_forms :
    ∀ run ∈ caseRuns, (0x5a : Int) < run.low + run.shift ∧ run.avoids 0x212a = true ∧
      (run.low = 0x212a ∧ run.high = 0x212a ∨ (0x80 : Int) ≤ run.low + run.shift) ∧
      (run.high + run.shift < (0xd800 : Int) ∨
        (0xdfff : Int) < run.low + run.shift ∧ run.high + run.shift < (0x110000 : Int)) := by
  decide +kernel

theorem toLower_of_not_upper {c : Char} (h : ¬ (0x41 ≤ c.toNat ∧ c.toNat ≤ 0x5a)) :
    c.toLower = c := by
  unfold Char.toLower
  split
  case isTrue hupper =>
    exact absurd ⟨UInt32.le_iff_toNat_le.1 hupper.1, UInt32.le_iff_toNat_le.1 hupper.2⟩ h
  case isFalse => rfl

theorem toNat_toLower_of_upper {c : Char} (h : 0x41 ≤ c.toNat ∧ c.toNat ≤ 0x5a) :
    c.toLower.toNat = c.toNat + 32 := by
  unfold Char.toLower
  split
  case isTrue =>
    show (c.val + 32).toNat = c.val.toNat + 32
    have hhigh : c.val.toNat ≤ 0x5a := h.2
    rw [UInt32.toNat_add]
    change (c.val.toNat + 32) % _ = _
    omega
  case isFalse hupper =>
    exact absurd ⟨UInt32.le_iff_toNat_le.2 h.1, UInt32.le_iff_toNat_le.2 h.2⟩ hupper

/-- The lowercase form of a character that belongs to a run. -/
theorem toNat_form {run : CaseRun} (hrun : run ∈ caseRuns) {n : Nat}
    (hcovers : run.covers n = true) :
    ((Char.ofNat (n + run.shift).toNat).toNat : Int) = n + run.shift := by
  obtain ⟨-, -, -, hvalid⟩ := high_forms run hrun
  simp only [CaseRun.covers, Bool.and_eq_true, decide_eq_true_eq] at hcovers
  have hchar : ((n : Int) + run.shift).toNat.isValidChar := by
    unfold Nat.isValidChar
    omega
  rw [Char.ofNat, dif_pos hchar]
  show (((n : Int) + run.shift).toNat : Int) = _
  have := high_forms run hrun
  omega

/-- **Lowercase forms are in lowercase.** -/
theorem not_isCapital_of_mem_lowerChar {c d : Char} (h : c ∈ lowerChar d) : ¬ IsCapital c := by
  unfold lowerChar at h
  dsimp only at h
  split at h
  · rename_i hascii
    rw [List.mem_singleton.1 h, IsCapital]
    by_cases hupper : 0x41 ≤ d.toNat ∧ d.toNat ≤ 0x5a
    · rw [toNat_toLower_of_upper hupper]
      omega
    · rw [toLower_of_not_upper hupper]
      omega
  split at h
  · rw [List.mem_pair] at h
    rcases h with rfl | rfl <;> unfold IsCapital <;> decide
  split at h
  · rename_i run hrun
    have hmem := List.mem_of_find?_eq_some hrun
    have hcovers := List.find?_some hrun
    have hform := toNat_form hmem hcovers
    obtain ⟨hlow, havoids, -⟩ := high_forms run hmem
    have hkelvin := CaseRun.ne_shift_of_avoids havoids hcovers
    simp only [CaseRun.covers, Bool.and_eq_true, decide_eq_true_eq] at hcovers
    rw [List.mem_singleton.1 h, IsCapital]
    omega
  · rename_i hascii _ hnone
    rw [List.mem_singleton.1 h, IsCapital]
    rintro (hupper | hkelvin)
    · omega
    · rw [hkelvin] at hnone
      revert hnone
      decide +kernel

theorem not_isCapital_of_mem_lowerAfter {c : Char} :
    ∀ {before cs : List Char}, c ∈ lowerAfter before cs → ¬ IsCapital c
  | _, [], h => absurd h List.not_mem_nil
  | before, d :: rest, h => by
    rw [lowerAfter] at h
    rcases List.mem_append.1 h with h | h
    · split at h
      · rw [List.mem_singleton] at h
        split at h <;> rw [h] <;> unfold IsCapital <;> decide
      · exact not_isCapital_of_mem_lowerChar h
    · exact not_isCapital_of_mem_lowerAfter h

/-- A character that is no capital is its own lowercase form if that is ASCII. -/
theorem lowerChar_of_ascii {c : Char} (hc : ¬ IsCapital c)
    (h : ∀ d ∈ lowerChar c, d.toNat < 0x80) : lowerChar c = [c] := by
  unfold lowerChar at h ⊢
  dsimp only at h ⊢
  split
  · exact congrArg (fun d ↦ [d]) (toLower_of_not_upper fun hupper ↦ hc (Or.inl hupper))
  rename_i hascii
  rw [if_neg hascii] at h
  split
  · rename_i hdotted
    rw [if_pos hdotted] at h
    exact absurd (h '\u0307' (by simp)) (by decide)
  rename_i hdotted
  rw [if_neg hdotted] at h
  split
  · rename_i run hrun
    rw [hrun] at h
    have hmem := List.mem_of_find?_eq_some hrun
    have hcovers := List.find?_some hrun
    have hform := toNat_form hmem hcovers
    have hsmall := h _ (List.mem_singleton_self _)
    obtain ⟨-, -, hkelvin, -⟩ := high_forms run hmem
    simp only [CaseRun.covers, Bool.and_eq_true, decide_eq_true_eq] at hcovers
    refine absurd (Or.inr ?_) hc
    omega
  · rfl

/-- **A text without capitals is its own lowercase form if that is ASCII.** -/
theorem lowerAfter_of_ascii {before cs : List Char} (hcs : ∀ c ∈ cs, ¬ IsCapital c)
    (h : ∀ d ∈ lowerAfter before cs, d.toNat < 0x80) : lowerAfter before cs = cs := by
  induction cs generalizing before with
  | nil => rfl
  | cons c rest ih =>
    rw [lowerAfter, List.forall_mem_append] at h
    rw [List.forall_mem_cons] at hcs
    rw [lowerAfter, ih hcs.2 h.2]
    obtain ⟨hform, -⟩ := h
    split
    · rename_i hsigma
      rw [if_pos hsigma] at hform
      have hsmall := hform _ (List.mem_singleton_self _)
      split at hsmall <;> exact absurd hsmall (by decide)
    · rename_i hsigma
      rw [if_neg hsigma] at hform
      rw [lowerChar_of_ascii hcs.1 hform]
      rfl

/-! ### Lowercasing twice -/

/-- No lowercase form of one run belongs to the other: they lie apart, or alternate. -/
def CaseRun.misses (run other : CaseRun) : Bool :=
  let first := (run.low + run.shift).toNat
  let last := (run.high + run.shift).toNat
  last.blt other.low || other.high.blt first ||
    other.step.beq 2 && (run.step.beq 2 || run.low.beq run.high) && ((first + other.low) % 2).beq 1

-- some thirty thousand pairs, so the comparisons are those that the kernel computes itself
theorem all_misses :
    (caseRuns.all fun run ↦ caseRuns.all fun other ↦ run.misses other) = true := by
  decide +kernel

theorem misses_caseRuns {run other : CaseRun} (hrun : run ∈ caseRuns) (hother : other ∈ caseRuns) :
    run.misses other = true :=
  List.all_eq_true.1 (List.all_eq_true.1 all_misses run hrun) other hother

theorem avoids_exceptions :
    ∀ run ∈ caseRuns, run.avoids 0x130 = true ∧ run.avoids 'Σ'.toNat = true := by
  decide +kernel

theorem CaseRun.not_covers_of_misses {run other : CaseRun} (hmisses : run.misses other = true)
    (hfirst : 0 ≤ run.low + run.shift) {n m : Nat} (hcovers : run.covers n = true)
    (hm : (m : Int) = n + run.shift) : ¬ other.covers m = true := by
  simp only [covers, Bool.and_eq_true, decide_eq_true_eq, beq_iff_eq] at hcovers ⊢
  simp only [misses, Bool.or_eq_true, Bool.and_eq_true, Nat.blt_eq, Nat.beq_eq] at hmisses
  obtain ⟨⟨hlow, hhigh⟩, hplace⟩ := hcovers
  rintro ⟨⟨hlow', hhigh'⟩, hplace'⟩
  rcases hmisses with (habove | hbelow) | ⟨⟨hstep', hstep | hsingle⟩, hodd⟩
  · omega
  · omega
  · rw [hstep] at hplace
    rw [hstep'] at hplace'
    omega
  · rw [hstep'] at hplace'
    omega

/-- A character that is its own lowercase form, wherever it stands. -/
def IsLowered (c : Char) : Prop :=
  c ≠ 'Σ' ∧ lowerChar c = [c]

theorem isLowered_of_ascii {c : Char} (hascii : c.toNat < 0x80)
    (hupper : ¬ (0x41 ≤ c.toNat ∧ c.toNat ≤ 0x5a)) : IsLowered c := by
  refine ⟨?_, ?_⟩
  · rintro rfl
    exact absurd hascii (by decide)
  · rw [lowerChar]
    simp only [hascii, if_true, toLower_of_not_upper hupper]

/-- A lowercase form has itself for its lowercase form. -/
theorem isLowered_of_mem_lowerChar {c d : Char} (hd : d ≠ 'Σ') (h : c ∈ lowerChar d) :
    IsLowered c := by
  by_cases hascii : c.toNat < 0x80
  · refine isLowered_of_ascii hascii fun hupper ↦ ?_
    exact not_isCapital_of_mem_lowerChar h (Or.inl hupper)
  unfold lowerChar at h
  dsimp only at h
  split at h
  · rename_i hd'
    have hlower := toNat_toLower d
    rw [← List.mem_singleton.1 h] at hlower
    omega
  split at h
  · rw [List.mem_pair] at h
    rcases h with rfl | rfl
    · exact absurd (by decide) hascii
    · exact ⟨by decide, by decide +kernel⟩
  split at h
  · rename_i run hrun
    have hmem := List.mem_of_find?_eq_some hrun
    have hcovers := List.find?_some hrun
    have hform := toNat_form hmem hcovers
    rw [← List.mem_singleton.1 h] at hform
    obtain ⟨hdotted, hsigma⟩ := avoids_exceptions run hmem
    have hne := CaseRun.ne_shift_of_avoids hdotted hcovers
    have hne' := CaseRun.ne_shift_of_avoids hsigma hcovers
    have hfirst : 0 ≤ run.low + run.shift := by
      have := high_forms run hmem
      omega
    have hnone : caseRuns.find? (·.covers c.toNat) = none :=
      List.find?_eq_none.2 fun other hother ↦
        CaseRun.not_covers_of_misses (misses_caseRuns hmem hother) hfirst hcovers hform
    refine ⟨fun hc ↦ ?_, ?_⟩
    · rw [hc] at hform hascii
      omega
    · rw [lowerChar]
      simp only [hascii, if_false, hnone]
      rw [if_neg (by omega)]
  · rename_i hd' hdotted _ hnone
    rw [List.mem_singleton.1 h] at hascii ⊢
    refine ⟨hd, ?_⟩
    rw [lowerChar]
    simp only [hascii, hdotted, if_false, hnone]

theorem isLowered_of_mem_lowerAfter {c : Char} :
    ∀ {before cs : List Char}, c ∈ lowerAfter before cs → IsLowered c
  | _, [], h => absurd h List.not_mem_nil
  | before, d :: rest, h => by
    rw [lowerAfter] at h
    rcases List.mem_append.1 h with h | h
    · split at h
      · rw [List.mem_singleton] at h
        split at h <;> rw [h] <;> exact ⟨by decide, by decide +kernel⟩
      · rename_i hd
        exact isLowered_of_mem_lowerChar hd h
    · exact isLowered_of_mem_lowerAfter h

theorem lowerAfter_of_isLowered {before cs : List Char} (h : ∀ c ∈ cs, IsLowered c) :
    lowerAfter before cs = cs := by
  induction cs generalizing before with
  | nil => rfl
  | cons c rest ih =>
    obtain ⟨⟨hsigma, hform⟩, hrest⟩ := List.forall_mem_cons.1 h
    rw [lowerAfter, ih hrest]
    simp only [hsigma, if_false, hform]
    rfl

/-- **Lowercasing twice is lowercasing once.** -/
@[simp] theorem lower_lower (cs : List Char) : lower (lower cs) = lower cs :=
  lowerAfter_of_isLowered fun _ h ↦ isLowered_of_mem_lowerAfter h

/-- Every character has a lowercase form, so only the empty text has none. -/
theorem lower_eq_nil_iff {cs : List Char} : lower cs = [] ↔ cs = [] := by
  refine ⟨fun h ↦ ?_, fun h ↦ by rw [h]; rfl⟩
  cases cs with
  | nil => rfl
  | cons c rest =>
    rw [lower, lowerAfter, List.append_eq_nil_iff] at h
    obtain ⟨hform, -⟩ := h
    split at hform
    · cases hform
    · unfold lowerChar at hform
      dsimp only at hform
      repeat' split at hform
      all_goals cases hform

/-- **Lowercasing makes no punctuation.** What comes before the letters in ASCII was there before.
-/
theorem mem_of_mem_lower_of_lt {c : Char} (hc : c.toNat < 0x41) {cs : List Char}
    (h : c ∈ lower cs) : c ∈ cs := by
  have hform : ∀ d, c ∈ lowerChar d → c = d := by
    intro d hmem
    unfold lowerChar at hmem
    dsimp only at hmem
    split at hmem
    · have hlower := toNat_toLower d
      rw [← List.mem_singleton.1 hmem] at hlower
      exact Char.toNat_inj.1 (by omega)
    split at hmem
    · rw [List.mem_pair] at hmem
      rcases hmem with rfl | rfl <;> exact absurd hc (by decide)
    split at hmem
    · rename_i run hrun
      have hrun' := List.mem_of_find?_eq_some hrun
      have hcovers := List.find?_some hrun
      have htoNat := toNat_form hrun' hcovers
      rw [← List.mem_singleton.1 hmem] at htoNat
      obtain ⟨hlow, -⟩ := high_forms run hrun'
      simp only [CaseRun.covers, Bool.and_eq_true, decide_eq_true_eq] at hcovers
      omega
    · exact List.mem_singleton.1 hmem
  have huncased : IsUncased c := by
    refine ⟨hform, ?_, ?_⟩ <;> rintro rfl <;> exact absurd hc (by decide)
  exact huncased.mem_of_mem_lowerAfter h

/-! ### Lowercasing part by part -/

/-- A character that ends every word: it is neither cased nor passed over. -/
def EndsWord (c : Char) : Prop :=
  isCaseIgnorable c = false ∧ isCased c = false

theorem endsWord_percent : EndsWord '%' := by
  unfold EndsWord
  decide +kernel

variable {c : Char} {rest : List Char}

/-- What stands beyond the end of a word is not looked at. -/
theorem EndsWord.meetsCased_append (hc : EndsWord c) (word : List Char) :
    meetsCased (word ++ c :: rest) = meetsCased word := by
  obtain ⟨hignored, hcased⟩ := hc
  induction word with
  | nil => simp [meetsCased, hignored, hcased]
  | cons d word ih =>
    cases hd : isCaseIgnorable d with
    | true => simpa [meetsCased, hd] using ih
    | false => simp [meetsCased, hd]

theorem EndsWord.lowerAfter_congr (hc : EndsWord c) {before before' : List Char} :
    ∀ {word : List Char},
      lowerAfter (word ++ c :: before) rest = lowerAfter (word ++ c :: before') rest := by
  induction rest with
  | nil =>
    intro word
    rfl
  | cons d rest ih =>
    intro word
    have hrest := @ih (d :: word)
    rw [List.cons_append, List.cons_append] at hrest
    rw [lowerAfter, lowerAfter, hrest, hc.meetsCased_append, hc.meetsCased_append]

theorem EndsWord.lowerAfter_append (hc : EndsWord c) (cs : List Char) :
    ∀ before, lowerAfter before (cs ++ c :: rest) = lowerAfter before cs ++ lower (c :: rest) := by
  induction cs with
  | nil =>
    intro before
    have hsigma : c ≠ 'Σ' := by
      rintro rfl
      exact absurd hc.2 (by decide +kernel)
    have hrest : lowerAfter ([] ++ c :: before) rest = lowerAfter ([] ++ [c]) rest :=
      hc.lowerAfter_congr
    rw [List.nil_append, List.nil_append] at hrest
    rw [List.nil_append, lower, lowerAfter, lowerAfter, lowerAfter, if_neg hsigma, if_neg hsigma,
      hrest, List.nil_append]
  | cons d cs ih =>
    intro before
    rw [List.cons_append, lowerAfter, lowerAfter, ih, hc.meetsCased_append, List.append_assoc]

/-- **Where a word ends, a text is lowercased in two parts.** -/
theorem EndsWord.lower_append (hc : EndsWord c) (cs : List Char) :
    lower (cs ++ c :: rest) = lower cs ++ lower (c :: rest) :=
  hc.lowerAfter_append cs []

end TokenBroker.Text
