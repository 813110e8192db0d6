import Mathlib.Data.List.Basic
import TokenBroker.Json.Parser
import TokenBroker.Json.Printer

/-!
# Strings are read as they were written

The printer writes a character as itself, as a short escape, or as the escapes of its UTF-16 units;
the reader takes these parts one by one and joins the units of one character again
(`Json.exists_parts`). Hence a written string is read back (`Json.readString_encodeString`),
whatever stands after its closing quote.
-/

namespace TokenBroker.Json

/-! ### Hexadecimal digits -/

theorem hexDigit_digitChar : ∀ d < 16, hexDigit? (Nat.digitChar d) = some d := by
  decide

/-- A longer field has one digit more at its end. -/
theorem hexPadded_succ (width n : Nat) (h : 0 < width) :
    Text.hexPadded (width + 1) n = Text.hexPadded width (n / 16) ++ [Nat.digitChar (n % 16)] := by
  simp only [Text.hexPadded]
  by_cases hn : n < 16
  · obtain ⟨width, rfl⟩ : ∃ k, width = k + 1 := ⟨width - 1, by omega⟩
    have hquotient : n / 16 = 0 := by omega
    have hremainder : n % 16 = n := by omega
    rw [hquotient, hremainder, Nat.toDigits_zero, Nat.toDigits_of_lt_base hn]
    simp [List.replicate_succ']
  · rw [Nat.toDigits_of_base_le (by decide) (by omega)]
    simp [Nat.add_sub_add_right]

/-- Four digits suffice for a UTF-16 unit. -/
theorem hexPadded_four {n : Nat} (h : n < 0x10000) :
    Text.hexPadded 4 n = [Nat.digitChar (n / 16 / 16 / 16), Nat.digitChar (n / 16 / 16 % 16),
      Nat.digitChar (n / 16 % 16), Nat.digitChar (n % 16)] := by
  have hone : ∀ d < 16, Text.hexPadded 1 d = [Nat.digitChar d] := by
    intro d hd
    simp only [Text.hexPadded, Nat.toDigits_of_lt_base hd]
    rfl
  rw [hexPadded_succ 3 n (by decide), hexPadded_succ 2 _ (by decide),
    hexPadded_succ 1 _ (by decide), hone _ (by omega)]
  rfl

/-- The four digits of a unit are read as the unit. -/
theorem hexUnit_digits {n : Nat} (h : n < 0x10000) :
    hexUnit? (Nat.digitChar (n / 16 / 16 / 16)) (Nat.digitChar (n / 16 / 16 % 16))
      (Nat.digitChar (n / 16 % 16)) (Nat.digitChar (n % 16)) = some n := by
  simp only [hexUnit?, hexDigit_digitChar _ (show n / 16 / 16 / 16 < 16 by omega),
    hexDigit_digitChar _ (Nat.mod_lt _ (show 0 < 16 by decide)), Option.bind_eq_bind,
    Option.bind_some, Option.pure_def, Option.some.injEq]
  omega

/-! ### Parts -/

/-- What is read of a text that begins with known parts. -/
def withParts (parts : List StringPart)
    (found : Except StringFault (List StringPart × List Char)) :
    Except StringFault (List StringPart × List Char) :=
  found.map fun read ↦ (parts ++ read.1, read.2)

theorem withParts_append (first second : List StringPart)
    (found : Except StringFault (List StringPart × List Char)) :
    withParts first (withParts second found) = withParts (first ++ second) found := by
  cases found <;> simp [withParts, Except.map]

theorem readParts_escapeUnit {n : Nat} (h : n < 0x10000) {rest : List Char} (hrest : rest ≠ []) :
    readParts (escapeUnit n ++ rest) = withParts [.unit n] (readParts rest) := by
  obtain ⟨c, rest, rfl⟩ := List.exists_cons_of_ne_nil hrest
  rw [escapeUnit, hexPadded_four h]
  simp only [List.cons_append, List.nil_append]
  rw [readParts]
  simp only [hexUnit_digits h]
  cases readParts (c :: rest) <;> rfl

theorem readParts_escapeUnits {high low : Nat} (hhigh : high < 0x10000) (hlow : low < 0x10000)
    {rest : List Char} (hrest : rest ≠ []) :
    readParts (escapeUnit high ++ escapeUnit low ++ rest) =
      withParts [.unit high, .unit low] (readParts rest) := by
  rw [List.append_assoc, readParts_escapeUnit hhigh (by simp [escapeUnit]),
    readParts_escapeUnit hlow hrest, withParts_append]
  rfl

theorem readParts_shortEscape {e c : Char} (he : e ≠ 'u') (h : shortEscape? e = some c)
    (rest : List Char) :
    readParts ('\\' :: e :: rest) = withParts [.char c] (readParts rest) := by
  rw [readParts]
  · rw [h]
    cases readParts rest <;> rfl
  · exact fun _ _ _ _ _ _ heq _ ↦ he heq
  · exact he

theorem readParts_plain {c : Char} (hquote : c ≠ '"') (hescape : c ≠ '\\') (hcontrol : ¬ c < ' ')
    (rest : List Char) : readParts (c :: rest) = withParts [.char c] (readParts rest) := by
  rw [readParts, if_neg hcontrol]
  · cases readParts rest <;> rfl
  · exact hquote
  · exact fun heq _ ↦ hescape heq
  · exact fun _ _ _ _ _ _ heq _ ↦ hescape heq
  · exact fun _ heq _ ↦ hescape heq
  · exact fun _ _ heq _ ↦ hescape heq

/-! ### Joining parts -/

theorem toNat_lt_or (c : Char) : c.toNat < 0xd800 ∨ 0xdfff < c.toNat ∧ c.toNat < 0x110000 := by
  rcases c.valid with h | h
  · exact Or.inl h
  · exact Or.inr h

theorem joinParts_unit (c : Char) (later : List StringPart) :
    joinParts (.unit c.toNat :: later) = c :: joinParts later := by
  have hchar : charOfUnit c.toNat = c := by
    have hrange := toNat_lt_or c
    rw [charOfUnit, if_neg (by simp only [Bool.and_eq_true, decide_eq_true_eq]; omega),
      Char.ofNat_toNat]
  cases later with
  | nil => simp only [joinParts, hchar]
  | cons part later =>
    cases part with
    | char d => simp only [joinParts, hchar]
    | unit low =>
      have hrange := toNat_lt_or c
      rw [joinParts, if_neg (by simp only [Bool.and_eq_true, decide_eq_true_eq]; omega), hchar]

/-- The two units of a character above U+FFFF make the character. -/
theorem joinParts_pair {c : Char} (h : 0x10000 ≤ c.toNat) (later : List StringPart) :
    joinParts (.unit (0xd800 + (c.toNat - 0x10000) / 0x400) ::
      .unit (0xdc00 + (c.toNat - 0x10000) % 0x400) :: later) = c :: joinParts later := by
  have hrange := toNat_lt_or c
  have hpair : 0x10000 + (0xd800 + (c.toNat - 0x10000) / 0x400 - 0xd800) * 0x400 +
      (0xdc00 + (c.toNat - 0x10000) % 0x400 - 0xdc00) = c.toNat := by omega
  rw [joinParts, if_pos (by simp only [Bool.and_eq_true, decide_eq_true_eq]; omega), hpair,
    Char.ofNat_toNat]

/-- **A written character is read as parts that make the character.** -/
theorem exists_parts (c : Char) :
    ∃ parts, (∀ rest ≠ [], readParts (escapeChar c ++ rest) = withParts parts (readParts rest)) ∧
      ∀ later, joinParts (parts ++ later) = c :: joinParts later := by
  have hshort : ∀ {e d : Char}, e ≠ 'u' → shortEscape? e = some d → c = d →
      ∃ parts, (∀ rest ≠ [], readParts (['\\', e] ++ rest) = withParts parts (readParts rest)) ∧
        ∀ later, joinParts (parts ++ later) = c :: joinParts later := by
    rintro e d he hd rfl
    exact ⟨[.char c], fun rest _ ↦ readParts_shortEscape he hd rest, fun later ↦ by
      rw [List.singleton_append, joinParts]⟩
  unfold escapeChar
  split
  · exact hshort (by decide) rfl ‹_›
  split
  · exact hshort (by decide) rfl ‹_›
  split
  · exact hshort (by decide) rfl ‹_›
  split
  · exact hshort (by decide) rfl ‹_›
  split
  · exact hshort (by decide) rfl ‹_›
  split
  · exact hshort (by decide) rfl ‹_›
  split
  · exact hshort (by decide) rfl ‹_›
  simp only
  split
  · rename_i hquote hescape _ _ _ _ _ hprintable
    simp only [Bool.and_eq_true, decide_eq_true_eq] at hprintable
    have hcontrol : ¬ c < ' ' := by
      rw [Char.lt_def, UInt32.lt_iff_toNat_lt]
      exact Nat.not_lt.2 hprintable.1
    exact ⟨[.char c], fun rest _ ↦ readParts_plain hquote hescape hcontrol rest, fun later ↦ by
      rw [List.singleton_append, joinParts]⟩
  split
  · rename_i hunit
    exact ⟨[.unit c.toNat], fun rest hrest ↦ readParts_escapeUnit hunit hrest, joinParts_unit c⟩
  · rename_i hunits
    have hrange := toNat_lt_or c
    exact ⟨[.unit (0xd800 + (c.toNat - 0x10000) / 0x400),
        .unit (0xdc00 + (c.toNat - 0x10000) % 0x400)],
      fun rest hrest ↦ readParts_escapeUnits (by omega) (by omega) hrest,
      fun later ↦ joinParts_pair (Nat.not_lt.1 hunits) later⟩

/-! ### Whole strings -/

theorem readParts_flatMap (cs rest : List Char) :
    ∃ parts, readParts (cs.flatMap escapeChar ++ '"' :: rest) = .ok (parts, rest) ∧
      joinParts parts = cs := by
  induction cs with
  | nil => exact ⟨[], by rw [List.flatMap_nil, List.nil_append, readParts], rfl⟩
  | cons c cs ih =>
    obtain ⟨later, hlater, hcs⟩ := ih
    obtain ⟨parts, hparts, hc⟩ := exists_parts c
    refine ⟨parts ++ later, ?_, by rw [hc, hcs]⟩
    rw [List.flatMap_cons, List.append_assoc, hparts _ (by simp), hlater]
    rfl

/-- **A written string is read back**, with what stands after it. -/
theorem readString_encodeString (s : String) (rest : List Char) :
    ∃ written, encodeString s ++ rest = '"' :: written ∧ readString written = .ok (s, rest) := by
  obtain ⟨parts, hparts, hs⟩ := readParts_flatMap s.toList rest
  refine ⟨s.toList.flatMap escapeChar ++ '"' :: rest, by simp [encodeString], ?_⟩
  simp only [readString, hparts, hs, String.ofList_toList]

end TokenBroker.Json
