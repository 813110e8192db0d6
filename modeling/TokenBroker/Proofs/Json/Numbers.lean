import Mathlib.Data.List.TakeDrop
import Mathlib.Data.List.TakeWhile
import TokenBroker.Json.Parser
import TokenBroker.Json.Printer

/-!
# Integers are read as they were written

An integer is written in decimal digits without leading zeros, and the reader takes as many digits
as there are. It stops where they stop, if what stands there does not continue a number
(`Json.EndsNumber`), and takes no fraction and no exponent, so the integer stays an integer
(`Json.readScalar_encodeInt`).
-/

namespace TokenBroker.Json

/-! ### Digits -/

theorem isDigit_eq (c : Char) : isDigit c = c.isDigit := by
  simp [isDigit, Char.isDigit, Char.le_def]

theorem isDigit_of_mem_toDigits {n : Nat} {c : Char} (h : c ∈ Nat.toDigits 10 n) :
    isDigit c = true := by
  rw [isDigit_eq]
  exact Nat.isDigit_of_mem_toDigits (by decide) (Nat.le_refl _) h

theorem digitsValue_toDigits (n : Nat) : digitsValue (Nat.toDigits 10 n) = n := by
  have hfold : ∀ digits init, digits.foldl (fun n c ↦ n * 10 + (c.toNat - '0'.toNat)) init =
      Nat.ofDigitChars 10 digits init := by
    intro digits
    induction digits with
    | nil => exact fun init ↦ Nat.ofDigitChars_nil.symm
    | cons c digits ih =>
      intro init
      rw [List.foldl_cons, ih, Nat.ofDigitChars_cons, Nat.mul_comm 10 init]
  rw [digitsValue, hfold, Nat.ofDigitChars_ten_toDigits]

theorem isDigit_digitChar : ∀ n < 10, isDigit (Nat.digitChar n) = true := by
  decide

theorem eq_zero_of_digitChar : ∀ n < 10, Nat.digitChar n = '0' → n = 0 := by
  decide

/-- The digits of a positive number do not begin with a zero. -/
theorem exists_toDigits_cons (n : Nat) :
    ∃ d digits, Nat.toDigits 10 n = d :: digits ∧ isDigit d = true ∧
      (d = '0' → digits = [] ∧ n = 0) := by
  induction n using Nat.strong_induction_on with
  | _ n ih =>
    by_cases hn : n < 10
    · exact ⟨Nat.digitChar n, [], Nat.toDigits_of_lt_base hn, isDigit_digitChar n hn,
        fun hzero ↦ ⟨rfl, eq_zero_of_digitChar n hn hzero⟩⟩
    · obtain ⟨d, digits, heq, hdigit, hzero⟩ := ih (n / 10) (by omega)
      refine ⟨d, digits ++ [Nat.digitChar (n % 10)], ?_, hdigit, fun h ↦ ?_⟩
      · rw [Nat.toDigits_of_base_le (by decide) (by omega), heq]
        rfl
      · have := (hzero h).2
        omega

/-! ### Reading a number -/

/-- No number that ends before a text goes on into it. -/
def EndsNumber (rest : List Char) : Prop :=
  ∀ c ∈ rest.head?, isDigit c = false ∧ c ≠ '.' ∧ c ≠ 'e' ∧ c ≠ 'E'

theorem span_digits {digits rest : List Char} (hdigits : ∀ c ∈ digits, isDigit c = true)
    (hrest : EndsNumber rest) : (digits ++ rest).span isDigit = (digits, rest) := by
  have hnone : rest.takeWhile isDigit = [] ∧ rest.dropWhile isDigit = rest := by
    cases rest with
    | nil => exact ⟨rfl, rfl⟩
    | cons c rest => simp [(hrest c rfl).1]
  rw [List.span_eq_takeWhile_dropWhile, List.takeWhile_append_of_pos hdigits,
    List.dropWhile_append_of_pos hdigits, hnone.1, hnone.2, List.append_nil]

theorem readWhole_toDigits (n : Nat) {rest : List Char} (hrest : EndsNumber rest) :
    readWhole (Nat.toDigits 10 n ++ rest) = some (Nat.toDigits 10 n, rest) := by
  have hspan := span_digits (fun c ↦ isDigit_of_mem_toDigits (n := n)) hrest
  obtain ⟨d, digits, heq, -, hzero⟩ := exists_toDigits_cons n
  rw [heq] at hspan ⊢
  by_cases hd : d = '0'
  · obtain ⟨rfl, rfl⟩ := hzero hd
    rw [hd]
    rfl
  · rw [List.cons_append, readWhole]
    · rw [← List.cons_append, hspan]
    · exact fun _ heq ↦ hd (List.cons.inj heq).1

theorem readFraction_eq_none {rest : List Char} (h : EndsNumber rest) :
    readFraction rest = none := by
  cases rest with
  | nil => rfl
  | cons c rest =>
    rw [readFraction]
    exact fun _ heq ↦ (h c rfl).2.1 (List.cons.inj heq).1

theorem readExponent_eq_none {rest : List Char} (h : EndsNumber rest) :
    readExponent rest = none := by
  cases rest with
  | nil => rfl
  | cons c rest =>
    obtain ⟨-, -, hsmall, hlarge⟩ := h c rfl
    unfold readExponent
    simp [hsmall, hlarge]

/-- An integer within the limit of digits is read as it is. -/
theorem readInteger_toDigits (negative : Bool) {n : Nat}
    (hn : (Nat.toDigits 10 n).length ≤ Address.maximumDigits) :
    readInteger negative (Nat.toDigits 10 n) = .ok (.int (if negative then -n else n)) := by
  rw [readInteger, if_neg (Nat.not_lt.2 hn), digitsValue_toDigits]

theorem readMagnitude_toDigits (negative : Bool) {n : Nat} {rest : List Char}
    (hrest : EndsNumber rest) (hn : (Nat.toDigits 10 n).length ≤ Address.maximumDigits) :
    readMagnitude negative (Nat.toDigits 10 n ++ rest) =
      some (.ok (.int (if negative then -n else n)), rest) := by
  simp only [readMagnitude, readWhole_toDigits n hrest, readFraction_eq_none hrest,
    readExponent_eq_none hrest, Option.getD_none, Option.isNone_none, Bool.and_self, if_true,
    readInteger_toDigits negative hn, Option.bind_eq_bind, Option.bind_some, Option.pure_def]

/-- No word begins like a number. -/
theorem readWord_eq_none {d : Char} (hd : isDigit d = true) (rest : List Char) :
    readWord? (d :: rest) = none ∧ readWord? ('-' :: d :: rest) = none := by
  have hne : 'n' ≠ d ∧ 't' ≠ d ∧ 'f' ≠ d ∧ 'N' ≠ d ∧ 'I' ≠ d ∧ '-' ≠ d := by
    refine ⟨?_, ?_, ?_, ?_, ?_, ?_⟩ <;> (rintro rfl; revert hd; decide)
  obtain ⟨h₁, h₂, h₃, h₄, h₅, h₆⟩ := hne
  constructor <;> simp [readWord?, words, Text.dropStart?, h₁, h₂, h₃, h₄, h₅, h₆]

/-- What begins with a digit has no sign. -/
theorem readNumber_digit {d : Char} (hd : isDigit d = true) (rest : List Char) :
    readNumber? (d :: rest) = readMagnitude false (d :: rest) := by
  rw [readNumber?]
  intro _ heq
  obtain rfl := (List.cons.inj heq).1
  revert hd
  decide

/-- **A written integer within the limit is read back**, with what stands after it. -/
theorem readScalar_encodeInt {n : Int} {rest : List Char} (hrest : EndsNumber rest)
    (hn : digitCount n ≤ Address.maximumDigits) :
    readScalar (encodeInt n ++ rest) = .ok (.int n, rest) := by
  obtain ⟨d, digits, heq, hdigit, -⟩ := exists_toDigits_cons n.natAbs
  have hmagnitude := fun negative ↦ readMagnitude_toDigits negative hrest hn
  rw [heq] at hmagnitude
  rw [encodeInt, heq]
  by_cases hnegative : n < 0
  · have hvalue : (-(n.natAbs : Int)) = n := by omega
    rw [if_pos hnegative, List.cons_append, readScalar, List.cons_append,
      (readWord_eq_none hdigit _).2, readNumber?, ← List.cons_append, hmagnitude true, if_pos rfl,
      hvalue]
    rfl
  · have hvalue : (n.natAbs : Int) = n := by omega
    rw [if_neg hnegative, readScalar, List.cons_append, (readWord_eq_none hdigit _).1,
      readNumber_digit hdigit, ← List.cons_append, hmagnitude false, if_neg (by decide), hvalue]
    rfl

end TokenBroker.Json
