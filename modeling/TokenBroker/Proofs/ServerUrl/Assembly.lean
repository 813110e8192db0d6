import TokenBroker.Proofs.ServerUrl.Blank
import TokenBroker.Proofs.ServerUrl.Host

/-!
# Server URLs that are put together

`ServerUrl.parse` undoes the assembly of a URL: of a scheme, an authority and the rest, in visible
text, it finds each as it was put in, and blanks around the text do not count
(`ServerUrl.parse_assembled`). What the host and the port of the authority are is said for a host
without brackets (`Authority.host_port_of_plain`) and for one between brackets
(`Authority.host_port_of_bracketed`). User information is not looked at.
-/

namespace TokenBroker

/-! ### Blanks around visible text -/

/-- A character of ASCII that is printed, and is no space. -/
def IsVisible (c : Char) : Prop :=
  '!' ≤ c ∧ c ≤ '~'

instance : DecidablePred IsVisible := fun c ↦ inferInstanceAs (Decidable ('!' ≤ c ∧ c ≤ '~'))

theorem isVisible_iff {c : Char} : IsVisible c ↔ 0x21 ≤ c.toNat ∧ c.toNat ≤ 0x7e := Iff.rfl

namespace IsVisible

variable {c : Char}

theorem isBlank_eq_false (h : IsVisible c) : Text.isBlank c = false := by
  rw [isVisible_iff] at h
  simp only [Text.isBlank, Text.blankRanges, List.any_cons, List.any_nil, Bool.or_false,
    Bool.or_eq_false_iff, Bool.and_eq_false_iff, decide_eq_false_iff_not]
  omega

theorem ne_of_toNat (h : IsVisible c) {d : Char} (hd : d.toNat ≤ 0x20) : c ≠ d := by
  rintro rfl
  rw [isVisible_iff] at h
  omega

end IsVisible

/-! ### Plain characters -/

/-- A visible character that ends no part of a URL. -/
def IsPlain (c : Char) : Prop :=
  IsVisible c ∧ c ∉ ['/', '?', '#', '@', ':', '[', ']']

instance : DecidablePred IsPlain := fun c ↦
  inferInstanceAs (Decidable (IsVisible c ∧ c ∉ ['/', '?', '#', '@', ':', '[', ']']))

theorem IsPlain.notMem {c : Char} {ends : List Char} (h : IsPlain c)
    (hends : ends ⊆ ['/', '?', '#', '@', ':', '[', ']']) : c ∉ ends :=
  fun hmem ↦ h.2 (hends hmem)

theorem IsPlain.ne {c d : Char} (h : IsPlain c) (hd : d ∈ ['/', '?', '#', '@', ':', '[', ']']) :
    c ≠ d := by
  rintro rfl
  exact h.2 hd

theorem IsPlain.endsAuthority {c : Char} (h : IsPlain c) : ServerUrl.endsAuthority c = false := by
  simp [ServerUrl.endsAuthority, h.ne]

theorem isPlain_of_isHexadecimal {c : Char} (h : Address.isHexadecimal c = true) : IsPlain c := by
  refine ⟨?_, fun hmem ↦ ?_⟩
  · simp only [Address.isHexadecimal, Address.isDecimal, Bool.or_eq_true, Bool.and_eq_true,
      decide_eq_true_eq] at h
    obtain (⟨hlow, hhigh⟩ | ⟨hlow, hhigh⟩) | ⟨hlow, hhigh⟩ := h <;>
      exact ⟨Char.le_trans (by decide) hlow, Char.le_trans hhigh (by decide)⟩
  · simp only [List.mem_cons, List.not_mem_nil, or_false] at hmem
    rcases hmem with rfl | rfl | rfl | rfl | rfl | rfl | rfl <;> exact absurd h (by decide)

theorem isPlain_of_isDecimal {c : Char} (h : Address.isDecimal c = true) : IsPlain c :=
  isPlain_of_isHexadecimal (by rw [Address.isHexadecimal, h]; rfl)

/-! ### Authorities -/

/-- A part of a URL that may be missing, after the character that leads to it. -/
def led (c : Char) (part? : Option (List Char)) : List Char :=
  (part?.map (c :: ·)).getD []

theorem of_mem_led {c d : Char} {part? : Option (List Char)} (h : c ∈ led d part?) :
    c = d ∨ ∃ part, part? = some part ∧ c ∈ part := by
  cases part? with
  | none => cases h
  | some part => exact (List.mem_cons.1 h).imp_right fun hc ↦ ⟨part, rfl, hc⟩

namespace Authority

variable {c : Char} {cs rest place : List Char}

theorem forall_bne_of_notMem (h : c ∉ cs) : ∀ d ∈ cs, (d != c) = true :=
  fun _ hd ↦ bne_iff_ne.2 fun heq ↦ h (heq ▸ hd)

theorem before_append_cons (h : c ∉ cs) : before c (cs ++ c :: rest) = cs := by
  rw [before, List.takeWhile_append_of_pos (forall_bne_of_notMem h)]
  simp

theorem before_of_notMem (h : c ∉ cs) : before c cs = cs :=
  List.takeWhile_eq_self_iff.2 (forall_bne_of_notMem h)

theorem after_append_cons (h : c ∉ cs) : after c (cs ++ c :: rest) = rest := by
  rw [after, List.dropWhile_append_of_pos (forall_bne_of_notMem h)]
  simp

theorem after_of_notMem (h : c ∉ cs) : after c cs = [] := by
  rw [after, List.dropWhile_eq_nil_iff.2 (forall_bne_of_notMem h)]
  rfl

theorem hostAndPort_of_notMem (h : '@' ∉ place) : hostAndPort place = place := by
  rw [hostAndPort, Text.cutLast?_of_notMem h]

/-- User information may hold at signs, since the last one ends it. -/
theorem hostAndPort_append (userInfo : List Char) (h : '@' ∉ place) :
    hostAndPort (userInfo ++ '@' :: place) = place := by
  rw [hostAndPort, Text.cutLast?_append_cons h]

variable {authority host : List Char} {port? : Option (List Char)}

/-- A host without brackets ends where the port begins. -/
theorem host_port_of_plain (h : hostAndPort authority = host ++ led ':' port?)
    (hcolon : ':' ∉ host) (hbracket : '[' ∉ host ++ led ':' port?) :
    Authority.host authority = host ∧ port authority = port?.getD [] := by
  have hcontains : (hostAndPort authority).contains '[' = false := by
    rw [Bool.eq_false_iff, ne_eq, List.contains_iff_mem, h]
    exact hbracket
  rw [Authority.host, port]
  simp only [hcontains, Bool.false_eq_true, if_false]
  rw [h]
  cases port? with
  | none =>
    rw [led, Option.map_none, Option.getD_none, List.append_nil]
    exact ⟨before_of_notMem hcolon, after_of_notMem hcolon⟩
  | some digits => exact ⟨before_append_cons hcolon, after_append_cons hcolon⟩

theorem opening_mem_of_bracketed (h : hostAndPort authority = '[' :: host ++ ']' :: led ':' port?) :
    '[' ∈ hostAndPort authority := by
  rw [h]
  exact List.mem_cons_self

theorem after_opening (h : hostAndPort authority = '[' :: host ++ ']' :: led ':' port?) :
    after '[' (hostAndPort authority) = host ++ ']' :: led ':' port? := by
  rw [h]
  exact @after_append_cons '[' [] _ List.not_mem_nil

/-- A host in brackets ends at the closing one. -/
theorem host_port_of_bracketed
    (h : hostAndPort authority = '[' :: host ++ ']' :: led ':' port?) (hbracket : ']' ∉ host) :
    Authority.host authority = host ∧ port authority = port?.getD [] := by
  have hcontains := List.contains_iff_mem.2 (opening_mem_of_bracketed h)
  rw [Authority.host, port]
  simp only [hcontains, if_true, after_opening h, after_append_cons hbracket]
  refine ⟨before_append_cons hbracket, ?_⟩
  cases port? with
  | none => exact after_of_notMem List.not_mem_nil
  | some digits => exact @after_append_cons ':' [] _ List.not_mem_nil

theorem hasLookalike_eq_false (h : ∀ c ∈ authority, IsVisible c) :
    hasLookalike authority = false := by
  rw [hasLookalike, List.any_eq_false]
  intro c hc
  have hvisible := isVisible_iff.1 (h c hc)
  simp only [delimiterLookalikes, List.contains_iff_mem, List.mem_cons, List.not_mem_nil, or_false]
  omega

/-- Visible text without brackets may stand in a URL. -/
theorem check_of_plain (hvisible : ∀ c ∈ authority, IsVisible c) (hopening : '[' ∉ authority)
    (hclosing : ']' ∉ authority) : check authority = .ok () := by
  have hopening' : authority.contains '[' = false := by
    rwa [Bool.eq_false_iff, ne_eq, List.contains_iff_mem]
  have hclosing' : authority.contains ']' = false := by
    rwa [Bool.eq_false_iff, ne_eq, List.contains_iff_mem]
  rw [check]
  simp only [hopening', hclosing', hasLookalike_eq_false hvisible]
  rfl

/-- Visible text with an address between brackets may stand in a URL. -/
theorem check_of_bracketed (hvisible : ∀ c ∈ authority, IsVisible c)
    (h : hostAndPort authority = '[' :: host ++ ']' :: led ':' port?) (hbracket : ']' ∉ host)
    (hhost : checkBracketed host = .ok ()) : check authority = .ok () := by
  have hopening := opening_mem_of_bracketed h
  have hclosing : ']' ∈ hostAndPort authority := by
    rw [h]
    exact List.mem_append_right _ List.mem_cons_self
  have hbrackets : checkBrackets authority = .ok () := by
    rw [checkBrackets]
    simp only [List.contains_iff_mem.2 hopening, if_true, after_opening h,
      after_append_cons hbracket, (host_port_of_bracketed h hbracket).1, hhost]
    rw [h]
    cases port? <;> rfl
  rw [check]
  simp only [List.contains_iff_mem.2 (hostAndPort_subset _ hopening),
    List.contains_iff_mem.2 (hostAndPort_subset _ hclosing), hasLookalike_eq_false hvisible,
    hbrackets]
  rfl

end Authority

/-! ### Reading -/

namespace ServerUrl

/-- Blanks around visible text do not count. -/
theorem clean_surrounded {before cs after : List Char}
    (hbefore : ∀ c ∈ before, Text.isBlank c = true) (hcs : ∀ c ∈ cs, IsVisible c)
    (hafter : ∀ c ∈ after, Text.isBlank c = true) : clean (before ++ cs ++ after) = cs := by
  have hkept : (cs.dropWhile (· ≤ ' ')) = cs := by
    cases cs with
    | nil => rfl
    | cons c rest =>
      refine List.dropWhile_cons_of_neg ?_
      have hc := isVisible_iff.1 (hcs c List.mem_cons_self)
      rw [decide_eq_true_eq, Char.le_def, UInt32.le_iff_toNat_le]
      exact Nat.not_le.2 hc.1
  rw [clean, Text.strip_surrounded hbefore (fun c hc ↦ (hcs c hc).isBlank_eq_false) hafter, hkept,
    List.filter_eq_self]
  intro c hc
  have hne {d : Char} (hd : d.toNat ≤ 0x20) : (c != d) = true :=
    bne_iff_ne.2 ((hcs c hc).ne_of_toNat hd)
  simp [hne (show '\t'.toNat ≤ 0x20 by decide), hne (show '\r'.toNat ≤ 0x20 by decide),
    hne (show '\n'.toNat ≤ 0x20 by decide)]

/-- Digits that write a port. -/
structure IsPort (digits : List Char) : Prop where
  ne_nil : digits ≠ []
  decimal : ∀ c ∈ digits, Address.isDecimal c = true
  value_le : Address.decimalValue digits ≤ 65535

theorem IsPort.readPort {digits : List Char} (h : IsPort digits) (text : String) :
    readPort text digits =
      if digits.length ≤ Address.maximumDigits then .ok (some (Address.decimalValue digits))
      else .error (.badPort text) := by
  have hne : digits.isEmpty = false := by simpa using h.ne_nil
  have hdecimal : digits.all Address.isDecimal = true := List.all_eq_true.2 h.decimal
  rw [ServerUrl.readPort, Authority.portNumber?]
  by_cases hlength : digits.length ≤ Address.maximumDigits
  · simp [hne, hdecimal, hlength, h.value_le]
  · simp [hne, hdecimal, hlength]

theorem ne_nil_of_isScheme {scheme : List Char} (h : isScheme scheme = true) : scheme ≠ [] := by
  rintro rfl
  cases h

theorem splitScheme_append {scheme rest : List Char} (h : isScheme scheme = true) :
    splitScheme (scheme ++ ':' :: rest) = (Text.lower scheme, rest) := by
  have hcolon : ':' ∉ scheme := by
    intro hmem
    cases scheme with
    | nil => cases h
    | cons c others =>
      rw [isScheme, Bool.and_eq_true, List.all_eq_true] at h
      exact absurd (h.2 ':' hmem) (by decide)
  rw [splitScheme, Text.cutFirst?_append_cons hcolon]
  simp only [h, if_true]

theorem splitAuthority_append {authority rest : List Char}
    (hauthority : ∀ c ∈ authority, endsAuthority c = false)
    (hrest : ∀ c, rest.head? = some c → endsAuthority c = true) :
    splitAuthority ('/' :: '/' :: (authority ++ rest)) = (authority, rest) := by
  have hkept : ∀ c ∈ authority, (!endsAuthority c) = true := fun c hc ↦ by simp [hauthority c hc]
  rw [splitAuthority]
  cases rest with
  | nil =>
    rw [List.append_nil, List.span_eq_takeWhile_dropWhile, List.takeWhile_eq_self_iff.2 hkept,
      List.dropWhile_eq_nil_iff.2 hkept]
  | cons c others => exact Text.span_append_cons hkept (by simp [hrest c rfl])

/-- **A URL that is put together is read back.** -/
theorem parse_assembled {scheme authority rest before after : List Char}
    (hscheme : isScheme scheme = true) (hauthority : ∀ c ∈ authority, endsAuthority c = false)
    (hrest : ∀ c, rest.head? = some c → endsAuthority c = true)
    (hvisible : ∀ c ∈ scheme ++ ':' :: '/' :: '/' :: (authority ++ rest), IsVisible c)
    (hbefore : ∀ c ∈ before, Text.isBlank c = true) (hafter : ∀ c ∈ after, Text.isBlank c = true)
    (hcheck : Authority.check authority = .ok ()) (hhost : Authority.host authority ≠ []) :
    let text := String.ofList
      (before ++ (scheme ++ ':' :: '/' :: '/' :: (authority ++ rest)) ++ after)
    parse text = (readPort text (Authority.port authority)).map fun port? ↦
      { scheme := String.ofList (Text.lower scheme)
        host := String.ofList (Text.lower (Authority.host authority))
        port? := port?
        path := String.ofList (pathOf rest) } := by
  intro text
  have hclean : clean text.toList = scheme ++ ':' :: '/' :: '/' :: (authority ++ rest) := by
    rw [String.toList_ofList, clean_surrounded hbefore hvisible hafter]
  have hscheme' : (Text.lower scheme).isEmpty = false := by
    rw [List.isEmpty_eq_false_iff, ne_eq, Text.lower_eq_nil_iff]
    exact ne_nil_of_isScheme hscheme
  have hhost' : (Authority.lowerHost authority).isEmpty = false := by
    rw [List.isEmpty_eq_false_iff, ne_eq, ← Text.lower_eq_nil_iff, Authority.lower_lowerHost,
      Text.lower_eq_nil_iff]
    exact hhost
  rw [parse, hclean, splitScheme_append hscheme]
  dsimp only
  rw [splitAuthority_append hauthority hrest]
  dsimp only
  rw [hcheck]
  simp only [hscheme', hhost', Authority.lower_lowerHost]
  cases readPort text (Authority.port authority) <;> rfl

end ServerUrl

end TokenBroker
