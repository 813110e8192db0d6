import TokenBroker.Proofs.Http.AddressGroups
import TokenBroker.Proofs.Http.Paths
import TokenBroker.Proofs.Json.Numbers
import TokenBroker.Proofs.ServerUrl.Assembly

/-!
# Addresses of web servers in normal form

`WebAddress.parse` accepts what browsers accept and leaves addresses in normal form
(`WebAddress.isWebAddress_of_parse`): the host is a name without delimiters or an IPv6 address, user
information holds no delimiter but the colon before a password, the port is within its range, and
what follows the authority is visible and begins with a slash. Names are in ASCII because Punycode
is (`Punycode.lt_of_mem_encode`), and the other parts because they are escaped.
-/

namespace TokenBroker

/-! ### The normal form -/

/-- A host in normal form: a name without delimiters, or an IPv6 address without a scope. -/
inductive IsWebHost (host : List Char) : Prop
  | name (hne : host ≠ [])
    (hplain : ∀ c ∈ host, IsPlain c)
  | address (haddress : Address.isUnscopedIPv6 host = true)
    (hchars : ∀ c ∈ host, c = ':' ∨ Address.isHexadecimal c = true)

namespace RequestUrl

/-- What follows the authority of an address. -/
def afterAuthority (url : RequestUrl) : List Char :=
  url.path.toList ++ led '?' (url.query?.map String.toList)
    ++ led '#' (url.fragment?.map String.toList)

/-- The address of a web server in normal form. -/
structure IsWebAddress (url : RequestUrl) : Prop where
  scheme : url.scheme = "http" ∨ url.scheme = "https"
  userInfo : ∀ c ∈ url.userInfo.toList, c = ':' ∨ IsPlain c
  host : IsWebHost url.host.toList
  port : ∀ port, url.port? = some port → ∃ n : Nat, port = n ∧ n ≤ 65535
  path : url.path.toList.head? = some '/'
  visible : ∀ c ∈ url.afterAuthority, IsVisible c

end RequestUrl

/-! ### Names in ASCII -/

namespace Punycode

theorem digit_lt : ∀ n < 36, (digit n).toNat < 128 := by
  decide

theorem threshold_le (place bias : Nat) : threshold place bias ≤ 26 := by
  unfold threshold
  split <;> (try split) <;> omega

theorem lt_of_mem_digits {bias place n : Nat} {c : Char} (h : c ∈ digits bias place n) :
    c.toNat < 128 := by
  fun_induction digits bias place n with
  | case1 place n t hn =>
    have ht : t ≤ 26 := threshold_le place bias
    rw [List.mem_singleton.1 h]
    exact digit_lt n (by omega)
  | case2 place n t hn ih =>
    have ht : t ≤ 26 := threshold_le place bias
    rcases List.mem_cons.1 h with rfl | h
    · have := Nat.mod_lt (n - t) (show 0 < 36 - t by omega)
      exact digit_lt _ (by omega)
    · exact ih h

/-- Only characters of ASCII have been written. -/
def InAscii (p : Progress) : Prop :=
  ∀ c ∈ p.written, c.toNat < 128

theorem InAscii.pass {p : Progress} (h : InAscii p) (codePoint : Nat) (c : Char) :
    InAscii (pass codePoint p c) := by
  unfold Punycode.pass
  split
  · exact h
  split
  · intro d hd
    rcases List.mem_append.1 hd with hd | hd
    · exact h d hd
    · exact lt_of_mem_digits hd
  · exact h

theorem InAscii.foldl_pass {p : Progress} (h : InAscii p) (codePoint : Nat) (label : List Char) :
    InAscii (label.foldl (Punycode.pass codePoint) p) := by
  induction label generalizing p with
  | nil => exact h
  | cons c rest ih => exact ih (h.pass codePoint c)

theorem InAscii.placeAll {p : Progress} (h : InAscii p) (label : List Char) (codePoints : List Nat)
    (reached : Nat) : InAscii (placeAll label codePoints reached p) := by
  induction codePoints generalizing reached p with
  | nil => exact h
  | cons codePoint rest ih =>
    rw [Punycode.placeAll]
    refine ih (fun c hc ↦ ?_) _
    have hp : InAscii { p with distance := p.distance + (codePoint - reached) * (p.placed + 1) } :=
      h
    exact hp.foldl_pass codePoint label c hc

/-- **Punycode is ASCII.** -/
theorem lt_of_mem_encode {label : List Char} {c : Char} (h : c ∈ encode label) :
    c.toNat < 128 := by
  rw [encode] at h
  rcases List.mem_append.1 h with h | h
  · split at h
    · cases h
    · rcases List.mem_append.1 h with h | h
      · exact of_decide_eq_true (List.mem_filter.1 h).2
      · rw [List.mem_singleton.1 h]
        decide
  · exact InAscii.placeAll (by rintro _ ⟨⟩) _ _ _ c h

end Punycode

theorem RequestUrl.lt_of_mem_asciiLabel {label : List Char} {c : Char} (h : c ∈ asciiLabel label) :
    c.toNat < 128 := by
  rw [asciiLabel] at h
  split at h
  · rename_i hall
    exact of_decide_eq_true (List.all_eq_true.1 hall c h)
  · rcases List.mem_append.1 h with h | h
    · have hstart : ∀ c ∈ ['x', 'n', '-', '-'], c.toNat < 128 :=
        List.forall_iff_forall_mem.1 (by decide)
      exact hstart c h
    · exact Punycode.lt_of_mem_encode h

namespace WebAddress

/-! ### Escaped parts -/

/-- Every set of safe characters is within the visible ones. -/
theorem isVisible_of_safe {c : Char} {others : Bool}
    (h : ('!' ≤ c && c ≤ '~' && others) = true) : IsVisible c := by
  simp only [Bool.and_eq_true, decide_eq_true_eq] at h
  exact h.1

theorem isPlain_of_isUserInfoSafe {c : Char} (h : isUserInfoSafe c = true) : IsPlain c := by
  have hsafe := h
  rw [isUserInfoSafe, Bool.and_eq_true] at hsafe
  refine ⟨isVisible_of_safe hsafe.1, fun hmem ↦ ?_⟩
  simp only [List.mem_cons, List.not_mem_nil, or_false] at hmem
  rcases hmem with rfl | rfl | rfl | rfl | rfl | rfl | rfl <;> exact absurd h (by decide)

/-- Only the colon before the password is not escaped. -/
theorem isPlain_of_mem_normalUserInfo {cs : List Char} {c : Char} (h : c ∈ normalUserInfo cs) :
    c = ':' ∨ IsPlain c := by
  have hencoded {part : List Char} (hc : c ∈ Percent.encode isUserInfoSafe part) : IsPlain c :=
    isPlain_of_isUserInfoSafe (Percent.safe_of_mem_encode (by decide) (by decide) hc)
  unfold normalUserInfo at h
  split at h
  · exact Or.inr (hencoded h)
  · rcases List.mem_append.1 h with h | h
    · exact Or.inr (hencoded h)
    · exact (List.mem_cons.1 h).imp_right hencoded
  · exact Or.inr (hencoded h)

theorem isVisible_of_mem_normalPath {cs : List Char} {c : Char} (h : c ∈ normalPath cs) :
    IsVisible c := by
  rcases List.mem_cons.1 h with rfl | h
  · decide
  · rcases Text.of_mem_intercalate h with rfl | ⟨segment, hsegment, hc⟩
    · decide
    · obtain ⟨other, -, rfl⟩ := List.mem_map.1 hsegment
      exact isVisible_of_safe (Percent.safe_of_mem_encode (by decide) (by decide) hc)

/-! ### Hosts -/

theorem isPlain_of_notForbidden {c : Char} (h : isForbiddenInHost c = false)
    (hascii : c.toNat < 128) : IsPlain c := by
  simp only [isForbiddenInHost, Bool.or_eq_false_iff, decide_eq_false_iff_not] at h
  obtain ⟨⟨hlow, hdelete⟩, hdelimiter⟩ := h
  refine ⟨isVisible_iff.2 (by omega), fun hmem ↦ ?_⟩
  simp only [List.mem_cons, List.not_mem_nil, or_false] at hmem
  rcases hmem with rfl | rfl | rfl | rfl | rfl | rfl | rfl <;> exact absurd hdelimiter (by decide)

theorem isDecimal_of_mem_toDigits {n : Nat} {c : Char} (h : c ∈ Nat.toDigits 10 n) :
    Address.isDecimal c = true :=
  Json.isDigit_of_mem_toDigits h

theorem isPlain_of_mem_dotted {n : Nat} {c : Char} (h : c ∈ dotted n) : IsPlain c := by
  rw [dotted, String.toList_intercalate] at h
  rcases Text.of_mem_intercalate h with rfl | ⟨digits, hdigits, hc⟩
  · decide
  · rw [List.map_map, List.mem_map] at hdigits
    obtain ⟨k, -, rfl⟩ := hdigits
    have hc : c ∈ (Nat.repr (n / Nat.pow 256 k % 256)).toList := hc
    rw [Nat.toList_repr] at hc
    exact isPlain_of_isDecimal (isDecimal_of_mem_toDigits hc)

theorem dotted_ne_nil (n : Nat) : dotted n ≠ [] := by
  simp [dotted]

theorem isWebHost_of_host? {cs host : List Char} (h : host? cs = some host) : IsWebHost host := by
  unfold host? at h
  split at h
  · rename_i inner
    split at h
    · rename_i hinner
      rw [Bool.and_eq_true] at hinner
      obtain ⟨hlength, hlt⟩ := allGroups_of_isUnscopedIPv6 hinner.2
      rw [← Option.some.inj h]
      exact .address (isUnscopedIPv6_shortForm hlength hlt) fun _ ↦ of_mem_shortForm
    · cases h
  · obtain ⟨decoded, -, h⟩ := Option.bind_eq_some_iff.1 h
    dsimp only at h
    split at h
    · cases h
    rename_i hname
    rw [Bool.or_eq_true, not_or, List.isEmpty_iff, Bool.not_eq_true, List.any_eq_false] at hname
    split at h
    · split at h
      · obtain ⟨n, -, rfl⟩ := Option.map_eq_some_iff.1 h
        exact .name (dotted_ne_nil n) fun _ ↦ isPlain_of_mem_dotted
      · cases h
    · rw [← Option.some.inj h]
      refine .name hname.1 fun c hc ↦ isPlain_of_notForbidden (by simpa using hname.2 c hc) ?_
      rcases Text.of_mem_intercalate hc with rfl | ⟨label, hlabel, hc⟩
      · decide
      · obtain ⟨other, -, rfl⟩ := List.mem_map.1 hlabel
        exact RequestUrl.lt_of_mem_asciiLabel hc

/-! ### Addresses -/

theorem exists_port_of_port? {scheme : String} {digits : List Char} {written? : Option Int}
    (h : port? scheme digits = some written?) :
    ∀ port, written? = some port → ∃ n : Nat, port = n ∧ n ≤ 65535 := by
  rintro port rfl
  unfold port? at h
  split at h
  · cases h
  split at h
  · rename_i hdigits
    rw [Bool.and_eq_true, decide_eq_true_eq] at hdigits
    dsimp only at h
    split at h
    · cases h
    · cases h
      exact ⟨_, rfl, Nat.le_of_lt_succ hdigits.2⟩
  · cases h

theorem isVisible_of_mem_led {safe : Char → Bool} {d c : Char} {part? : Option (List Char)}
    (hsafe : ∀ c, safe c = true → IsVisible c) (hd : IsVisible d) (hpercent : safe '%' = true)
    (hdigit : ∀ n < 16, safe (Percent.digit n) = true)
    (h : c ∈ led d ((part?.map fun part ↦ String.ofList (Percent.encode safe part)).map
      String.toList)) : IsVisible c := by
  rcases of_mem_led h with rfl | ⟨part, hpart, hc⟩
  · exact hd
  · rw [Option.map_map] at hpart
    obtain ⟨other, -, rfl⟩ := Option.map_eq_some_iff.1 hpart
    rw [Function.comp_apply, String.toList_ofList] at hc
    exact hsafe c (Percent.safe_of_mem_encode hpercent hdigit hc)

theorem isWebAddress_of_ofScheme? {scheme : String} (hscheme : scheme = "http" ∨ scheme = "https")
    {cs : List Char} {url : RequestUrl} (h : ofScheme? scheme cs = some url) :
    url.IsWebAddress := by
  unfold ofScheme? at h
  dsimp only at h
  obtain ⟨host, hhost, h⟩ := Option.bind_eq_some_iff.1 h
  obtain ⟨port?, hport, h⟩ := Option.bind_eq_some_iff.1 h
  rw [← Option.some.inj h]
  refine
    { scheme := hscheme
      userInfo := fun c hc ↦ isPlain_of_mem_normalUserInfo (String.toList_ofList ▸ hc)
      host := by
        rw [String.toList_ofList]
        exact isWebHost_of_host? hhost
      port := exists_port_of_port? hport
      path := by
        rw [String.toList_ofList]
        rfl
      visible := fun c hc ↦ ?_ }
  rcases List.mem_append.1 hc with hc | hc
  · rcases List.mem_append.1 hc with hc | hc
    · rw [String.toList_ofList] at hc
      exact isVisible_of_mem_normalPath hc
    · exact isVisible_of_mem_led (fun _ ↦ isVisible_of_safe) (by decide) (by decide) (by decide) hc
  · exact isVisible_of_mem_led (fun _ ↦ isVisible_of_safe) (by decide) (by decide) (by decide) hc

/-- **What has been read is in normal form.** -/
theorem isWebAddress_of_parse {text : String} {url : RequestUrl} (h : parse text = .ok url) :
    url.IsWebAddress := by
  unfold parse at h
  split at h
  · cases h
  split at h
  · cases h
  dsimp only at h
  split at h
  · split at h
    · split at h
      · rename_i hscheme
        rw [← Except.ok.inj h]
        rename_i hof
        refine isWebAddress_of_ofScheme? ?_ hof
        simpa using hscheme
      · cases h
    · cases h
  · split at h <;> cases h

end WebAddress

end TokenBroker
