import TokenBroker.Proofs.Http.NormalForm

/-!
# Addresses in normal form as server URLs

The text of an address in normal form is put together from parts that `ServerUrl.parse` finds again
(`RequestUrl.IsWebAddress.parse_dropTrailing`). The slashes at its end may be left out, since they
all follow the authority: whether they belong to the path, the query or the fragment does not
matter.
-/

namespace TokenBroker

theorem Address.decimalValue_toDigits (n : Nat) : decimalValue (Nat.toDigits 10 n) = n :=
  Json.digitsValue_toDigits n

theorem ServerUrl.isPort_toDigits {n : Nat} (h : n ≤ 65535) : IsPort (Nat.toDigits 10 n) where
  ne_nil := Nat.toDigits_ne_nil
  decimal := fun _ ↦ WebAddress.isDecimal_of_mem_toDigits
  value_le := by rwa [Address.decimalValue_toDigits]

namespace RequestUrl

variable {url : RequestUrl}

/-- The digits of the port, if one is written. -/
def portDigits? (url : RequestUrl) : Option (List Char) :=
  url.port?.map fun port ↦ (ToString.toString port).toList

theorem toList_authority (url : RequestUrl) : url.authority.toList =
    (if url.userInfo.isEmpty then [] else url.userInfo.toList ++ ['@']) ++
      (url.writtenHost.toList ++ led ':' url.portDigits?) := by
  rw [authority, portDigits?, String.toList_append, String.toList_append, List.append_assoc]
  congr 1
  · split <;> simp
  · cases url.port? <;> simp [led]

theorem toList_writtenHost (url : RequestUrl) : url.writtenHost.toList =
    if ':' ∈ url.host.toList then '[' :: url.host.toList ++ [']'] else url.host.toList := by
  rw [writtenHost]
  simp only [List.contains_iff_mem]
  split <;> simp

namespace IsWebAddress

theorem host_ne_nil (h : url.IsWebAddress) : url.host.toList ≠ [] := by
  cases h.host with
  | name hne => exact hne
  | address haddress =>
    exact List.ne_nil_of_mem (Address.colon_mem_of_isUnscopedIPv6 haddress)

theorem writtenHost_ne_nil (h : url.IsWebAddress) : url.writtenHost.toList ≠ [] := by
  rw [toList_writtenHost]
  split
  · exact List.cons_ne_nil _ _
  · exact h.host_ne_nil

theorem authority_ne_nil (h : url.IsWebAddress) : url.authority.toList ≠ [] := by
  rw [toList_authority]
  exact List.append_ne_nil_of_right_ne_nil _
    (List.append_ne_nil_of_left_ne_nil h.writtenHost_ne_nil _)

theorem toList_toString (h : url.IsWebAddress) : url.toString.toList =
    url.scheme.toList ++ ':' :: '/' :: '/' :: (url.authority.toList ++ url.afterAuthority) := by
  have hscheme : url.scheme.isEmpty = false := by
    rcases h.scheme with hscheme | hscheme <;> rw [hscheme] <;> decide
  have hauthority : url.authority.isEmpty = false := by
    rw [Bool.eq_false_iff, ne_eq, String.isEmpty_iff]
    intro hempty
    exact h.authority_ne_nil (by rw [hempty]; rfl)
  rw [toString, hscheme, hauthority, afterAuthority]
  cases url.query? <;> cases url.fragment? <;> simp [led]

/-! ### The authority -/

theorem portDigits?_cases (h : url.IsWebAddress) : url.port? = none ∧ url.portDigits? = none ∨
    ∃ n : Nat, n ≤ 65535 ∧ url.port? = some (n : Int) ∧
      url.portDigits? = some (Nat.toDigits 10 n) := by
  cases hport : url.port? with
  | none => exact Or.inl ⟨rfl, by rw [portDigits?, hport]; rfl⟩
  | some port =>
    obtain ⟨n, rfl, hn⟩ := h.port port hport
    refine Or.inr ⟨n, hn, rfl, ?_⟩
    rw [portDigits?, hport, Option.map_some]
    exact congrArg some Nat.toList_repr

theorem of_mem_port (h : url.IsWebAddress) {c : Char} (hc : c ∈ led ':' url.portDigits?) :
    c = ':' ∨ IsPlain c := by
  refine (of_mem_led hc).imp_right ?_
  rintro ⟨digits, hdigits, hc⟩
  obtain ⟨-, hnone⟩ | ⟨n, -, -, hsome⟩ := h.portDigits?_cases
  · rw [hnone] at hdigits
    cases hdigits
  · rw [hsome] at hdigits
    cases hdigits
    exact isPlain_of_isDecimal (WebAddress.isDecimal_of_mem_toDigits hc)

/-- Brackets stand around addresses, and only there. -/
theorem writtenHost_cases (h : url.IsWebAddress) :
    (url.writtenHost.toList = url.host.toList ∧ ∀ c ∈ url.host.toList, IsPlain c) ∨
      url.writtenHost.toList = '[' :: url.host.toList ++ [']'] ∧
        Address.isUnscopedIPv6 url.host.toList = true ∧
        ∀ c ∈ url.host.toList, c = ':' ∨ Address.isHexadecimal c = true := by
  rw [toList_writtenHost]
  cases h.host with
  | name _ hplain =>
    have hcolon : ':' ∉ url.host.toList := fun hmem ↦ (hplain _ hmem).ne (by decide) rfl
    rw [if_neg hcolon]
    exact Or.inl ⟨rfl, hplain⟩
  | address haddress hchars =>
    rw [if_pos (Address.colon_mem_of_isUnscopedIPv6 haddress)]
    exact Or.inr ⟨rfl, haddress, hchars⟩

/-- Beside the characters of the host, an authority holds colons and an at sign. -/
theorem of_mem_authority (h : url.IsWebAddress) (others : List Char)
    (hothers : ∀ c ∈ [':', '@'], c ∈ others)
    (hhost : ∀ c ∈ url.writtenHost.toList, c ∈ others ∨ IsPlain c) {c : Char}
    (hc : c ∈ url.authority.toList) : c ∈ others ∨ IsPlain c := by
  have hcolon {c : Char} (hc : c = ':' ∨ IsPlain c) : c ∈ others ∨ IsPlain c :=
    hc.imp_left fun heq : c = ':' ↦ hothers c (heq ▸ List.mem_cons_self)
  rw [toList_authority, List.mem_append, List.mem_append] at hc
  rcases hc with hc | hc | hc
  · split at hc
    · cases hc
    · rcases List.mem_append.1 hc with hc | hc
      · exact hcolon (h.userInfo c hc)
      · exact Or.inl (hothers c (List.mem_cons_of_mem _ hc))
  · exact hhost c hc
  · exact hcolon (h.of_mem_port hc)

theorem of_mem_writtenHost (h : url.IsWebAddress) {c : Char} (hc : c ∈ url.writtenHost.toList) :
    c ∈ [':', '[', ']'] ∨ IsPlain c := by
  obtain ⟨heq, hplain⟩ | ⟨heq, -, hchars⟩ := h.writtenHost_cases
  · exact Or.inr (hplain c (heq ▸ hc))
  · rw [heq, List.mem_append, List.mem_cons, List.mem_singleton] at hc
    rcases hc with (rfl | hc) | rfl
    · decide
    · exact (hchars c hc).imp (fun heq : c = ':' ↦ heq ▸ List.mem_cons_self)
        isPlain_of_isHexadecimal
    · decide

/-- An authority is visible and ends where the path begins. -/
theorem visible_of_mem_authority (h : url.IsWebAddress) {c : Char}
    (hc : c ∈ url.authority.toList) : IsVisible c ∧ ServerUrl.endsAuthority c = false := by
  have hmarks : ∀ c ∈ ['@', ':', '[', ']'], IsVisible c ∧ ServerUrl.endsAuthority c = false :=
    List.forall_iff_forall_mem.1 (by decide)
  have hhost : ∀ c ∈ url.writtenHost.toList, c ∈ ['@', ':', '[', ']'] ∨ IsPlain c := fun c hc ↦
    (h.of_mem_writtenHost hc).imp_left (List.mem_cons_of_mem _)
  rcases h.of_mem_authority ['@', ':', '[', ']'] (by simp) hhost hc with hc | hc
  · exact hmarks c hc
  · exact ⟨hc.1, hc.endsAuthority⟩

theorem hostAndPort_authority (h : url.IsWebAddress) :
    Authority.hostAndPort url.authority.toList =
      url.writtenHost.toList ++ led ':' url.portDigits? := by
  have hplace : '@' ∉ url.writtenHost.toList ++ led ':' url.portDigits? := by
    intro hmem
    rcases List.mem_append.1 hmem with hmem | hmem
    · exact absurd (h.of_mem_writtenHost hmem) (by decide)
    · exact absurd (h.of_mem_port hmem) (by decide)
  rw [toList_authority]
  split
  · exact Authority.hostAndPort_of_notMem hplace
  · rw [List.append_assoc]
    exact Authority.hostAndPort_append _ hplace

/-- **The authority of an address in normal form is accepted**, and its host is the host. -/
theorem host_port_check (h : url.IsWebAddress) :
    Authority.host url.authority.toList = url.host.toList ∧
      Authority.port url.authority.toList = url.portDigits?.getD [] ∧
      Authority.check url.authority.toList = .ok () := by
  have hvisible : ∀ c ∈ url.authority.toList, IsVisible c := fun _ hc ↦
    (h.visible_of_mem_authority hc).1
  have hplace := h.hostAndPort_authority
  obtain ⟨heq, hplain⟩ | ⟨heq, haddress, hchars⟩ := h.writtenHost_cases
  · have hbracket : ∀ c ∈ ['[', ']'], c ∉ url.authority.toList := by
      intro c hc hmem
      rcases h.of_mem_authority [':', '@'] (fun _ ↦ id) (fun c hc ↦ Or.inr (hplain c (heq ▸ hc)))
        hmem with hmark | hmark
      · simp only [List.mem_cons, List.not_mem_nil, or_false] at hc hmark
        rcases hmark with rfl | rfl <;> exact absurd hc (by decide)
      · exact hmark.notMem (by simp) hc
    rw [heq] at hplace
    obtain ⟨hhost, hport⟩ := Authority.host_port_of_plain hplace
      (fun hmem ↦ (hplain _ hmem).ne (by decide) rfl) (fun hmem ↦ hbracket '[' (by decide)
        (Authority.hostAndPort_subset _ (hplace ▸ hmem)))
    exact ⟨hhost, hport, Authority.check_of_plain hvisible (hbracket '[' (by decide))
      (hbracket ']' (by decide))⟩
  · have hbracket : ']' ∉ url.host.toList := fun hmem ↦ absurd (hchars _ hmem) (by decide)
    rw [heq, List.append_assoc] at hplace
    obtain ⟨hhost, hport⟩ := Authority.host_port_of_bracketed hplace hbracket
    exact ⟨hhost, hport, Authority.check_of_bracketed hvisible hplace hbracket
      (Authority.checkBracketed_of_isUnscopedIPv6 haddress hchars)⟩

/-! ### Without slashes at the end -/

/-- The slashes at the end of an address all follow the authority. -/
theorem dropTrailing_toString (h : url.IsWebAddress) :
    Text.dropTrailing '/' url.toString.toList = url.scheme.toList ++ ':' :: '/' :: '/' ::
      (url.authority.toList ++ Text.dropTrailing '/' url.afterAuthority) := by
  have hlast := List.getLast_mem h.authority_ne_nil
  have hne : url.authority.toList.getLast h.authority_ne_nil ≠ '/' := fun heq ↦ by
    have := (h.visible_of_mem_authority hlast).2
    rw [heq] at this
    cases this
  rw [h.toList_toString, ← List.dropLast_concat_getLast h.authority_ne_nil]
  have hsplit := Text.dropTrailing_append_cons hne (url.scheme.toList ++ ':' :: '/' :: '/' ::
    url.authority.toList.dropLast) url.afterAuthority
  simpa using hsplit

/-- The port is read back from its digits. -/
theorem readPort_portDigits? (h : url.IsWebAddress) (text : String) :
    ServerUrl.readPort text (url.portDigits?.getD []) = .ok (url.port?.map Int.toNat) := by
  obtain ⟨hport, hdigits⟩ | ⟨n, hn, hport, hdigits⟩ := h.portDigits?_cases
  · rw [hport, hdigits]
    rfl
  · have hlength : (Nat.toDigits 10 n).length ≤ 5 :=
      (Nat.length_toDigits_le_iff (by decide) (by decide)).2 (by omega)
    rw [hport, hdigits, Option.getD_some, (ServerUrl.isPort_toDigits hn).readPort,
      if_pos (Nat.le_trans hlength (by decide)), Address.decimalValue_toDigits]
    rfl

theorem head?_afterAuthority (h : url.IsWebAddress) : url.afterAuthority.head? = some '/' := by
  rw [afterAuthority, List.append_assoc, List.head?_append, h.path]
  rfl

/-- **An address in normal form is a server URL**, even without the slashes at its end. -/
theorem parse_dropTrailing (h : url.IsWebAddress) :
    ServerUrl.parse (String.ofList (Text.dropTrailing '/' url.toString.toList)) = .ok {
      scheme := url.scheme
      host := String.ofList (Text.lower url.host.toList)
      port? := url.port?.map Int.toNat
      path := String.ofList (ServerUrl.pathOf (Text.dropTrailing '/' url.afterAuthority)) } := by
  obtain ⟨hhost, hport, hcheck⟩ := h.host_port_check
  have hscheme : ServerUrl.isScheme url.scheme.toList = true ∧
      String.ofList (Text.lower url.scheme.toList) = url.scheme ∧
      url.scheme.toList.all (decide <| IsVisible ·) = true := by
    rcases h.scheme with heq | heq <;> rw [heq] <;> decide +kernel
  have hbegins := Text.dropTrailing_prefix '/' url.afterAuthority
  have hvisible : ∀ c ∈ url.scheme.toList ++ ':' :: '/' :: '/' ::
      (url.authority.toList ++ Text.dropTrailing '/' url.afterAuthority), IsVisible c := by
    simp only [List.forall_mem_append, List.forall_mem_cons]
    exact ⟨fun c hc ↦ of_decide_eq_true (List.all_eq_true.1 hscheme.2.2 c hc), by decide,
      by decide, by decide,
      fun c hc ↦ (h.visible_of_mem_authority hc).1, fun c hc ↦ h.visible c (hbegins.subset hc)⟩
  have hhead : ∀ c, (Text.dropTrailing '/' url.afterAuthority).head? = some c →
      ServerUrl.endsAuthority c = true := by
    intro c hc
    obtain ⟨slashes, hslashes⟩ := hbegins
    have hc' : url.afterAuthority.head? = some c := by rw [← hslashes, List.head?_append, hc]; rfl
    rw [h.head?_afterAuthority] at hc'
    cases hc'
    rfl
  have hparse := @ServerUrl.parse_assembled url.scheme.toList url.authority.toList _ [] []
    hscheme.1 (fun c hc ↦ (h.visible_of_mem_authority hc).2) hhead hvisible (by simp) (by simp)
    hcheck (hhost ▸ h.host_ne_nil)
  dsimp only at hparse
  rw [List.nil_append, List.append_nil, hhost, hport, hscheme.2.1, ← h.dropTrailing_toString,
    h.readPort_portDigits?] at hparse
  exact hparse

end IsWebAddress

end RequestUrl

end TokenBroker
