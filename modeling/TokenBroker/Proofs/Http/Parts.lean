import TokenBroker.Http.Url
import TokenBroker.Proofs.Except
import TokenBroker.Proofs.Text.Split

/-!
# Addresses from parts

Reading an address, and asking for something else at the place of one, both put parts together
(`RequestUrl.ofParts`), and what is known of an address is known from its parts.
-/

namespace TokenBroker.RequestUrl

variable {url address : RequestUrl}

/-- When parts make an address, and which. -/
theorem ofParts_eq_ok_iff {scheme authority path : List Char}
    {query? fragment? : Option (List Char)} :
    ofParts scheme authority path query? fragment? = .ok url ↔
      ∃ host port?, normalHost (splitHost authority).2.1 = .ok host ∧
        normalPort (String.ofList scheme) (splitHost authority).2.2 = .ok port? ∧
        let hasAuthority := !(splitHost authority).1.isEmpty || !host.isEmpty || port?.isSome
        checkPath path (!scheme.isEmpty) hasAuthority = .ok () ∧
        url = {
          scheme := String.ofList (Text.lower scheme)
          userInfo := String.ofList (Percent.encode isUserInfoSafe (splitHost authority).1)
          host := String.ofList host
          port? := port?
          path := String.ofList (Percent.encode isPathSafe
            (if !scheme.isEmpty || hasAuthority then normalPath path else path))
          query? := query?.map fun q ↦ String.ofList (Percent.encode isQuerySafe q)
          fragment? := fragment?.map fun f ↦
            String.ofList (Percent.encode isFragmentSafe f) } := by
  simp only [ofParts, Except.bind_eq_ok_iff, pure, Except.pure, Except.ok.injEq, eq_comm (b := url)]
  constructor
  · rintro ⟨host, hhost, port?, hport, ⟨⟩, hcheck, heq⟩
    exact ⟨host, port?, hhost, hport, hcheck, heq⟩
  · rintro ⟨host, port?, hhost, hport, hcheck, heq⟩
    exact ⟨host, hhost, port?, hport, (), hcheck, heq⟩

/-- What is read is put together from parts. -/
theorem exists_ofParts_of_parse {text : String} (h : parse text = .ok url) :
    ∃ scheme authority path query? fragment?,
      ofParts scheme authority path query? fragment? = .ok url := by
  unfold parse at h
  dsimp only at h
  split at h
  · cases h
  cases hcontrol : text.toList.findIdx? isControl with
  | some position => rw [hcontrol] at h; cases h
  | none =>
    rw [hcontrol] at h
    dsimp only at h
    split at h
    · exact ⟨_, _, _, _, _, h⟩
    · exact ⟨_, _, _, _, _, h⟩
    · exact ⟨_, _, _, _, _, h⟩

/-- An address that asks for something else is put together from the same place. -/
theorem ofParts_of_withTarget {target : List Char} (h : url.withTarget target = .ok address) :
    ofParts url.scheme.toList url.authority.toList (target.takeWhile (· != '?'))
      ((Text.cutFirst? '?' target).map Prod.snd) (url.fragment?.map String.toList) =
        .ok address := by
  rw [withTarget] at h
  rw [← Text.fst_cutFirst?_getD]
  cases hcut : Text.cutFirst? '?' target with
  | none =>
    rw [hcut] at h
    obtain ⟨-, -, h⟩ := Except.bind_eq_ok_iff.1 h
    exact h
  | some cut =>
    rw [hcut] at h
    obtain ⟨-, -, h⟩ := Except.bind_eq_ok_iff.1 h
    exact h

theorem target_ne_nil (url : RequestUrl) : url.target.toList ≠ [] := by
  rw [target]
  split
  · simp
  · rename_i hpath
    simp_all [String.isEmpty]

end TokenBroker.RequestUrl
