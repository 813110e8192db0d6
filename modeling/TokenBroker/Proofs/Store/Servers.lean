import TokenBroker.Proofs.Domain.Servers
import TokenBroker.Proofs.Store.Lookup

/-!
# Lookups for other servers

A lookup passes by the domains that do not accept the place (`Store.lookup_of_refused`), and a
domain that is made for a URL refuses all but the URLs of its scheme whose host it covers. So what
is stored in the domain of a plain host is found for that server only (`Store.lookup_confined`).

**A host with a star in it is not confined**: its domain takes the host for a pattern, and what is
stored there is found for every server of the scheme that the pattern matches
(`Store.lookup_of_star_host`).
-/

namespace TokenBroker.Store

theorem lookupEntries_of_refused {kind? : Option CredentialKind} {who : Authentication}
    {requirements : List Requirement} {entry : StoreEntry}
    (h : entry.domain.accepts requirements = .ok false) (before after : List StoreEntry) :
    lookupEntries kind? who requirements (before ++ entry :: after) =
      lookupEntries kind? who requirements (before ++ after) := by
  induction before with
  | nil =>
    rw [List.nil_append, List.nil_append, lookupEntries, h]
    cases lookupEntries kind? who requirements after <;> rfl
  | cons first rest ih => simp only [List.cons_append, lookupEntries, ih]

/-- A lookup passes by a domain that refuses the place. -/
theorem lookup_of_refused {requirements : List Requirement} {domain : Domain}
    (h : domain.accepts requirements = .ok false) (before after : List StoreEntry)
    (credentials : List Credential) (kind? : Option CredentialKind) (who : Authentication) :
    lookup ⟨before ++ { domain := domain, credentials := credentials } :: after⟩ kind? who
        requirements =
      lookup ⟨before ++ after⟩ kind? who requirements :=
  lookupEntries_of_refused h before after

/-- **What a domain made for one URL gives to another.** A domain with the specifications of a URL
always answers, and accepts another URL exactly if the schemes are the same and the host of the one
covers that of the other; for a plain host this means that the hosts are the same. For every URL
that it does not accept, a lookup finds what it would find if the domain and its credentials were
not there. -/
theorem lookup_confined {text text' : String} {url other : ServerUrl}
    (hurl : ServerUrl.parse text = .ok url) (hother : ServerUrl.parse text' = .ok other)
    {domain : Domain} (hdomain : domain.specifications = Specification.ofUrl url) :
    (∃ accepted, domain.accepts other.requirements = .ok accepted ∧
      (accepted = true ↔ url.scheme = other.scheme ∧ url.Covers other.host) ∧
      (url.Plain → (accepted = true ↔ url.scheme = other.scheme ∧ url.host = other.host))) ∧
    (¬ (url.scheme = other.scheme ∧ url.Covers other.host) →
      ∀ (before after : List StoreEntry) (credentials : List Credential)
        (kind? : Option CredentialKind) (who : Authentication),
        lookup ⟨before ++ { domain := domain, credentials := credentials } :: after⟩ kind? who
            other.requirements =
          lookup ⟨before ++ after⟩ kind? who other.requirements) := by
  classical
  have haccepts := Domain.accepts_ofUrl_other hdomain hurl hother
  refine ⟨⟨_, haccepts, decide_eq_true_iff, fun hplain ↦ ?_⟩, fun hrefused ↦ ?_⟩
  · rw [decide_eq_true_iff, hplain.covers_iff hurl]
  · rw [decide_eq_false hrefused] at haccepts
    exact lookup_of_refused haccepts

/-- The token of one server is not found for another one, nor for the same host under another
scheme. -/
theorem lookup_confined_plain :
    let token : Credential := { id := .str "t", content := .secretText (.str "glpat") }
    ∃ url : ServerUrl, ServerUrl.parse "https://h" = .ok url ∧ url.Plain ∧
      ∀ text ∈ ["https://g", "http://h"], ∃ other, ServerUrl.parse text = .ok other ∧
        (domainFor url url.host).accepts other.requirements = .ok false ∧
        lookup
          ⟨[{ domain := .global }, { domain := domainFor url url.host, credentials := [token] }]⟩
          none .system other.requirements = .ok [] := by
  intro token
  have hurl : ServerUrl.parse "https://h" = .ok ⟨"https", "h", none, ""⟩ := by decide +kernel
  have hplain : ServerUrl.Plain ⟨"https", "h", none, ""⟩ := ⟨by decide, by decide, by decide⟩
  refine ⟨_, hurl, hplain, fun text htext ↦ ?_⟩
  obtain ⟨other, hother, hne⟩ : ∃ other : ServerUrl, ServerUrl.parse text = .ok other ∧
      ¬ ("https" = other.scheme ∧ "h" = other.host) := by
    rcases List.mem_pair.1 htext with rfl | rfl
    · exact ⟨⟨"https", "g", none, ""⟩, by decide +kernel, by decide⟩
    · exact ⟨⟨"http", "h", none, ""⟩, by decide +kernel, by decide⟩
  have hmade : (domainFor ⟨"https", "h", none, ""⟩ "h").specifications =
      Specification.ofUrl ⟨"https", "h", none, ""⟩ := rfl
  obtain ⟨⟨accepted, haccepts, -, hiff⟩, hlookup⟩ := lookup_confined hurl hother hmade
  have hrefused : accepted = false := by
    rw [← Bool.not_eq_true, hiff hplain]
    exact hne
  subst hrefused
  refine ⟨other, hother, haccepts,
    (hlookup ?_ [{ domain := .global }] [] [token] none .system).trans rfl⟩
  rwa [hplain.covers_iff hurl]

/-- **A token for a host with a star is found for other servers.** The domain that is made for
`https://*` accepts every host of the scheme. -/
theorem lookup_of_star_host :
    let url : ServerUrl := ⟨"https", "*", none, ""⟩
    let other : ServerUrl := ⟨"https", "h", none, ""⟩
    let token : Credential := { id := .str "t", content := .secretText (.str "glpat") }
    let holding (credentials : List Credential) : Store :=
      ⟨[{ domain := .global }, { domain := domainFor url "*", credentials := credentials }]⟩
    ServerUrl.parse "https://*" = .ok url ∧ ServerUrl.parse "https://h" = .ok other ∧
      url.host ≠ other.host ∧
      perform saveInMemory (getOrCreateDomain "https://*" .system) .empty none =
        (.ok (domainFor url "*"), holding [], none) ∧
      perform saveInMemory (addCredential (.str "*") token .system) (holding []) none =
        (.ok true, holding [token], none) ∧
      (domainFor url "*").accepts other.requirements = .ok true ∧
      (holding [token]).lookup (some .secretText) .system other.requirements = .ok [token] := by
  intro url other token holding
  refine ⟨?_, ?_, ?_, ?_, ?_, ?_, ?_⟩
  all_goals decide +kernel

end TokenBroker.Store
