import TokenBroker.Proofs.Exchange.Outcome
import TokenBroker.Proofs.Store.Lookup

/-!
# Whether a stored token is found again

A token is stored in a domain for its server, to be looked up at that server later. A domain that
was there before accepts the server, or it would not have been chosen. A new domain takes the host
of the server as a list of patterns, and then it may refuse the very host it was made for:
`exchangeLogin_lookup` gives the condition, `exchangeLogin_not_found` an exchange that loses its
token, on a host that holds a comma.
-/

namespace TokenBroker

variable {σ : Type}

namespace Store

/-- **When a located domain accepts its server**: always if it was found, and if it was made exactly
when the host matches itself. -/
theorem Located.accepts {url : ServerUrl} {store located : Store} {domain : Domain}
    (h : store.Located url domain located) :
    domain.accepts url.requirements = .ok true ↔ domain ∈ store.domains ∨ url.SelfMatching := by
  classical
  cases h with
  | found hname hdomain haccepts =>
    rw [domain.accepts_requirements url]
    exact iff_of_true haccepts (Or.inl (mem_domains_of_domain? hdomain))
  | @made name hname hfree =>
    have hnew : domainFor url name ∉ store.domains := by
      intro hmem
      obtain ⟨entry, hentry, hdomain⟩ := List.mem_map.1 hmem
      have hother := entry_eq_none_iff.1 hfree entry hentry
      rw [hdomain, domainFor, Json.same_self] at hother
      cases hother
    rw [Domain.accepts_ofUrl rfl, Except.ok.injEq, decide_eq_true_eq, or_iff_right hnew]

/-- A lookup after a gain finds what it found before, and the new credential if it is offered by a
domain that accepts the place. -/
theorem Gains.mem_lookup_iff {credential : Credential} {domain : Domain} {store store' : Store}
    (hgains : store.Gains credential domain store') {kind? : Option CredentialKind}
    {who : Authentication} {requirements : List Requirement} {found found' : List Credential}
    (hfound : store.lookup kind? who requirements = .ok found)
    (hfound' : store'.lookup kind? who requirements = .ok found') {other : Credential} :
    other ∈ found' ↔ other ∈ found ∨ other = credential ∧
      offers kind? who credential = true ∧ domain.accepts requirements = .ok true := by
  rw [Store.mem_lookup_iff hfound, Store.mem_lookup_iff hfound']
  cases hgains with
  | existing before after entry =>
    simp only [List.mem_append, List.mem_cons, or_and_right, exists_or, exists_eq_left,
      List.not_mem_nil, or_false]
    by_cases hother : other = credential <;> grind
  | fresh _ _ hnew =>
    simp only [List.mem_append, List.mem_cons, or_and_right, exists_or, exists_eq_left,
      List.not_mem_nil, or_false]
    by_cases hother : other = credential <;> grind

end Store

namespace Exchange

/-- **When a stored token is found again.** The domain that holds the credential accepts its server
exactly if the domain was there before or the host of the server matches itself; and then, and
only then, the exchange has added the credential to what is found there. -/
theorem exchangeLogin_lookup {exchange : Exchange} {surroundings : Surroundings σ}
    {acl : AccessControl} {source : LoginSource} {serverUrl? : Option String}
    {store store' : Store} {world world' : σ} {message : String} {id? : Option String}
    (hstore : store.NamesDistinct)
    (hrun : exchange.exchangeLogin surroundings acl source serverUrl? store world =
      (.ok (.ok message id?), store', world')) :
    ∃ url id credential domain,
      ServerUrl.parse (exchange.serverUrlOr serverUrl?) = .ok url ∧
      id? = some id ∧ credential.id = .str id ∧ credential.kind = .secretText ∧
      store.Gains credential domain store' ∧
      (domain.accepts url.requirements = .ok true ↔
        domain ∈ store.domains ∨ url.SelfMatching) ∧
      ((∀ other ∈ store.domains, other.Readable) →
        ∃ found found',
          store.lookup (some .secretText) .system url.requirements = .ok found ∧
          store'.lookup (some .secretText) .system url.requirements = .ok found' ∧
          ∀ other, other ∈ found' ↔
            other ∈ found ∨ other = credential ∧ (domain ∈ store.domains ∨ url.SelfMatching)) := by
  classical
  obtain ⟨url, id, token, username, domain, located, hid, hurl, hlocated, hstore'⟩ :=
    exists_stored_of_exchangeLogin hrun
  have hgains := hlocated.gains hstore
    (exchange.newCredential id (some (exchange.serverUrlOr serverUrl?)) token username)
  rw [← hstore'] at hgains
  refine ⟨url, id, _, domain, hurl, hid, rfl, rfl, hgains, hlocated.accepts, fun hreadable ↦ ?_⟩
  obtain ⟨found, hfound⟩ := Store.exists_lookup
    (fun other hother ↦ Domain.exists_accepts (hreadable other hother) url.requirements)
    (some .secretText) .system
  -- the domain that holds the credential answers too, whether it is new or not
  have hanswers : ∀ other ∈ store'.domains, ∃ accepted,
      other.accepts url.requirements = .ok accepted := by
    intro other hother
    rw [hstore', Store.domains_updateCredentials] at hother
    cases hlocated with
    | found => exact Domain.exists_accepts (hreadable other hother) url.requirements
    | made =>
      rw [Store.domains_appendDomain, List.mem_append, List.mem_singleton] at hother
      rcases hother with hother | rfl
      · exact Domain.exists_accepts (hreadable other hother) url.requirements
      · exact ⟨_, Domain.accepts_ofUrl rfl⟩
  obtain ⟨found', hfound'⟩ := Store.exists_lookup hanswers (some .secretText) .system
  refine ⟨found, found', hfound, hfound', fun other ↦ ?_⟩
  rw [hgains.mem_lookup_iff hfound hfound', hlocated.accepts]
  exact or_congr_right (and_congr_right fun _ ↦ and_iff_right rfl)

/-- On a plain host the token is found. -/
theorem exchangeLogin_lookup_plain :
    Store.empty.NamesDistinct ∧ ∃ store' url credential found,
      (exchangeLogin {} (.steady "id" (.str "t")) (.start (.administrator "root"))
        (.typed (some "u") (some "p")) (some "https://h") .empty ()).2.1 = store' ∧
      ServerUrl.parse "https://h" = .ok url ∧ credential.id = .str "id" ∧
      store'.lookup (some .secretText) .system url.requirements = .ok found ∧
      credential ∈ found := by
  obtain ⟨result, store', world', hrun⟩ : ∃ result store' world',
      exchangeLogin {} (.steady "id" (.str "t")) (.start (.administrator "root"))
        (.typed (some "u") (some "p")) (some "https://h") .empty () = (result, store', world') :=
    ⟨_, _, _, rfl⟩
  have hok : (exchangeLogin {} (.steady "id" (.str "t")) (.start (.administrator "root"))
      (.typed (some "u") (some "p")) (some "https://h") .empty ()).1 =
      .ok (.ok "Created credentials with id id" (some "id")) := by
    decide +kernel
  rw [hrun] at hok
  cases hok
  obtain ⟨url, id, credential, domain, hurl, hid, hcredential, -, -, -, hlookup⟩ :=
    exchangeLogin_lookup Store.namesDistinct_empty hrun
  cases hid
  have hreadable : ∀ other ∈ Store.empty.domains, other.Readable := by
    intro other hother
    rw [List.mem_singleton.1 hother]
    exact fun spec hspec ↦ absurd hspec List.not_mem_nil
  obtain ⟨found, found', -, hfound', hmem⟩ := hlookup hreadable
  have hhost : ServerUrl.parse "https://h" = .ok ⟨"https", "h", none, ""⟩ := by decide +kernel
  have hdefault : serverUrlOr {} (some "https://h") = "https://h" := by decide +kernel
  rw [hdefault] at hurl
  have hself : url.SelfMatching := by
    rw [hhost] at hurl
    cases hurl
    exact ServerUrl.selfMatching_of_plain hhost (by decide) (by decide)
  exact ⟨Store.namesDistinct_empty, store', url, credential, found', by rw [hrun], hurl,
    hcredential, hfound', (hmem credential).2 (Or.inr ⟨rfl, Or.inr hself⟩)⟩

/-- **An exchange may lose its token.** The new domain takes the host `a,b` for the two patterns `a`
and `b`, which do not match it, so what was stored is not found. -/
theorem exchangeLogin_not_found :
    let run := exchangeLogin {} (.steady "id" (.str "t")) (.start (.administrator "root"))
      (.typed (some "u") (some "p")) (some "https://a,b") .empty ()
    run.1 = .ok (.ok "Created credentials with id id" (some "id")) ∧
      ∃ url, ServerUrl.parse "https://a,b" = .ok url ∧
        (∃ credential ∈ run.2.1.credentialsOf (.str url.host), credential.id = .str "id") ∧
        run.2.1.lookup (some .secretText) .system url.requirements = .ok [] := by
  refine ⟨?_, ⟨"https", "a,b", none, ""⟩, ?_, ?_, ?_⟩
  all_goals decide +kernel

end Exchange

end TokenBroker
