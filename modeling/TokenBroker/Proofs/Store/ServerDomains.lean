import TokenBroker.Proofs.Domain.Acceptance
import TokenBroker.Proofs.Store.Writes

/-!
# Domains for servers

A domain for a server is asked for by a URL. It may stand under two names, the host of the URL and
the host with the scheme before it, and the names are tried in this order. `Store.Settles` says when
a name settles what comes of it: there is no domain of the name, or one that accepts the URL. A name
that is *taken* by a domain for other places is passed over (`Store.claimName_of_taken`).

**Whatever comes of it, nothing that was there is altered.** `Store.Located` says what is left
behind when a domain is had; otherwise the store is as it was. `Store.getOrCreateDomain_outcome`
puts all of this together.
-/

namespace TokenBroker

variable {σ : Type}

namespace Store

/-! ### Where a domain is located -/

/-- A domain for a URL, and the store in which it stands: found under one of its names, or made. -/
inductive Located (url : ServerUrl) (store : Store) : Domain → Store → Prop
  | found {name : String} {domain : Domain} (hname : name ∈ namesFor url)
      (hdomain : store.domain? (.str name) = some domain)
      (haccepts : domain.accepts [.scheme url.scheme, .host url.host] = .ok true) :
      Located url store domain store
  | made {name : String} (hname : name ∈ namesFor url) (hfree : store.entry? (.str name) = none) :
      Located url store (domainFor url name) (store.appendDomain (domainFor url name))

/-- The domain that a write returns is located, and the store is the one it is located in. -/
theorem located_of_perform {save : Saver σ} {serverUrl : String} {who : Authentication}
    {store store' : Store} {domain : Domain} {world world' : σ}
    (h : perform save (getOrCreateDomain serverUrl who) store world =
      (.ok domain, store', world')) :
    ∃ url, ServerUrl.parse serverUrl = .ok url ∧ Located url store domain store' := by
  rcases perform_cases h with ⟨_, -, herror, -, -⟩ | ⟨answer, hwrite, hanswer, rfl, -⟩ |
    ⟨_, _, _, _, -, -, herror, -⟩ | ⟨next, saved, answer, hwrite, -, hanswer, rfl⟩
  · cases herror
  · cases hanswer
    obtain ⟨-, url, hurl, hclaim⟩ := getOrCreateDomain_eq_ok hwrite
    rcases claimName_cases hclaim with ⟨name, hname, _, hdomain, haccepts, heq⟩ | ⟨_, -, -, heq⟩
    · cases heq
      exact ⟨url, hurl, .found hname hdomain haccepts⟩
    · cases heq
  · cases herror
  · cases hanswer
    obtain ⟨-, url, hurl, hclaim⟩ := getOrCreateDomain_eq_ok hwrite
    rcases claimName_cases hclaim with ⟨_, -, _, -, -, heq⟩ | ⟨name, hname, hfree, heq⟩
    · cases heq
    · cases heq
      rw [mutate_setDefault hfree]
      exact ⟨url, hurl, .made hname hfree⟩

namespace Located

variable {url : ServerUrl} {store store' : Store} {domain : Domain}

theorem atMostNewDomain (h : Located url store domain store') : AtMostNewDomain store store' := by
  cases h with
  | found hname hdomain haccepts => exact .refl store
  | made hname hfree => exact .fresh store _ hfree

/-- What is added to a located domain is a gain over the store before. -/
theorem gains (h : Located url store domain store') (hstore : store.NamesDistinct)
    (credential : Credential) :
    Gains credential domain store
      (store'.updateCredentials domain.name (· ++ [credential])) := by
  cases h with
  | found hname hdomain haccepts =>
    obtain ⟨entry, hentry, rfl⟩ := domain?_eq_some_iff.1 hdomain
    exact .updateCredentials hstore (entry_domain_name hentry) credential
  | made hname hfree => exact .updateCredentials_appendDomain hstore hfree credential

/-- A located domain is one of the store. -/
theorem exists_entry (h : Located url store domain store') :
    ∃ entry, store'.entry? domain.name = some entry ∧ entry.domain = domain := by
  cases h with
  | found hname hdomain haccepts =>
    obtain ⟨entry, hentry, rfl⟩ := domain?_eq_some_iff.1 hdomain
    exact ⟨entry, entry_domain_name hentry, rfl⟩
  | made hname hfree => exact ⟨_, entry_appendDomain_self hfree, rfl⟩

end Located

/-- A credential can be added to a domain of the store as far as the domain goes. -/
theorem addCredential_ne_unknownDomain {store : Store} {name : Json} {entry : StoreEntry}
    (h : store.entry? name = some entry) (credential : Credential) (who : Authentication)
    (unknown : Json) :
    addCredential name credential who store ≠ .error (.unknownDomain unknown) := by
  intro herror
  rw [addCredential] at herror
  obtain hdenied | ⟨_, -, herror⟩ := Except.bind_eq_error_iff.1 herror
  · unfold checkAdd checkManage at hdenied
    split at hdenied
    · cases hdenied
    · split at hdenied <;> cases hdenied
  · simp only [h] at herror
    split at herror <;> cases herror

/-! ### How a name settles -/

section

variable {save : Saver σ} {url : ServerUrl} {store : Store} {world : σ} {name : String}

/-- Under a name there is a domain, but it does not accept a URL. -/
def Taken (store : Store) (url : ServerUrl) (name : String) : Prop :=
  ∃ domain, store.domain? (.str name) = some domain ∧
    domain.accepts [.scheme url.scheme, .host url.host] = .ok false

/-- What comes of asking for a domain for a URL if one of its names settles it.

* A domain of the name that accepts the URL is the answer, and nothing is changed.
* If there is no domain of the name, one is appended that has the specifications of the URL and no
  credentials. It is the only one of the name, and it is the answer. If it cannot be saved, this is
  reported and nothing is changed.
* A domain of the name that cannot be asked is an error, and nothing is changed. -/
structure Settles (save : Saver σ) (url : ServerUrl) (store : Store) (world : σ) (name : String)
    (outcome : Except StoreError Domain × Store × σ) : Prop where
  found {domain : Domain} (hdomain : store.domain? (.str name) = some domain)
    (haccepts : domain.accepts [.scheme url.scheme, .host url.host] = .ok true) :
    outcome = (.ok domain, store, world)
  made (hfree : store.domain? (.str name) = none) {world' : σ}
    (hsave : save (store.appendDomain (domainFor url name)) world = (.ok (), world')) :
    outcome = (.ok (domainFor url name), store.appendDomain (domainFor url name), world') ∧
      (outcome.2.1.domains.filter fun other ↦ Json.same other.name (.str name)) =
        [domainFor url name] ∧
      outcome.2.1.credentialsOf (.str name) = []
  notSaved (hfree : store.domain? (.str name) = none) {failure : SaveFailure} {world' : σ}
    (hsave : save (store.appendDomain (domainFor url name)) world = (.error failure, world')) :
    outcome = (.error (failure.storeError (.str name)), store, world')
  unreadable {domain : Domain} {cause : KindError}
    (hdomain : store.domain? (.str name) = some domain)
    (haccepts : domain.accepts [.scheme url.scheme, .host url.host] = .error cause) :
    outcome = (.error (.unreadable cause), store, world)

/-- A taken name is passed over. -/
theorem claimName_of_taken (h : store.Taken url name) (rest : List String) :
    claimName store url (name :: rest) = claimName store url rest := by
  obtain ⟨domain, hdomain, haccepts⟩ := h
  simp only [claimName, hdomain, haccepts]
  rfl

/-- Names are claimed without error as long as domains can be asked, and one of them is left. -/
theorem claimName_error {names : List String} {error : StoreError}
    (h : claimName store url names = .error error) :
    error = .noFreeName url.scheme url.host ∨ ∃ domain ∈ store.domains, ∃ cause,
      domain.accepts [.scheme url.scheme, .host url.host] = .error cause ∧
        error = .unreadable cause := by
  induction names with
  | nil =>
    cases h
    exact Or.inl rfl
  | cons name rest ih =>
    rw [claimName] at h
    split at h
    case h_1 => cases h
    case h_2 domain hdomain =>
      cases haccepts : domain.accepts [.scheme url.scheme, .host url.host] with
      | error cause =>
        rw [haccepts] at h
        cases h
        exact Or.inr ⟨_, mem_domains_of_domain? hdomain, cause, haccepts, rfl⟩
      | ok accepted =>
        rw [haccepts] at h
        cases accepted with
        | true => cases h
        | false => exact ih h

/-- A domain that is appended under a new name is the only one of the name. -/
theorem filter_domains_appendDomain {domain : Domain} (h : store.entry? domain.name = none) :
    ((store.appendDomain domain).domains.filter fun other ↦ Json.same other.name domain.name) =
      [domain] := by
  have hothers : (store.domains.filter fun other ↦ Json.same other.name domain.name) = [] := by
    rw [List.filter_eq_nil_iff]
    intro other hother
    obtain ⟨entry, hentry, rfl⟩ := List.mem_map.1 hother
    simpa using entry_eq_none_iff.1 h entry hentry
  rw [domains_appendDomain, List.filter_append, hothers]
  simp [Json.same_self]

/-- A name that is not taken settles what comes of claiming it. -/
theorem settles_of_claimName {write : Store → Except StoreError (Proposal Domain)}
    {rest : List String} (h : write store = claimName store url (name :: rest)) :
    Settles save url store world name (perform save write store world) where
  found hdomain haccepts := by
    simp only [claimName, hdomain, haccepts] at h
    rw [perform, h]
    rfl
  made hfree world' hsave := by
    simp only [claimName, hfree] at h
    have hnew : store.entry? (domainFor url name).name = none := domain?_eq_none_iff.1 hfree
    have houtcome : perform save write store world =
        (.ok (domainFor url name), store.appendDomain (domainFor url name), world') := by
      simp only [perform, h, mutate_setDefault hnew, hsave]
    rw [houtcome]
    refine ⟨rfl, filter_domains_appendDomain hnew, ?_⟩
    show Store.credentialsOf _ (domainFor url name).name = []
    rw [credentialsOf, entry_appendDomain_self hnew]
    rfl
  notSaved hfree failure world' hsave := by
    simp only [claimName, hfree] at h
    have hnew : store.entry? (domainFor url name).name = none := domain?_eq_none_iff.1 hfree
    simp only [perform, h, mutate_setDefault hnew, hsave]
    rfl
  unreadable hdomain haccepts := by
    simp only [claimName, hdomain, haccepts] at h
    rw [perform, h]
    rfl

/-! ### The outcome -/

variable {serverUrl : String} {who : Authentication}

/-- Who may manage domains claims a name for the URL. -/
theorem getOrCreateDomain_eq_claimName (hwho : who.has .manageDomains = true)
    (hurl : ServerUrl.parse serverUrl = .ok url) (store : Store) :
    getOrCreateDomain serverUrl who store = claimName store url (namesFor url) := by
  rw [getOrCreateDomain, checkManage_eq_ok_iff.2 hwho, hurl]
  rfl

/-- A domain that can be read accepts a URL or does not. -/
theorem name_cases (hreadable : ∀ domain ∈ store.domains, domain.Readable) (url : ServerUrl)
    (name : String) :
    store.domain? (.str name) = none ∨
      (∃ domain, store.domain? (.str name) = some domain ∧
        domain.accepts [.scheme url.scheme, .host url.host] = .ok true) ∨
      store.Taken url name := by
  cases hdomain : store.domain? (.str name) with
  | none => exact Or.inl rfl
  | some domain =>
    obtain ⟨accepted, haccepts⟩ := Domain.exists_accepts
      (hreadable domain (mem_domains_of_domain? hdomain)) [.scheme url.scheme, .host url.host]
    cases accepted with
    | true => exact Or.inr (Or.inl ⟨domain, rfl, haccepts⟩)
    | false => exact Or.inr (Or.inr ⟨domain, hdomain, haccepts⟩)

/-- Where domains can be read, all that may go wrong is reported by the store. -/
theorem isStorage_of_getOrCreateDomain (hwho : who.has .manageDomains = true)
    (hurl : ServerUrl.parse serverUrl = .ok url)
    (hreadable : ∀ domain ∈ store.domains, domain.Readable) {error : StoreError} {store' : Store}
    {world' : σ} (h : perform save (getOrCreateDomain serverUrl who) store world =
      (.error error, store', world')) : error.fault.IsStorage := by
  rcases perform_cases h with ⟨error, hwrite, heq, -, -⟩ | ⟨_, -, heq, -, -⟩ |
    ⟨_, domain, _, failure, -, -, heq, -⟩ | ⟨_, _, _, -, -, heq, -⟩
  · cases heq
    rw [getOrCreateDomain_eq_claimName hwho hurl] at hwrite
    rcases claimName_error hwrite with rfl | ⟨domain, hdomain, cause, haccepts, -⟩
    · exact ⟨_, _, rfl⟩
    · obtain ⟨accepted, haccepted⟩ := Domain.exists_accepts (hreadable domain hdomain)
        [.scheme url.scheme, .host url.host]
      rw [haccepts] at haccepted
      cases haccepted
  · cases heq
  · cases heq
    exact failure.isStorage_storeError domain
  · cases heq

end

end Store

end TokenBroker
