import TokenBroker.Proofs.Except
import TokenBroker.Proofs.Store.Entries

/-!
# What writes do to a store

The four writes of a store as data, `StoreWrite`, so that a run of writes is a list or a relation.
`StoreWrite.Effect` says once everything that a write can do to a store, with the conditions under
which it does so; `StoreWrite.run_cases` says that a write that is carried out either has its
effect, saved, or leaves the store as it was. Invariants of the store are read off `Effect`, one
case for each write, and no later proof opens a write again.
-/

namespace TokenBroker

variable {σ α β : Type}

/-- The fault is a report of the store. -/
def Fault.IsStorage (fault : Fault) : Prop :=
  ∃ message domain, fault = .failure (.storage message domain)

theorem SaveFailure.isStorage_storeError (failure : SaveFailure) (domain : Json) :
    (failure.storeError domain).fault.IsStorage := by
  cases failure <;> exact ⟨_, _, rfl⟩

namespace Store

/-! ### Carrying out a write -/

/-- **How a write ends.** It is refused, or has its answer at once, or asks for a change that could
not be saved, or for one that was. -/
theorem perform_cases {save : Saver σ} {write : Store → Except StoreError (Proposal α)}
    {store store' : Store} {world world' : σ} {result : Except StoreError α}
    (h : perform save write store world = (result, store', world')) :
    (∃ error, write store = .error error ∧ result = .error error ∧ store' = store ∧
      world' = world) ∨
    (∃ answer, write store = .ok (.settled answer) ∧ result = .ok answer ∧ store' = store ∧
      world' = world) ∨
    (∃ mutation domain answer failure, write store = .ok (.change mutation domain answer) ∧
      save (store.mutate mutation) world = (.error failure, world') ∧
      result = .error (failure.storeError domain) ∧ store' = store) ∨
    (∃ mutation domain answer, write store = .ok (.change mutation domain answer) ∧
      save (store.mutate mutation) world = (.ok (), world') ∧ result = .ok answer ∧
      store' = store.mutate mutation) := by
  unfold perform at h
  split at h
  case h_1 error hwrite =>
    simp only [Prod.mk.injEq] at h
    obtain ⟨rfl, rfl, rfl⟩ := h
    exact Or.inl ⟨error, hwrite, rfl, rfl, rfl⟩
  case h_2 answer hwrite =>
    simp only [Prod.mk.injEq] at h
    obtain ⟨rfl, rfl, rfl⟩ := h
    exact Or.inr (Or.inl ⟨answer, hwrite, rfl, rfl, rfl⟩)
  case h_3 mutation domain answer hwrite =>
    split at h
    case h_1 world'' hsave =>
      simp only [Prod.mk.injEq] at h
      obtain ⟨rfl, rfl, rfl⟩ := h
      exact Or.inr (Or.inr (Or.inr ⟨mutation, domain, answer, hwrite, hsave, rfl, rfl⟩))
    case h_2 failure world'' hsave =>
      simp only [Prod.mk.injEq] at h
      obtain ⟨rfl, rfl, rfl⟩ := h
      exact Or.inr (Or.inr (Or.inl ⟨mutation, domain, answer, failure, hwrite, hsave, rfl, rfl⟩))

/-- A write that ends in an error leaves the store as it was. -/
theorem perform_error {save : Saver σ} {write : Store → Except StoreError (Proposal α)}
    {store store' : Store} {world world' : σ} {error : StoreError}
    (h : perform save write store world = (.error error, store', world')) : store' = store := by
  rcases perform_cases h with ⟨_, -, -, h, -⟩ | ⟨_, -, h, -, -⟩ | ⟨_, _, _, _, -, -, -, h⟩ |
    ⟨_, _, _, -, -, h, -⟩
  · exact h
  · cases h
  · exact h
  · cases h

/-! ### What each write proposes -/

/-- A name is claimed by finding a domain that accepts the place, or by making one. -/
theorem claimName_cases {store : Store} {url : ServerUrl} {proposal : Proposal Domain} :
    ∀ {names : List String}, claimName store url names = .ok proposal →
      (∃ name ∈ names, ∃ domain, store.domain? (.str name) = some domain ∧
        domain.accepts [.scheme url.scheme, .host url.host] = .ok true ∧
        proposal = .settled domain) ∨
      (∃ name ∈ names, store.entry? (.str name) = none ∧
        proposal = .change (.setDefault (domainFor url name)) (.str name) (domainFor url name))
  | [], h => by cases h
  | name :: rest, h => by
    rw [claimName] at h
    split at h
    case h_1 hnone =>
      cases h
      exact Or.inr ⟨name, List.mem_cons_self, domain?_eq_none_iff.1 hnone, rfl⟩
    case h_2 domain hdomain =>
      cases haccepts : domain.accepts [.scheme url.scheme, .host url.host] with
      | error cause => rw [haccepts] at h; cases h
      | ok accepted =>
        rw [haccepts] at h
        cases accepted with
        | true =>
          cases h
          exact Or.inl ⟨name, List.mem_cons_self, domain, hdomain, haccepts, rfl⟩
        | false =>
          rcases claimName_cases h with ⟨other, hmem, hfound⟩ | ⟨other, hmem, hmade⟩
          · exact Or.inl ⟨other, List.mem_cons_of_mem _ hmem, hfound⟩
          · exact Or.inr ⟨other, List.mem_cons_of_mem _ hmem, hmade⟩

theorem checkManage_eq_ok_iff {who : Authentication} :
    checkManage who = .ok () ↔ who.has .manageDomains = true := by
  simp [checkManage]

/-- The names under which a domain for a URL may stand. -/
def namesFor (url : ServerUrl) : List String :=
  [url.host, url.scheme ++ "://" ++ url.host]

theorem getOrCreateDomain_eq_ok {serverUrl : String} {who : Authentication} {store : Store}
    {proposal : Proposal Domain} (h : getOrCreateDomain serverUrl who store = .ok proposal) :
    who.has .manageDomains = true ∧ ∃ url, ServerUrl.parse serverUrl = .ok url ∧
      claimName store url (namesFor url) = .ok proposal := by
  rw [getOrCreateDomain, Except.bind_eq_ok_iff] at h
  obtain ⟨_, hwho, h⟩ := h
  rw [Except.bind_eq_ok_iff] at h
  obtain ⟨url, hurl, h⟩ := h
  exact ⟨checkManage_eq_ok_iff.1 hwho, url, Except.of_mapError_eq_ok hurl, h⟩

theorem addCredential_eq_ok {name : Json} {credential : Credential} {who : Authentication}
    {store : Store} {proposal : Proposal Bool}
    (h : addCredential name credential who store = .ok proposal) :
    checkAdd credential who = .ok () ∧ ∃ entry, store.entry? name = some entry ∧
      ((∃ other ∈ entry.credentials, other.same credential = true) ∧ proposal = .settled false ∨
        (∀ other ∈ entry.credentials, other.same credential = false) ∧
          proposal = .change (.append name credential) name true) := by
  rw [addCredential, Except.bind_eq_ok_iff] at h
  obtain ⟨_, hwho, h⟩ := h
  split at h
  · cases h
  rename_i entry hentry
  refine ⟨hwho, entry, hentry, ?_⟩
  split at h
  · rename_i hsame
    exact Or.inl ⟨List.any_eq_true.1 hsame, (Except.ok.inj h).symm⟩
  · rename_i hnew
    exact Or.inr ⟨by simpa using hnew, (Except.ok.inj h).symm⟩

theorem removeCredential_eq_ok {name id : Json} {who : Authentication} {store : Store}
    {proposal : Proposal Bool} (h : removeCredential name id who store = .ok proposal) :
    who.has .manageDomains = true ∧
      ((∀ credential ∈ store.credentialsOf name, Json.same credential.id id = false) ∧
          proposal = .settled false ∨
        (∃ credential ∈ store.credentialsOf name, Json.same credential.id id = true) ∧
          proposal = .change (.remove name id) name true) := by
  rw [removeCredential, Except.bind_eq_ok_iff] at h
  obtain ⟨_, hwho, h⟩ := h
  refine ⟨checkManage_eq_ok_iff.1 hwho, ?_⟩
  split at h
  · rename_i hany
    exact Or.inr ⟨List.any_eq_true.1 hany, (Except.ok.inj h).symm⟩
  · rename_i hnone
    exact Or.inl ⟨by simpa using hnone, (Except.ok.inj h).symm⟩

theorem removeDomain_eq_ok {name : Json} {who : Authentication} {store : Store}
    {proposal : Proposal Bool} (h : removeDomain name who store = .ok proposal) :
    who.has .manageDomains = true ∧ name ≠ .null ∧
      (store.entry? name = none ∧ proposal = .settled false ∨
        (∃ entry, store.entry? name = some entry) ∧
          proposal = .change (.pop name) name true) := by
  rw [removeDomain, Except.bind_eq_ok_iff] at h
  obtain ⟨_, hwho, h⟩ := h
  refine ⟨checkManage_eq_ok_iff.1 hwho, ?_⟩
  by_cases hname : name = .null
  · subst hname
    cases h
  refine ⟨hname, ?_⟩
  rw [if_neg (by simpa using hname)] at h
  split at h
  · rename_i hentry
    exact Or.inr ⟨Option.isSome_iff_exists.1 hentry, (Except.ok.inj h).symm⟩
  · rename_i hnone
    exact Or.inl ⟨by simpa using hnone, (Except.ok.inj h).symm⟩

end Store

/-! ### Writes as data -/

/-- The answers of writes: a domain, or whether something was changed. -/
inductive StoreAnswer
  | domain (domain : Domain)
  | done (changed : Bool)
  deriving DecidableEq, Inhabited, Repr

/-- A call that may change a store. -/
inductive StoreWrite
  | getOrCreateDomain (serverUrl : String)
  | addCredential (name : Json) (credential : Credential)
  | removeCredential (name id : Json)
  | removeDomain (name : Json)
  deriving DecidableEq, Inhabited, Repr

/-- A proposal with its answer read in another way. -/
def Proposal.map (f : α → β) : Proposal α → Proposal β
  | .settled answer => .settled (f answer)
  | .change mutation domain answer => .change mutation domain (f answer)

namespace StoreWrite

/-- What a write asks for. -/
def propose (who : Authentication) (store : Store) :
    StoreWrite → Except StoreError (Proposal StoreAnswer)
  | .getOrCreateDomain serverUrl =>
    (store.getOrCreateDomain serverUrl who).map (Proposal.map .domain)
  | .addCredential name credential =>
    (store.addCredential name credential who).map (Proposal.map .done)
  | .removeCredential name id => (store.removeCredential name id who).map (Proposal.map .done)
  | .removeDomain name => (store.removeDomain name who).map (Proposal.map .done)

/-- Carries out a write. -/
def run (save : Saver σ) (who : Authentication) (write : StoreWrite) (store : Store) (world : σ) :
    Except StoreError StoreAnswer × Store × σ :=
  Store.perform save (fun store ↦ write.propose who store) store world

/-- A write whose answer is read in another way is the same write. -/
theorem perform_map (save : Saver σ) (write : Store → Except StoreError (Proposal α)) (f : α → β)
    (store : Store) (world : σ) :
    Store.perform save (fun store ↦ (write store).map (Proposal.map f)) store world =
      ((Store.perform save write store world).1.map f,
        (Store.perform save write store world).2) := by
  simp only [Store.perform]
  cases write store with
  | error error => rfl
  | ok proposal =>
    cases proposal with
    | settled answer => rfl
    | change mutation domain answer =>
      simp only [Except.map, Proposal.map]
      rcases save (store.mutate mutation) world with ⟨failure | _, world'⟩ <;> rfl

/-- **Everything that a write can do to a store**, with its answer and the conditions under which it
does so. -/
inductive Effect (who : Authentication) (store : Store) : StoreWrite → StoreAnswer → Store → Prop
  | create {serverUrl : String} {url : ServerUrl} {name : String}
      (hwho : who.has .manageDomains = true) (hurl : ServerUrl.parse serverUrl = .ok url)
      (hname : name ∈ Store.namesFor url) (hfree : store.entry? (.str name) = none) :
      Effect who store (.getOrCreateDomain serverUrl) (.domain (Store.domainFor url name))
        (store.appendDomain (Store.domainFor url name))
  | add {name : Json} {credential : Credential} {entry : StoreEntry}
      (hwho : Store.checkAdd credential who = .ok ()) (hentry : store.entry? name = some entry)
      (hnew : ∀ other ∈ entry.credentials, other.same credential = false) :
      Effect who store (.addCredential name credential) (.done true)
        (store.updateCredentials name (· ++ [credential]))
  | remove {name id : Json} (hwho : who.has .manageDomains = true)
      (hany : ∃ credential ∈ store.credentialsOf name, Json.same credential.id id = true) :
      Effect who store (.removeCredential name id) (.done true)
        (store.updateCredentials name (·.filter fun credential ↦ !Json.same credential.id id))
  | erase {name : Json} (hwho : who.has .manageDomains = true) (hname : name ≠ .null)
      (hentry : ∃ entry, store.entry? name = some entry) :
      Effect who store (.removeDomain name) (.done true) (store.eraseDomain name)

theorem map_proposal_eq_change {x : Except StoreError (Proposal α)} {f : α → β}
    {mutation : Mutation} {domain : Json} {answer : β}
    (h : x.map (Proposal.map f) = .ok (.change mutation domain answer)) :
    ∃ answer', x = .ok (.change mutation domain answer') ∧ answer = f answer' := by
  match x, h with
  | .ok (.change _ _ answer'), h => cases h; exact ⟨answer', rfl, rfl⟩

/-- A change that a write proposes is its effect. -/
theorem effect_of_propose {who : Authentication} {store : Store} {mutation : Mutation}
    {domain : Json} {write : StoreWrite} {answer : StoreAnswer}
    (h : write.propose who store = .ok (.change mutation domain answer)) :
    write.Effect who store answer (store.mutate mutation) := by
  cases write with
  | getOrCreateDomain serverUrl =>
    obtain ⟨answer', hproposal, rfl⟩ := map_proposal_eq_change h
    obtain ⟨hwho, url, hurl, hclaim⟩ := Store.getOrCreateDomain_eq_ok hproposal
    rcases Store.claimName_cases hclaim with ⟨_, _, _, _, _, heq⟩ | ⟨name, hname, hfree, heq⟩
    · cases heq
    · cases heq
      rw [Store.mutate_setDefault hfree]
      exact .create hwho hurl hname hfree
  | addCredential name credential =>
    obtain ⟨answer', hproposal, rfl⟩ := map_proposal_eq_change h
    obtain ⟨hwho, entry, hentry, ⟨_, heq⟩ | ⟨hnew, heq⟩⟩ := Store.addCredential_eq_ok hproposal
    · cases heq
    · cases heq
      exact .add hwho hentry hnew
  | removeCredential name id =>
    obtain ⟨answer', hproposal, rfl⟩ := map_proposal_eq_change h
    obtain ⟨hwho, ⟨_, heq⟩ | ⟨hany, heq⟩⟩ := Store.removeCredential_eq_ok hproposal
    · cases heq
    · cases heq
      exact .remove hwho hany
  | removeDomain name =>
    obtain ⟨answer', hproposal, rfl⟩ := map_proposal_eq_change h
    obtain ⟨hwho, hname, ⟨_, heq⟩ | ⟨hentry, heq⟩⟩ := Store.removeDomain_eq_ok hproposal
    · cases heq
    · cases heq
      exact .erase hwho hname hentry

theorem map_proposal_eq_settled {x : Except StoreError (Proposal α)} {f : α → β} {answer : β}
    (h : x.map (Proposal.map f) = .ok (.settled answer)) :
    ∃ answer', x = .ok (.settled answer') ∧ answer = f answer' := by
  match x, h with
  | .ok (.settled answer'), h => cases h; exact ⟨answer', rfl, rfl⟩

/-- A write that asks for no change does not say that something was done. -/
theorem ne_done_of_propose {who : Authentication} {store : Store} {write : StoreWrite}
    {answer : StoreAnswer} (h : write.propose who store = .ok (.settled answer)) :
    answer ≠ .done true := by
  rintro rfl
  cases write with
  | getOrCreateDomain serverUrl =>
    obtain ⟨answer', -, heq⟩ := map_proposal_eq_settled h
    cases heq
  | addCredential name credential =>
    obtain ⟨answer', hproposal, heq⟩ := map_proposal_eq_settled h
    cases heq
    obtain ⟨-, entry, -, ⟨_, heq⟩ | ⟨-, heq⟩⟩ := Store.addCredential_eq_ok hproposal <;> cases heq
  | removeCredential name id =>
    obtain ⟨answer', hproposal, heq⟩ := map_proposal_eq_settled h
    cases heq
    obtain ⟨-, ⟨_, heq⟩ | ⟨-, heq⟩⟩ := Store.removeCredential_eq_ok hproposal <;> cases heq
  | removeDomain name =>
    obtain ⟨answer', hproposal, heq⟩ := map_proposal_eq_settled h
    cases heq
    obtain ⟨-, -, ⟨_, heq⟩ | ⟨-, heq⟩⟩ := Store.removeDomain_eq_ok hproposal <;> cases heq

/-- **A write changes the store by its effect or not at all**, and by its effect only if the store
that comes of it could be saved. Without an effect it does not say that something was done. -/
theorem run_cases {save : Saver σ} {who : Authentication} {write : StoreWrite}
    {store store' : Store} {world world' : σ} {result : Except StoreError StoreAnswer}
    (h : write.run save who store world = (result, store', world')) :
    store' = store ∧ world' = world ∧ result ≠ .ok (.done true) ∨
    (∃ next answer failure error, write.Effect who store answer next ∧
      save next world = (.error failure, world') ∧ result = .error error ∧ store' = store) ∨
    (∃ answer, write.Effect who store answer store' ∧ save store' world = (.ok (), world') ∧
      result = .ok answer) := by
  rcases Store.perform_cases h with ⟨error, -, rfl, rfl, rfl⟩ |
    ⟨answer, hpropose, rfl, rfl, rfl⟩ |
    ⟨mutation, domain, answer, failure, hpropose, hsave, rfl, rfl⟩ |
    ⟨mutation, domain, answer, hpropose, hsave, rfl, rfl⟩
  · exact Or.inl ⟨rfl, rfl, by simp⟩
  · exact Or.inl ⟨rfl, rfl, by simpa using ne_done_of_propose hpropose⟩
  · exact Or.inr (Or.inl ⟨_, answer, failure, _, effect_of_propose hpropose, hsave, rfl, rfl⟩)
  · exact Or.inr (Or.inr ⟨answer, effect_of_propose hpropose, hsave, rfl⟩)

/-- A property of stores that effects keep is kept by writes. -/
theorem run_induction {P : Store → Prop} {save : Saver σ} {who : Authentication}
    {write : StoreWrite} {store : Store} (hstore : P store)
    (heffect : ∀ answer store', write.Effect who store answer store' → P store') (world : σ) :
    P (write.run save who store world).2.1 := by
  obtain ⟨result, store', world', hrun⟩ :
      ∃ result store' world', write.run save who store world = (result, store', world') :=
    ⟨_, _, _, rfl⟩
  rw [hrun]
  rcases run_cases hrun with ⟨rfl, -, -⟩ | ⟨_, _, _, _, -, -, -, rfl⟩ | ⟨_, h, -, -⟩
  · exact hstore
  · exact hstore
  · exact heffect _ _ h

/-- **Effects keep the names of domains distinct.** -/
theorem Effect.namesDistinct {who : Authentication} {store store' : Store} {write : StoreWrite}
    {answer : StoreAnswer} (h : write.Effect who store answer store')
    (hstore : store.NamesDistinct) : store'.NamesDistinct := by
  cases h with
  | create hwho hurl hname hfree => exact hstore.appendDomain hfree
  | add hwho hentry hnew => exact hstore.updateCredentials _ _
  | remove hwho hany => exact hstore.updateCredentials _ _
  | erase hwho hname hentry => exact hstore.eraseDomain _

end StoreWrite

end TokenBroker
