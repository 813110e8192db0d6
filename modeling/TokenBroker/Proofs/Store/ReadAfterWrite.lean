import TokenBroker.Proofs.Store.Lookup
import TokenBroker.Proofs.Store.Writes

/-!
# Lookups after an addition

What a lookup finds once a credential has been added: all that it found before, in the same order,
and the new credential behind what it found in the domain of the addition and in the domains before
that. The domain is the one that the store has under the name; whatever else the one who adds takes
it for has no part in this. A removal of the id then undoes the addition, if the id is new to the
domain (`Store.lookup_after_add`).
-/

namespace TokenBroker.Store

variable {σ : Type}

/-! ### Lookups in parts of a store -/

/-- What entries offer is what the first of them offer, and then what the others do. -/
theorem lookupEntries_append (kind? : Option CredentialKind) (who : Authentication)
    (requirements : List Requirement) (first last : List StoreEntry) :
    lookupEntries kind? who requirements (first ++ last) = do
      let found ← lookupEntries kind? who requirements first
      let later ← lookupEntries kind? who requirements last
      return found ++ later := by
  induction first with
  | nil =>
    rw [List.nil_append]
    cases lookupEntries kind? who requirements last <;> rfl
  | cons entry rest ih =>
    simp only [List.cons_append, lookupEntries, ih]
    cases entry.domain.accepts requirements with
    | error cause => rfl
    | ok accepted =>
      cases lookupEntries kind? who requirements rest with
      | error cause => rfl
      | ok found =>
        cases lookupEntries kind? who requirements last with
        | error cause => rfl
        | ok later => exact congrArg Except.ok (List.append_assoc _ _ _).symm

/-- What a lookup adds for a credential that is new in a domain: the credential, if the domain
accepts the place, and it is of the kind and to be seen. -/
def gainOf (credential : Credential) (kind? : Option CredentialKind) (who : Authentication)
    (accepted : Bool) : List Credential :=
  if accepted = true ∧ (∀ kind ∈ kind?, credential.kind = kind) ∧ credential.visibleTo who = true
  then [credential] else []

theorem filter_offers_singleton (credential : Credential) (kind? : Option CredentialKind)
    (who : Authentication) :
    [credential].filter (offers kind? who) = gainOf credential kind? who true := by
  rw [gainOf, List.filter_singleton]
  cases kind? <;> simp [offers]

/-- A credential more at the end of a domain is found behind what the domain offers. -/
theorem lookupEntries_add (credential : Credential) (kind? : Option CredentialKind)
    (who : Authentication) (requirements : List Requirement) (entry : StoreEntry) :
    lookupEntries kind? who requirements
        [{ entry with credentials := entry.credentials ++ [credential] }] = do
      let found ← lookupEntries kind? who requirements [entry]
      let accepted ← entry.domain.accepts requirements
      return found ++ gainOf credential kind? who accepted := by
  simp only [lookupEntries]
  cases entry.domain.accepts requirements with
  | error cause => rfl
  | ok accepted =>
    cases accepted with
    | false => rfl
    | true =>
      refine congrArg Except.ok ?_
      simp only [if_true, List.append_nil, List.filter_append, filter_offers_singleton]

/-! ### Adding and removing -/

section

variable {before after : List StoreEntry} {entry : StoreEntry} {name : Json}
  {credential : Credential}

/-- An addition that was made has put the credential at the end of the entry of the name. -/
theorem eq_of_add (hstore : NamesDistinct ⟨before ++ entry :: after⟩)
    (hname : Json.same entry.domain.name name = true) {save : Saver σ} {who : Authentication}
    {store' : Store} {world world' : σ}
    (hadd : perform save (addCredential name credential who) ⟨before ++ entry :: after⟩ world =
      (.ok true, store', world')) :
    store' = ⟨before ++
      { entry with credentials := entry.credentials ++ [credential] } :: after⟩ := by
  rcases perform_cases hadd with ⟨_, -, heq, -⟩ | ⟨answer, hwrite, heq, -⟩ |
    ⟨_, _, _, _, -, -, heq, -⟩ | ⟨next, domain, answer, hwrite, -, -, rfl⟩
  · cases heq
  · cases heq
    obtain ⟨-, _, -, ⟨-, heq⟩ | ⟨-, heq⟩⟩ := addCredential_eq_ok hwrite <;> cases heq
  · cases heq
  · obtain ⟨-, _, -, ⟨-, heq⟩ | ⟨-, heq⟩⟩ := addCredential_eq_ok hwrite
    · cases heq
    · cases heq
      exact hstore.updateCredentials_split hname (· ++ [credential])

/-- Taking a new id away again leaves the credentials that were there. -/
theorem filter_concat_of_new {credentials : List Credential}
    (hnew : ∀ other ∈ credentials, Json.same other.id credential.id = false) :
    (credentials ++ [credential]).filter (fun other ↦ !Json.same other.id credential.id) =
      credentials := by
  rw [List.filter_append, List.filter_singleton, Json.same_self, Bool.not_true, cond_false,
    List.append_nil, List.filter_eq_self]
  intro other hother
  rw [hnew other hother, Bool.not_false]

/-- **A removal undoes an addition under a new id.** -/
theorem removeCredential_of_added (hstore : NamesDistinct ⟨before ++ entry :: after⟩)
    (hname : Json.same entry.domain.name name = true)
    (hnew : ∀ other ∈ entry.credentials, Json.same other.id credential.id = false)
    {who : Authentication} (hwho : who.has .manageDomains = true) :
    let added : Store :=
      ⟨before ++ { entry with credentials := entry.credentials ++ [credential] } :: after⟩
    removeCredential name credential.id who added =
        .ok (.change (.remove name credential.id) name true) ∧
      added.mutate (.remove name credential.id) = ⟨before ++ entry :: after⟩ := by
  have hadded : NamesDistinct
      ⟨before ++ { entry with credentials := entry.credentials ++ [credential] } :: after⟩ :=
    hstore.updateCredentials_split hname (· ++ [credential]) ▸ hstore.updateCredentials name _
  have hentry : entry? ⟨before ++ { entry with credentials := entry.credentials ++ [credential] }
      :: after⟩ name = some { entry with credentials := entry.credentials ++ [credential] } := by
    rw [entry_congr (Json.same_symm hname)]
    exact hadded.entry_eq_some (List.mem_append_right _ List.mem_cons_self)
  refine ⟨?_, ?_⟩
  · rw [removeCredential, checkManage_eq_ok_iff.2 hwho, credentialsOf, hentry]
    simp only [Option.map_some, Option.getD_some, List.any_append, List.any_cons, List.any_nil,
      Json.same_self, Bool.true_or, Bool.or_true, if_true, bind, Except.bind, pure, Except.pure]
  · rw [mutate, hadded.updateCredentials_split hname, filter_concat_of_new hnew]

end

/-- **What has been added is found, and can be taken back.** Let a credential be added to a domain
of the store, which is meant by its name, whatever else is said of it. For every kind, every reader
and every place, a lookup then fails as before, or finds what it found before, with the credential
behind what it found in the domains up to that of the addition, if that domain accepts the place and
the credential is of the kind and visible to the reader. If no credential of the domain had the id
of the new one, a removal of the id by anybody who may manage domains is made, if it is saved, and
the store is as it was before the addition. -/
theorem lookup_after_add {before after : List StoreEntry} {entry : StoreEntry}
    (hstore : NamesDistinct ⟨before ++ entry :: after⟩) {handle : Domain}
    (hname : Json.same entry.domain.name handle.name = true) {save : Saver σ}
    {credential : Credential} {who : Authentication} {store' : Store} {world world' : σ}
    (hadd : perform save (addCredential handle.name credential who) ⟨before ++ entry :: after⟩
      world = (.ok true, store', world')) :
    (∀ (kind? : Option CredentialKind) (reader : Authentication) (requirements : List Requirement),
      lookup ⟨before ++ entry :: after⟩ kind? reader requirements = (do
        let upTo ← lookupEntries kind? reader requirements (before ++ [entry])
        let later ← lookupEntries kind? reader requirements after
        return upTo ++ later) ∧
      store'.lookup kind? reader requirements = (do
        let upTo ← lookupEntries kind? reader requirements (before ++ [entry])
        let accepted ← entry.domain.accepts requirements
        let later ← lookupEntries kind? reader requirements after
        return upTo ++ gainOf credential kind? reader accepted ++ later)) ∧
    ((∀ other ∈ entry.credentials, Json.same other.id credential.id = false) →
      ∀ {τ : Type} (save' : Saver τ) (manager : Authentication) (world₁ world₂ : τ),
        manager.has .manageDomains = true →
        save' ⟨before ++ entry :: after⟩ world₁ = (.ok (), world₂) →
        perform save' (removeCredential handle.name credential.id manager) store' world₁ =
          (.ok true, ⟨before ++ entry :: after⟩, world₂)) := by
  obtain rfl := eq_of_add hstore hname hadd
  refine ⟨fun kind? reader requirements ↦ ⟨?_, ?_⟩,
    fun hnew _ save' manager world₁ world₂ hmanager hsave ↦ ?_⟩
  · rw [lookup, ← lookupEntries_append, List.append_assoc]
    rfl
  · -- the walk passes the domains before, the domain of the addition, and those after it
    have hsplit : before ++ { entry with credentials := entry.credentials ++ [credential] } ::
        after = before ++ ([{ entry with credentials := entry.credentials ++ [credential] }] ++
          after) := rfl
    rw [lookup, hsplit, lookupEntries_append, lookupEntries_append, lookupEntries_append,
      lookupEntries_add]
    cases lookupEntries kind? reader requirements before with
    | error cause => rfl
    | ok earlier =>
      cases lookupEntries kind? reader requirements [entry] with
      | error cause => rfl
      | ok found =>
        cases entry.domain.accepts requirements with
        | error cause => rfl
        | ok accepted =>
          cases lookupEntries kind? reader requirements after with
          | error cause => rfl
          | ok later =>
            refine congrArg Except.ok ?_
            simp only [List.append_assoc]
  · obtain ⟨hremove, hback⟩ := removeCredential_of_added hstore hname hnew hmanager
    simp only [perform, hremove, hback, hsave]

/-- A domain between two others, and a handle that says of it what is not so. -/
theorem lookup_after_add_between :
    let login (id : String) : Credential :=
      { id := .str id, content := .login (.str "u") (.str "p") }
    let first : StoreEntry := { domain := .global, credentials := [login "first"] }
    let entry : StoreEntry :=
      { domain := { name := .str "h", specifications := [.scheme [.str "https"]] }
        credentials := [login "there"] }
    let last : StoreEntry := { domain := { name := .str "z" }, credentials := [login "last"] }
    let handle : Domain := { name := .str "h", specifications := [.scheme [.str "http"]] }
    ∃ store',
      perform saveInMemory (addCredential handle.name (login "new") .system)
        ⟨[first, entry, last]⟩ none = (.ok true, store', none) ∧
      store'.lookup (some .login) .system [.scheme "https"] =
        .ok [login "first", login "there", login "new", login "last"] ∧
      store'.lookup (some .login) .system [.scheme "http"] = .ok [login "first", login "last"] ∧
      perform saveInMemory (removeCredential handle.name (.str "new") .system) store' none =
        (.ok true, ⟨[first, entry, last]⟩, none) := by
  intro login first entry last handle
  have hstore : NamesDistinct ⟨[first] ++ entry :: [last]⟩ := by decide
  have hname : Json.same entry.domain.name handle.name = true := by decide
  have hadd : perform saveInMemory (addCredential handle.name (login "new") .system)
      ⟨[first] ++ entry :: [last]⟩ none = (.ok true, ⟨[first] ++
        { entry with credentials := entry.credentials ++ [login "new"] } :: [last]⟩, none) := by
    rfl
  obtain ⟨hlookup, hremove⟩ := lookup_after_add hstore hname hadd
  refine ⟨_, hadd, (hlookup _ _ _).2.trans (by decide +kernel),
    (hlookup _ _ _).2.trans (by decide +kernel), ?_⟩
  exact hremove (by decide) saveInMemory .system none none (by decide) rfl

end TokenBroker.Store
