import TokenBroker.Proofs.Except
import TokenBroker.Proofs.Store.Lookup
import TokenBroker.Proofs.Store.Writes

/-!
# Stores without their secrets

Masking a store takes the passwords and the secret texts out of it and leaves everything else. Two
stores that differ in nothing else are the same once they are masked, so whatever does not look at
secrets is a function of the masked store: a lookup finds the same masked credentials
(`Store.lookup_masked`), and a write asks for the same change
(`Store.getOrCreateDomain_masked`, `Store.addCredential_masked`).

Carried out on two such stores, with saves that fail alike, a write has one answer and leaves two
such stores behind (`Store.perform_alike`).
-/

namespace TokenBroker

variable {σ τ α : Type}

/-- What is kept, but for passwords and secrets. -/
def CredentialContent.masked : CredentialContent → CredentialContent
  | .login username _ => .login username .null
  | .secretText _ => .secretText .null

namespace Credential

/-- A credential without what is secret in it. -/
def masked (credential : Credential) : Credential :=
  { credential with content := credential.content.masked }

@[simp] theorem masked_id (credential : Credential) : credential.masked.id = credential.id := rfl

@[simp] theorem masked_kind (credential : Credential) :
    credential.masked.kind = credential.kind := by
  obtain ⟨_, _, _, _, content⟩ := credential
  cases content <;> rfl

@[simp] theorem masked_visibleTo (credential : Credential) :
    credential.masked.visibleTo = credential.visibleTo := rfl

/-- What a selection shows has nothing to do with the secret. -/
@[simp] theorem masked_displayName (credential : Credential) :
    credential.masked.displayName = credential.displayName := by
  obtain ⟨_, _, _, _, content⟩ := credential
  cases content <;> rfl

@[simp] theorem masked_same (a b : Credential) : a.masked.same b.masked = a.same b := by
  simp [same]

@[simp] theorem offers_masked (kind? : Option CredentialKind) (who : Authentication)
    (credential : Credential) :
    Store.offers kind? who credential.masked = Store.offers kind? who credential := by
  simp [Store.offers]

end Credential

/-- An entry without secrets. -/
def StoreEntry.masked (entry : StoreEntry) : StoreEntry :=
  { entry with credentials := entry.credentials.map Credential.masked }

/-- A store without secrets. -/
def Store.masked (store : Store) : Store :=
  ⟨store.entries.map StoreEntry.masked⟩

/-- A change of a store without secrets. -/
def Mutation.masked : Mutation → Mutation
  | .setDefault domain => .setDefault domain
  | .append name credential => .append name credential.masked
  | .remove name id => .remove name id
  | .pop name => .pop name

/-- A proposal for a store without secrets. -/
def Proposal.masked : Proposal α → Proposal α
  | .settled answer => .settled answer
  | .change mutation domain answer => .change mutation.masked domain answer

namespace Store

/-! ### Reading -/

@[simp] theorem domains_masked (store : Store) : store.masked.domains = store.domains := by
  simp only [domains, masked, List.map_map]
  rfl

@[simp] theorem entry_masked (store : Store) (name : Json) :
    store.masked.entry? name = (store.entry? name).map StoreEntry.masked := by
  simp only [Store.entry?, masked, List.find?_map]
  rfl

@[simp] theorem domain_masked (store : Store) (name : Json) :
    store.masked.domain? name = store.domain? name := by
  simp only [domain?, entry_masked, Option.map_map]
  rfl

/-- **A lookup finds the same, but for the secrets.** -/
theorem lookup_masked (store : Store) (kind? : Option CredentialKind) (who : Authentication)
    (requirements : List Requirement) :
    store.masked.lookup kind? who requirements =
      (store.lookup kind? who requirements).map (List.map Credential.masked) := by
  have hfilter : ∀ credentials : List Credential,
      (credentials.map Credential.masked).filter (offers kind? who) =
        (credentials.filter (offers kind? who)).map Credential.masked := by
    intro credentials
    rw [List.filter_map]
    congr 1
    exact List.filter_congr fun credential _ ↦ Credential.offers_masked kind? who credential
  simp only [lookup, masked]
  induction store.entries with
  | nil => rfl
  | cons entry rest ih =>
    simp only [List.map_cons, lookupEntries, ih]
    show (do
      let accepted ← entry.domain.accepts requirements
      let later ← Except.map _ (lookupEntries kind? who requirements rest)
      return (if accepted then (entry.credentials.map Credential.masked).filter (offers kind? who)
        else []) ++ later) = _
    cases entry.domain.accepts requirements with
    | error cause => rfl
    | ok accepted =>
      cases lookupEntries kind? who requirements rest with
      | error cause => rfl
      | ok later =>
        refine congrArg Except.ok ?_
        cases accepted <;> simp [hfilter]

/-! ### Writing -/

theorem masked_appendDomain (store : Store) (domain : Domain) :
    (store.appendDomain domain).masked = store.masked.appendDomain domain := by
  simp only [masked, appendDomain, List.map_append]
  rfl

theorem masked_updateCredentials (store : Store) (name : Json)
    {f g : List Credential → List Credential}
    (h : ∀ credentials, (f credentials).map Credential.masked =
      g (credentials.map Credential.masked)) :
    (store.updateCredentials name f).masked = store.masked.updateCredentials name g := by
  simp only [masked, updateCredentials, List.map_map]
  congr 1
  refine List.map_congr_left fun entry _ ↦ ?_
  show StoreEntry.masked (if _ then _ else entry) =
    if Json.same entry.domain.name name then _ else _
  split
  · simp [StoreEntry.masked, h]
  · rfl

/-- **A store is changed without a look at secrets.** -/
theorem masked_mutate (store : Store) (mutation : Mutation) :
    (store.mutate mutation).masked = store.masked.mutate mutation.masked := by
  cases mutation with
  | setDefault domain =>
    simp only [mutate, Mutation.masked, entry_masked, Option.isSome_map]
    split
    · rfl
    · exact masked_appendDomain store domain
  | append name credential =>
    rw [mutate, Mutation.masked, mutate]
    refine masked_updateCredentials store name fun credentials ↦ ?_
    rw [List.map_append, List.map_singleton]
  | remove name id =>
    rw [mutate, Mutation.masked, mutate]
    refine masked_updateCredentials store name fun credentials ↦ ?_
    rw [List.filter_map]
    rfl
  | pop name =>
    simp only [mutate, Mutation.masked, masked, eraseDomain, List.filter_map]
    rfl

theorem claimName_masked (store : Store) (url : ServerUrl) (names : List String) :
    claimName store.masked url names = (claimName store url names).map Proposal.masked := by
  induction names with
  | nil => rfl
  | cons name rest ih =>
    simp only [claimName, domain_masked, ih]
    cases store.domain? (.str name) with
    | none => rfl
    | some domain =>
      dsimp only
      cases domain.accepts [.scheme url.scheme, .host url.host] with
      | error cause => rfl
      | ok accepted => cases accepted <;> rfl

/-- **A domain is taken or made without a look at secrets.** -/
theorem getOrCreateDomain_masked (serverUrl : String) (who : Authentication) (store : Store) :
    getOrCreateDomain serverUrl who store.masked =
      (getOrCreateDomain serverUrl who store).map Proposal.masked := by
  simp only [getOrCreateDomain, claimName_masked]
  cases checkManage who with
  | error error => rfl
  | ok _ => cases ServerUrl.parse serverUrl <;> rfl

/-- **Whether a credential can be added has nothing to do with secrets.** -/
theorem addCredential_masked (name : Json) (credential : Credential) (who : Authentication)
    (store : Store) : addCredential name credential.masked who store.masked =
      (addCredential name credential who store).map Proposal.masked := by
  simp only [addCredential, entry_masked]
  show (do
    checkAdd credential who
    _) = _
  cases checkAdd credential who with
  | error error => rfl
  | ok _ =>
    cases store.entry? name with
    | none => rfl
    | some entry =>
      have hany : entry.masked.credentials.any (fun other ↦ other.same credential.masked) =
          entry.credentials.any fun other ↦ other.same credential := by
        simp [StoreEntry.masked, List.any_map, Function.comp_def]
      simp only [Option.map_some, hany]
      cases entry.credentials.any fun other ↦ other.same credential with
      | true => rfl
      | false => rfl

/-! ### Two runs -/

/-- Two ways to save fail alike on stores that differ in secrets alone, in worlds that correspond,
and the worlds still correspond afterwards. -/
def SavesAlike (R : σ → τ → Prop) (save : Saver σ) (save' : Saver τ) : Prop :=
  ∀ ⦃store store' : Store⦄, store.masked = store'.masked → ∀ ⦃world world'⦄, R world world' →
    (save store world).1 = (save' store' world').1 ∧ R (save store world).2 (save' store' world').2

/-- Two runs have the same result and leave stores behind that differ in secrets alone, in worlds
that correspond. -/
structure RunsAlike (R : σ → τ → Prop) (run : α × Store × σ) (run' : α × Store × τ) : Prop where
  result : run.1 = run'.1
  store : run.2.1.masked = run'.2.1.masked
  world : R run.2.2 run'.2.2

theorem RunsAlike.exists_eq {R : σ → τ → Prop} {run : α × Store × σ} {run' : α × Store × τ}
    (h : RunsAlike R run run') : ∃ result store store' world world',
      run = (result, store, world) ∧ run' = (result, store', world') ∧
        store.masked = store'.masked ∧ R world world' :=
  ⟨run.1, run.2.1, run'.2.1, run.2.2, run'.2.2, rfl, Prod.ext h.result.symm rfl, h.store, h.world⟩

/-- **Writes that ask for the same are carried out alike.** -/
theorem perform_alike {R : σ → τ → Prop} {save : Saver σ} {save' : Saver τ}
    (hsave : SavesAlike R save save') {write write' : Store → Except StoreError (Proposal α)}
    {store store' : Store} (hstore : store.masked = store'.masked)
    (hwrite : (write store).map Proposal.masked = (write' store').map Proposal.masked)
    {world : σ} {world' : τ} (hworld : R world world') :
    RunsAlike R (perform save write store world) (perform save' write' store' world') := by
  rcases Except.map_eq_map_iff.1 hwrite with ⟨error, hleft, hright⟩ |
    ⟨proposal, proposal', hleft, hright, hmasked⟩
  · simp only [perform, hleft, hright]
    exact ⟨rfl, hstore, hworld⟩
  · simp only [perform, hleft, hright]
    cases proposal with
    | settled answer =>
      cases proposal' with
      | settled answer' => cases hmasked; exact ⟨rfl, hstore, hworld⟩
      | change => cases hmasked
    | change mutation domain answer =>
      cases proposal' with
      | settled answer' => cases hmasked
      | change mutation' domain' answer' =>
        simp only [Proposal.masked, Proposal.change.injEq] at hmasked
        obtain ⟨hmutation, rfl, rfl⟩ := hmasked
        have hnext : (store.mutate mutation).masked = (store'.mutate mutation').masked := by
          rw [masked_mutate, masked_mutate, hstore, hmutation]
        obtain ⟨hresult, hafter⟩ := hsave hnext hworld
        rcases hsaved : save (store.mutate mutation) world with ⟨result, after⟩
        rcases hsaved' : save' (store'.mutate mutation') world' with ⟨result', after'⟩
        rw [hsaved, hsaved'] at hresult hafter
        obtain rfl : result = result' := hresult
        dsimp only
        rw [hsaved, hsaved']
        cases result with
        | ok _ => exact ⟨rfl, hnext, hafter⟩
        | error failure => exact ⟨rfl, hstore, hafter⟩

end Store

end TokenBroker
