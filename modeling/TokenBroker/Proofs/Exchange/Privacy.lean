import TokenBroker.Exchange.Candidates
import TokenBroker.Proofs.Store.Lookup

/-!
# Personal stores stay private

What a lookup answers to a principal depends on the credentials that it owns, and what it answers to
the system on those without an owner. So both are the same in two stores that differ only in what
others own (`Store.lookup_withoutOthers`). The list of logins and the lookup of a chosen one put
together answers to the system and to the caller, and to nobody else; they cannot tell such stores
apart either (`Exchange.lookups_private`).

The system is an identity and not a name: a principal that is called like the system sees what is
owned under this name, as everybody else would.
-/

namespace TokenBroker

/-- Whether a credential has no owner, or is owned under a name. -/
def Credential.unownedOr (name : String) (credential : Credential) : Bool :=
  credential.owner == .null || credential.owner == .str name

/-- The authentication is the system, or a principal with a name. -/
def Authentication.SystemOr (name : String) (who : Authentication) : Prop :=
  who = .system ∨ ∃ permissions, who = .principal name permissions

/-- What the system or a principal sees has no owner or is its own. -/
theorem Credential.unownedOr_of_visibleTo {name : String} {who : Authentication}
    {credential : Credential} (hwho : who.SystemOr name)
    (h : credential.visibleTo who = true) : credential.unownedOr name = true := by
  rcases hwho with rfl | ⟨permissions, rfl⟩
  · have howner : (credential.owner == .null) = true := h
    rw [unownedOr, howner, Bool.true_or]
  · have howner : (credential.owner == .str name) = true := h
    rw [unownedOr, howner, Bool.or_true]

namespace Store

/-- The store without what is owned by others than the principal with a name. -/
def withoutOthers (name : String) (store : Store) : Store :=
  ⟨store.entries.map fun entry ↦
    { entry with credentials := entry.credentials.filter (Credential.unownedOr name) }⟩

/-- Of a domain, nothing is offered that belongs to others. -/
theorem filter_offers_filter_unownedOr {name : String} {who : Authentication}
    (hwho : who.SystemOr name) (kind? : Option CredentialKind) (credentials : List Credential) :
    (credentials.filter (Credential.unownedOr name)).filter (offers kind? who) =
      credentials.filter (offers kind? who) := by
  rw [List.filter_filter]
  refine List.filter_congr fun credential _ ↦ ?_
  cases hoffers : offers kind? who credential with
  | false => rfl
  | true =>
    rw [offers, Bool.and_eq_true] at hoffers
    rw [Credential.unownedOr_of_visibleTo hwho hoffers.2]
    rfl

/-- **A lookup does not depend on what others own.** -/
theorem lookup_withoutOthers {name : String} {who : Authentication} (hwho : who.SystemOr name)
    (store : Store) (kind? : Option CredentialKind) (requirements : List Requirement) :
    (store.withoutOthers name).lookup kind? who requirements =
      store.lookup kind? who requirements := by
  simp only [lookup, withoutOthers]
  -- the domains are the same, so the two walks over them fail at the same one, if at any
  induction store.entries with
  | nil => rfl
  | cons entry rest ih =>
    simp only [List.map_cons, lookupEntries, ih, filter_offers_filter_unownedOr hwho]

/-- What a lookup finds is visible to the one who looks. -/
theorem visibleTo_of_mem_lookup {store : Store} {kind? : Option CredentialKind}
    {who : Authentication} {requirements : List Requirement} {found : List Credential}
    (h : store.lookup kind? who requirements = .ok found) {credential : Credential}
    (hmem : credential ∈ found) : credential.visibleTo who = true := by
  obtain ⟨entry, -, -, -, hoffers⟩ := (mem_lookup_iff h).1 hmem
  rw [offers, Bool.and_eq_true] at hoffers
  exact hoffers.2

end Store

namespace Exchange

/-! ### Logins of several identities -/

theorem loginChoices_congr {store store' : Store} {requirements : List Requirement}
    {whos : List Authentication}
    (h : ∀ who ∈ whos, loginsFor store requirements who = loginsFor store' requirements who)
    (current : String) (choices : List Choice) :
    loginChoices store requirements current choices whos =
      loginChoices store' requirements current choices whos := by
  induction whos generalizing choices with
  | nil => rfl
  | cons who rest ih =>
    have hrest := ih fun other hother ↦ h other (List.mem_cons_of_mem _ hother)
    simp only [loginChoices, h who List.mem_cons_self, hrest]

theorem findLogin_congr {store store' : Store} {requirements : List Requirement}
    {whos : List Authentication}
    (h : ∀ who ∈ whos, loginsFor store requirements who = loginsFor store' requirements who)
    (id : Json) :
    findLogin store requirements id whos = findLogin store' requirements id whos := by
  induction whos with
  | nil => rfl
  | cons who rest ih =>
    have hrest := ih fun other hother ↦ h other (List.mem_cons_of_mem _ hother)
    simp only [findLogin, h who List.mem_cons_self, hrest]

/-- **Nobody learns what others own.** Let two stores be the same but for what is owned by others
than a principal. Then, for every place,

* a lookup as the principal gives the same in both, all of it its own, and a lookup as the system
  gives the same in both, all of it without an owner; both succeed if the specifications of the
  domains can be read;
* the lookup of a chosen login for the principal, and the list of logins to choose from, give the
  same in both, whoever acts at the moment. -/
theorem lookups_private {name : String} {permissions : List Permission} {store store' : Store}
    (h : store.withoutOthers name = store'.withoutOthers name) :
    (∀ (kind? : Option CredentialKind) (requirements : List Requirement),
      let personal := store.lookup kind? (.principal name permissions) requirements
      let unowned := store.lookup kind? .system requirements
      personal = store'.lookup kind? (.principal name permissions) requirements ∧
      unowned = store'.lookup kind? .system requirements ∧
      (∀ found, personal = .ok found → ∀ credential ∈ found, credential.owner = .str name) ∧
      (∀ found, unowned = .ok found → ∀ credential ∈ found, credential.owner = .null) ∧
      ((∀ domain ∈ store.domains, domain.Readable) →
        (∃ found, personal = .ok found) ∧ ∃ found, unowned = .ok found)) ∧
    ∀ (exchange : Exchange) (acl : AccessControl), acl.caller = .principal name permissions →
      (∀ (serverUrl : String) (id : Json),
        lookupLogin acl store serverUrl id = lookupLogin acl store' serverUrl id) ∧
      ∀ serverUrl? selection? : Option String,
        exchange.choices acl store serverUrl? selection? =
          exchange.choices acl store' serverUrl? selection? := by
  have hlookup : ∀ (kind? : Option CredentialKind) (requirements : List Requirement)
      (who : Authentication), who.SystemOr name →
        store.lookup kind? who requirements = store'.lookup kind? who requirements := by
    intro kind? requirements who hwho
    rw [← Store.lookup_withoutOthers hwho store, h, Store.lookup_withoutOthers hwho store']
  refine ⟨fun kind? requirements ↦ ⟨?_, ?_, ?_, ?_, ?_⟩, fun exchange acl hcaller ↦ ?_⟩
  · exact hlookup kind? requirements _ (Or.inr ⟨permissions, rfl⟩)
  · exact hlookup kind? requirements _ (Or.inl rfl)
  · intro found hfound credential hcredential
    have hvisible := Store.visibleTo_of_mem_lookup hfound hcredential
    simpa [Credential.visibleTo] using hvisible
  · intro found hfound credential hcredential
    have hvisible := Store.visibleTo_of_mem_lookup hfound hcredential
    simpa [Credential.visibleTo] using hvisible
  · intro hreadable
    have hanswers : ∀ domain ∈ store.domains,
        ∃ accepted, domain.accepts requirements = .ok accepted :=
      fun domain hdomain ↦ Domain.exists_accepts (hreadable domain hdomain) requirements
    exact ⟨Store.exists_lookup hanswers kind? _, Store.exists_lookup hanswers kind? _⟩
  · -- the two identities that are searched are the system and the caller
    have hlogins : ∀ requirements, ∀ who ∈ searched acl.caller,
        loginsFor store requirements who = loginsFor store' requirements who := by
      intro requirements who hwho
      rw [hcaller, searched, List.mem_cons, List.mem_singleton] at hwho
      have hidentity : who.SystemOr name := hwho.imp id fun heq ↦ ⟨permissions, heq⟩
      rw [loginsFor, loginsFor, hlookup (some .login) requirements who hidentity]
    refine ⟨fun serverUrl id ↦ ?_, fun serverUrl? selection? ↦ ?_⟩
    · simp only [lookupLogin, findLogin_congr (hlogins _)]
    · simp only [choices, administratorChoices, loginChoices_congr (hlogins _)]

/-- A principal that bears the name of the system, in two stores in which somebody else has other
logins, one of them under the id of its own. -/
theorem lookups_private_namesake :
    let login (id owner : Json) (username : String) : Credential :=
      { id := id, owner := owner, content := .login (.str username) (.str "p") }
    let own := login (.str "x") (.str "SYSTEM") "me"
    let shared := login (.str "y") .null "all"
    let store : Store := ⟨[{ domain := .global
                             credentials := [login (.str "x") (.str "jo") "jo", shared, own] }]⟩
    let store' : Store := ⟨[{ domain := .global
                              credentials := [shared, own, login (.str "z") (.str "jo") "jo"] }]⟩
    let caller := Authentication.administrator "SYSTEM"
    let acl := AccessControl.start caller
    store.withoutOthers "SYSTEM" = store'.withoutOthers "SYSTEM" ∧
      store.lookup none caller [] = .ok [own] ∧ store.lookup none .system [] = .ok [shared] ∧
      lookupLogin acl store "https://h" (.str "z") =
        lookupLogin acl store' "https://h" (.str "z") ∧
      choices {} acl store (some "https://h") none =
        choices {} acl store' (some "https://h") none := by
  intro login own shared store store' caller acl
  have halike : store.withoutOthers "SYSTEM" = store'.withoutOthers "SYSTEM" := by decide +kernel
  obtain ⟨-, hcreator⟩ := @lookups_private "SYSTEM" Permission.all _ _ halike
  obtain ⟨hlogin, hchoices⟩ := hcreator {} acl rfl
  exact ⟨halike, by decide +kernel, by decide +kernel, hlogin _ _, hchoices _ _⟩

end Exchange

end TokenBroker
