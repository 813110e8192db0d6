import TokenBroker.Exchange.Create
import TokenBroker.Proofs.Store.ServerDomains

/-!
# How an exchange stores its token

An exchange first takes a domain for the server and then adds a credential to it: two writes, each
of which may be refused or may not be saved. `Store.Located` says what the first one leaves behind
when it succeeds, `storeAs_cases` what both do together. The rest of the module follows an exchange
back from its result to the calls that it made.

**Success and failure are told apart by the store alone.** Whatever goes wrong, and wherever, the
store has at most an empty domain more (`Store.AtMostNewDomain`).
-/

namespace TokenBroker

variable {σ : Type}

namespace Exchange

/-! ### Storing a credential -/

/-- **Storing a credential either adds it to a located domain or fails**, and a failure leaves at
most an empty domain behind. -/
theorem storeAs_cases {save : Saver σ} {who : Authentication} {serverUrl : String}
    {credential : Credential} {store store' : Store} {world world' : σ}
    {result : Except Fault Domain}
    (h : storeAs save who serverUrl credential store world = (result, store', world')) :
    (∃ url domain located, result = .ok domain ∧ ServerUrl.parse serverUrl = .ok url ∧
      store.Located url domain located ∧
      store' = located.updateCredentials domain.name (· ++ [credential])) ∨
    (∃ fault, result = .error fault ∧ store.AtMostNewDomain store') := by
  rw [storeAs] at h
  split at h
  case h_1 error located world₁ hdomain =>
    simp only [Prod.mk.injEq] at h
    obtain ⟨rfl, rfl, -⟩ := h
    obtain rfl := Store.perform_error hdomain
    exact Or.inr ⟨_, rfl, .refl _⟩
  case h_2 domain located world₁ hdomain =>
    obtain ⟨url, hurl, hlocated⟩ := Store.located_of_perform hdomain
    split at h
    case h_1 error store₂ world₂ hadd =>
      simp only [Prod.mk.injEq] at h
      obtain ⟨rfl, rfl, -⟩ := h
      obtain rfl := Store.perform_error hadd
      exact Or.inr ⟨_, rfl, hlocated.atMostNewDomain⟩
    case h_2 store₂ world₂ hadd =>
      simp only [Prod.mk.injEq] at h
      obtain ⟨rfl, rfl, -⟩ := h
      refine Or.inl ⟨url, domain, located, rfl, hurl, hlocated, ?_⟩
      rcases Store.perform_cases hadd with ⟨_, -, heq, -, -⟩ | ⟨_, hwrite, heq, -, -⟩ |
        ⟨_, _, _, _, -, -, heq, -⟩ | ⟨_, _, _, hwrite, -, heq, rfl⟩
      · cases heq
      · cases heq
        obtain ⟨-, _, -, ⟨-, heq⟩ | ⟨-, heq⟩⟩ := Store.addCredential_eq_ok hwrite <;> cases heq
      · cases heq
      · cases heq
        obtain ⟨-, _, -, ⟨-, heq⟩ | ⟨-, heq⟩⟩ := Store.addCredential_eq_ok hwrite
        · cases heq
        · cases heq
          rfl
    case h_3 store₂ world₂ hadd =>
      simp only [Prod.mk.injEq] at h
      obtain ⟨rfl, rfl, -⟩ := h
      refine Or.inr ⟨_, rfl, ?_⟩
      rcases Store.perform_cases hadd with ⟨_, -, heq, -, -⟩ | ⟨_, -, -, rfl, -⟩ |
        ⟨_, _, _, _, -, -, heq, -⟩ | ⟨_, _, _, hwrite, -, heq, rfl⟩
      · cases heq
      · exact hlocated.atMostNewDomain
      · cases heq
      · cases heq
        obtain ⟨-, _, -, ⟨-, heq⟩ | ⟨-, heq⟩⟩ := Store.addCredential_eq_ok hwrite <;> cases heq

/-! ### Making a token and storing it -/

/-- An outcome that reports a success. -/
def Succeeds : Except Fault Outcome → Prop
  | .ok (.ok _ _) => True
  | _ => False

theorem storedOutcome_error_not_succeeds (id url : String) (fault : Fault) :
    ¬ Succeeds (storedOutcome id url (.error fault)) := by
  intro h
  unfold storedOutcome at h
  split at h
  case h_1 heq => cases heq
  case h_2 => exact h
  case h_3 => exact h

theorem refusedOutcome_not_succeeds (fault : Fault) : ¬ Succeeds (refusedOutcome fault) := by
  intro h
  unfold refusedOutcome at h
  split at h <;> exact h

theorem saveToken_cases {exchange : Exchange} {surroundings : Surroundings σ}
    {acl : AccessControl} {url : String} {token username : Json} {store store' : Store}
    {world world' : σ} {result : Except Fault Outcome}
    (h : exchange.saveToken surroundings acl url token username store world =
      (result, store', world')) :
    ∃ id world₁ stored, surroundings.freshId world = (id, world₁) ∧
      storeAs surroundings.save .system url
        (exchange.newCredential id (some url) token username) store world₁ =
          (stored, store', world') ∧
      result = storedOutcome id url stored := by
  simp only [saveToken, storeCredential, AccessControl.elevated, AccessControl.within,
    AccessControl.actingAs, Prod.mk.injEq] at h
  obtain ⟨rfl, rfl, rfl⟩ := h
  exact ⟨_, _, _, rfl, rfl, rfl⟩

/-- **What an exchange does once it knows the login.** A success is a token from the issuer, stored
under a new id; whatever else happens is no success, and adds no credential. -/
theorem mintAndSave_cases {exchange : Exchange} {surroundings : Surroundings σ}
    {acl : AccessControl} {request : TokenRequest} {complaint : String} {store store' : Store}
    {world world' : σ} {result : Except Fault Outcome}
    (h : exchange.mintAndSave surroundings acl request complaint store world =
      (result, store', world')) :
    (∃ expires? token world₁ id world₂ domain message,
      surroundings.issue { request with expires? := expires? } world = (.ok token, world₁) ∧
      surroundings.freshId world₁ = (id, world₂) ∧
      storeAs surroundings.save .system request.serverUrl
        (exchange.newCredential id (some request.serverUrl) token request.username) store world₂ =
          (.ok domain, store', world') ∧
      result = .ok (.ok message (some id))) ∨
    (¬ Succeeds result ∧ store.AtMostNewDomain store') := by
  rw [mintAndSave] at h
  split at h
  case h_1 fault hexpiry =>
    simp only [Prod.mk.injEq] at h
    obtain ⟨rfl, rfl, -⟩ := h
    exact Or.inr ⟨id, .refl _⟩
  case h_2 expires? hexpiry =>
    split at h
    case h_1 token world₁ hissue =>
      obtain ⟨id, world₂, stored, hid, hstored, rfl⟩ := saveToken_cases h
      cases stored with
      | ok domain =>
        exact Or.inl ⟨expires?, token, world₁, id, world₂, domain, _, hissue, hid, hstored, rfl⟩
      | error fault =>
        refine Or.inr ⟨storedOutcome_error_not_succeeds id _ fault, ?_⟩
        rcases storeAs_cases hstored with ⟨_, _, _, heq, -, -, -⟩ | ⟨_, -, hmost⟩
        · cases heq
        · exact hmost
    case h_2 message _ _ world₁ hissue =>
      simp only [Prod.mk.injEq] at h
      obtain ⟨rfl, rfl, -⟩ := h
      exact Or.inr ⟨id, .refl _⟩
    case h_3 fault world₁ _ hissue =>
      simp only [Prod.mk.injEq] at h
      obtain ⟨rfl, rfl, -⟩ := h
      exact Or.inr ⟨id, .refl _⟩

/-! ### Both ways to exchange -/

/-- How the login of an exchange is given: by the id of a stored one, or typed in. -/
inductive LoginSource
  | stored (id? : Option String)
  | typed (username? password? : Option String)
  deriving DecidableEq, Inhabited, Repr

/-- Exchanges the login of a source on a server. -/
def exchangeLogin (exchange : Exchange) (surroundings : Surroundings σ) (acl : AccessControl)
    (source : LoginSource) (serverUrl? : Option String) (store : Store) (world : σ) :
    Except Fault Outcome × Store × σ :=
  match source with
  | .stored id? => exchange.byCredentials surroundings acl serverUrl? id? store world
  | .typed username? password? =>
    exchange.byPassword surroundings acl serverUrl? username? password? store world

/-- **Both ways end alike**: before the issuer is asked nothing is done to the store, and after that
they are one. A typed login takes a fresh id for the name of its token. -/
theorem exchangeLogin_cases {exchange : Exchange} {surroundings : Surroundings σ}
    {acl : AccessControl} {source : LoginSource} {serverUrl? : Option String}
    {store store' : Store} {world world' : σ} {result : Except Fault Outcome}
    (h : exchange.exchangeLogin surroundings acl source serverUrl? store world =
      (result, store', world')) :
    (∃ request complaint world₀, request.serverUrl = exchange.serverUrlOr serverUrl? ∧
      (world₀ = world ∨ world₀ = (surroundings.freshId world).2) ∧
      exchange.mintAndSave surroundings acl request complaint store world₀ =
        (result, store', world')) ∨
    (¬ Succeeds result ∧ store' = store) := by
  have unchanged : ∀ {ending : Except Fault Outcome}, ¬ Succeeds ending →
      (ending, store, world) = (result, store', world') → ¬ Succeeds result ∧ store' = store := by
    rintro ending hending heq
    simp only [Prod.mk.injEq] at heq
    obtain ⟨rfl, rfl, -⟩ := heq
    exact ⟨hending, rfl⟩
  cases source with
  | stored id? =>
    simp only [exchangeLogin, byCredentials] at h
    split at h
    · exact Or.inr (unchanged id h)
    split at h
    · exact Or.inr (unchanged id h)
    split at h
    · exact Or.inr (unchanged (refusedOutcome_not_succeeds _) h)
    · exact Or.inr (unchanged id h)
    split at h
    · exact Or.inl ⟨_, _, world, rfl, Or.inl rfl, h⟩
    · exact Or.inr (unchanged id h)
  | typed username? password? =>
    simp only [exchangeLogin, byPassword] at h
    split at h
    · exact Or.inr (unchanged id h)
    split at h
    · exact Or.inr (unchanged id h)
    split at h
    · exact Or.inr (unchanged (refusedOutcome_not_succeeds _) h)
    · exact Or.inl ⟨_, _, _, rfl, Or.inr rfl, h⟩

/-- **What a success has stored, and where**: a credential of the system, under the id that is
reported, added to a domain that was located for the server that was meant. -/
theorem exists_stored_of_exchangeLogin {exchange : Exchange} {surroundings : Surroundings σ}
    {acl : AccessControl} {source : LoginSource} {serverUrl? : Option String}
    {store store' : Store} {world world' : σ} {message : String} {id? : Option String}
    (h : exchange.exchangeLogin surroundings acl source serverUrl? store world =
      (.ok (.ok message id?), store', world')) :
    ∃ url id token username domain located,
      id? = some id ∧ ServerUrl.parse (exchange.serverUrlOr serverUrl?) = .ok url ∧
      store.Located url domain located ∧
      store' = located.updateCredentials domain.name
        (· ++ [exchange.newCredential id (some (exchange.serverUrlOr serverUrl?)) token
          username]) := by
  rcases exchangeLogin_cases h with ⟨request, _, _, hurl, -, hmint⟩ | ⟨hfails, -⟩
  · rcases mintAndSave_cases hmint with ⟨_, token, _, id, _, domain, _, -, -, hstored, heq⟩ |
      ⟨hfails, -⟩
    · cases heq
      rw [hurl] at hstored
      rcases storeAs_cases hstored with ⟨url, _, located, heq, hparse, hlocated, rfl⟩ | ⟨_, heq, -⟩
      · cases heq
        exact ⟨url, id, token, _, domain, located, rfl, hparse, hlocated, rfl⟩
      · cases heq
    · exact absurd trivial hfails
  · exact absurd trivial hfails

end Exchange

end TokenBroker
