import TokenBroker.Proofs.Exchange.Faults
import TokenBroker.Proofs.Store.ServerDomains

/-!
# Operations with a usable URL

An exchange reads the URL that it is given in four places: for the list of logins, for the search
for a stored login, before a token is made with a typed login, and for the domain that the token is
stored in. `Exchange.Proceeds` says that it gets beyond each of them, so that nothing that it ends
with comes from the reading of the URL. That is so if the URL, or the default that it stands for,
can be read (`Exchange.proceeds_of_parse`).
-/

namespace TokenBroker.Exchange

/-- Without the permission, or without a login, the URL is not looked at. -/
theorem exchangeLogin_eq_of_not_given {σ : Type} {acl : AccessControl} {source : LoginSource}
    (h : acl.has .administer = false ∨ ¬ source.Given) (exchange : Exchange)
    (surroundings : Surroundings σ) (serverUrl? other? : Option String) (store : Store)
    (world : σ) :
    exchange.exchangeLogin surroundings acl source serverUrl? store world =
      exchange.exchangeLogin surroundings acl source other? store world := by
  by_cases hadmin : acl.has .administer = true
  · have hcheck : acl.check .administer = .ok () := if_pos hadmin
    have hnone : ¬ source.Given := h.resolve_left (by simp [hadmin])
    cases source with
    | stored id? =>
      have hblank : (stripped (id?.getD "")).isEmpty = true := by
        simpa [LoginSource.Given] using hnone
      simp only [exchangeLogin, byCredentials, hcheck, hblank, if_true]
    | typed username? password? =>
      have hblank : ((stripped (username?.getD "")).isEmpty || (password?.getD "").isEmpty) =
          true := by
        rw [LoginSource.Given, ← not_or, not_not] at hnone
        simpa using hnone
      simp only [exchangeLogin, byPassword, hcheck, hblank, if_true]
  · have hcheck : acl.check .administer = .error (.permissionDenied .administer acl.current.name) :=
      if_neg hadmin
    cases source with
    | stored id? => simp only [exchangeLogin, byCredentials, hcheck]
    | typed username? password? => simp only [exchangeLogin, byPassword, hcheck]

/-- Who may not administer gets no list that depends on the URL. -/
theorem choices_eq_of_not_administer {acl : AccessControl} (h : acl.has .administer = false)
    (exchange : Exchange) (store : Store) (serverUrl? other? selection? : Option String) :
    exchange.choices acl store serverUrl? selection? =
      exchange.choices acl store other? selection? := by
  simp only [choices, h, Bool.not_false, if_true]

/-- The operations for a URL take none of the ways that are for a URL that cannot be read. -/
structure Proceeds (exchange : Exchange) (serverUrl? : Option String) (url : ServerUrl) : Prop where
  /-- An administrator chooses among the logins of the place. -/
  choices : ∀ (acl : AccessControl) (store : Store) (selection? : Option String),
    acl.has .administer = true → exchange.choices acl store serverUrl? selection? =
      administratorChoices store acl.caller (stripped (selection?.getD "")) url.requirements
  /-- Other callers get the same list for every URL. -/
  choices_denied : ∀ (acl : AccessControl) (store : Store) (other? selection? : Option String),
    acl.has .administer = false → exchange.choices acl store serverUrl? selection? =
      exchange.choices acl store other? selection?
  /-- A login is looked up at the place. -/
  lookup : ∀ (acl : AccessControl) (store : Store) (id : Json),
    lookupLogin acl store (exchange.serverUrlOr serverUrl?) id =
      findLogin store url.requirements id (searched acl.caller)
  /-- The exchange of a stored login ends as its search does, or goes on with what was found. -/
  stored : ∀ {σ : Type} (surroundings : Surroundings σ) (acl : AccessControl) (id? : Option String)
    (store : Store) (world : σ), acl.has .administer = true → stripped (id?.getD "") ≠ "" →
    let found := findLogin store url.requirements (.str (stripped (id?.getD "")))
      (searched acl.caller)
    let ending := exchange.byCredentials surroundings acl serverUrl? id? store world
    (∃ cause, found = .error (.kind cause) ∧ ending = (.error (.kind cause), store, world)) ∨
      (found = .ok none ∧ ending =
        (.ok (.error "Can't create GitLab token, credentials are null"), store, world)) ∨
      ∃ login username password, found = .ok (some login) ∧
        login.content = .login username password ∧
        ending = exchange.mintAndSave surroundings acl
          { username := username, password := password
            serverUrl := exchange.serverUrlOr serverUrl?, tokenName := exchange.tokenName }
          "Can't create GL token" store world
  /-- A token is made with a typed login. -/
  typed : ∀ {σ : Type} (surroundings : Surroundings σ) (acl : AccessControl)
    (username? password? : Option String) (store : Store) (world : σ),
    acl.has .administer = true → stripped (username?.getD "") ≠ "" → password?.getD "" ≠ "" →
      exchange.byPassword surroundings acl serverUrl? username? password? store world =
        exchange.mintAndSave surroundings acl
          { username := .str (stripped (username?.getD "")), password := .str (password?.getD "")
            serverUrl := exchange.serverUrlOr serverUrl?
            tokenName := (surroundings.freshId world).1 }
          ("Can't create GL token for " ++ stripped (username?.getD "")) store
          (surroundings.freshId world).2
  /-- Without the permission, or without a login, an exchange ends in the same way for every URL. -/
  unread : ∀ {σ : Type} (surroundings : Surroundings σ) (acl : AccessControl) (source : LoginSource)
    (other? : Option String) (store : Store) (world : σ),
    acl.has .administer = false ∨ ¬ source.Given →
      exchange.exchangeLogin surroundings acl source serverUrl? store world =
        exchange.exchangeLogin surroundings acl source other? store world
  /-- A name for the place is claimed. -/
  domain : ∀ (who : Authentication) (store : Store), who.has .manageDomains = true →
    Store.getOrCreateDomain (exchange.serverUrlOr serverUrl?) who store =
      store.claimName url (Store.namesFor url)

variable {exchange : Exchange} {serverUrl? : Option String} {url : ServerUrl}

theorem lookupLogin_of_parse (hurl : ServerUrl.parse (exchange.serverUrlOr serverUrl?) = .ok url)
    {acl : AccessControl} {store : Store} {id : Json} :
    lookupLogin acl store (exchange.serverUrlOr serverUrl?) id =
      findLogin store url.requirements id (searched acl.caller) := by
  rw [lookupLogin, requirementsOf, hurl]
  rfl

/-- The search for a stored login finds a login, nothing, or a value of the wrong kind. -/
theorem byCredentials_of_parse (hurl : ServerUrl.parse (exchange.serverUrlOr serverUrl?) = .ok url)
    {σ : Type} (surroundings : Surroundings σ) {acl : AccessControl}
    (hadmin : acl.has .administer = true) {id? : Option String}
    (hid : stripped (id?.getD "") ≠ "") (store : Store) (world : σ) :
    let found := findLogin store url.requirements (.str (stripped (id?.getD "")))
      (searched acl.caller)
    let ending := exchange.byCredentials surroundings acl serverUrl? id? store world
    (∃ cause, found = .error (.kind cause) ∧ ending = (.error (.kind cause), store, world)) ∨
      (found = .ok none ∧ ending =
        (.ok (.error "Can't create GitLab token, credentials are null"), store, world)) ∨
      ∃ login username password, found = .ok (some login) ∧
        login.content = .login username password ∧
        ending = exchange.mintAndSave surroundings acl
          { username := username, password := password
            serverUrl := exchange.serverUrlOr serverUrl?, tokenName := exchange.tokenName }
          "Can't create GL token" store world := by
  have hcheck : acl.check .administer = .ok () := if_pos hadmin
  have hgiven : (stripped (id?.getD "")).isEmpty = false := by simpa using hid
  dsimp only
  rw [byCredentials, hcheck]
  simp only [hgiven, Bool.false_eq_true, if_false, lookupLogin_of_parse hurl]
  cases hfound : findLogin store url.requirements (.str (stripped (id?.getD "")))
    (searched acl.caller) with
  | error fault =>
    obtain ⟨cause, rfl, -⟩ := findLogin_error hfound
    exact Or.inl ⟨cause, rfl, rfl⟩
  | ok login? =>
    cases login? with
    | none => exact Or.inr (Or.inl ⟨rfl, rfl⟩)
    | some login =>
      have hkind := kind_of_findLogin hfound
      cases hcontent : login.content with
      | login username password =>
        refine Or.inr (Or.inr ⟨login, username, password, rfl, hcontent, ?_⟩)
        simp only [hcontent]
      | secretText secret =>
        rw [Credential.kind, hcontent] at hkind
        cases hkind

/-- **An exchange proceeds with a URL that can be read.** -/
theorem proceeds_of_parse (hurl : ServerUrl.parse (exchange.serverUrlOr serverUrl?) = .ok url) :
    exchange.Proceeds serverUrl? url := by
  refine
    { choices := fun acl store selection? hadmin ↦ ?_
      choices_denied := fun _ store other? selection? h ↦
        choices_eq_of_not_administer h exchange store serverUrl? other? selection?
      lookup := fun _ _ _ ↦ lookupLogin_of_parse hurl
      stored := fun surroundings _ _ store world hadmin hid ↦
        byCredentials_of_parse hurl surroundings hadmin hid store world
      typed := fun surroundings acl username? password? store world hadmin husername hpassword ↦ ?_
      unread := fun surroundings _ _ other? store world h ↦
        exchangeLogin_eq_of_not_given h exchange surroundings serverUrl? other? store world
      domain := fun who store hwho ↦ Store.getOrCreateDomain_eq_claimName hwho hurl store }
  · rw [Exchange.choices, requirementsOf, hurl]
    simp only [hadmin]
    rfl
  · have hcheck : acl.check .administer = .ok () := if_pos hadmin
    have hgiven : ((stripped (username?.getD "")).isEmpty || (password?.getD "").isEmpty) =
        false := by
      simp [husername, hpassword]
    rw [byPassword, hcheck]
    simp only [hgiven, hurl]
    rfl

end TokenBroker.Exchange
