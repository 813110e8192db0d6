import TokenBroker.Proofs.Exchange.Selection
import TokenBroker.Proofs.Exchange.Storing
import TokenBroker.Proofs.Store.Masking

/-!
# Exchanges do not look at secrets

On two stores that differ in secrets alone, the same choices are offered (`choices_masked`) and the
same login is found, but for its password (`lookupLogin_masked`).

An exchange hands the password that it has found to the issuer, and stores what the issuer answers;
it does nothing else with either. So let the issuer succeed or fail alike, whatever the passwords,
and let saves fail alike: then two exchanges end alike, and leave stores behind that differ in
secrets alone again (`exchangeLogin_alike`). The tokens may be different ones.
-/

namespace TokenBroker

variable {σ τ : Type}

/-- A request without the password. -/
def TokenRequest.masked (request : TokenRequest) : TokenRequest :=
  { request with password := .null }

/-- Two surroundings behave alike in worlds that correspond: they make the same ids, their saves
fail alike, and their issuers succeed or fail alike when they are asked for the same with whatever
passwords. -/
structure Surroundings.Alike (R : σ → τ → Prop) (surroundings : Surroundings σ)
    (surroundings' : Surroundings τ) : Prop where
  today : surroundings.today = surroundings'.today
  save : Store.SavesAlike R surroundings.save surroundings'.save
  freshId : ∀ ⦃world world'⦄, R world world' →
    (surroundings.freshId world).1 = (surroundings'.freshId world').1 ∧
      R (surroundings.freshId world).2 (surroundings'.freshId world').2
  issue : ∀ ⦃request request' : TokenRequest⦄, request.masked = request'.masked →
    ∀ ⦃world world'⦄, R world world' →
      (surroundings.issue request world).1.map (fun _ ↦ ()) =
        (surroundings'.issue request' world').1.map (fun _ ↦ ()) ∧
      R (surroundings.issue request world).2 (surroundings'.issue request' world').2

namespace Exchange

/-! ### Choices and the chosen login -/

theorem loginsFor_masked (store : Store) (requirements : List Requirement)
    (who : Authentication) :
    loginsFor store.masked requirements who =
      (loginsFor store requirements who).map (List.map Credential.masked) := by
  rw [loginsFor, loginsFor, Store.lookup_masked]
  cases store.lookup (some .login) who requirements <;> rfl

theorem addLogins_masked (current : String) (logins : List Credential) (choices : List Choice) :
    addLogins current choices (logins.map Credential.masked) =
      addLogins current choices logins := by
  induction logins generalizing choices with
  | nil => rfl
  | cons login rest ih => simp [addLogins, ih]

theorem loginChoices_masked (store : Store) (requirements : List Requirement) (current : String)
    (choices : List Choice) (whos : List Authentication) :
    loginChoices store.masked requirements current choices whos =
      loginChoices store requirements current choices whos := by
  induction whos generalizing choices with
  | nil => rfl
  | cons who rest ih =>
    simp only [loginChoices, loginsFor_masked, ih]
    cases loginsFor store requirements who with
    | error fault => rfl
    | ok logins =>
      show (addLogins current choices (logins.map Credential.masked) >>= fun choices ↦
        loginChoices store requirements current choices rest) = _
      rw [addLogins_masked]
      rfl

/-- **The choices are a function of the masked store.** -/
theorem choices_masked (exchange : Exchange) (acl : AccessControl) (store : Store)
    (serverUrl? selection? : Option String) :
    exchange.choices acl store.masked serverUrl? selection? =
      exchange.choices acl store serverUrl? selection? := by
  simp only [choices, administratorChoices, loginChoices_masked]

theorem firstWithId_masked (id : Json) (credentials : List Credential) :
    Credential.firstWithId? id (credentials.map Credential.masked) =
      (Credential.firstWithId? id credentials).map Credential.masked := by
  simp only [Credential.firstWithId?, List.find?_map]
  rfl

theorem findLogin_masked (store : Store) (requirements : List Requirement) (id : Json)
    (whos : List Authentication) :
    findLogin store.masked requirements id whos =
      (findLogin store requirements id whos).map (Option.map Credential.masked) := by
  induction whos with
  | nil => rfl
  | cons who rest ih =>
    have hmasked := loginsFor_masked store requirements who
    cases hlogins : loginsFor store requirements who with
    | error fault =>
      rw [hlogins] at hmasked
      rw [findLogin, findLogin, hmasked, hlogins]
      rfl
    | ok logins =>
      rw [hlogins] at hmasked
      rw [findLogin_cons hmasked, findLogin_cons hlogins, firstWithId_masked]
      cases Credential.firstWithId? id logins with
      | none => exact ih
      | some login => rfl

/-- **The same login is found, but for its password.** -/
theorem lookupLogin_masked (acl : AccessControl) (store : Store) (serverUrl : String) (id : Json) :
    lookupLogin acl store.masked serverUrl id =
      (lookupLogin acl store serverUrl id).map (Option.map Credential.masked) := by
  simp only [lookupLogin, findLogin_masked]
  cases requirementsOf serverUrl <;> rfl

/-! ### Two exchanges -/

variable {R : σ → τ → Prop} {store store' : Store} {world : σ} {world' : τ}

/-- **Credentials that differ in secrets alone are stored alike.** -/
theorem storeAs_alike {save : Saver σ} {save' : Saver τ} (hsave : Store.SavesAlike R save save')
    (who : Authentication) (serverUrl : String) {credential credential' : Credential}
    (hcredential : credential.masked = credential'.masked) (hstore : store.masked = store'.masked)
    (hworld : R world world') :
    Store.RunsAlike R (storeAs save who serverUrl credential store world)
      (storeAs save' who serverUrl credential' store' world') := by
  have hdomain : Store.RunsAlike R
      (Store.perform save (Store.getOrCreateDomain serverUrl who) store world)
      (Store.perform save' (Store.getOrCreateDomain serverUrl who) store' world') := by
    refine Store.perform_alike hsave hstore ?_ hworld
    rw [← Store.getOrCreateDomain_masked, hstore, Store.getOrCreateDomain_masked]
  obtain ⟨result, located, located', after, after', hleft, hright, hlocated, hafter⟩ :=
    hdomain.exists_eq
  simp only [storeAs, hleft, hright]
  cases result with
  | error error => exact ⟨rfl, hlocated, hafter⟩
  | ok domain =>
    have hadd : Store.RunsAlike R
        (Store.perform save (Store.addCredential domain.name credential who) located after)
        (Store.perform save' (Store.addCredential domain.name credential' who) located'
          after') := by
      refine Store.perform_alike hsave hlocated ?_ hafter
      rw [← Store.addCredential_masked, hcredential, hlocated, Store.addCredential_masked]
    obtain ⟨added, final, final', last, last', hleft, hright, hfinal, hlast⟩ := hadd.exists_eq
    simp only [hleft, hright]
    cases added with
    | error error => exact ⟨rfl, hfinal, hlast⟩
    | ok added =>
      have hid : credential.id = credential'.id := by
        simpa using congrArg Credential.id hcredential
      cases added with
      | true => exact ⟨rfl, hfinal, hlast⟩
      | false => exact ⟨by rw [hid], hfinal, hlast⟩

variable {surroundings : Surroundings σ} {surroundings' : Surroundings τ}

/-- Tokens are stored alike, whatever they are. -/
theorem saveToken_alike (hsurroundings : surroundings.Alike R surroundings') (exchange : Exchange)
    (acl : AccessControl) (url : String) (token token' username : Json)
    (hstore : store.masked = store'.masked) (hworld : R world world') :
    Store.RunsAlike R (exchange.saveToken surroundings acl url token username store world)
      (exchange.saveToken surroundings' acl url token' username store' world') := by
  obtain ⟨hid, hafter⟩ := hsurroundings.freshId hworld
  rcases hfresh : surroundings.freshId world with ⟨id, after⟩
  rcases hfresh' : surroundings'.freshId world' with ⟨id', after'⟩
  rw [hfresh, hfresh'] at hid hafter
  obtain rfl : id = id' := hid
  have hcredential : (exchange.newCredential id (some url) token username).masked =
      (exchange.newCredential id (some url) token' username).masked := rfl
  obtain ⟨result, final, final', last, last', hleft, hright, hfinal, hlast⟩ :=
    (storeAs_alike hsurroundings.save .system url hcredential hstore hafter).exists_eq
  simp only [saveToken, hfresh, hfresh', storeCredential, AccessControl.elevated,
    AccessControl.within, AccessControl.actingAs, hleft, hright]
  exact ⟨rfl, hfinal, hlast⟩

/-- **From the request on, two exchanges with different passwords go alike.** -/
theorem mintAndSave_alike (hsurroundings : surroundings.Alike R surroundings')
    (exchange : Exchange) (acl : AccessControl) {request request' : TokenRequest}
    (hrequest : request.masked = request'.masked) (complaint : String)
    (hstore : store.masked = store'.masked) (hworld : R world world') :
    Store.RunsAlike R (exchange.mintAndSave surroundings acl request complaint store world)
      (exchange.mintAndSave surroundings' acl request' complaint store' world') := by
  have hurl : request.serverUrl = request'.serverUrl := congrArg (·.serverUrl) hrequest
  have husername : request.username = request'.username := congrArg (·.username) hrequest
  rw [mintAndSave, mintAndSave, ← hsurroundings.today]
  cases exchange.expiry? surroundings.today with
  | error fault => exact ⟨rfl, hstore, hworld⟩
  | ok expires? =>
    have hasked : ({ request with expires? := expires? } : TokenRequest).masked =
        ({ request' with expires? := expires? } : TokenRequest).masked :=
      congrArg (fun request : TokenRequest ↦ { request with expires? := expires? }) hrequest
    obtain ⟨hanswer, hafter⟩ := hsurroundings.issue hasked hworld
    rcases hcall : surroundings.issue { request with expires? := expires? } world with
      ⟨answer, after⟩
    rcases hcall' : surroundings'.issue { request' with expires? := expires? } world' with
      ⟨answer', after'⟩
    rw [hcall, hcall'] at hanswer hafter
    simp only [hcall, hcall']
    rcases Except.map_eq_map_iff.1 hanswer with ⟨fault, rfl, rfl⟩ | ⟨token, token', rfl, rfl, -⟩
    · cases fault with
      | failure failure => cases failure <;> exact ⟨rfl, hstore, hafter⟩
      | _ => exact ⟨rfl, hstore, hafter⟩
    · dsimp only
      rw [← hurl, ← husername]
      exact saveToken_alike hsurroundings exchange acl _ token token' _ hstore hafter

/-- A stored login is exchanged alike. -/
theorem byCredentials_alike (hsurroundings : surroundings.Alike R surroundings')
    (exchange : Exchange) (acl : AccessControl) (serverUrl? credentialsId? : Option String)
    (hstore : store.masked = store'.masked) (hworld : R world world') :
    Store.RunsAlike R
      (exchange.byCredentials surroundings acl serverUrl? credentialsId? store world)
      (exchange.byCredentials surroundings' acl serverUrl? credentialsId? store' world') := by
  have hfound (url : String) (id : Json) :
      (lookupLogin acl store url id).map (Option.map Credential.masked) =
        (lookupLogin acl store' url id).map (Option.map Credential.masked) := by
    rw [← lookupLogin_masked, hstore, lookupLogin_masked]
  rw [byCredentials, byCredentials]
  cases acl.check .administer with
  | error failure => exact ⟨rfl, hstore, hworld⟩
  | ok _ =>
    dsimp only
    split
    · exact ⟨rfl, hstore, hworld⟩
    specialize hfound (exchange.serverUrlOr serverUrl?) (.str (stripped (credentialsId?.getD "")))
    -- the two searches fail alike, find nothing, or find logins that differ in their passwords
    rcases Except.map_eq_map_iff.1 hfound with ⟨fault, hleft, hright⟩ |
      ⟨found, found', hleft, hright, hmasked⟩
    · simp only [hleft, hright]
      exact ⟨rfl, hstore, hworld⟩
    · simp only [hleft, hright]
      cases found with
      | none =>
        cases found' with
        | none => exact ⟨rfl, hstore, hworld⟩
        | some login' => cases hmasked
      | some login =>
        cases found' with
        | none => cases hmasked
        | some login' =>
          have hcontent : login.content.masked = login'.content.masked :=
            congrArg Credential.content (Option.some.inj hmasked)
          obtain ⟨_, _, _, _, content⟩ := login
          obtain ⟨_, _, _, _, content'⟩ := login'
          cases content with
          | login username password =>
            cases content' with
            | login username' password' =>
              cases hcontent
              refine mintAndSave_alike hsurroundings exchange acl ?_ _ hstore hworld
              rfl
            | secretText secret' => cases hcontent
          | secretText secret =>
            cases content' with
            | login username' password' => cases hcontent
            | secretText secret' => exact ⟨rfl, hstore, hworld⟩

/-- A login that is typed in is exchanged alike. -/
theorem byPassword_alike (hsurroundings : surroundings.Alike R surroundings')
    (exchange : Exchange) (acl : AccessControl)
    (serverUrl? username? password? : Option String) (hstore : store.masked = store'.masked)
    (hworld : R world world') :
    Store.RunsAlike R
      (exchange.byPassword surroundings acl serverUrl? username? password? store world)
      (exchange.byPassword surroundings' acl serverUrl? username? password? store' world') := by
  rw [byPassword, byPassword]
  cases acl.check .administer with
  | error failure => exact ⟨rfl, hstore, hworld⟩
  | ok _ =>
    dsimp only
    split
    · exact ⟨rfl, hstore, hworld⟩
    cases ServerUrl.parse (exchange.serverUrlOr serverUrl?) with
    | error error => exact ⟨rfl, hstore, hworld⟩
    | ok url =>
      obtain ⟨hid, hafter⟩ := hsurroundings.freshId hworld
      dsimp only
      rw [← hid]
      exact mintAndSave_alike hsurroundings exchange acl rfl _ hstore hafter

/-- **Two exchanges on stores that differ in secrets alone end alike**, and leave two such stores
behind. -/
theorem exchangeLogin_alike (hsurroundings : surroundings.Alike R surroundings')
    (exchange : Exchange) (acl : AccessControl) (source : LoginSource)
    (serverUrl? : Option String) (hstore : store.masked = store'.masked)
    (hworld : R world world') :
    Store.RunsAlike R (exchange.exchangeLogin surroundings acl source serverUrl? store world)
      (exchange.exchangeLogin surroundings' acl source serverUrl? store' world') := by
  cases source with
  | stored id? => exact byCredentials_alike hsurroundings exchange acl serverUrl? id? hstore hworld
  | typed username? password? =>
    exact byPassword_alike hsurroundings exchange acl serverUrl? username? password? hstore hworld

end Exchange

end TokenBroker
