import TokenBroker.Proofs.Exchange.Storing
import TokenBroker.Proofs.ServerUrl.Blank

/-!
# The outcome of an exchange

`exchangeLogin_outcome`: a success means one call of the issuer and one credential more, at the end
of the list of one domain, and nothing else changed; every other end means no credential more, and
at most one new domain, which is empty.

The calls of the issuer are made visible by recording them beside the state of the surroundings
(`Surroundings.recorded`). Recording changes nothing else (`exchangeLogin_recorded`), so what is
counted are the calls of the exchange itself, whatever its surroundings do: the issuer may end in
any way, ids may repeat, and any save may fail.
-/

namespace TokenBroker

variable {σ α : Type}

/-! ### Surroundings -/

/-- Surroundings in which every save succeeds, every id is the same, and the issuer always makes the
same token. -/
def Surroundings.steady (id : String) (token : Json) : Surroundings Unit where
  save _ world := (.ok (), world)
  freshId world := (id, world)
  issue _ world := (.ok token, world)
  today := ⟨1⟩

/-! ### Recording the calls of the issuer -/

/-- A call of the issuer: what it was asked for and how it ended. -/
structure IssuerCall where
  request : TokenRequest
  answer : Except Fault Json

/-- The same surroundings, with a record of the calls of the issuer. -/
def Surroundings.recorded (surroundings : Surroundings σ) :
    Surroundings (σ × List IssuerCall) where
  save store world :=
    ((surroundings.save store world.1).1, (surroundings.save store world.1).2, world.2)
  freshId world := ((surroundings.freshId world.1).1, (surroundings.freshId world.1).2, world.2)
  issue request world :=
    ((surroundings.issue request world.1).1, (surroundings.issue request world.1).2,
      world.2 ++ [⟨request, (surroundings.issue request world.1).1⟩])
  today := surroundings.today

/-- What remains of a run without its record. -/
def forgetCalls (run : α × Store × (σ × List IssuerCall)) : α × Store × σ :=
  (run.1, run.2.1, run.2.2.1)

namespace Surroundings

variable (surroundings : Surroundings σ) (world : σ) (calls : List IssuerCall)

@[simp] theorem recorded_save (store : Store) :
    surroundings.recorded.save store (world, calls) =
      ((surroundings.save store world).1, (surroundings.save store world).2, calls) := rfl

@[simp] theorem recorded_freshId :
    surroundings.recorded.freshId (world, calls) =
      ((surroundings.freshId world).1, (surroundings.freshId world).2, calls) := rfl

@[simp] theorem recorded_issue (request : TokenRequest) :
    surroundings.recorded.issue request (world, calls) =
      ((surroundings.issue request world).1, (surroundings.issue request world).2,
        calls ++ [⟨request, (surroundings.issue request world).1⟩]) := rfl

@[simp] theorem recorded_today : surroundings.recorded.today = surroundings.today := rfl

end Surroundings

namespace Exchange

variable (surroundings : Surroundings σ)

theorem perform_recorded (write : Store → Except StoreError (Proposal α)) (store : Store)
    (world : σ) (calls : List IssuerCall) :
    Store.perform surroundings.recorded.save write store (world, calls) =
      ((Store.perform surroundings.save write store world).1,
        (Store.perform surroundings.save write store world).2.1,
        (Store.perform surroundings.save write store world).2.2, calls) := by
  unfold Store.perform
  split
  · rfl
  · rfl
  · rename_i mutation domain answer hwrite
    rw [Surroundings.recorded_save]
    rcases surroundings.save (store.mutate mutation) world with ⟨_ | _, inner⟩ <;> rfl

theorem storeAs_recorded (who : Authentication) (serverUrl : String) (credential : Credential)
    (store : Store) (world : σ) (calls : List IssuerCall) :
    storeAs surroundings.recorded.save who serverUrl credential store (world, calls) =
      ((storeAs surroundings.save who serverUrl credential store world).1,
        (storeAs surroundings.save who serverUrl credential store world).2.1,
        (storeAs surroundings.save who serverUrl credential store world).2.2, calls) := by
  simp only [storeAs, perform_recorded]
  rcases Store.perform surroundings.save (Store.getOrCreateDomain serverUrl who) store world with
    ⟨_ | domain, located, world₁⟩
  · rfl
  · simp only [perform_recorded]
    rcases Store.perform surroundings.save (Store.addCredential domain.name credential who) located
      world₁ with ⟨_ | _ | _, store₂, world₂⟩ <;> rfl

theorem saveToken_recorded (exchange : Exchange) (acl : AccessControl) (url : String)
    (token username : Json) (store : Store) (world : σ) (calls : List IssuerCall) :
    exchange.saveToken surroundings.recorded acl url token username store (world, calls) =
      ((exchange.saveToken surroundings acl url token username store world).1,
        (exchange.saveToken surroundings acl url token username store world).2.1,
        (exchange.saveToken surroundings acl url token username store world).2.2, calls) := by
  simp only [saveToken, storeCredential, AccessControl.elevated, AccessControl.within,
    Surroundings.recorded_freshId, storeAs_recorded]

theorem mintAndSave_recorded (exchange : Exchange) (acl : AccessControl) (request : TokenRequest)
    (complaint : String) (store : Store) (world : σ) (calls : List IssuerCall) :
    forgetCalls (exchange.mintAndSave surroundings.recorded acl request complaint store
      (world, calls)) = exchange.mintAndSave surroundings acl request complaint store world := by
  simp only [mintAndSave, Surroundings.recorded_today]
  cases exchange.expiry? surroundings.today with
  | error fault => rfl
  | ok expires? =>
    simp only [Surroundings.recorded_issue]
    rcases surroundings.issue { request with expires? := expires? } world with
      ⟨fault | token, inner⟩
    · cases fault with
      | failure report => cases report <;> rfl
      | _ => rfl
    · simp only [saveToken_recorded, forgetCalls]

/-- **Recording changes nothing**: without its record, a recorded exchange is the exchange. -/
theorem exchangeLogin_recorded (exchange : Exchange) (acl : AccessControl) (source : LoginSource)
    (serverUrl? : Option String) (store : Store) (world : σ) (calls : List IssuerCall) :
    forgetCalls (exchange.exchangeLogin surroundings.recorded acl source serverUrl? store
      (world, calls)) = exchange.exchangeLogin surroundings acl source serverUrl? store world := by
  cases source with
  | stored id? =>
    simp only [exchangeLogin, byCredentials]
    split
    · rfl
    split
    · rfl
    split
    · rfl
    · rfl
    split
    · exact mintAndSave_recorded surroundings exchange acl _ _ store world calls
    · rfl
  | typed username? password? =>
    simp only [exchangeLogin, byPassword]
    split
    · rfl
    split
    · rfl
    split
    · rfl
    · exact mintAndSave_recorded surroundings exchange acl _ _ store _ calls

/-- Storing a credential asks the issuer for nothing. -/
theorem calls_storeAs {who : Authentication} {serverUrl : String} {credential : Credential}
    {store store' : Store} {world world' : σ × List IssuerCall} {result : Except Fault Domain}
    (h : storeAs surroundings.recorded.save who serverUrl credential store world =
      (result, store', world')) : world'.2 = world.2 := by
  obtain ⟨inner, calls⟩ := world
  rw [storeAs_recorded] at h
  simp only [Prod.mk.injEq] at h
  obtain ⟨-, -, rfl⟩ := h
  rfl

/-! ### What a success has stored -/

/-- The credential of a token: its id, and a description that names the server and the user of the
request it was made on. -/
def issuedCredential (id : String) (request : TokenRequest) (token : Json) : Credential :=
  { id := .str id
    scope := .global
    owner := .null
    description := .str ("Auto Generated by " ++ stripped request.serverUrl ++ " server for "
      ++ request.username.display ++ " user")
    content := .secretText token }

/-- The description names the server of the request, since a usable URL is not replaced. -/
theorem newCredential_eq_issuedCredential (exchange : Exchange) (id : String)
    (request : TokenRequest) (token : Json) {url : ServerUrl}
    (h : ServerUrl.parse request.serverUrl = .ok url) :
    exchange.newCredential id (some request.serverUrl) token request.username =
      issuedCredential id request token := by
  simp [newCredential, issuedCredential, serverUrlOr, ServerUrl.blank_eq_false_of_parse h]

/-- **An exchange stores one credential or none.** If it succeeds, the issuer was called once, for
the server that was meant, and the store has one credential more, that of the token which the issuer
made; it stands at the end of the list of one domain, and all else is as it was. In every other case
the store has at most one domain more, and that holds nothing. -/
theorem exchangeLogin_outcome (exchange : Exchange) (surroundings : Surroundings σ)
    (acl : AccessControl) (source : LoginSource) (serverUrl? : Option String) {store : Store}
    (hstore : store.NamesDistinct) (world : σ) :
    ∃ result store' world' calls,
      exchange.exchangeLogin surroundings acl source serverUrl? store world =
        (result, store', world') ∧
      exchange.exchangeLogin surroundings.recorded acl source serverUrl? store (world, []) =
        (result, store', world', calls) ∧
      (∀ message id?, result = .ok (.ok message id?) →
        ∃ id request token domain, id? = some id ∧ calls = [⟨request, .ok token⟩] ∧
          request.serverUrl = exchange.serverUrlOr serverUrl? ∧
          store.Gains (issuedCredential id request token) domain store') ∧
      ((∀ message id?, result ≠ .ok (.ok message id?)) → store.AtMostNewDomain store') := by
  obtain ⟨result, store', ⟨world', calls⟩, hrun⟩ :
      ∃ result store' world', exchange.exchangeLogin surroundings.recorded acl source serverUrl?
        store (world, []) = (result, store', world') := ⟨_, _, _, rfl⟩
  have hplain := exchangeLogin_recorded surroundings exchange acl source serverUrl? store world []
  rw [hrun] at hplain
  refine ⟨result, store', world', calls, hplain.symm, hrun, ?_⟩
  rcases exchangeLogin_cases hrun with ⟨request, complaint, world₀, hurl, hworld₀, hmint⟩ |
    ⟨hfails, rfl⟩
  · have hcalls₀ : world₀.2 = [] := by rcases hworld₀ with rfl | rfl <;> rfl
    rcases mintAndSave_cases hmint with ⟨expires?, token, world₁, id, world₂, domain, message₁,
      hissue, hid, hstored, rfl⟩ | ⟨hfails, hmost⟩
    · refine ⟨fun message id? heq ↦ ?_, fun h ↦ absurd rfl (h message₁ (some id))⟩
      cases heq
      -- the record: one call when the issuer is asked, and none before or after
      have hcalls₁ : world₁.2 = [⟨{ request with expires? := expires? }, .ok token⟩] := by
        obtain ⟨inner, calls₀⟩ := world₀
        obtain rfl : calls₀ = [] := hcalls₀
        rw [Surroundings.recorded_issue, Prod.mk.injEq] at hissue
        rw [← hissue.2, hissue.1]
        rfl
      have hcalls₂ : world₂.2 = world₁.2 := by
        obtain ⟨inner, calls₁⟩ := world₁
        rw [Surroundings.recorded_freshId, Prod.mk.injEq] at hid
        rw [← hid.2]
      have hcalls : calls = world₂.2 := calls_storeAs surroundings hstored
      rcases storeAs_cases hstored with ⟨url, _, located, heq, hparse, hlocated, rfl⟩ |
        ⟨_, heq, -⟩
      · cases heq
        refine ⟨id, { request with expires? := expires? }, token, domain, rfl, ?_, hurl, ?_⟩
        · rw [hcalls, hcalls₂, hcalls₁]
        · rw [newCredential_eq_issuedCredential exchange id request token hparse]
          exact hlocated.gains hstore _
      · cases heq
    · refine ⟨fun message id? heq ↦ ?_, fun _ ↦ hmost⟩
      rw [heq] at hfails
      exact absurd trivial hfails
  · refine ⟨fun message id? heq ↦ ?_, fun _ ↦ .refl _⟩
    rw [heq] at hfails
    exact absurd trivial hfails

/-- A typed login on a server whose plain name is taken by a domain for another scheme. -/
theorem exchangeLogin_outcome_typed :
    let store : Store := ⟨[{ domain := .global },
      { domain := { name := .str "h", specifications := [.scheme [.str "http"]] } }]⟩
    store.NamesDistinct ∧ ∃ store' request token domain,
      (exchangeLogin {} (.steady "id" (.str "t")) (.start (.administrator "root"))
        (.typed (some "u") (some "p")) (some "https://h") store ()).2.1 = store' ∧
      request.serverUrl = "https://h" ∧
      store.Gains (issuedCredential "id" request token) domain store' := by
  intro store
  have hstore : store.NamesDistinct := by decide
  refine ⟨hstore, ?_⟩
  obtain ⟨result, store', world', calls, hrun, -, hsuccess, -⟩ :=
    exchangeLogin_outcome {} (.steady "id" (.str "t")) (.start (.administrator "root"))
      (.typed (some "u") (some "p")) (some "https://h") hstore ()
  have hok : (exchangeLogin {} (.steady "id" (.str "t")) (.start (.administrator "root"))
      (.typed (some "u") (some "p")) (some "https://h") store ()).1 =
      .ok (.ok "Created credentials with id id" (some "id")) := by
    decide +kernel
  rw [hrun] at hok
  obtain ⟨id, request, token, domain, hid, -, hurl, hgains⟩ := hsuccess _ _ hok
  cases hid
  refine ⟨store', request, token, domain, by rw [hrun], ?_, hgains⟩
  rw [hurl]
  decide +kernel

end Exchange

end TokenBroker
