import TokenBroker.Proofs.Exchange.Outcome
import TokenBroker.Service.Basic

/-!
# Clients who may not administer

The service answers a client who may not administer without a look at the store: the answer is a
function of the service and of the request (`Service.serve_unprivileged`). Of the three operations,
the list of logins has nothing but the client's own selection for it, and the two exchanges check
the permission before they consider an id, a name or a URL. What is wrong with the form of a request
is said to everybody, and that comes from the request alone.

So a conversation of such clients goes the same way in two brokers which have only the name of
their store in common (`Service.serveAll_unprivileged`).
-/

namespace TokenBroker

variable {σ τ : Type}

namespace Exchange

variable {acl : AccessControl} (exchange : Exchange)

/-- Who may not administer is shown what it has selected. -/
theorem choices_unprivileged (h : acl.has .administer = false) (store : Store)
    (serverUrl? selection? : Option String) :
    exchange.choices acl store serverUrl? selection? =
      let current := stripped (selection?.getD "")
      .ok (if current.isEmpty then [] else [currentChoice current]) := by
  rw [choices, h]
  rfl

/-- Who may not administer exchanges no login, whatever it names. -/
theorem exchangeLogin_unprivileged (h : acl.has .administer = false)
    (surroundings : Surroundings σ) (source : LoginSource) (serverUrl? : Option String)
    (store : Store) (world : σ) :
    exchange.exchangeLogin surroundings acl source serverUrl? store world =
      (.error (.failure (.permissionDenied .administer acl.current.name)), store, world) := by
  have hcheck : acl.check .administer =
      .error (.permissionDenied .administer acl.current.name) := by
    rw [AccessControl.check, h]
    rfl
  cases source with
  | stored id? => rw [exchangeLogin, byCredentials, hcheck]
  | typed username? password? => rw [exchangeLogin, byPassword, hcheck]

end Exchange

namespace Service

/-- The client of a request may not administer. -/
def Unprivileged (service : Service) (request : ServiceRequest) : Prop :=
  (client service.principals request.authorization?).has .administer = false

instance (service : Service) (request : ServiceRequest) :
    Decidable (service.Unprivileged request) :=
  inferInstanceAs (Decidable (_ = false))

/-! ### One request -/

/-- Where the operation can only fail, and always with the same fault, the reply comes from the
arguments alone. -/
theorem exists_exchangeReply {α : Type} (arguments? : Option (Checked α)) (fault : Fault) :
    ∃ reply, ∀ (σ : Type) (run : α → Store → σ → Except Fault Outcome × Store × σ)
      (store : Store) (world : σ), (∀ argument, run argument store world =
        (.error fault, store, world)) →
        exchangeReply arguments? run store world = (reply, store, world) := by
  rcases arguments? with _ | argument | issues
  · exact ⟨.unreadable, fun _ _ _ _ _ ↦ rfl⟩
  · refine ⟨faultReply fault, fun σ run store world hrun ↦ ?_⟩
    rw [exchangeReply, hrun argument]
    rfl
  · exact ⟨.refusal issues, fun _ _ _ _ _ ↦ rfl⟩

theorem serveEndpoint_unprivileged (service : Service) {acl : AccessControl}
    (h : acl.has .administer = false) (request : ServiceRequest) (endpoint : Endpoint) :
    ∃ reply, ∀ (exchange : Exchange) (σ : Type) (surroundings : Surroundings σ) (store : Store)
      (world : σ), { service with exchange := exchange }.serveEndpoint surroundings acl request
        store world endpoint = (reply, store, world) := by
  cases endpoint with
  | health => exact ⟨service.healthReply, fun _ _ _ _ _ ↦ rfl⟩
  | choices =>
    let current := stripped (request.queryValue "credentials_id")
    let shown := if current.isEmpty then [] else [Exchange.currentChoice current]
    refine ⟨.json 200 (.arr (shown.map Choice.encode)),
      fun exchange σ surroundings store world ↦ ?_⟩
    rw [serveEndpoint, choicesReply, Exchange.choices_unprivileged exchange h]
    rfl
  | byCredentials =>
    obtain ⟨reply, hreply⟩ := exists_exchangeReply (credentialsBody? request)
      (.failure (.permissionDenied .administer acl.current.name))
    refine ⟨reply, fun exchange σ surroundings store world ↦ ?_⟩
    rw [serveEndpoint]
    refine hreply σ _ store world fun (url, id) ↦ ?_
    exact exchange.exchangeLogin_unprivileged h surroundings (.stored (some id)) (some url) store
      world
  | byPassword =>
    obtain ⟨reply, hreply⟩ := exists_exchangeReply (passwordBody? request)
      (.failure (.permissionDenied .administer acl.current.name))
    refine ⟨reply, fun exchange σ surroundings store world ↦ ?_⟩
    rw [serveEndpoint]
    refine hreply σ _ store world fun (url, username, password) ↦ ?_
    exact exchange.exchangeLogin_unprivileged h surroundings
      (.typed (some username) (some password)) (some url) store world

/-- **The reply to a client who may not administer** depends on the request, on the principals, the
pages and the name of the store; it leaves the store and the surroundings as they are. -/
theorem serve_unprivileged (service : Service) {request : ServiceRequest}
    (h : service.Unprivileged request) :
    ∃ reply, ∀ (exchange : Exchange) (σ : Type) (surroundings : Surroundings σ) (store : Store)
      (world : σ), { service with exchange := exchange }.serve surroundings request store world =
        (reply, store, world) := by
  have hroute : ∀ exchange : Exchange,
      { service with exchange := exchange }.route request.method request.path =
        service.route request.method request.path := fun _ ↦ rfl
  simp only [serve, hroute]
  cases service.route request.method request.path with
  | page body => exact ⟨_, fun _ _ _ _ _ ↦ rfl⟩
  | endpoint endpoint =>
    have hacl : (AccessControl.start (client service.principals request.authorization?)).has
        .administer = false := h
    exact service.serveEndpoint_unprivileged hacl request endpoint
  | otherMethod => exact ⟨_, fun _ _ _ _ _ ↦ rfl⟩
  | withoutSlash => exact ⟨_, fun _ _ _ _ _ ↦ rfl⟩
  | nowhere => exact ⟨_, fun _ _ _ _ _ ↦ rfl⟩

/-! ### A conversation -/

/-- Serves requests one after the other. -/
def serveAll (service : Service) (surroundings : Surroundings σ) :
    List ServiceRequest → Store → σ → List ServiceReply × Store × σ
  | [], store, world => ([], store, world)
  | request :: rest, store, world =>
    let (reply, store, world) := service.serve surroundings request store world
    let (replies, store, world) := service.serveAll surroundings rest store world
    (reply :: replies, store, world)

/-- The replies are settled before the broker is. -/
theorem exists_serveAll_unprivileged (service : Service) {requests : List ServiceRequest}
    (h : ∀ request ∈ requests, service.Unprivileged request) :
    ∃ replies, ∀ (exchange : Exchange) (σ : Type) (surroundings : Surroundings σ) (store : Store)
      (world : σ),
      { service with exchange := exchange }.serveAll surroundings requests store world =
        (replies, store, world) := by
  induction requests with
  | nil => exact ⟨[], fun _ _ _ _ _ ↦ rfl⟩
  | cons request rest ih =>
    obtain ⟨reply, hreply⟩ := service.serve_unprivileged (h request List.mem_cons_self)
    obtain ⟨replies, hreplies⟩ := ih fun other hother ↦ h other (List.mem_cons_of_mem _ hother)
    refine ⟨reply :: replies, fun exchange σ surroundings store world ↦ ?_⟩
    -- the first request hands on the store and the surroundings that it found
    rw [serveAll, hreply exchange σ surroundings store world]
    dsimp only
    rw [hreplies exchange σ surroundings store world]

/-- **Who may not administer learns nothing of the store and changes nothing.** Let no client of a
conversation hold the permission to administer. Then two brokers with the same principals, pages and
name of the store, which may exchange differently, hold other credentials and stand in other
surroundings, give the same replies; both stores and both surroundings are in the end what they
were, and no issuer has been asked for a token. -/
theorem serveAll_unprivileged (service : Service) (exchange : Exchange)
    (surroundings : Surroundings σ) (surroundings' : Surroundings τ)
    {requests : List ServiceRequest} (h : ∀ request ∈ requests, service.Unprivileged request)
    (store store' : Store) (world : σ) (world' : τ) :
    ∃ replies,
      service.serveAll surroundings.recorded requests store (world, []) =
        (replies, store, world, []) ∧
      { service with exchange := exchange }.serveAll surroundings'.recorded requests store'
        (world', []) = (replies, store', world', []) := by
  obtain ⟨replies, hreplies⟩ := service.exists_serveAll_unprivileged h
  exact ⟨replies, hreplies service.exchange _ _ store _, hreplies exchange _ _ store' _⟩

/-- Somebody with the key of a mere user, somebody with no key and somebody with a wrong one, at an
empty store and at one that holds a login. -/
theorem serveAll_unprivileged_three :
    let principals : List Principal := [⟨"root", "r", true⟩, ⟨"jo", "j", false⟩]
    let service : Service := { exchange := {}, principals := principals, storeName := "memory" }
    let login : Credential := { id := .str "x", content := .login (.str "u") (.str "p") }
    let store : Store := ⟨[{ domain := .global, credentials := [login] }]⟩
    let requests : List ServiceRequest :=
      [{ method := "GET", path := "/credentials/items", query := "credentials_id=x"
         authorization? := some "Bearer j" },
       { method := "POST", path := "/tokens/by-credentials"
         body := "\x7b\"credentials_id\": \"x\"\x7d" },
       { method := "POST", path := "/tokens/by-password", authorization? := some "Bearer R"
         body := "\x7b\"username\": \"u\", \"password\": \"p\"\x7d" }]
    (∀ request ∈ requests, service.Unprivileged request) ∧
      (service.serveAll (.steady "id" (.str "t")) requests store ()).1.map (·.status) =
        [200, 403, 403] ∧
      ∃ replies,
        service.serveAll (Surroundings.steady "id" (.str "t")).recorded requests store ((), []) =
          (replies, store, (), []) ∧
        service.serveAll (Surroundings.steady "other" (.str "s")).recorded requests .empty
          ((), []) = (replies, .empty, (), []) := by
  intro principals service login store requests
  have hclients : ∀ request ∈ requests, service.Unprivileged request := by decide +kernel
  exact ⟨hclients, by decide +kernel, serveAll_unprivileged service {}
    (.steady "id" (.str "t")) (.steady "other" (.str "s")) hclients store .empty () ()⟩

end Service

end TokenBroker
