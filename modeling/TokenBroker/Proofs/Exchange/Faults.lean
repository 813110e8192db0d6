import TokenBroker.Proofs.Exchange.Outcome
import TokenBroker.Proofs.GitLab.Faults
import TokenBroker.Proofs.Store.Lookup

/-!
# What an administrator may be faulted with

Mistakes of the caller, of the server and of the store are outcomes. What remains are three causes
of a fault, of which `Exchange.Blame` names two: a URL whose authority is refused, a store that
holds values of the wrong kind, and a lifetime of tokens that leads out of the calendar. The first
one is a mistake of the caller all the same, and it always ends in a fault (`administer_faults`).
-/

namespace TokenBroker

variable {σ : Type}

/-- What a store is asked for has the kinds that it should have: the specifications of the domains
are texts, and the ids of the credentials can serve as keys. -/
def Store.Readable (store : Store) : Prop :=
  ∀ entry ∈ store.entries, entry.domain.Readable ∧
    ∀ credential ∈ entry.credentials, credential.id.hashable = true

theorem Store.readable_empty : Store.empty.Readable := by
  intro entry hentry
  rw [List.mem_singleton.1 hentry]
  exact ⟨fun _ h ↦ absurd h List.not_mem_nil, fun _ h ↦ absurd h List.not_mem_nil⟩

/-- The issuer makes a token or reports that it cannot. -/
def Surroundings.Reports (surroundings : Surroundings σ) : Prop :=
  ∀ request world fault, (surroundings.issue request world).1 = .error fault → fault.IsTokenCreation

theorem Surroundings.reports_steady (id : String) (token : Json) : (steady id token).Reports := by
  intro request world fault h
  cases h

namespace Exchange

/-- What a fault of an administrative operation on a URL is to be blamed on, if not on the lifetime
of tokens. -/
inductive Blame (store : Store) (url : String) : Fault → Prop
  | authority {cause : AuthorityError} (h : ServerUrl.parse url = .error (.authority cause)) :
      Blame store url (.value cause.message)
  | store {cause : KindError} (h : ¬ store.Readable) : Blame store url (.kind cause)

/-- A login is given: the id of a stored one that is not blank, or a name that is not blank and a
password that is not empty. -/
def LoginSource.Given : LoginSource → Prop
  | .stored id? => stripped (id?.getD "") ≠ ""
  | .typed username? password? => stripped (username?.getD "") ≠ "" ∧ password?.getD "" ≠ ""

/-! ### Reading the store -/

theorem loginsFor_error {store : Store} {requirements : List Requirement} {who : Authentication}
    {fault : Fault} (h : loginsFor store requirements who = .error fault) :
    ∃ cause, fault = .kind cause ∧ ¬ store.Readable := by
  cases hlookup : store.lookup (some .login) who requirements with
  | ok found =>
    rw [loginsFor, hlookup] at h
    cases h
  | error cause =>
    rw [loginsFor, hlookup] at h
    cases h
    refine ⟨cause, rfl, fun hreadable ↦ ?_⟩
    have hanswers : ∀ domain ∈ store.domains, ∃ accepted,
        domain.accepts requirements = .ok accepted := fun domain hdomain ↦ by
      obtain ⟨entry, hentry, rfl⟩ := List.mem_map.1 hdomain
      exact Domain.exists_accepts (hreadable entry hentry).1 requirements
    obtain ⟨found, hfound⟩ := Store.exists_lookup hanswers (some .login) who
    rw [hlookup] at hfound
    cases hfound

/-- The logins of a store are credentials of it, and logins. -/
theorem mem_of_mem_loginsFor {store : Store} {requirements : List Requirement}
    {who : Authentication} {logins : List Credential} {login : Credential}
    (h : loginsFor store requirements who = .ok logins) (hlogin : login ∈ logins) :
    (∃ entry ∈ store.entries, login ∈ entry.credentials) ∧ login.kind = .login := by
  cases hlookup : store.lookup (some .login) who requirements with
  | error cause =>
    rw [loginsFor, hlookup] at h
    cases h
  | ok found =>
    rw [loginsFor, hlookup] at h
    cases h
    obtain ⟨entry, hentry, -, hmem, hoffers⟩ := (Store.mem_lookup_iff hlookup).1 hlogin
    refine ⟨⟨entry, hentry, hmem⟩, ?_⟩
    simp only [Store.offers, Option.all_some, Bool.and_eq_true, beq_iff_eq] at hoffers
    exact hoffers.1

theorem addLogins_error {current : String} {logins : List Credential} {fault : Fault} :
    ∀ {choices : List Choice}, addLogins current choices logins = .error fault →
      fault = .kind .refused ∧ ∃ login ∈ logins, login.id.hashable = false := by
  induction logins with
  | nil => rintro _ ⟨⟩
  | cons login rest ih =>
    intro choices h
    rw [addLogins] at h
    split at h
    · rename_i hkey
      cases h
      exact ⟨rfl, login, List.mem_cons_self, by simpa using hkey⟩
    split at h
    · obtain ⟨hfault, other, hother, hkey⟩ := ih h
      exact ⟨hfault, other, List.mem_cons_of_mem _ hother, hkey⟩
    · obtain ⟨hfault, other, hother, hkey⟩ := ih h
      exact ⟨hfault, other, List.mem_cons_of_mem _ hother, hkey⟩

theorem loginChoices_error {store : Store} {requirements : List Requirement} {current : String}
    {fault : Fault} {identities : List Authentication} :
    ∀ {choices : List Choice},
      loginChoices store requirements current choices identities = .error fault →
        ∃ cause, fault = .kind cause ∧ ¬ store.Readable := by
  induction identities with
  | nil => rintro _ ⟨⟩
  | cons who rest ih =>
    intro choices h
    rw [loginChoices] at h
    obtain hlogins | ⟨logins, hlogins, h⟩ := Except.bind_eq_error_iff.1 h
    · exact loginsFor_error hlogins
    obtain hadded | ⟨added, -, h⟩ := Except.bind_eq_error_iff.1 h
    · obtain ⟨rfl, login, hlogin, hkey⟩ := addLogins_error hadded
      refine ⟨.refused, rfl, fun hreadable ↦ ?_⟩
      obtain ⟨⟨entry, hentry, hmem⟩, -⟩ := mem_of_mem_loginsFor hlogins hlogin
      rw [(hreadable entry hentry).2 login hmem] at hkey
      cases hkey
    · exact ih h

theorem findLogin_error {store : Store} {requirements : List Requirement} {id : Json}
    {fault : Fault} {identities : List Authentication}
    (h : findLogin store requirements id identities = .error fault) :
    ∃ cause, fault = .kind cause ∧ ¬ store.Readable := by
  induction identities with
  | nil => cases h
  | cons who rest ih =>
    rw [findLogin] at h
    obtain hlogins | ⟨logins, -, h⟩ := Except.bind_eq_error_iff.1 h
    · exact loginsFor_error hlogins
    split at h
    · cases h
    · exact ih h

/-- What is found is a login. -/
theorem kind_of_findLogin {store : Store} {requirements : List Requirement} {id : Json}
    {login : Credential} {identities : List Authentication}
    (h : findLogin store requirements id identities = .ok (some login)) : login.kind = .login := by
  induction identities with
  | nil => cases h
  | cons who rest ih =>
    rw [findLogin, Except.bind_eq_ok_iff] at h
    obtain ⟨logins, hlogins, h⟩ := h
    split at h
    · rename_i found hfound
      cases h
      exact (mem_of_mem_loginsFor hlogins (List.mem_of_find?_eq_some hfound)).2
    · exact ih h

end Exchange

/-! ### Writing to the store -/

namespace Store

/-- The system may take a domain for any usable URL. -/
theorem getOrCreateDomain_error {store : Store} {serverUrl : String} {url : ServerUrl}
    {error : StoreError} (hurl : ServerUrl.parse serverUrl = .ok url)
    (h : getOrCreateDomain serverUrl .system store = .error error) :
    error.fault.IsStorage ∨ ∃ cause, error.fault = .kind cause ∧ ¬ store.Readable := by
  rw [getOrCreateDomain_eq_claimName (by simp) hurl] at h
  rcases claimName_error h with rfl | ⟨domain, hdomain, cause, haccepts, rfl⟩
  · exact .inl ⟨_, _, rfl⟩
  refine .inr ⟨cause, rfl, fun hreadable ↦ ?_⟩
  obtain ⟨entry, hentry, rfl⟩ := List.mem_map.1 hdomain
  obtain ⟨accepted, haccepted⟩ := Domain.exists_accepts (hreadable entry hentry).1
    [.scheme url.scheme, .host url.host]
  rw [haccepts] at haccepted
  cases haccepted

/-- The system may add any credential to a domain that is there. -/
theorem addCredential_error {store : Store} {name : Json} {credential : Credential}
    {error : StoreError} (h : addCredential name credential .system store = .error error) :
    error.fault.IsStorage := by
  have hadd : checkAdd credential .system = .ok () := by
    rw [checkAdd]
    split
    · rfl
    · exact checkManage_eq_ok_iff.2 (by simp)
  rw [addCredential] at h
  obtain hrefused | ⟨_, -, h⟩ := Except.bind_eq_error_iff.1 h
  · rw [hadd] at hrefused
    cases hrefused
  split at h
  · cases h
    exact ⟨_, _, rfl⟩
  · split at h <;> cases h

end Store

namespace Exchange

/-- Storing a token on a usable URL fails with a report of the store, or because a domain cannot be
asked. -/
theorem storeAs_error {save : Saver σ} {serverUrl : String} {url : ServerUrl}
    (hurl : ServerUrl.parse serverUrl = .ok url) {credential : Credential} {store store' : Store}
    {world world' : σ} {fault : Fault}
    (h : storeAs save .system serverUrl credential store world = (.error fault, store', world')) :
    fault.IsStorage ∨ ∃ cause, fault = .kind cause ∧ ¬ store.Readable := by
  rw [storeAs] at h
  split at h
  case h_1 error _ _ hlocate =>
    simp only [Prod.mk.injEq, Except.error.injEq] at h
    obtain ⟨rfl, -⟩ := h
    rcases Store.perform_cases hlocate with ⟨_, hwrite, heq, -⟩ | ⟨_, -, heq, -⟩ |
      ⟨_, domain, _, failure, -, -, heq, -⟩ | ⟨_, _, _, -, -, heq, -⟩
    · cases heq
      exact Store.getOrCreateDomain_error hurl hwrite
    · cases heq
    · cases heq
      exact .inl (failure.isStorage_storeError domain)
    · cases heq
  case h_2 domain _ _ _ =>
    split at h
    case h_1 error _ _ hadd =>
      simp only [Prod.mk.injEq, Except.error.injEq] at h
      obtain ⟨rfl, -⟩ := h
      rcases Store.perform_cases hadd with ⟨_, hwrite, heq, -⟩ | ⟨_, -, heq, -⟩ |
        ⟨_, domain, _, failure, -, -, heq, -⟩ | ⟨_, _, _, -, -, heq, -⟩
      · cases heq
        exact .inl (Store.addCredential_error hwrite)
      · cases heq
      · cases heq
        exact .inl (failure.isStorage_storeError domain)
      · cases heq
    case h_2 => cases h
    case h_3 =>
      simp only [Prod.mk.injEq, Except.error.injEq] at h
      obtain ⟨rfl, -⟩ := h
      exact .inl ⟨_, _, rfl⟩

/-- A report of the store is an outcome. -/
theorem storedOutcome_error {id url : String} {result : Except Fault Domain} {fault : Fault}
    (h : storedOutcome id url result = .error fault) :
    result = .error fault ∧ ¬ fault.IsStorage := by
  unfold storedOutcome at h
  split at h
  · cases h
  · cases h
  · rename_i other hother
    cases h
    refine ⟨rfl, ?_⟩
    rintro ⟨message, domain, rfl⟩
    exact hother message domain rfl

/-! ### Making a token -/

section

variable {exchange : Exchange} {surroundings : Surroundings σ} {acl : AccessControl}
  {store store' : Store} {world world' : σ} {fault : Fault}

theorem mintAndSave_error (hissuer : surroundings.Reports) {request : TokenRequest}
    {complaint : String} (h : exchange.mintAndSave surroundings acl request complaint store world =
      (.error fault, store', world')) {url : ServerUrl}
    (hurl : ServerUrl.parse request.serverUrl = .ok url) :
    Blame store request.serverUrl fault ∨ exchange.expiry? surroundings.today = .error fault := by
  rw [mintAndSave] at h
  split at h
  case h_1 hexpiry =>
    simp only [Prod.mk.injEq, Except.error.injEq] at h
    obtain ⟨rfl, -⟩ := h
    exact .inr hexpiry
  case h_2 expires? _ =>
    split at h
    case h_1 token world₁ _ =>
      obtain ⟨id, world₂, stored, -, hstored, hresult⟩ := saveToken_cases h
      obtain ⟨rfl, hother⟩ := storedOutcome_error hresult.symm
      obtain hstorage | ⟨cause, rfl, hstore⟩ := storeAs_error hurl hstored
      · exact absurd hstorage hother
      · exact .inl (.store hstore)
    case h_2 => cases h
    case h_3 fault' world₁ hother hissue =>
      simp only [Prod.mk.injEq, Except.error.injEq] at h
      obtain ⟨rfl, -⟩ := h
      obtain ⟨message, status?, response?, rfl⟩ := hissuer _ _ fault' (by rw [hissue])
      exact absurd rfl (hother message status? response?)

/-! ### The operations -/

/-- Only a refused authority makes a fault of a URL. -/
theorem authority_of_refusedOutcome {error : UrlError}
    (h : refusedOutcome error.fault = .error fault) :
    ∃ cause, error = .authority cause ∧ fault = .value cause.message := by
  cases error with
  | authority cause =>
    cases h
    exact ⟨cause, rfl, rfl⟩
  | _ => cases h

theorem choices_error (hadmin : acl.has .administer = true)
    {serverUrl? selection? : Option String}
    (h : exchange.choices acl store serverUrl? selection? = .error fault) :
    Blame store (exchange.serverUrlOr serverUrl?) fault := by
  rw [choices] at h
  simp only [hadmin, Bool.not_true, Bool.false_eq_true, if_false] at h
  cases hurl : ServerUrl.parse (exchange.serverUrlOr serverUrl?) with
  | error error =>
    rw [requirementsOf, hurl] at h
    cases error with
    | authority cause =>
      cases h
      exact .authority hurl
    | _ => cases h
  | ok url =>
    rw [requirementsOf, hurl] at h
    obtain hchoices | ⟨found, -, hdone⟩ := Except.bind_eq_error_iff.1 h
    · obtain ⟨cause, rfl, hstore⟩ := loginChoices_error hchoices
      exact .store hstore
    · cases hdone

theorem byCredentials_error (hadmin : acl.has .administer = true)
    (hissuer : surroundings.Reports) {serverUrl? id? : Option String}
    (h : exchange.byCredentials surroundings acl serverUrl? id? store world =
      (.error fault, store', world')) :
    Blame store (exchange.serverUrlOr serverUrl?) fault ∨
      exchange.expiry? surroundings.today = .error fault := by
  have hcheck : acl.check .administer = .ok () := if_pos hadmin
  rw [byCredentials, hcheck] at h
  dsimp only at h
  split at h
  · cases h
  cases hurl : ServerUrl.parse (exchange.serverUrlOr serverUrl?) with
  | error error =>
    have hlookup : lookupLogin acl store (exchange.serverUrlOr serverUrl?)
        (.str (stripped (id?.getD ""))) = .error error.fault := by
      rw [lookupLogin, requirementsOf, hurl]
      rfl
    simp only [hlookup, Prod.mk.injEq] at h
    obtain ⟨cause, rfl, rfl⟩ := authority_of_refusedOutcome h.1
    exact .inl (.authority hurl)
  | ok url =>
    have hlookup : lookupLogin acl store (exchange.serverUrlOr serverUrl?)
        (.str (stripped (id?.getD ""))) = findLogin store url.requirements
          (.str (stripped (id?.getD ""))) (searched acl.caller) := by
      rw [lookupLogin, requirementsOf, hurl]
      rfl
    rw [hlookup] at h
    split at h
    case h_1 fault' hfind =>
      obtain ⟨cause, rfl, hstore⟩ := findLogin_error hfind
      simp only [Prod.mk.injEq] at h
      cases h.1
      exact .inl (.store hstore)
    case h_2 => cases h
    case h_3 login hfind =>
      have hkind := kind_of_findLogin hfind
      split at h
      · exact mintAndSave_error hissuer h hurl
      · rename_i secret hcontent
        rw [Credential.kind, hcontent] at hkind
        cases hkind

theorem byPassword_error (hadmin : acl.has .administer = true) (hissuer : surroundings.Reports)
    {serverUrl? username? password? : Option String}
    (h : exchange.byPassword surroundings acl serverUrl? username? password? store world =
      (.error fault, store', world')) :
    Blame store (exchange.serverUrlOr serverUrl?) fault ∨
      exchange.expiry? surroundings.today = .error fault := by
  have hcheck : acl.check .administer = .ok () := if_pos hadmin
  rw [byPassword, hcheck] at h
  dsimp only at h
  split at h
  · cases h
  split at h
  · rename_i error hurl
    simp only [Prod.mk.injEq] at h
    obtain ⟨cause, rfl, rfl⟩ := authority_of_refusedOutcome h.1
    exact .inl (.authority hurl)
  · rename_i url hurl
    exact mintAndSave_error hissuer h hurl

/-- Where no login is given an exchange says so. -/
theorem given_of_error (hadmin : acl.has .administer = true) {source : LoginSource}
    {serverUrl? : Option String}
    (h : (exchange.exchangeLogin surroundings acl source serverUrl? store world).1 =
      .error fault) : source.Given := by
  have hcheck : acl.check .administer = .ok () := if_pos hadmin
  cases source with
  | stored id? =>
    intro hblank
    rw [exchangeLogin, byCredentials, hcheck] at h
    simp only [hblank, String.isEmpty_iff, if_true] at h
    cases h
  | typed username? password? =>
    by_contra hblank
    have hempty : ((stripped (username?.getD "")).isEmpty || (password?.getD "").isEmpty) =
        true := by
      rw [LoginSource.Given, ← not_or, not_not] at hblank
      rwa [Bool.or_eq_true, String.isEmpty_iff, String.isEmpty_iff]
    rw [exchangeLogin, byPassword, hcheck] at h
    simp only [hempty, if_true] at h
    cases h

/-! ### Refused authorities -/

section

variable {serverUrl? : Option String} {cause : AuthorityError}
  (hadmin : acl.has .administer = true)
  (hurl : ServerUrl.parse (exchange.serverUrlOr serverUrl?) = .error (.authority cause))

include hadmin hurl

theorem choices_of_authority (selection? : Option String) :
    exchange.choices acl store serverUrl? selection? = .error (.value cause.message) := by
  have hrequirements : requirementsOf (exchange.serverUrlOr serverUrl?) =
      .error (.authority cause) := by
    rw [requirementsOf, hurl]
    rfl
  rw [choices]
  simp only [hadmin, hrequirements]
  rfl

theorem exchangeLogin_of_authority {source : LoginSource} (hgiven : source.Given) :
    exchange.exchangeLogin surroundings acl source serverUrl? store world =
      (.error (.value cause.message), store, world) := by
  have hcheck : acl.check .administer = .ok () := if_pos hadmin
  cases source with
  | stored id? =>
    have hid : (stripped (id?.getD "")).isEmpty = false := by
      rw [Bool.eq_false_iff, ne_eq, String.isEmpty_iff]
      exact hgiven
    have hlookup : lookupLogin acl store (exchange.serverUrlOr serverUrl?)
        (.str (stripped (id?.getD ""))) = .error (.value cause.message) := by
      rw [lookupLogin, requirementsOf, hurl]
      rfl
    rw [exchangeLogin, byCredentials, hcheck]
    simp only [hid, Bool.false_eq_true, if_false, hlookup]
    rfl
  | typed username? password? =>
    have hlogin : ((stripped (username?.getD "")).isEmpty || (password?.getD "").isEmpty) =
        false := by
      rw [Bool.or_eq_false_iff, Bool.eq_false_iff, Bool.eq_false_iff, ne_eq, ne_eq,
        String.isEmpty_iff, String.isEmpty_iff]
      exact hgiven
    rw [exchangeLogin, byPassword, hcheck]
    simp only [hlogin, Bool.false_eq_true, if_false, hurl]
    rfl

end

end

/-- **What an administrator may be faulted with.** With an issuer that makes tokens or reports that
it cannot, a fault of the list of logins or of an exchange is to be blamed on a refused authority or
on a store with values of the wrong kind, except that an exchange may also find that its token would
expire outside the calendar. A refused authority is a fault of the list, and of exactly those
exchanges for which a login is given. -/
theorem administer_faults (exchange : Exchange) {surroundings : Surroundings σ}
    (hissuer : surroundings.Reports) {acl : AccessControl} (hadmin : acl.has .administer = true)
    (store : Store) (world : σ) (serverUrl? : Option String) :
    let url := exchange.serverUrlOr serverUrl?
    (∀ selection? fault, exchange.choices acl store serverUrl? selection? = .error fault →
      Blame store url fault) ∧
    (∀ source fault, (exchange.exchangeLogin surroundings acl source serverUrl? store world).1 =
      .error fault → source.Given ∧
        (Blame store url fault ∨ exchange.expiry? surroundings.today = .error fault)) ∧
    ∀ cause, ServerUrl.parse url = .error (.authority cause) →
      (∀ selection?, exchange.choices acl store serverUrl? selection? =
        .error (.value cause.message)) ∧
      ∀ source : LoginSource, source.Given →
        exchange.exchangeLogin surroundings acl source serverUrl? store world =
          (.error (.value cause.message), store, world) := by
  intro url
  refine ⟨fun selection? fault h ↦ choices_error hadmin h, fun source fault h ↦ ?_,
    fun cause hurl ↦ ⟨choices_of_authority hadmin hurl,
      fun source hgiven ↦ exchangeLogin_of_authority hadmin hurl hgiven⟩⟩
  refine ⟨given_of_error hadmin h, ?_⟩
  obtain ⟨result, store', world', hrun⟩ : ∃ result store' world',
      exchange.exchangeLogin surroundings acl source serverUrl? store world =
        (result, store', world') := ⟨_, _, _, rfl⟩
  rw [hrun] at h
  subst h
  cases source with
  | stored id? => exact byCredentials_error hadmin hissuer hrun
  | typed username? password? => exact byPassword_error hadmin hissuer hrun

/-- The bracket of an IPv6 address is left open. -/
theorem administer_faults_bracket :
    let surroundings := Surroundings.steady "id" (.str "t")
    let acl := AccessControl.start (.administrator "root")
    surroundings.Reports ∧ acl.has .administer = true ∧
      exchangeLogin {} surroundings acl (.typed (some "u") (some "p")) (some "https://[::1")
        .empty () = (.error (.value "Invalid IPv6 URL"), .empty, ()) := by
  intro surroundings acl
  have hissuer : surroundings.Reports := Surroundings.reports_steady "id" (.str "t")
  have hadmin : acl.has .administer = true := by decide
  have hurl : ServerUrl.parse (serverUrlOr {} (some "https://[::1")) =
      .error (.authority .unbalancedBrackets) := by
    decide +kernel
  have hgiven : (LoginSource.typed (some "u") (some "p")).Given := by
    constructor <;> decide +kernel
  exact ⟨hissuer, hadmin,
    ((administer_faults {} hissuer hadmin .empty () (some "https://[::1")).2.2 _ hurl).2 _ hgiven⟩

/-- **Not every operation of an administrator ends with an outcome**, even on an empty store. -/
theorem administer_ends_in_fault :
    ¬ ∀ (exchange : Exchange) (surroundings : Surroundings Unit) (acl : AccessControl)
      (store : Store) (serverUrl? selection? : Option String) (source : LoginSource),
      surroundings.Reports → acl.has .administer = true → store.Readable →
        (∃ list, exchange.choices acl store serverUrl? selection? = .ok list) ∧
        ∃ outcome, (exchange.exchangeLogin surroundings acl source serverUrl? store ()).1 =
          .ok outcome := by
  intro h
  obtain ⟨⟨list, hlist⟩, -⟩ := h {} (.steady "id" (.str "t")) (.start (.administrator "root"))
    .empty (some "https://[::1") none (.stored none) (Surroundings.reports_steady _ _)
    (by decide) Store.readable_empty
  have hfault : choices {} (.start (.administrator "root")) .empty (some "https://[::1") none =
      .error (.value "Invalid IPv6 URL") := by
    decide +kernel
  rw [hfault] at hlist
  cases hlist

end Exchange

end TokenBroker
