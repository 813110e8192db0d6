import TokenBroker.Proofs.Exchange.Outcome

/-!
# The calls of an exchange

What an exchange asks the issuer for. `Surroundings.Records` says that a part of the state of the
surroundings is a record of the calls: it grows with every token that is asked for, and nothing else
changes it. An exchange of a stored login that is found asks for one token, with the name and the
password that are stored (`Records.byCredentials_of_login`), however the issuer answers and whatever
becomes of the answer. It asks for nothing if the day on which the token is to expire is none that
there is, or without a login to be found (`byCredentials_of_none`).
-/

namespace TokenBroker

variable {σ α : Type}

/-- A part of the state is a record of the calls of the issuer. -/
structure Surroundings.Records (surroundings : Surroundings σ) (calls : σ → List IssuerCall) :
    Prop where
  save : ∀ store world, calls (surroundings.save store world).2 = calls world
  freshId : ∀ world, calls (surroundings.freshId world).2 = calls world
  issue : ∀ request world, calls (surroundings.issue request world).2 =
    calls world ++ [⟨request, (surroundings.issue request world).1⟩]

namespace Exchange

/-- The calls of the issuer for a request, which still lacks its day of expiry: one, if there is
such a day. -/
def callsFor (exchange : Exchange) (today : Date) (answer : TokenRequest → Except Fault Json)
    (request : TokenRequest) : List IssuerCall :=
  match exchange.expiry? today with
  | .ok expires? =>
    let request := { request with expires? := expires? }
    [⟨request, answer request⟩]
  | .error _ => []

theorem callsFor_of_ok {exchange : Exchange} {today : Date} {expires? : Option Date}
    (h : exchange.expiry? today = .ok expires?) (answer : TokenRequest → Except Fault Json)
    (request : TokenRequest) : exchange.callsFor today answer request =
      [⟨{ request with expires? := expires? }, answer { request with expires? := expires? }⟩] := by
  rw [callsFor, h]

theorem callsFor_of_error {exchange : Exchange} {today : Date} {fault : Fault}
    (h : exchange.expiry? today = .error fault) (answer : TokenRequest → Except Fault Json)
    (request : TokenRequest) : exchange.callsFor today answer request = [] := by
  rw [callsFor, h]

end Exchange

namespace Surroundings.Records

variable {surroundings : Surroundings σ} {calls : σ → List IssuerCall} {store store' : Store}
  {world world' : σ}

/-! ### Storing asks for nothing -/

theorem perform (h : surroundings.Records calls)
    {write : Store → Except StoreError (Proposal α)} {result : Except StoreError α}
    (hrun : Store.perform surroundings.save write store world = (result, store', world')) :
    calls world' = calls world := by
  have hsaved : ∀ {next : Store} {saved : Except SaveFailure Unit},
      surroundings.save next world = (saved, world') → calls world' = calls world := by
    intro next saved hsave
    have hkept := h.save next world
    rwa [hsave] at hkept
  rcases Store.perform_cases hrun with ⟨_, -, -, -, rfl⟩ | ⟨_, -, -, -, rfl⟩ |
    ⟨_, _, _, _, -, hsave, -⟩ | ⟨_, _, _, -, hsave, -⟩
  · rfl
  · rfl
  · exact hsaved hsave
  · exact hsaved hsave

theorem storeAs (h : surroundings.Records calls) {who : Authentication} {serverUrl : String}
    {credential : Credential} {result : Except Fault Domain}
    (hrun : Exchange.storeAs surroundings.save who serverUrl credential store world =
      (result, store', world')) : calls world' = calls world := by
  rw [Exchange.storeAs] at hrun
  split at hrun
  case h_1 hlocate =>
    obtain ⟨-, -, rfl⟩ := hrun
    exact h.perform hlocate
  case h_2 hlocate =>
    split at hrun
    all_goals
      rename_i hadd
      obtain ⟨-, -, rfl⟩ := hrun
      exact (h.perform hadd).trans (h.perform hlocate)

theorem saveToken (h : surroundings.Records calls) {exchange : Exchange} {acl : AccessControl}
    {url : String} {token username : Json} {result : Except Fault Outcome}
    (hrun : exchange.saveToken surroundings acl url token username store world =
      (result, store', world')) : calls world' = calls world := by
  obtain ⟨id, world₁, stored, hid, hstored, -⟩ := Exchange.saveToken_cases hrun
  have hkept := h.freshId world
  rw [hid] at hkept
  exact (h.storeAs hstored).trans hkept

/-! ### Making a token -/

/-- **Making a token is one call**, with the day of expiry added to the request. -/
theorem mintAndSave (h : surroundings.Records calls) {exchange : Exchange} {acl : AccessControl}
    {request : TokenRequest} {complaint : String} {result : Except Fault Outcome}
    (hrun : exchange.mintAndSave surroundings acl request complaint store world =
      (result, store', world')) :
    calls world' = calls world ++ exchange.callsFor surroundings.today
      (fun request ↦ (surroundings.issue request world).1) request := by
  rw [Exchange.mintAndSave] at hrun
  cases hexpiry : exchange.expiry? surroundings.today with
  | error fault =>
    rw [hexpiry] at hrun
    obtain ⟨-, -, rfl⟩ := hrun
    rw [Exchange.callsFor_of_error hexpiry, List.append_nil]
  | ok expires? =>
    rw [hexpiry] at hrun
    dsimp only at hrun
    rw [Exchange.callsFor_of_ok hexpiry, ← h.issue]
    -- a token is stored; a report becomes an outcome, and any other fault stays one
    split at hrun
    all_goals
      rename_i hissue
      rw [hissue]
    · exact h.saveToken hrun
    · obtain ⟨-, -, rfl⟩ := hrun
      rfl
    · obtain ⟨-, -, rfl⟩ := hrun
      rfl

/-! ### Exchanging a stored login -/

/-- **A stored login is exchanged with what is stored**: the issuer is asked for one token for its
name and its password. -/
theorem byCredentials_of_login (h : surroundings.Records calls) {exchange : Exchange}
    {acl : AccessControl} (hadmin : acl.has .administer = true) {serverUrl? id? : Option String}
    (hid : stripped (id?.getD "") ≠ "") {login : Credential}
    (hlookup : Exchange.lookupLogin acl store (exchange.serverUrlOr serverUrl?)
      (.str (stripped (id?.getD ""))) = .ok (some login)) {username password : Json}
    (hcontent : login.content = .login username password) (world : σ) :
    calls (exchange.byCredentials surroundings acl serverUrl? id? store world).2.2 =
      calls world ++ exchange.callsFor surroundings.today
        (fun request ↦ (surroundings.issue request world).1)
        { username := username, password := password, serverUrl := exchange.serverUrlOr serverUrl?
          tokenName := exchange.tokenName } := by
  have hcheck : acl.check .administer = .ok () := if_pos hadmin
  have hgiven : (stripped (id?.getD "")).isEmpty = false := by simpa using hid
  rw [Exchange.byCredentials, hcheck]
  simp only [hgiven, hlookup, hcontent, Bool.false_eq_true, if_false]
  exact h.mintAndSave rfl

end Surroundings.Records

namespace Exchange

variable {exchange : Exchange} {surroundings : Surroundings σ} {acl : AccessControl} {store : Store}
  {serverUrl? id? : Option String}

/-- A usable URL is passed on without the blanks at its ends. -/
theorem serverUrlOr_of_parse (exchange : Exchange) {serverUrl : String} {url : ServerUrl}
    (h : ServerUrl.parse serverUrl = .ok url) :
    exchange.serverUrlOr (some serverUrl) = stripped serverUrl := by
  rw [serverUrlOr, ServerUrl.blank_eq_false_of_parse h]
  rfl

/-- Without an id, or without a login that has it, an exchange ends before it has begun. -/
theorem byCredentials_of_none (hadmin : acl.has .administer = true)
    (h : stripped (id?.getD "") = "" ∨ lookupLogin acl store (exchange.serverUrlOr serverUrl?)
      (.str (stripped (id?.getD ""))) = .ok none) (surroundings : Surroundings σ) (world : σ) :
    ∃ message, exchange.byCredentials surroundings acl serverUrl? id? store world =
      (.ok (.error message), store, world) := by
  have hcheck : acl.check .administer = .ok () := if_pos hadmin
  rw [byCredentials, hcheck]
  dsimp only
  split
  · exact ⟨_, rfl⟩
  · rename_i hid
    rcases h with hempty | hnone
    · rw [hempty] at hid
      exact absurd rfl hid
    · rw [hnone]
      exact ⟨_, rfl⟩

end Exchange

end TokenBroker
