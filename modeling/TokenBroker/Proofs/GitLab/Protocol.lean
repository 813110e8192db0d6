import TokenBroker.Proofs.GitLab.Session
import TokenBroker.Proofs.Text.Split

/-!
# The order of requests

Which requests are sent, and why each of them is. `Protocol` is the language of the turns of a
conversation: it tells of every turn what is asked in it and which replies before it have led there.
A stage ends early where a reply stops it or where the client cannot prepare the next request. After
a sign-in that has succeeded the last request signs out, unless there is no address for that.
-/

namespace TokenBroker

/-! ### Kinds of requests -/

/-- The names of the fields of the form. -/
def HttpRequest.fieldNames (request : HttpRequest) : List String :=
  request.form.map Prod.fst

/-- The values of the fields of a name. -/
def HttpRequest.fieldValues (request : HttpRequest) (name : String) : List String :=
  (request.form.filter (·.1 == name)).map Prod.snd

/-- Whether the token form is sent: its fields name the token. -/
def HttpRequest.sendsTokenForm (request : HttpRequest) : Bool :=
  request.fieldNames.contains "personal_access_token[name]"

/-- Whether the form signs out: it has the token against forged requests and nothing else. -/
def HttpRequest.signsOut (request : HttpRequest) : Bool :=
  request.fieldNames == ["authenticity_token"]

namespace Issuer

variable {client : HttpClient} {server : HttpServer} {site : RequestUrl} {request : TokenRequest}

/-! ### What a reply leads to -/

/-- The turn was answered by a page with a token against forged requests. -/
def Turn.Hands (client : HttpClient) (turn : Turn) (csrf : String) : Prop :=
  ∃ page, turn.outcome client = .ok page ∧ page.status = 200 ∧
    client.csrfToken? page = .ok (some csrf)

/-- The turn was answered by a redirect whose location does not hold the path of the sign-in
page. -/
def Turn.LetsIn (client : HttpClient) (turn : Turn) : Prop :=
  ∃ answer, turn.outcome client = .ok answer ∧ 300 ≤ answer.status ∧ answer.status ≤ 399 ∧
    ¬ signInPath.toList <:+: ((answer.header? "location").getD "").toList

/-- The turn was answered by a redirect with a location. -/
def Turn.Names (client : HttpClient) (turn : Turn) (location : String) : Prop :=
  ∃ answer, turn.outcome client = .ok answer ∧ 300 ≤ answer.status ∧ answer.status ≤ 399 ∧
    answer.header? "location" = some location

/-- The turn was answered by a redirect with a location that leads to an address. -/
def Turn.LeadsTo (client : HttpClient) (site : RequestUrl) (turn : Turn) (address : RequestUrl) :
    Prop :=
  ∃ location, turn.Names client location ∧ client.locate site location = .ok address

/-! ### The language of turns -/

/-- The token form is sent to the address of the page that it is on, if that has a token which the
client can put into a header, and what the answer leads to is asked for once. -/
inductive FormTurns (client : HttpClient) (site : RequestUrl) (request : TokenRequest)
    (address : RequestUrl) (page : Turn) : List Turn → Prop
  | unmarked (hpage : ∀ csrf, ¬ page.Hands client csrf) :
      FormTurns client site request address page []
  | unsendable {csrf : String} {header : String × String} {cause : ClientError}
      (hpage : page.Hands client csrf) (hheader : header ∈ tokenFormHeaders csrf)
      (hcheck : client.checkHeader header = .error cause) :
      FormTurns client site request address page []
  | sent {csrf : String} {form : Turn} (hpage : page.Hands client csrf)
      (hform : form.request = postRequest (tokenForm csrf request) (tokenFormHeaders csrf) address)
      (hends : ∀ next, ¬ form.LeadsTo client site next) :
      FormTurns client site request address page [form]
  | followed {csrf : String} {form final : Turn} {next : RequestUrl}
      (hpage : page.Hands client csrf)
      (hform : form.request = postRequest (tokenForm csrf request) (tokenFormHeaders csrf) address)
      (hleads : form.LeadsTo client site next) (hfinal : final.request = getRequest next) :
      FormTurns client site request address page [form, final]

/-- Pages are opened in the order of their paths up to the first one that is there. -/
inductive TokenTurns (client : HttpClient) (site : RequestUrl) (request : TokenRequest) :
    List String → List Turn → Prop
  | exhausted : TokenTurns client site request [] []
  | nowhere {path : String} {rest : List String} {cause : ClientError}
      (haddress : client.locate site path = .error cause) :
      TokenTurns client site request (path :: rest) []
  | unanswered {path : String} {rest : List String} {page : Turn} {address : RequestUrl}
      {cause : ClientError} (haddress : client.locate site path = .ok address)
      (hpage : page.request = getRequest address) (herror : page.outcome client = .error cause) :
      TokenTurns client site request (path :: rest) [page]
  | missing {path : String} {rest : List String} {page : Turn} {later : List Turn}
      {address : RequestUrl} {answer : HttpResponse}
      (haddress : client.locate site path = .ok address) (hpage : page.request = getRequest address)
      (hanswer : page.outcome client = .ok answer) (hstatus : answer.status ≠ 200)
      (hlater : TokenTurns client site request rest later) :
      TokenTurns client site request (path :: rest) (page :: later)
  | found {path : String} {rest : List String} {page : Turn} {later : List Turn}
      {address : RequestUrl} {answer : HttpResponse}
      (haddress : client.locate site path = .ok address) (hpage : page.request = getRequest address)
      (hanswer : page.outcome client = .ok answer) (hstatus : answer.status = 200)
      (hform : FormTurns client site request address page later) :
      TokenTurns client site request (path :: rest) (page :: later)

/-- Signing out takes one turn, unless there is no address for that. -/
inductive OutTurns (client : HttpClient) (site : RequestUrl) (csrf : String) : List Turn → Prop
  | nowhere {cause : ClientError} (haddress : client.locate site signOutPath = .error cause) :
      OutTurns client site csrf []
  | out {turn : Turn} {address : RequestUrl}
      (haddress : client.locate site signOutPath = .ok address)
      (hrequest : turn.request = postRequest (signOutForm csrf) [] address) :
      OutTurns client site csrf [turn]

/-- The sign-in page is opened, the form on it is sent if it has a token, and if that lets in the
token is made; then the last request signs out, with the token of the sign-in page. Nothing is sent
where the sign-in page has no address. -/
inductive Protocol (client : HttpClient) (site : RequestUrl) (request : TokenRequest) :
    List Turn → Prop
  | nowhere {cause : ClientError} (haddress : client.locate site signInPath = .error cause) :
      Protocol client site request []
  | unmarked {page : Turn} {address : RequestUrl}
      (haddress : client.locate site signInPath = .ok address)
      (hpage : page.request = getRequest address) (hhands : ∀ csrf, ¬ page.Hands client csrf) :
      Protocol client site request [page]
  | refused {page login : Turn} {address : RequestUrl} {csrf : String}
      (haddress : client.locate site signInPath = .ok address)
      (hpage : page.request = getRequest address) (hhands : page.Hands client csrf)
      (hlogin : login.request =
        postRequest (signInForm csrf request.username request.password) [] address)
      (hrefused : ¬ login.LetsIn client) : Protocol client site request [page, login]
  | signedIn {page login : Turn} {inner last : List Turn} {address : RequestUrl} {csrf : String}
      (haddress : client.locate site signInPath = .ok address)
      (hpage : page.request = getRequest address) (hhands : page.Hands client csrf)
      (hlogin : login.request =
        postRequest (signInForm csrf request.username request.password) [] address)
      (hletsIn : login.LetsIn client)
      (hinner : TokenTurns client site request tokenPagePaths inner)
      (hlast : OutTurns client site csrf last) :
      Protocol client site request (page :: login :: (inner ++ last))

/-! ### Conversations speak it -/

theorem Turn.hands_iff {turn : Turn} {page : HttpResponse} (h : turn.outcome client = .ok page)
    {csrf : String} :
    turn.Hands client csrf ↔ page.status = 200 ∧ client.csrfToken? page = .ok (some csrf) := by
  simp [Turn.Hands, h]

theorem Turn.letsIn_iff {turn : Turn} {answer : HttpResponse}
    (h : turn.outcome client = .ok answer) :
    turn.LetsIn client ↔ Issuer.signedIn answer = true := by
  simp [Turn.LetsIn, Issuer.signedIn, h, HttpResponse.isRedirect, ← Text.occursIn_eq_true_iff,
    and_assoc]

theorem Turn.names_iff {turn : Turn} {answer : HttpResponse}
    (h : turn.outcome client = .ok answer) {location : String} :
    turn.Names client location ↔
      answer.isRedirect = true ∧ answer.header? "location" = some location := by
  simp [Turn.Names, h, HttpResponse.isRedirect, and_assoc]

theorem Turn.leadsTo_iff {turn : Turn} {answer : HttpResponse}
    (h : turn.outcome client = .ok answer) {address : RequestUrl} :
    turn.LeadsTo client site address ↔ answer.isRedirect = true ∧
      ∃ location, answer.header? "location" = some location ∧
        client.locate site location = .ok address := by
  simp [Turn.LeadsTo, Turn.names_iff h, and_assoc]

/-- A turn without an answer hands out nothing, lets nobody in and leads nowhere. -/
theorem Turn.of_error {turn : Turn} {cause : ClientError} (h : turn.outcome client = .error cause) :
    (∀ csrf, ¬ turn.Hands client csrf) ∧ ¬ turn.LetsIn client ∧
      ∀ address, ¬ turn.LeadsTo client site address := by
  simp [Turn.Hands, Turn.LetsIn, Turn.LeadsTo, Turn.Names, h]

/-- A request with headers can be prepared where there is an address, unless a header is refused. -/
theorem prepare_cases {reference : String} {address : RequestUrl}
    (haddress : client.locate site reference = .ok address) (headers : List (String × String)) :
    client.prepare site reference headers = .ok address ∨
      ∃ header ∈ headers, ∃ cause, client.checkHeader header = .error cause ∧
        client.prepare site reference headers = .error cause := by
  have hchecked : headers.forM client.checkHeader = .ok () ∨
      ∃ header ∈ headers, ∃ cause, client.checkHeader header = .error cause ∧
        headers.forM client.checkHeader = .error cause := by
    induction headers with
    | nil => exact .inl rfl
    | cons header rest ih =>
      simp only [List.forM_eq_forM, List.forM_cons] at ih ⊢
      cases hheader : client.checkHeader header with
      | error cause => exact .inr ⟨header, List.mem_cons_self, cause, hheader, rfl⟩
      | ok =>
        refine ih.imp_right ?_
        rintro ⟨header, hmem, cause, hcheck, hstop⟩
        exact ⟨header, List.mem_cons_of_mem _ hmem, cause, hcheck, hstop⟩
  simp only [HttpClient.prepare, haddress]
  obtain hchecked | ⟨header, hmem, cause, hcheck, hstop⟩ := hchecked
  · refine .inl ?_
    change (headers.forM client.checkHeader >>= fun _ ↦ pure address) = _
    rw [hchecked]
    rfl
  · refine .inr ⟨header, hmem, cause, hcheck, ?_⟩
    change (headers.forM client.checkHeader >>= fun _ ↦ pure address) = _
    rw [hstop]
    rfl

/-- What is asked for at an address takes a turn, unless a header is refused. -/
theorem Asked.turn_or_refused {reference : String} {headers : List (String × String)}
    {ask : RequestUrl → HttpRequest} {turns : List Turn}
    {result : Except ClientError HttpResponse} {address : RequestUrl}
    (h : Asked client site reference headers ask turns result)
    (haddress : client.locate site reference = .ok address) :
    (∃ turn, turns = [turn] ∧ turn.request = ask address ∧ turn.outcome client = result) ∨
      ∃ header ∈ headers, ∃ cause, client.checkHeader header = .error cause ∧
        turns = [] ∧ result = .error cause := by
  obtain hready | ⟨header, hmem, cause, hcheck, hstop⟩ := prepare_cases haddress headers
  · cases h with
    | unprepared hprepare => rw [hready] at hprepare; cases hprepare
    | @turn turn _ _ hprepare hrequest hresult =>
      rw [hready] at hprepare
      cases hprepare
      exact .inl ⟨turn, rfl, hrequest, hresult⟩
  · cases h with
    | unprepared hprepare =>
      rw [hstop] at hprepare
      cases hprepare
      exact .inr ⟨header, hmem, _, hcheck, rfl, rfl⟩
    | turn hprepare => rw [hstop] at hprepare; cases hprepare

/-- Without headers of its own a request takes a turn. -/
theorem Asked.exists_turn {reference : String} {ask : RequestUrl → HttpRequest} {turns : List Turn}
    {result : Except ClientError HttpResponse} {address : RequestUrl}
    (h : Asked client site reference [] ask turns result)
    (haddress : client.locate site reference = .ok address) :
    ∃ turn, turns = [turn] ∧ turn.request = ask address ∧ turn.outcome client = result := by
  refine (h.turn_or_refused haddress).resolve_right ?_
  rintro ⟨header, hmem, -⟩
  cases hmem

/-- Where there is no address there is no turn. -/
theorem Asked.of_nowhere {reference : String} {headers : List (String × String)}
    {ask : RequestUrl → HttpRequest} {turns : List Turn}
    {result : Except ClientError HttpResponse} {cause : ClientError}
    (h : Asked client site reference headers ask turns result)
    (haddress : client.locate site reference = .error cause) :
    turns = [] ∧ result = .error cause := by
  have hnone : client.prepare site reference headers = .error cause := by
    rw [HttpClient.prepare, haddress]
    rfl
  cases h with
  | unprepared hprepare =>
    rw [hnone] at hprepare
    cases hprepare
    exact ⟨rfl, rfl⟩
  | turn hprepare => rw [hnone] at hprepare; cases hprepare

theorem Asked.exists_locate {reference : String} {headers : List (String × String)}
    {ask : RequestUrl → HttpRequest} {turns : List Turn} {answer : HttpResponse}
    (h : Asked client site reference headers ask turns (.ok answer)) :
    ∃ address, client.locate site reference = .ok address := by
  cases haddress : client.locate site reference with
  | error cause => cases (h.of_nowhere haddress).2
  | ok address => exact ⟨address, rfl⟩

theorem Followed.formTurns {answer : HttpResponse} {last : List Turn}
    {result : Except IssueError HttpResponse} {address : RequestUrl} {csrf : String}
    {page form : Turn} (h : Followed client site answer last result)
    (hpage : page.Hands client csrf)
    (hform : form.request = postRequest (tokenForm csrf request) (tokenFormHeaders csrf) address)
    (hanswer : form.outcome client = .ok answer) :
    FormTurns client site request address page (form :: last) := by
  cases h with
  | direct hdirect =>
    refine .sent hpage hform fun next hleads ↦ ?_
    rw [((Turn.leadsTo_iff hanswer).1 hleads).1] at hdirect
    cases hdirect
  | lost _ hlocation =>
    refine .sent hpage hform fun next hleads ↦ ?_
    obtain ⟨-, location, hsome, -⟩ := (Turn.leadsTo_iff hanswer).1 hleads
    rw [hsome] at hlocation
    cases hlocation
  | @led location _ _ hleads hlocation hnext =>
    cases haddress : client.locate site location with
    | error cause =>
      rw [(hnext.of_nowhere haddress).1]
      refine .sent hpage hform fun next hleads ↦ ?_
      obtain ⟨-, location', hsome, haddress'⟩ := (Turn.leadsTo_iff hanswer).1 hleads
      rw [hlocation] at hsome
      cases hsome
      rw [haddress] at haddress'
      cases haddress'
    | ok next =>
      obtain ⟨final, rfl, hrequest, -⟩ := hnext.exists_turn haddress
      exact .followed hpage hform
        ((Turn.leadsTo_iff hanswer).2 ⟨hleads, location, hlocation, haddress⟩) hrequest

/-- A search for the page goes over to the form, if there is a page. -/
theorem PageSearch.tokenTurns {status? : Option Int} {paths : List String} {turns later : List Turn}
    {result : Except IssueError (String × HttpResponse)}
    (h : PageSearch client site status? paths turns result)
    (hstop : ∀ error, result = .error error → later = [])
    (hform : ∀ path page turn address, result = .ok (path, page) → page.status = 200 →
      turn.outcome client = .ok page → client.locate site path = .ok address →
        FormTurns client site request address turn later) :
    TokenTurns client site request paths (turns ++ later) := by
  -- what comes later hangs on the page that the search ends with, if it finds one
  induction h with
  | exhausted =>
    rw [hstop _ rfl]
    exact .exhausted
  | @unanswered _ path _ _ cause hpage =>
    rw [hstop _ rfl]
    cases haddress : client.locate site path with
    | error cause =>
      rw [(hpage.of_nowhere haddress).1]
      exact .nowhere haddress
    | ok address =>
      obtain ⟨turn, rfl, hrequest, hresult⟩ := hpage.exists_turn haddress
      exact .unanswered haddress hrequest hresult
  | @found _ path _ _ page hpage hstatus =>
    obtain ⟨address, haddress⟩ := hpage.exists_locate
    obtain ⟨turn, rfl, hrequest, hresult⟩ := hpage.exists_turn haddress
    exact .found haddress hrequest hresult hstatus
      (hform path page turn address rfl hstatus hresult haddress)
  | @missing _ path _ _ _ page _ hpage hstatus _ ih =>
    obtain ⟨address, haddress⟩ := hpage.exists_locate
    obtain ⟨turn, rfl, hrequest, hresult⟩ := hpage.exists_turn haddress
    exact .missing haddress hrequest hresult hstatus (ih hstop hform)

/-- A page whose token cannot be read, or that has none, hands out nothing. -/
theorem Turn.not_hands {turn : Turn} {page : HttpResponse} (h : turn.outcome client = .ok page)
    (hcsrf : ∀ csrf, client.csrfToken? page ≠ .ok (some csrf)) (csrf : String) :
    ¬ turn.Hands client csrf :=
  fun hhands ↦ hcsrf csrf ((Turn.hands_iff h).1 hhands).2

theorem Creation.tokenTurns {turns : List Turn} {result : Except IssueError Json}
    (h : Creation client site request turns result) :
    TokenTurns client site request tokenPagePaths turns := by
  cases h with
  | unopened hsearch =>
    rw [← List.append_nil turns]
    exact hsearch.tokenTurns (fun _ _ ↦ rfl) fun _ _ _ _ h ↦ by cases h
  | unread hsearch hcsrf | unmarked hsearch hcsrf =>
    rw [← List.append_nil turns]
    refine hsearch.tokenTurns (fun _ _ ↦ rfl) ?_
    rintro _ page turn address ⟨⟩ hstatus hanswer haddress
    exact .unmarked (Turn.not_hands hanswer (by simp [hcsrf]))
  | undone hsearch hcsrf hform =>
    refine hsearch.tokenTurns (fun _ h ↦ by cases h) ?_
    rintro _ page turn address ⟨⟩ hstatus hanswer haddress
    have hhands := (Turn.hands_iff hanswer).2 ⟨hstatus, hcsrf⟩
    obtain ⟨form, rfl, hrequest, hresult⟩ | ⟨header, hheader, cause, hcheck, rfl, -⟩ :=
      hform.turn_or_refused haddress
    · exact .sent hhands hrequest (Turn.of_error hresult).2.2
    · exact .unsendable hhands hheader hcheck
  | unfollowed hsearch hcsrf hform hfollowed | done hsearch hcsrf hform hfollowed =>
    rw [List.append_assoc]
    refine hsearch.tokenTurns (fun _ h ↦ by cases h) ?_
    rintro _ page turn address ⟨⟩ hstatus hanswer haddress
    have hhands := (Turn.hands_iff hanswer).2 ⟨hstatus, hcsrf⟩
    obtain ⟨form, rfl, hrequest, hresult⟩ | ⟨header, -, cause, -, -, hnone⟩ :=
      hform.turn_or_refused haddress
    · exact hfollowed.formTurns hhands hrequest hresult
    · cases hnone

theorem SignOut.outTurns {csrf : String} {turns : List Turn} {ending : Except IssueError Unit}
    (h : SignOut client site csrf turns ending) : OutTurns client site csrf turns := by
  cases haddress : client.locate site signOutPath with
  | error cause =>
    cases h with
    | answered hout | unreachable hout | broken hout =>
      rw [(hout.of_nowhere haddress).1]
      exact .nowhere haddress
  | ok address =>
    cases h with
    | answered hout | unreachable hout | broken hout =>
      obtain ⟨turn, rfl, hrequest, -⟩ := hout.exists_turn haddress
      exact .out haddress hrequest

/-- What signing in comes to: one turn if the page has no token, and else two, of which the second
one lets in exactly if there is a result. -/
theorem SignIn.turns {username password : Json} {turns : List Turn}
    {result : Except IssueError String} {address : RequestUrl}
    (h : SignIn client site username password turns result)
    (haddress : client.locate site signInPath = .ok address) :
    (∃ page error, turns = [page] ∧ result = .error error ∧ page.request = getRequest address ∧
      ∀ csrf, ¬ page.Hands client csrf) ∨
    ∃ page login csrf, turns = [page, login] ∧ page.request = getRequest address ∧
      page.Hands client csrf ∧
      login.request = postRequest (signInForm csrf username password) [] address ∧
      (login.LetsIn client ∧ result = .ok csrf ∨
        ¬ login.LetsIn client ∧ ∃ error, result = .error error) := by
  cases h with
  | unanswered hpage =>
    obtain ⟨page, rfl, hrequest, hresult⟩ := hpage.exists_turn haddress
    exact .inl ⟨page, _, rfl, rfl, hrequest, (@Turn.of_error client site _ _ hresult).1⟩
  | missing hpage hstatus =>
    obtain ⟨page, rfl, hrequest, hresult⟩ := hpage.exists_turn haddress
    exact .inl ⟨page, _, rfl, rfl, hrequest, fun csrf hhands ↦
      hstatus ((Turn.hands_iff hresult).1 hhands).1⟩
  | unread hpage hstatus hcsrf | unmarked hpage hstatus hcsrf =>
    obtain ⟨page, rfl, hrequest, hresult⟩ := hpage.exists_turn haddress
    exact .inl ⟨page, _, rfl, rfl, hrequest, Turn.not_hands hresult (by simp [hcsrf])⟩
  | undone hpage hstatus hcsrf hlogin =>
    obtain ⟨page, rfl, hrequest, hresult⟩ := hpage.exists_turn haddress
    obtain ⟨login, rfl, hlogin, herror⟩ := hlogin.exists_turn haddress
    have hhands := (Turn.hands_iff hresult).2 ⟨hstatus, hcsrf⟩
    have hrefused := (@Turn.of_error client site _ _ herror).2.1
    exact .inr ⟨page, login, _, rfl, hrequest, hhands, hlogin, .inr ⟨hrefused, _, rfl⟩⟩
  | refused hpage hstatus hcsrf hlogin hrefused =>
    obtain ⟨page, rfl, hrequest, hresult⟩ := hpage.exists_turn haddress
    obtain ⟨login, rfl, hlogin, hanswer⟩ := hlogin.exists_turn haddress
    have hhands := (Turn.hands_iff hresult).2 ⟨hstatus, hcsrf⟩
    rw [← Bool.not_eq_true, ← Turn.letsIn_iff hanswer] at hrefused
    exact .inr ⟨page, login, _, rfl, hrequest, hhands, hlogin, .inr ⟨hrefused, _, rfl⟩⟩
  | done hpage hstatus hcsrf hlogin hdone =>
    obtain ⟨page, rfl, hrequest, hresult⟩ := hpage.exists_turn haddress
    obtain ⟨login, rfl, hlogin, hanswer⟩ := hlogin.exists_turn haddress
    have hhands := (Turn.hands_iff hresult).2 ⟨hstatus, hcsrf⟩
    have hletsIn := (Turn.letsIn_iff hanswer).2 hdone
    exact .inr ⟨page, login, _, rfl, hrequest, hhands, hlogin, .inl ⟨hletsIn, rfl⟩⟩

/-- **A session speaks the protocol.** -/
theorem Session.protocol {turns : List Turn} {result : Except IssueError Json}
    (h : Session client site request turns result) : Protocol client site request turns := by
  cases haddress : client.locate site signInPath with
  | error cause =>
    cases h with
    | stopped hsignIn =>
      cases hsignIn with
      | unanswered hpage =>
        rw [(hpage.of_nowhere haddress).1]
        exact .nowhere haddress
      | missing hpage | unread hpage | unmarked hpage | undone hpage | refused hpage =>
        cases (hpage.of_nowhere haddress).2
    | signedIn hsignIn =>
      cases hsignIn with
      | done hpage => cases (hpage.of_nowhere haddress).2
  | ok address =>
    cases h with
    | stopped hsignIn =>
      obtain ⟨page, _, rfl, -, hpage, hhands⟩ |
        ⟨page, login, csrf, rfl, hpage, hhands, hlogin, ⟨-, hresult⟩ | ⟨hrefused, -⟩⟩ :=
          hsignIn.turns haddress
      · exact .unmarked haddress hpage hhands
      · cases hresult
      · exact .refused haddress hpage hhands hlogin hrefused
    | signedIn hsignIn hcreation hsignOut =>
      obtain ⟨_, _, -, hresult, -⟩ |
        ⟨page, login, csrf, rfl, hpage, hhands, hlogin, ⟨hletsIn, hresult⟩ | ⟨-, _, hresult⟩⟩ :=
          hsignIn.turns haddress
      · cases hresult
      · cases hresult
        rw [List.cons_append, List.singleton_append]
        exact .signedIn haddress hpage hhands hlogin hletsIn hcreation.tokenTurns
          hsignOut.outTurns
      · cases hresult

/-! ### What the protocol rules out -/

@[simp] theorem fieldNames_getRequest (address : RequestUrl) :
    (getRequest address).fieldNames = [] := rfl

@[simp] theorem fieldNames_signOut (csrf : String) (address : RequestUrl) :
    (postRequest (signOutForm csrf) [] address).fieldNames = ["authenticity_token"] := rfl

@[simp] theorem fieldNames_tokenForm (csrf : String) (headers : List (String × String))
    (address : RequestUrl) :
    (postRequest (tokenForm csrf request) headers address).fieldNames =
      ["authenticity_token", "personal_access_token[name]", "personal_access_token[expires_at]"] ++
        request.scopes.map fun _ ↦ "personal_access_token[scopes][]" := by
  simp [HttpRequest.fieldNames, postRequest, tokenForm, Function.comp_def]

/-- A field has the same name for each of its values. -/
theorem map_fst_fieldsOf (name : String) (value : Json) :
    (fieldsOf name value).map Prod.fst = List.replicate (fieldsOf name value).length name := by
  refine List.eq_replicate_iff.2 ⟨List.length_map _, fun key hkey ↦ ?_⟩
  obtain ⟨field, hfield, rfl⟩ := List.mem_map.1 hkey
  cases value with
  | arr items =>
    obtain ⟨item, -, rfl⟩ := List.mem_map.1 hfield
    rfl
  | _ => rw [List.mem_singleton.1 hfield]

/-- The sign-in form has its own fields, whatever the login is. -/
@[simp] theorem fieldNames_signIn (csrf : String) (username password : Json)
    (address : RequestUrl) :
    (postRequest (signInForm csrf username password) [] address).fieldNames =
      "authenticity_token" ::
        (List.replicate (fieldsOf "user[login]" username).length "user[login]" ++
          (List.replicate (fieldsOf "user[password]" password).length "user[password]" ++
            ["user[remember_me]"])) := by
  simp [HttpRequest.fieldNames, postRequest, signInForm, map_fst_fieldsOf]

/-- The sign-in form has the login in it. -/
theorem fieldValues_signInForm (csrf : String) (username password : String)
    (address : RequestUrl) :
    let sent := postRequest (signInForm csrf (.str username) (.str password)) [] address
    sent.fieldValues "authenticity_token" = [csrf] ∧ sent.fieldValues "user[login]" = [username] ∧
      sent.fieldValues "user[password]" = [password] := by
  refine ⟨?_, ?_, ?_⟩ <;> rfl

/-- The token form has the token against forged requests in it, and all that is asked of the new
token. -/
theorem fieldValues_tokenForm (csrf : String) (headers : List (String × String))
    (address : RequestUrl) :
    let sent := postRequest (tokenForm csrf request) headers address
    sent.fieldValues "authenticity_token" = [csrf] ∧
      sent.fieldValues "personal_access_token[name]" = [request.tokenName] ∧
      sent.fieldValues "personal_access_token[expires_at]" =
        [(request.expires?.map Date.toIso).getD ""] ∧
      sent.fieldValues "personal_access_token[scopes][]" = request.scopes.map TokenScope.name := by
  have hall : request.scopes.filter (fun _ ↦ true) = request.scopes :=
    List.filter_eq_self.2 fun _ _ ↦ rfl
  simp [HttpRequest.fieldValues, postRequest, tokenForm, List.filter_map, Function.comp_def, hall]

theorem fieldValues_signOutForm (csrf : String) (address : RequestUrl) :
    (postRequest (signOutForm csrf) [] address).fieldValues "authenticity_token" = [csrf] := rfl

/-- The token form is sent once at most, and nothing that is sent for a token signs out. -/
theorem TokenTurns.countP {paths : List String} {turns : List Turn}
    (h : TokenTurns client site request paths turns) :
    (turns.countP fun turn ↦ turn.request.sendsTokenForm) ≤ 1 ∧
      (turns.countP fun turn ↦ turn.request.signsOut) = 0 := by
  induction h with
  | exhausted | nowhere => exact ⟨Nat.zero_le 1, rfl⟩
  | unanswered _ hpage => simp [hpage, HttpRequest.sendsTokenForm, HttpRequest.signsOut]
  | missing _ hpage _ _ _ ih =>
    simpa [hpage, HttpRequest.sendsTokenForm, HttpRequest.signsOut] using ih
  | found _ hpage _ _ hform =>
    cases hform with
    | unmarked | unsendable =>
      simp [hpage, HttpRequest.sendsTokenForm, HttpRequest.signsOut]
    | sent _ hform => simp [hpage, hform, HttpRequest.sendsTokenForm, HttpRequest.signsOut]
    | followed _ hform _ hfinal =>
      simp [hpage, hform, hfinal, HttpRequest.sendsTokenForm, HttpRequest.signsOut]

theorem OutTurns.countP {csrf : String} {turns : List Turn}
    (h : OutTurns client site csrf turns) :
    (turns.countP fun turn ↦ turn.request.sendsTokenForm) = 0 ∧
      (turns.countP fun turn ↦ turn.request.signsOut) ≤ 1 := by
  cases h with
  | nowhere => exact ⟨rfl, Nat.zero_le 1⟩
  | out _ hrequest => simp [hrequest, HttpRequest.sendsTokenForm, HttpRequest.signsOut]

theorem Protocol.countP {turns : List Turn} (h : Protocol client site request turns) :
    (turns.countP fun turn ↦ turn.request.sendsTokenForm) ≤ 1 ∧
      (turns.countP fun turn ↦ turn.request.signsOut) ≤ 1 := by
  cases h with
  | nowhere => exact ⟨Nat.zero_le 1, Nat.zero_le 1⟩
  | unmarked _ hpage => simp [hpage, HttpRequest.sendsTokenForm, HttpRequest.signsOut]
  | refused _ hpage _ hlogin =>
    simp [hpage, hlogin, HttpRequest.sendsTokenForm, HttpRequest.signsOut]
  | signedIn _ hpage _ hlogin hletsIn hinner hlast =>
    obtain ⟨hform, hsignOut⟩ := hinner.countP
    obtain ⟨hform', hsignOut'⟩ := hlast.countP
    simp only [List.countP_cons, List.countP_append, hsignOut, hform']
    simpa [hpage, hlogin, HttpRequest.sendsTokenForm, HttpRequest.signsOut]
      using And.intro hform hsignOut'

/-! ### The password -/

/-- Requests that are the same, except that the second one may be another. -/
def AlikeButSecond (requests requests' : List HttpRequest) : Prop :=
  requests.length = requests'.length ∧ ∀ place, place ≠ 1 → requests[place]? = requests'[place]?

theorem AlikeButSecond.refl (requests : List HttpRequest) : AlikeButSecond requests requests :=
  ⟨rfl, fun _ _ ↦ rfl⟩

theorem AlikeButSecond.append {requests requests' : List HttpRequest}
    (h : AlikeButSecond requests requests') (later : List HttpRequest) :
    AlikeButSecond (requests ++ later) (requests' ++ later) := by
  obtain ⟨hlength, hsame⟩ := h
  refine ⟨by rw [List.length_append, List.length_append, hlength], fun place hplace ↦ ?_⟩
  rw [List.getElem?_append, List.getElem?_append, hlength, hsame place hplace]

/-- A form is sent to the address of its page, and what becomes of the reply does not depend on what
is in the form. -/
theorem post_of_locate (server : HttpServer) {reference : String} {address : RequestUrl}
    (haddress : client.locate site reference = .ok address) (form : List (String × String))
    (sent : List HttpRequest) :
    post client server site reference form [] sent =
      ((receive client address (server sent.length)).mapError .client,
        sent ++ [postRequest form [] address]) := by
  have hprepare : client.prepare site reference [] = .ok address := by
    rw [prepare_nil, haddress]
  rw [post, hprepare]
  rfl

/-- Signing in with another password comes to the same, and only the form is another one. -/
theorem signIn_password (username password password' : Json) :
    ∃ result requests requests',
      signIn client server site username password [] = (result, requests) ∧
      signIn client server site username password' [] = (result, requests') ∧
        AlikeButSecond requests requests' := by
  -- the page is opened before the password is looked at
  obtain ⟨added, _, hpage, asked, hasked, rfl⟩ :=
    @follows_get client server site signInPath 0
  cases asked with
  | error cause =>
    exact ⟨.error (.client cause), added, added, bind_of_error (hpage [] rfl),
      bind_of_error (hpage [] rfl), .refl added⟩
  | ok page =>
    obtain ⟨address, haddress⟩ := hasked.exists_locate
    obtain ⟨turn, hturns, -⟩ := hasked.exists_turn haddress
    obtain ⟨first, rfl⟩ : ∃ first, added = [first] :=
      ⟨turn.request, by rw [← map_request_turnsFrom server 0 added, hturns]; rfl⟩
    rw [signIn, bind_of_ok (hpage [] rfl), signIn, bind_of_ok (hpage [] rfl)]
    split
    · exact ⟨_, _, _, rfl, rfl, .refl [first]⟩
    cases client.csrfToken? page with
    | error cause => exact ⟨_, _, _, rfl, rfl, .refl [first]⟩
    | ok csrf? =>
      cases csrf? with
      | none => exact ⟨_, _, _, rfl, rfl, .refl [first]⟩
      | some csrf =>
        rw [ofClient_ok_bind, ofClient_ok_bind]
        have hpost := fun password ↦ @post_of_locate client site server signInPath address haddress
          (signInForm csrf username password) [first]
        have halike (form form' : HttpRequest) : AlikeButSecond [first, form] [first, form'] := by
          refine ⟨rfl, fun place hplace ↦ ?_⟩
          match place with
          | 0 => rfl
          | 1 => exact absurd rfl hplace
          | _ + 2 => rfl
        cases hreply : receive client address (server [first].length) with
        | error cause =>
          simp only [hreply] at hpost
          exact ⟨_, _, _, bind_of_error (hpost password), bind_of_error (hpost password'),
            halike _ _⟩
        | ok answer =>
          simp only [hreply] at hpost
          rw [List.nil_append]
          dsimp only
          rw [bind_of_ok (hpost password), bind_of_ok (hpost password')]
          split
          · exact ⟨_, _, _, rfl, rfl, halike _ _⟩
          · exact ⟨_, _, _, rfl, rfl, halike _ _⟩

/-- The password has no influence on what comes of a conversation, nor on any request but the
second. -/
theorem converse_password (password : Json) :
    (converse client server site request []).1 =
        (converse client server site { request with password := password } []).1 ∧
      AlikeButSecond (converse client server site request []).2
        (converse client server site { request with password := password } []).2 := by
  obtain ⟨result, requests, requests', hsignIn, hsignIn', halike⟩ :=
    @signIn_password client server site request.username request.password password
  cases result with
  | error error =>
    rw [converse, bind_of_error hsignIn, converse, bind_of_error hsignIn']
    exact ⟨rfl, halike⟩
  | ok csrf =>
    rw [converse, bind_of_ok hsignIn, converse, bind_of_ok hsignIn']
    -- what follows is the same step, begun after as many requests
    have hrest : Follows server
        (Issuer.andFinally (createToken client server site request)
          (signOut client server site csrf))
        fun _ _ ↦ True :=
      (follows_createToken request).andFinally fun _ _ _ ↦
        (follows_signOut csrf).imp fun _ _ _ ↦ trivial
    obtain ⟨added, result, hrun, -⟩ := hrest requests.length
    have hrun' : Issuer.andFinally
        (createToken client server site { request with password := password })
        (signOut client server site csrf) requests' = (result, requests' ++ added) :=
      hrun requests' halike.1.symm
    rw [hrun requests rfl, hrun']
    exact ⟨rfl, halike.append added⟩

/-! ### The conversation -/

theorem Protocol.exists_letsIn {turns : List Turn} (h : Protocol client site request turns)
    (hlength : 2 < turns.length) : ∃ login, turns[1]? = some login ∧ login.LetsIn client := by
  cases h with
  | nowhere => cases hlength
  | unmarked => simp at hlength
  | refused => simp at hlength
  | signedIn _ _ _ _ hletsIn => exact ⟨_, rfl, hletsIn⟩

theorem requests_of_error {cause : ClientError}
    (hsite : client.site (baseOf request.serverUrl) = .error cause) :
    (issue client server request []).2 = [] := by
  rw [issue_of_error hsite]

theorem requests_of_ok (hsite : client.site (baseOf request.serverUrl) = .ok site) :
    (issue client server request []).2 = (converse client server site request []).2 := by
  rw [issue_of_ok hsite]

/-- What is sent to the site of a server URL is what the protocol lets be sent. -/
theorem protocol_of_ok (hsite : client.site (baseOf request.serverUrl) = .ok site) :
    Protocol client site request (turnsFrom server 0 (issue client server request []).2) := by
  obtain ⟨added, result, hrun, hsession⟩ := @follows_converse client server site request 0
  have hadded : (issue client server request []).2 = added := by
    rw [requests_of_ok hsite, hrun [] rfl, List.nil_append]
  rw [hadded]
  exact hsession.protocol

/-- The site does not depend on the password, and of what is sent to it only the sign-in form
does. -/
theorem requests_password (password : Json) :
    AlikeButSecond (issue client server request []).2
      (issue client server { request with password := password } []).2 := by
  cases hsite : client.site (baseOf request.serverUrl) with
  | error cause =>
    have hother : (issue client server { request with password := password } []).2 = [] :=
      requests_of_error hsite
    rw [requests_of_error hsite, hother]
    exact .refl []
  | ok site =>
    have hother : (issue client server { request with password := password } []).2 =
        (converse client server site { request with password := password } []).2 :=
      requests_of_ok hsite
    rw [requests_of_ok hsite, hother]
    exact (converse_password password).2

/-- **The order of requests**, whatever the client is. No request is sent unless the server URL can
be a base; then the turns of a conversation speak the protocol. So the token form is sent once at
most, as is the form that signs out, and after a sign-in that has failed there is no request at all.
The password has no influence on any request but the second one, which is the sign-in form. -/
theorem issue_protocol (client : HttpClient) (server : HttpServer) (request : TokenRequest) :
    let requests := (issue client server request []).2
    let turns := turnsFrom server 0 requests
    (∀ cause, client.site (baseOf request.serverUrl) = .error cause → requests = []) ∧
      (∀ site, client.site (baseOf request.serverUrl) = .ok site →
        Protocol client site request turns) ∧
      requests.countP HttpRequest.sendsTokenForm ≤ 1 ∧
      requests.countP HttpRequest.signsOut ≤ 1 ∧
      (2 < requests.length → ∃ login, turns[1]? = some login ∧ login.LetsIn client) ∧
      ∀ password, AlikeButSecond requests
        (issue client server { request with password := password } []).2 := by
  intro requests turns
  have hturns : turns.map Turn.request = requests := map_request_turnsFrom server 0 requests
  have hlength : turns.length = requests.length := by rw [← hturns, List.length_map]
  have hcount (p : HttpRequest → Bool) :
      requests.countP p = turns.countP fun turn ↦ p turn.request := by
    rw [← hturns, List.countP_map]
    rfl
  have hpassword := fun password ↦ @requests_password client server request password
  rw [hcount, hcount, ← hlength]
  cases hsite : client.site (baseOf request.serverUrl) with
  | error cause =>
    have hnil : requests = [] := requests_of_error hsite
    have hsilent : turns = [] := by
      rw [← List.length_eq_zero_iff, hlength, hnil]
      rfl
    rw [hsilent]
    exact ⟨fun _ _ ↦ hnil, fun _ h ↦ (by cases h), Nat.zero_le 1, Nat.zero_le 1,
      fun h ↦ absurd h (Nat.not_lt_zero 2), hpassword⟩
  | ok site =>
    have hprotocol : Protocol client site request turns := protocol_of_ok hsite
    obtain ⟨hform, hsignOut⟩ := hprotocol.countP
    exact ⟨fun _ h ↦ (by cases h), fun _ h ↦ (by cases h; exact hprotocol), hform, hsignOut,
      hprotocol.exists_letsIn, hpassword⟩

end Issuer

end TokenBroker
