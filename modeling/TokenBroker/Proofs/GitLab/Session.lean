import TokenBroker.Proofs.GitLab.Turns

/-!
# What a conversation may be

The stages of a conversation as relations between the turns of a stage and its result: one
constructor for each way in which the stage may end, with all that is known about that end. They say
once what every stage does, and `follows_converse` that the issuer does nothing else. What is shown
of requests, errors and tokens is read off these relations, and no later proof opens a stage again.
-/

namespace TokenBroker.Issuer

variable {client : HttpClient} {server : HttpServer} {site : RequestUrl}

/-! ### Asking -/

def getRequest (address : RequestUrl) : HttpRequest :=
  { method := .get, url := address }

def postRequest (form headers : List (String × String)) (address : RequestUrl) : HttpRequest :=
  { method := .post, url := address, form := form, headers := headers }

/-- Asking a site for what a reference leads to: a turn, unless the client cannot prepare it. -/
inductive Asked (client : HttpClient) (site : RequestUrl) (reference : String)
    (headers : List (String × String)) (ask : RequestUrl → HttpRequest) :
    List Turn → Except ClientError HttpResponse → Prop
  | unprepared {cause : ClientError}
      (hprepare : client.prepare site reference headers = .error cause) :
      Asked client site reference headers ask [] (.error cause)
  | turn {turn : Turn} {address : RequestUrl} {result : Except ClientError HttpResponse}
      (hprepare : client.prepare site reference headers = .ok address)
      (hrequest : turn.request = ask address) (hresult : turn.outcome client = result) :
      Asked client site reference headers ask [turn] result

/-- Asking for the page at a reference. -/
abbrev Opened (client : HttpClient) (site : RequestUrl) (reference : String) :
    List Turn → Except ClientError HttpResponse → Prop :=
  Asked client site reference [] getRequest

/-- Sending a form to a reference. -/
abbrev Posted (client : HttpClient) (site : RequestUrl) (reference : String)
    (form headers : List (String × String)) : List Turn → Except ClientError HttpResponse → Prop :=
  Asked client site reference headers (postRequest form headers)

theorem prepare_nil (client : HttpClient) (site : RequestUrl) (reference : String) :
    client.prepare site reference [] = client.locate site reference := by
  rw [HttpClient.prepare]
  cases client.locate site reference <;> rfl

/-- What a step comes to, as the errors of the client are reported. -/
def Reported {α : Type} (law : List Turn → Except ClientError α → Prop) (turns : List Turn)
    (result : Except IssueError α) : Prop :=
  ∃ answer, law turns answer ∧ answer.mapError .client = result

theorem follows_asked (site : RequestUrl) (reference : String) (headers : List (String × String))
    (ask : RequestUrl → HttpRequest) :
    Follows server
      (ofClient (client.prepare site reference headers) >>= fun address ↦
        send client server (ask address))
      (Reported (Asked client site reference headers ask)) :=
  .ofClient_bind (fun _ hprepare ↦ ⟨_, .unprepared hprepare, rfl⟩) fun _ hprepare ↦
    .send fun _ hrequest ↦ ⟨_, .turn hprepare hrequest rfl, rfl⟩

theorem follows_get (reference : String) :
    Follows server (get client server site reference)
      (Reported (Opened client site reference)) := by
  have h := @follows_asked client server site reference [] getRequest
  rwa [prepare_nil] at h

theorem follows_post (reference : String) (form headers : List (String × String)) :
    Follows server (post client server site reference form headers)
      (Reported (Posted client site reference form headers)) :=
  follows_asked site reference headers (postRequest form headers)

/-- One step after another, where the errors of the first are those of the client. -/
theorem Follows.reported_bind {α β : Type} {step : Conversation β} {next : β → Conversation α}
    {first : List Turn → Except ClientError β → Prop}
    {law : List Turn → Except IssueError α → Prop} (hstep : Follows server step (Reported first))
    (hstopped : ∀ turns cause, first turns (.error cause) → law turns (.error (.client cause)))
    (hnext : ∀ answer before, first before (.ok answer) →
      Follows server (next answer) fun after result ↦ law (before ++ after) result) :
    Follows server (step >>= next) law := by
  refine hstep.bind (fun turns error h ↦ ?_) fun answer before h ↦ ?_
  · obtain ⟨cause | answer, hfirst, hresult⟩ := h
    · cases hresult
      exact hstopped turns cause hfirst
    · cases hresult
  · obtain ⟨cause | answer, hfirst, hresult⟩ := h
    · cases hresult
    · cases hresult
      exact hnext answer before hfirst

/-! ### Signing in and out -/

/-- The sign-in page, and the form that is on it. -/
inductive SignIn (client : HttpClient) (site : RequestUrl) (username password : Json) :
    List Turn → Except IssueError String → Prop
  | unanswered {turns : List Turn} {cause : ClientError}
      (hpage : Opened client site signInPath turns (.error cause)) :
      SignIn client site username password turns (.error (.client cause))
  | missing {turns : List Turn} {page : HttpResponse}
      (hpage : Opened client site signInPath turns (.ok page)) (hstatus : page.status ≠ 200) :
      SignIn client site username password turns (.error (.noSignInPage page.status))
  | unread {turns : List Turn} {page : HttpResponse} {cause : ClientError}
      (hpage : Opened client site signInPath turns (.ok page)) (hstatus : page.status = 200)
      (hcsrf : client.csrfToken? page = .error cause) :
      SignIn client site username password turns (.error (.client cause))
  | unmarked {turns : List Turn} {page : HttpResponse}
      (hpage : Opened client site signInPath turns (.ok page)) (hstatus : page.status = 200)
      (hcsrf : client.csrfToken? page = .ok none) :
      SignIn client site username password turns (.error .noSignInToken)
  | undone {turns later : List Turn} {page : HttpResponse} {csrf : String} {cause : ClientError}
      (hpage : Opened client site signInPath turns (.ok page)) (hstatus : page.status = 200)
      (hcsrf : client.csrfToken? page = .ok (some csrf))
      (hlogin : Posted client site signInPath (signInForm csrf username password) [] later
        (.error cause)) :
      SignIn client site username password (turns ++ later) (.error (.client cause))
  | refused {turns later : List Turn} {page answer : HttpResponse} {csrf : String}
      (hpage : Opened client site signInPath turns (.ok page)) (hstatus : page.status = 200)
      (hcsrf : client.csrfToken? page = .ok (some csrf))
      (hlogin : Posted client site signInPath (signInForm csrf username password) [] later
        (.ok answer))
      (hrefused : signedIn answer = false) :
      SignIn client site username password (turns ++ later) (.error (.badLogin answer.status))
  | done {turns later : List Turn} {page answer : HttpResponse} {csrf : String}
      (hpage : Opened client site signInPath turns (.ok page)) (hstatus : page.status = 200)
      (hcsrf : client.csrfToken? page = .ok (some csrf))
      (hlogin : Posted client site signInPath (signInForm csrf username password) [] later
        (.ok answer))
      (hdone : signedIn answer = true) :
      SignIn client site username password (turns ++ later) (.ok csrf)

theorem follows_signIn (username password : Json) :
    Follows server (signIn client server site username password)
      (SignIn client site username password) := by
  refine (follows_get signInPath).reported_bind (fun _ _ ↦ .unanswered) fun page turns hpage ↦ ?_
  simp only [bne_iff_ne]
  split
  · rename_i hstatus
    exact .ends (fun _ ↦ rfl) (.missing hpage hstatus)
  rename_i hstatus
  rw [Decidable.not_not] at hstatus
  refine .ofClient_bind (fun cause hcsrf ↦ ?_) fun csrf? hcsrf ↦ ?_
  · rw [List.append_nil]
    exact .unread hpage hstatus hcsrf
  cases csrf? with
  | none => exact .ends (fun _ ↦ rfl) (.unmarked hpage hstatus hcsrf)
  | some csrf =>
    refine (follows_post signInPath _ _).reported_bind (fun _ _ ↦ .undone hpage hstatus hcsrf)
      fun answer later hlogin ↦ ?_
    split
    · rename_i hdone
      refine .silent (fun _ ↦ rfl) ?_
      rw [List.append_nil]
      exact .done hpage hstatus hcsrf hlogin hdone
    · rename_i hrefused
      refine .silent (fun _ ↦ rfl) ?_
      rw [List.append_nil]
      exact .refused hpage hstatus hcsrf hlogin (by simpa using hrefused)

/-- Signing out. That the transfer fails does not matter. -/
inductive SignOut (client : HttpClient) (site : RequestUrl) (csrf : String) :
    List Turn → Except IssueError Unit → Prop
  | answered {turns : List Turn} {answer : HttpResponse}
      (hout : Posted client site signOutPath (signOutForm csrf) [] turns (.ok answer)) :
      SignOut client site csrf turns (.ok ())
  | unreachable {turns : List Turn} {reason : String}
      (hout : Posted client site signOutPath (signOutForm csrf) [] turns
        (.error (.transfer reason))) :
      SignOut client site csrf turns (.ok ())
  | broken {turns : List Turn} {fault : ForeignFault}
      (hout : Posted client site signOutPath (signOutForm csrf) [] turns
        (.error (.broken fault))) :
      SignOut client site csrf turns (.error (.client (.broken fault)))

theorem follows_signOut (csrf : String) :
    Follows server (signOut client server site csrf) (SignOut client site csrf) := by
  intro place
  obtain ⟨added, result, hrun, answer, hout, rfl⟩ :=
    @follows_post client server site signOutPath (signOutForm csrf) [] place
  cases answer with
  | ok answer =>
    exact ⟨added, .ok (), fun sent hplace ↦ by rw [signOut, hrun sent hplace]; rfl,
      .answered hout⟩
  | error cause =>
    cases cause with
    | transfer reason =>
      exact ⟨added, .ok (), fun sent hplace ↦ by rw [signOut, hrun sent hplace]; rfl,
        .unreachable hout⟩
    | broken fault =>
      exact ⟨added, .error (.client (.broken fault)),
        fun sent hplace ↦ by rw [signOut, hrun sent hplace]; rfl, .broken hout⟩

/-! ### The token form -/

/-- Trying the pages that may hold the token form, after one that was answered with a status. -/
inductive PageSearch (client : HttpClient) (site : RequestUrl) :
    Option Int → List String → List Turn → Except IssueError (String × HttpResponse) → Prop
  | exhausted {status? : Option Int} :
      PageSearch client site status? [] [] (.error (.noTokenPage status?))
  | unanswered {status? : Option Int} {path : String} {rest : List String} {turns : List Turn}
      {cause : ClientError} (hpage : Opened client site path turns (.error cause)) :
      PageSearch client site status? (path :: rest) turns (.error (.client cause))
  | found {status? : Option Int} {path : String} {rest : List String} {turns : List Turn}
      {page : HttpResponse} (hpage : Opened client site path turns (.ok page))
      (hstatus : page.status = 200) :
      PageSearch client site status? (path :: rest) turns (.ok (path, page))
  | missing {status? : Option Int} {path : String} {rest : List String} {turns later : List Turn}
      {page : HttpResponse} {result : Except IssueError (String × HttpResponse)}
      (hpage : Opened client site path turns (.ok page)) (hstatus : page.status ≠ 200)
      (hrest : PageSearch client site (some page.status) rest later result) :
      PageSearch client site status? (path :: rest) (turns ++ later) result

theorem follows_openTokenPage (paths : List String) (status? : Option Int) :
    Follows server (openTokenPage client server site status? paths)
      (PageSearch client site status? paths) := by
  induction paths generalizing status? with
  | nil => exact .silent (fun _ ↦ rfl) .exhausted
  | cons path rest ih =>
    refine (follows_get path).reported_bind (fun _ _ ↦ .unanswered) fun page turns hpage ↦ ?_
    split
    · rename_i hstatus
      exact .ends (fun _ ↦ rfl) (.found hpage hstatus)
    · rename_i hstatus
      exact (ih (some page.status)).imp fun later result ↦ .missing hpage hstatus

/-- The page that an answer to the token form leads on to, or else the answer itself. -/
inductive Followed (client : HttpClient) (site : RequestUrl) (answer : HttpResponse) :
    List Turn → Except IssueError HttpResponse → Prop
  | direct (hdirect : answer.isRedirect = false) : Followed client site answer [] (.ok answer)
  | lost (hleads : answer.isRedirect = true) (hlocation : answer.header? "location" = none) :
      Followed client site answer [] (.error .noLocation)
  | led {location : String} {turns : List Turn} {result : Except ClientError HttpResponse}
      (hleads : answer.isRedirect = true) (hlocation : answer.header? "location" = some location)
      (hnext : Opened client site location turns result) :
      Followed client site answer turns (result.mapError .client)

theorem follows_followed (answer : HttpResponse) :
    Follows server (followed client server site answer) (Followed client site answer) := by
  rw [followed]
  split
  · rename_i hleads
    split
    · rename_i hlocation
      exact .silent (fun _ ↦ rfl) (.lost hleads hlocation)
    · rename_i location hlocation
      refine (follows_get location).imp fun turns result ↦ ?_
      rintro ⟨answer, hnext, rfl⟩
      exact .led hleads hlocation hnext
  · rename_i hdirect
    exact .silent (fun _ ↦ rfl) (.direct (by simpa using hdirect))

/-- Making the token: the page, the form that is on it, and what the answer leads on to. -/
inductive Creation (client : HttpClient) (site : RequestUrl) (request : TokenRequest) :
    List Turn → Except IssueError Json → Prop
  | unopened {turns : List Turn} {error : IssueError}
      (hsearch : PageSearch client site none tokenPagePaths turns (.error error)) :
      Creation client site request turns (.error error)
  | unread {turns : List Turn} {path : String} {page : HttpResponse} {cause : ClientError}
      (hsearch : PageSearch client site none tokenPagePaths turns (.ok (path, page)))
      (hcsrf : client.csrfToken? page = .error cause) :
      Creation client site request turns (.error (.client cause))
  | unmarked {turns : List Turn} {path : String} {page : HttpResponse}
      (hsearch : PageSearch client site none tokenPagePaths turns (.ok (path, page)))
      (hcsrf : client.csrfToken? page = .ok none) :
      Creation client site request turns (.error .noPageToken)
  | undone {turns later : List Turn} {path : String} {page : HttpResponse} {csrf : String}
      {cause : ClientError}
      (hsearch : PageSearch client site none tokenPagePaths turns (.ok (path, page)))
      (hcsrf : client.csrfToken? page = .ok (some csrf))
      (hform : Posted client site path (tokenForm csrf request) (tokenFormHeaders csrf) later
        (.error cause)) :
      Creation client site request (turns ++ later) (.error (.client cause))
  | unfollowed {turns later last : List Turn} {path : String} {page answer : HttpResponse}
      {csrf : String} {error : IssueError}
      (hsearch : PageSearch client site none tokenPagePaths turns (.ok (path, page)))
      (hcsrf : client.csrfToken? page = .ok (some csrf))
      (hform : Posted client site path (tokenForm csrf request) (tokenFormHeaders csrf) later
        (.ok answer))
      (hfollowed : Followed client site answer last (.error error)) :
      Creation client site request (turns ++ later ++ last) (.error error)
  | done {turns later last : List Turn} {path : String} {page answer final : HttpResponse}
      {csrf : String}
      (hsearch : PageSearch client site none tokenPagePaths turns (.ok (path, page)))
      (hcsrf : client.csrfToken? page = .ok (some csrf))
      (hform : Posted client site path (tokenForm csrf request) (tokenFormHeaders csrf) later
        (.ok answer))
      (hfollowed : Followed client site answer last (.ok final)) :
      Creation client site request (turns ++ later ++ last) (readToken client final)

theorem follows_createToken (request : TokenRequest) :
    Follows server (createToken client server site request) (Creation client site request) := by
  refine (follows_openTokenPage tokenPagePaths none).bind (fun _ _ ↦ .unopened)
    fun (path, page) turns hsearch ↦ ?_
  refine .ofClient_bind (fun cause hcsrf ↦ ?_) fun csrf? hcsrf ↦ ?_
  · rw [List.append_nil]
    exact .unread hsearch hcsrf
  cases csrf? with
  | none => exact .ends (fun _ ↦ rfl) (.unmarked hsearch hcsrf)
  | some csrf =>
    refine (follows_post path _ _).reported_bind (fun _ _ ↦ .undone hsearch hcsrf)
      fun answer later hform ↦ ?_
    refine (follows_followed answer).bind (fun last error hfollowed ↦ ?_)
      fun final last hfollowed ↦ .silent (fun _ ↦ rfl) ?_
    · rw [← List.append_assoc]
      exact .unfollowed hsearch hcsrf hform hfollowed
    · rw [List.append_nil, ← List.append_assoc]
      exact .done hsearch hcsrf hform hfollowed

/-! ### The whole conversation -/

/-- A conversation on a site: signing in, and only after that the token and signing out. -/
inductive Session (client : HttpClient) (site : RequestUrl) (request : TokenRequest) :
    List Turn → Except IssueError Json → Prop
  | stopped {turns : List Turn} {error : IssueError}
      (hsignIn : SignIn client site request.username request.password turns (.error error)) :
      Session client site request turns (.error error)
  | signedIn {turns later last : List Turn} {csrf : String} {result : Except IssueError Json}
      {ending : Except IssueError Unit}
      (hsignIn : SignIn client site request.username request.password turns (.ok csrf))
      (hcreation : Creation client site request later result)
      (hsignOut : SignOut client site csrf last ending) :
      Session client site request (turns ++ (later ++ last)) (ending.bind fun _ ↦ result)

/-- **A conversation is a session.** -/
theorem follows_converse (request : TokenRequest) :
    Follows server (converse client server site request) (Session client site request) := by
  refine (follows_signIn request.username request.password).bind (fun _ _ ↦ .stopped)
    fun csrf turns hsignIn ↦ ?_
  exact (follows_createToken request).andFinally fun later result hcreation ↦
    (follows_signOut csrf).imp fun last ending ↦ .signedIn hsignIn hcreation

theorem issue_of_error {request : TokenRequest} {cause : ClientError} {sent : List HttpRequest}
    (hsite : client.site (baseOf request.serverUrl) = .error cause) :
    issue client server request sent =
      (.error ((IssueError.client cause).fault (baseOf request.serverUrl)), sent) := by
  rw [issue]
  simp only [hsite]

theorem issue_of_ok {request : TokenRequest} {sent : List HttpRequest}
    (hsite : client.site (baseOf request.serverUrl) = .ok site) :
    issue client server request sent = ((converse client server site request sent).1.mapError
      (·.fault (baseOf request.serverUrl)), (converse client server site request sent).2) := by
  rw [issue]
  simp only [hsite]
  rfl

end TokenBroker.Issuer
