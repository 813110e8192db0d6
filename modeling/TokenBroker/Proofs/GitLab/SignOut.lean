import TokenBroker.Proofs.GitLab.Faults

/-!
# What signing out may change

A step of a conversation depends on the replies to its own requests and on no others
(`Issuer.ReadsOwn`). Signing out comes last, so the reply to it decides neither what is sent nor
what the token or the error before it is. That it cannot be reached does not matter either. Only if
the client breaks on the reply its fault takes the place of what was there.
-/

namespace TokenBroker.Issuer

variable {α β : Type} {client : HttpClient} {server server' : HttpServer} {site : RequestUrl}
  {request : TokenRequest}

/-- Two servers reply alike to the requests in front of a place. -/
def AgreeBefore (place : Nat) (server server' : HttpServer) : Prop :=
  ∀ earlier < place, server earlier = server' earlier

theorem AgreeBefore.mono {place place' : Nat} (h : AgreeBefore place server server')
    (hplace : place' ≤ place) : AgreeBefore place' server server' :=
  fun earlier hearlier ↦ h earlier (hearlier.trans_le hplace)

/-! ### Steps read the replies to their own requests -/

/-- A step only adds requests, and servers that reply alike to those take it the same way. -/
structure ReadsOwn (step : HttpServer → Conversation α) : Prop where
  grows : ∀ server sent, sent <+: (step server sent).2
  congr : ∀ server server' sent,
    (∀ place, sent.length ≤ place → place < (step server sent).2.length →
      server place = server' place) → step server' sent = step server sent

namespace ReadsOwn

/-- A step that sends nothing. -/
theorem silent {step : Conversation α} {result : Except IssueError α}
    (hstep : ∀ sent, step sent = (result, sent)) : ReadsOwn fun _ ↦ step where
  grows _ sent := ⟨[], by rw [hstep, List.append_nil]⟩
  congr _ _ _ _ := rfl

theorem send (request : HttpRequest) : ReadsOwn fun server ↦ send client server request where
  grows _ _ := List.prefix_append _ _
  congr server server' sent hagree := by
    have hreply : server sent.length = server' sent.length :=
      hagree sent.length le_rfl (by simp [Issuer.send])
    rw [Issuer.send, Issuer.send, hreply]

theorem bind {step : HttpServer → Conversation β} {next : β → HttpServer → Conversation α}
    (hstep : ReadsOwn step) (hnext : ∀ answer, ReadsOwn (next answer)) :
    ReadsOwn fun server ↦ step server >>= fun answer ↦ next answer server where
  grows server sent := by
    have hgrows := hstep.grows server sent
    rcases hrun : step server sent with ⟨error | answer, sent'⟩ <;> rw [hrun] at hgrows
    · rw [bind_of_error hrun]
      exact hgrows
    · rw [bind_of_ok hrun]
      exact hgrows.trans ((hnext answer).grows server sent')
  congr server server' sent hagree := by
    have hcongr := hstep.congr server server' sent
    rcases hrun : step server sent with ⟨error | answer, sent'⟩ <;> rw [hrun] at hcongr
    · rw [bind_of_error hrun] at hagree ⊢
      exact bind_of_error (hcongr hagree)
    · rw [bind_of_ok hrun] at hagree ⊢
      -- what the first step has sent is part of what both have sent
      have hgrows := (hnext answer).grows server sent'
      have hfirst : step server' sent = (.ok answer, sent') :=
        hcongr fun place hlow hhigh ↦ hagree place hlow (hhigh.trans_le hgrows.length_le)
      have hlength : sent.length ≤ sent'.length := by
        have := (hstep.grows server sent).length_le
        rwa [hrun] at this
      rw [bind_of_ok hfirst]
      exact (hnext answer).congr server server' sent' fun place hlow hhigh ↦
        hagree place (hlength.trans hlow) hhigh

/-- A server that replies alike to all that has been sent is sent the same. -/
theorem run {step : HttpServer → Conversation α} (h : ReadsOwn step) {sent sent' : List HttpRequest}
    {result : Except IssueError α} (hrun : step server sent = (result, sent'))
    (hagree : AgreeBefore sent'.length server server') : step server' sent = (result, sent') := by
  rw [← hrun]
  refine h.congr server server' sent fun place _ hplace ↦ hagree place ?_
  rwa [hrun] at hplace

end ReadsOwn

theorem readsOwn_get (reference : String) :
    ReadsOwn fun server ↦ get client server site reference :=
  (ReadsOwn.silent fun _ ↦ rfl).bind fun _ ↦ .send _

theorem readsOwn_post (reference : String) (form headers : List (String × String)) :
    ReadsOwn fun server ↦ post client server site reference form headers :=
  (ReadsOwn.silent fun _ ↦ rfl).bind fun _ ↦ .send _

theorem readsOwn_signIn (username password : Json) :
    ReadsOwn fun server ↦ signIn client server site username password := by
  refine (readsOwn_get signInPath).bind fun page ↦ ?_
  by_cases hstatus : (page.status != 200) = true
  · simp only [hstatus, if_true]
    exact .silent fun _ ↦ rfl
  simp only [hstatus]
  refine (ReadsOwn.silent fun _ ↦ rfl).bind fun csrf? ↦ ?_
  cases csrf? with
  | none => exact .silent fun _ ↦ rfl
  | some csrf =>
    refine (readsOwn_post signInPath _ _).bind fun answer ↦ ?_
    cases signedIn answer <;> exact .silent fun _ ↦ rfl

theorem readsOwn_openTokenPage (paths : List String) (status? : Option Int) :
    ReadsOwn fun server ↦ openTokenPage client server site status? paths := by
  induction paths generalizing status? with
  | nil => exact .silent fun _ ↦ rfl
  | cons path rest ih =>
    refine (readsOwn_get path).bind fun page ↦ ?_
    by_cases hstatus : page.status = 200
    · simp only [hstatus, if_true]
      exact .silent fun _ ↦ rfl
    · simp only [hstatus, if_false]
      exact ih (some page.status)

theorem readsOwn_followed (answer : HttpResponse) :
    ReadsOwn fun server ↦ followed client server site answer := by
  cases hleads : answer.isRedirect with
  | false =>
    simp only [followed, hleads]
    exact .silent fun _ ↦ rfl
  | true =>
    simp only [followed, hleads, if_true]
    cases answer.header? "location" with
    | none => exact .silent fun _ ↦ rfl
    | some location => exact readsOwn_get location

theorem readsOwn_createToken (request : TokenRequest) :
    ReadsOwn fun server ↦ createToken client server site request := by
  refine (readsOwn_openTokenPage tokenPagePaths none).bind fun (path, page) ↦ ?_
  refine (ReadsOwn.silent fun _ ↦ rfl).bind fun csrf? ↦ ?_
  cases csrf? with
  | none => exact .silent fun _ ↦ rfl
  | some csrf =>
    exact (readsOwn_post path _ _).bind fun answer ↦
      (readsOwn_followed answer).bind fun final ↦ .silent fun _ ↦ rfl

/-! ### The course up to signing out -/

/-- What holds of the request of every turn holds of every request. -/
theorem forall_of_turnsFrom {P : HttpRequest → Prop} {place : Nat} {requests : List HttpRequest}
    (h : ∀ turn ∈ turnsFrom server place requests, P turn.request) :
    ∀ asked ∈ requests, P asked := by
  rw [← map_request_turnsFrom server place requests]
  exact List.forall_mem_map.2 h

theorem Asked.forall_request {P : HttpRequest → Prop} {reference : String}
    {headers : List (String × String)} {ask : RequestUrl → HttpRequest} {turns : List Turn}
    {result : Except ClientError HttpResponse}
    (h : Asked client site reference headers ask turns result) (hask : ∀ address, P (ask address)) :
    ∀ turn ∈ turns, P turn.request := by
  cases h with
  | unprepared => exact List.forall_mem_nil _
  | turn _ hrequest => simpa [hrequest] using hask _

/-- Signing in opens a page and sends the form on it. -/
theorem SignIn.forall_request {P : HttpRequest → Prop} {username password : Json}
    {turns : List Turn} {result : Except IssueError String}
    (h : SignIn client site username password turns result)
    (hget : ∀ address, P (getRequest address))
    (hpost : ∀ csrf address, P (postRequest (signInForm csrf username password) [] address)) :
    ∀ turn ∈ turns, P turn.request := by
  cases h with
  | unanswered hpage | missing hpage | unread hpage | unmarked hpage =>
    exact hpage.forall_request hget
  | undone hpage _ _ hlogin | refused hpage _ _ hlogin | done hpage _ _ hlogin =>
    exact List.forall_mem_append.2 ⟨hpage.forall_request hget, hlogin.forall_request (hpost _)⟩

theorem SignIn.signsOut_eq_false {username password : Json} {turns : List Turn}
    {result : Except IssueError String} (h : SignIn client site username password turns result) :
    ∀ turn ∈ turns, turn.request.signsOut = false :=
  h.forall_request (P := (HttpRequest.signsOut · = false)) (by simp [HttpRequest.signsOut])
    (by simp [HttpRequest.signsOut])

theorem Creation.signsOut_eq_false {turns : List Turn} {result : Except IssueError Json}
    (h : Creation client site request turns result) :
    ∀ turn ∈ turns, turn.request.signsOut = false := by
  intro turn hturn
  simpa using List.countP_eq_zero.1 h.tokenTurns.countP.2 turn hturn

/-- What the turn that signs out ends in: nothing, or a fault of the client. -/
inductive Turn.Ends (client : HttpClient) (turn : Turn) : Except IssueError Unit → Prop
  | letGo (hkept : ¬ turn.Breaks client) : Ends client turn (.ok ())
  | broken {fault : ForeignFault} (houtcome : turn.outcome client = .error (.broken fault)) :
      Ends client turn (.error (.client (.broken fault)))

theorem SignOut.ends {csrf : String} {turns : List Turn} {ending : Except IssueError Unit}
    {address : RequestUrl} (h : SignOut client site csrf turns ending)
    (haddress : client.locate site signOutPath = .ok address) :
    ∃ turn, turns = [turn] ∧ turn.request = postRequest (signOutForm csrf) [] address ∧
      turn.Ends client ending := by
  cases h with
  | answered hout =>
    obtain ⟨turn, rfl, hrequest, houtcome⟩ := hout.exists_turn haddress
    exact ⟨turn, rfl, hrequest, .letGo (Turn.not_breaks houtcome)⟩
  | unreachable hout =>
    obtain ⟨turn, rfl, hrequest, houtcome⟩ := hout.exists_turn haddress
    exact ⟨turn, rfl, hrequest, .letGo (by simp [Turn.Breaks, houtcome])⟩
  | broken hout =>
    obtain ⟨turn, rfl, hrequest, houtcome⟩ := hout.exists_turn haddress
    exact ⟨turn, rfl, hrequest, .broken houtcome⟩

/-- Without an address nothing is sent, and whether that is a fault is up to the client. -/
theorem SignOut.of_nowhere {csrf : String} {turns : List Turn} {ending : Except IssueError Unit}
    {cause : ClientError} (h : SignOut client site csrf turns ending)
    (haddress : client.locate site signOutPath = .error cause) :
    turns = [] ∧ ((∃ reason, cause = .transfer reason) ∧ ending = .ok () ∨
      (∃ fault, cause = .broken fault) ∧ ending = .error (.client cause)) := by
  cases h with
  | answered hout => cases (hout.of_nowhere haddress).2
  | unreachable hout =>
    obtain ⟨rfl, hcause⟩ := hout.of_nowhere haddress
    cases hcause
    exact ⟨rfl, .inl ⟨⟨_, rfl⟩, rfl⟩⟩
  | broken hout =>
    obtain ⟨rfl, hcause⟩ := hout.of_nowhere haddress
    cases hcause
    exact ⟨rfl, .inr ⟨⟨_, rfl⟩, rfl⟩⟩

/-- That does not depend on the server. -/
theorem signOut_of_nowhere {cause : ClientError}
    (haddress : client.locate site signOutPath = .error cause) :
    ∃ ending, ∀ (server : HttpServer) (csrf : String) (sent : List HttpRequest),
      signOut client server site csrf sent = (ending, sent) := by
  have hpost (server : HttpServer) (csrf : String) (sent : List HttpRequest) :
      post client server site signOutPath (signOutForm csrf) [] sent =
        (.error (.client cause), sent) := by
    rw [post, prepare_nil, haddress]
    rfl
  cases cause with
  | transfer reason => exact ⟨.ok (), fun server csrf sent ↦ by rw [signOut, hpost]⟩
  | broken fault =>
    exact ⟨.error (.client (.broken fault)), fun server csrf sent ↦ by rw [signOut, hpost]⟩

theorem converse_of_ok {csrf : String} {result : Except IssueError Json}
    {ending : Except IssueError Unit} {sent entered made after : List HttpRequest}
    (hsignIn : signIn client server site request.username request.password sent =
      (.ok csrf, entered))
    (hcreation : createToken client server site request entered = (result, made))
    (hsignOut : signOut client server site csrf made = (ending, after)) :
    converse client server site request sent = (ending.bind fun _ ↦ result, after) := by
  refine (bind_of_ok hsignIn).trans ?_
  rw [andFinally, hcreation]
  dsimp only
  rw [hsignOut]
  cases ending <;> rfl

/-- **The course of a conversation up to signing out**, which it takes with every server that
replies alike so far. There is no signing out, or it is asked for once, and only a fault of the
client takes the place of the answer. -/
theorem exists_course (client : HttpClient) (server : HttpServer) (site : RequestUrl)
    (request : TokenRequest) :
    ∃ before answer, (∀ earlier ∈ before, HttpRequest.signsOut earlier = false) ∧
      ((∀ server', AgreeBefore before.length server server' →
          converse client server' site request [] = (answer, before)) ∨
        ∃ csrf address, client.locate site signOutPath = .ok address ∧
          ∀ server', AgreeBefore before.length server server' → ∃ ending,
            converse client server' site request [] = (ending.bind fun _ ↦ answer,
              before ++ [postRequest (signOutForm csrf) [] address]) ∧
            Turn.Ends client ⟨postRequest (signOutForm csrf) [] address, server' before.length⟩
              ending) := by
  obtain ⟨entered, result, hsignIn, hlaw⟩ :=
    @follows_signIn client server site request.username request.password 0
  have hsignIn : signIn client server site request.username request.password [] =
      (result, entered) :=
    hsignIn [] rfl
  have hentered : ∀ asked ∈ entered, HttpRequest.signsOut asked = false :=
    forall_of_turnsFrom hlaw.signsOut_eq_false
  have hsame {server' : HttpServer} (hagree : AgreeBefore entered.length server server') :
      signIn client server' site request.username request.password [] = (result, entered) :=
    (readsOwn_signIn _ _).run hsignIn hagree
  cases result with
  | error error =>
    exact ⟨entered, .error error, hentered, .inl fun server' hagree ↦ bind_of_error (hsame hagree)⟩
  | ok csrf =>
    obtain ⟨made, answer, hcreation, hmade⟩ :=
      @follows_createToken client server site request entered.length
    have hcreation : createToken client server site request entered = (answer, entered ++ made) :=
      hcreation entered rfl
    have hquiet : ∀ asked ∈ entered ++ made, HttpRequest.signsOut asked = false :=
      List.forall_mem_append.2 ⟨hentered, forall_of_turnsFrom hmade.signsOut_eq_false⟩
    -- with every server that replies alike so far only signing out is left
    have hrest {server' : HttpServer} (hagree : AgreeBefore (entered ++ made).length server server')
        {ending : Except IssueError Unit} {after : List HttpRequest}
        (hsignOut : signOut client server' site csrf (entered ++ made) = (ending, after)) :
        converse client server' site request [] = (ending.bind fun _ ↦ answer, after) :=
      converse_of_ok (hsame (hagree.mono (List.prefix_append entered made).length_le))
        ((readsOwn_createToken request).run hcreation hagree) hsignOut
    cases haddress : client.locate site signOutPath with
    | error cause =>
      obtain ⟨ending, hsignOut⟩ := signOut_of_nowhere haddress
      exact ⟨entered ++ made, ending.bind fun _ ↦ answer, hquiet,
        .inl fun server' hagree ↦ hrest hagree (hsignOut server' csrf _)⟩
    | ok address =>
      refine ⟨entered ++ made, answer, hquiet, .inr ⟨csrf, address, rfl, fun server' hagree ↦ ?_⟩⟩
      obtain ⟨added, ending, hsignOut, hlast⟩ :=
        @follows_signOut client server' site csrf (entered ++ made).length
      obtain ⟨turn, hturns, hrequest, hends⟩ := hlast.ends haddress
      have hadded : added = [postRequest (signOutForm csrf) [] address] := by
        rw [← map_request_turnsFrom server' (entered ++ made).length added, hturns, ← hrequest]
        rfl
      subst hadded
      cases hturns
      exact ⟨ending, hrest hagree (hsignOut _ rfl), hends⟩

/-- The course of an issue, as that of its conversation. -/
theorem exists_issue_course (client : HttpClient) (server : HttpServer) (request : TokenRequest) :
    ∃ before answer, (∀ earlier ∈ before, HttpRequest.signsOut earlier = false) ∧
      ((∀ server', AgreeBefore before.length server server' →
          issue client server' request [] = (answer, before)) ∨
        ∃ out : HttpRequest, out.signsOut = true ∧
          ∀ server', AgreeBefore before.length server server' → ∃ ending,
            issue client server' request [] =
              ((ending.mapError (·.fault (baseOf request.serverUrl))).bind fun _ ↦ answer,
                before ++ [out]) ∧ Turn.Ends client ⟨out, server' before.length⟩ ending) := by
  cases hsite : client.site (baseOf request.serverUrl) with
  | error cause =>
    exact ⟨[], _, List.forall_mem_nil _, .inl fun server' _ ↦ issue_of_error hsite⟩
  | ok site =>
    obtain ⟨before, answer, hbefore, hcourse | ⟨csrf, address, haddress, hcourse⟩⟩ :=
      exists_course client server site request
    · refine ⟨before, answer.mapError (·.fault (baseOf request.serverUrl)), hbefore,
        .inl fun server' hagree ↦ ?_⟩
      rw [issue_of_ok hsite, hcourse server' hagree]
    · refine ⟨before, answer.mapError (·.fault (baseOf request.serverUrl)), hbefore,
        .inr ⟨postRequest (signOutForm csrf) [] address, by simp [HttpRequest.signsOut],
          fun server' hagree ↦ ?_⟩⟩
      obtain ⟨ending, hrun, hends⟩ := hcourse server' hagree
      refine ⟨ending, ?_, hends⟩
      rw [issue_of_ok hsite, hrun]
      cases ending <;> rfl

/-! ### Signing out -/

/-- The client has broken on the reply to signing out. -/
def SignOutBreaks (client : HttpClient) (server : HttpServer) (request : TokenRequest) : Prop :=
  ∃ turn ∈ turnsFrom server 0 (issue client server request []).2,
    turn.request.signsOut = true ∧ turn.Breaks client

instance (client : HttpClient) (turn : Turn) : Decidable (turn.Breaks client) :=
  match h : turn.outcome client with
  | .error (.broken fault) => .isTrue ⟨fault, h⟩
  | .error (.transfer _) => .isFalse (by simp [Turn.Breaks, h])
  | .ok _ => .isFalse (by simp [Turn.Breaks, h])

instance : Decidable (SignOutBreaks client server request) :=
  inferInstanceAs (Decidable (∃ turn ∈ turnsFrom server 0 (issue client server request []).2,
    turn.request.signsOut = true ∧ turn.Breaks client))

/-- No turn signs out where no request does. -/
theorem signsOut_turn_eq_false {before : List HttpRequest} {turn : Turn}
    (hbefore : ∀ earlier ∈ before, HttpRequest.signsOut earlier = false)
    (hturn : turn ∈ turnsFrom server 0 before) : turn.request.signsOut = false := by
  refine hbefore turn.request ?_
  rw [← map_request_turnsFrom server 0 before]
  exact List.mem_map_of_mem hturn

/-- Of the turns of a course only the last one signs out. -/
theorem mem_turnsFrom_concat_iff (server : HttpServer) {before : List HttpRequest}
    {out : HttpRequest} {turn : Turn}
    (hbefore : ∀ earlier ∈ before, HttpRequest.signsOut earlier = false)
    (hout : out.signsOut = true) :
    (turn ∈ turnsFrom server 0 (before ++ [out]) ∧ turn.request.signsOut = true) ↔
      turn = ⟨out, server before.length⟩ := by
  rw [turnsFrom_append, Nat.zero_add]
  constructor
  · rintro ⟨hturn, hsignsOut⟩
    rcases List.mem_append.1 hturn with hturn | hturn
    · rw [signsOut_turn_eq_false hbefore hturn] at hsignsOut
      cases hsignsOut
    · exact List.mem_singleton.1 hturn
  · rintro rfl
    exact ⟨List.mem_append_right _ (List.mem_singleton_self _), hout⟩

/-- What the end of signing out leaves of an answer. -/
theorem Turn.Ends.eq_ok {turn : Turn} {ending : Except IssueError Unit}
    (h : turn.Ends client ending) (hkept : ¬ turn.Breaks client) : ending = .ok () := by
  cases h with
  | letGo => rfl
  | broken houtcome => exact absurd ⟨_, houtcome⟩ hkept

theorem Turn.Ends.eq_error {turn : Turn} {ending : Except IssueError Unit} {fault : ForeignFault}
    (h : turn.Ends client ending) (houtcome : turn.outcome client = .error (.broken fault)) :
    ending = .error (.client (.broken fault)) := by
  cases h with
  | letGo hkept => exact absurd ⟨fault, houtcome⟩ hkept
  | broken houtcome' =>
    rw [houtcome] at houtcome'
    cases houtcome'
    rfl

/-- **What signing out may change**, whatever the client is. Servers that reply alike to all that
comes before signing out are sent the same requests, and the token or the error is the same,
whatever they reply to signing out, unless the client breaks on that; then its fault takes the place
of what was there. -/
theorem issue_signOut {client : HttpClient} {server server' : HttpServer} {request : TokenRequest}
    (hagree : AgreeBefore ((issue client server request []).2.findIdx HttpRequest.signsOut) server
      server') :
    (issue client server' request []).2 = (issue client server request []).2 ∧
    (¬ SignOutBreaks client server request → ¬ SignOutBreaks client server' request →
      (issue client server' request []).1 = (issue client server request []).1) ∧
    ∀ turn ∈ turnsFrom server 0 (issue client server request []).2, turn.request.signsOut = true →
      ∀ fault : ForeignFault, turn.outcome client = .error (.broken fault) →
        (issue client server request []).1 = .error fault := by
  obtain ⟨before, answer, hbefore, hcourse | ⟨out, hout, hcourse⟩⟩ :=
    exists_issue_course client server request
  · have hrun : issue client server request [] = (answer, before) := hcourse server fun _ _ ↦ rfl
    have hnone : before.findIdx HttpRequest.signsOut = before.length :=
      List.findIdx_eq_length.2 hbefore
    rw [hrun, hnone] at hagree
    rw [hrun, hcourse server' hagree]
    refine ⟨rfl, fun _ _ ↦ rfl, fun turn hturn hsignsOut ↦ ?_⟩
    rw [signsOut_turn_eq_false hbefore hturn] at hsignsOut
    cases hsignsOut
  · obtain ⟨ending, hrun, hends⟩ := hcourse server fun _ _ ↦ rfl
    have hplace : (before ++ [out]).findIdx HttpRequest.signsOut = before.length := by
      rw [List.findIdx_append, List.findIdx_eq_length.2 hbefore]
      simp [hout]
    rw [hrun, hplace] at hagree
    obtain ⟨ending', hrun', hends'⟩ := hcourse server' hagree
    rw [SignOutBreaks, SignOutBreaks, hrun, hrun']
    refine ⟨rfl, fun hkept hkept' ↦ ?_, fun turn hturn hsignsOut fault houtcome ↦ ?_⟩
    · -- the turn that signs out is there, and what it ends in is let go on both sides
      have hlet {server : HttpServer} (hkept : ¬ ∃ turn ∈ turnsFrom server 0 (before ++ [out]),
          turn.request.signsOut = true ∧ turn.Breaks client) :
          ¬ Turn.Breaks client ⟨out, server before.length⟩ := fun hbreaks ↦
        have hlast := (mem_turnsFrom_concat_iff server hbefore hout).2 rfl
        hkept ⟨_, hlast.1, hlast.2, hbreaks⟩
      rw [hends.eq_ok (hlet hkept), hends'.eq_ok (hlet hkept')]
    · obtain rfl := (mem_turnsFrom_concat_iff server hbefore hout).1 ⟨hturn, hsignsOut⟩
      rw [hends.eq_error houtcome]
      rfl

/-- A server that signs everybody in, answers the token form, and replies to all that follows in one
way. -/
def formServer (form parting : HttpReply) : HttpServer
  | 0 => .response { status := 200, body := "<meta name=\"csrf-token\" content=\"c1\">".toUTF8 }
  | 1 => .response { status := 302, headers := [("location", "/")] }
  | 2 => .response { status := 200, body := "<meta name=\"csrf-token\" content=\"c2\">".toUTF8 }
  | 3 => form
  | _ => parting

/-- The page that shows the new token. -/
def shown : HttpReply := .response
  { status := 200
    body := "<input id=\"created-personal-access-token\" value=\"glpat-1\">".toUTF8 }

theorem agreeBefore_formServer (form parting parting' : HttpReply) :
    AgreeBefore 4 (formServer form parting) (formServer form parting') := by
  intro earlier hearlier
  match earlier, hearlier with
  | 0, _ | 1, _ | 2, _ | 3, _ => rfl

/-- Signing out is redirected to the start page. -/
def homeward : HttpReply := .response { status := 302, headers := [("location", "/")] }

/-- Signing out is redirected to an address that no host can be put into. -/
def astray : HttpReply := .response { status := 302, headers := [("location", "mailto:x")] }

theorem findIdx_signsOut_homeward :
    (issue .standard (formServer shown homeward) forgetfulRequest []).2.findIdx
      HttpRequest.signsOut = 4 := by
  decide +kernel

/-- The token is there even if the server cannot be reached for signing out. -/
theorem issue_signOut_unreachable :
    let reached := formServer shown homeward
    let lost := formServer shown (.failure "timed out")
    AgreeBefore ((issue .standard reached forgetfulRequest []).2.findIdx HttpRequest.signsOut)
        reached lost ∧
      ¬ SignOutBreaks .standard reached forgetfulRequest ∧
      ¬ SignOutBreaks .standard lost forgetfulRequest ∧
      (issue .standard lost forgetfulRequest []).1 =
        (issue .standard reached forgetfulRequest []).1 := by
  intro reached lost
  have hagree : AgreeBefore
      ((issue .standard reached forgetfulRequest []).2.findIdx HttpRequest.signsOut)
      reached lost := by
    rw [findIdx_signsOut_homeward]
    exact agreeBefore_formServer _ _ _
  have hreached : ¬ SignOutBreaks .standard reached forgetfulRequest := by decide +kernel
  have hlost : ¬ SignOutBreaks .standard lost forgetfulRequest := by decide +kernel
  exact ⟨hagree, hreached, hlost, (issue_signOut hagree).2.1 hreached hlost⟩

/-- **Signing out may cost the token.** -/
theorem issue_ne_of_signOut :
    ¬ ∀ (client : HttpClient) (server server' : HttpServer) (request : TokenRequest),
      AgreeBefore ((issue client server request []).2.findIdx HttpRequest.signsOut) server server' →
        (issue client server' request []).1 = (issue client server request []).1 := by
  intro h
  have hsame := h .standard (formServer shown homeward) (formServer shown astray)
    forgetfulRequest (by
      rw [findIdx_signsOut_homeward]
      exact agreeBefore_formServer _ _ _)
  have hhome : (issue .standard (formServer shown homeward) forgetfulRequest []).1.isOk = true := by
    decide +kernel
  have hastray : (issue .standard (formServer shown astray) forgetfulRequest []).1 =
      .error (.badAddress AddressError.unrooted.message) := by
    decide +kernel
  rw [← hsame, hastray] at hhome
  cases hhome

end TokenBroker.Issuer
