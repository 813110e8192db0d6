import TokenBroker.Proofs.GitLab.Page
import TokenBroker.Proofs.GitLab.SignOut

/-!
# Where a new token comes from

A token is looked for in one answer: the answer to the token form, or what its redirect leads to
(`Issuer.FinalAnswer`). A page gives the value of a tag for new tokens, which is never empty. A JSON
object gives a member, whatever value that has: the member `token` may be any value but null, even
the empty text, and the member `new_token` any value that counts as present.
-/

namespace TokenBroker

/-- A token that can be used: a text with at least one character. -/
def Json.IsToken (value : Json) : Prop :=
  ∃ text, value = .str text ∧ text ≠ ""

/-! ### What an object holds -/

namespace Json

/-- The member of an object that is looked at: the new one if it counts as present, or else the
other one. -/
inductive TokenMember (members : List (String × Json)) : Json → Prop
  | new {value : Json} (hvalue : Json.find? "new_token" members = some value)
      (htruthy : value.truthy = true) : TokenMember members value
  | other {value : Json}
      (hnew : ∀ new, Json.find? "new_token" members = some new → new.truthy = false)
      (hvalue : Json.find? "token" members = some value) : TokenMember members value

theorem firstPresent_of_truthy {members : List (String × Json)} {new : Json}
    (hnew : Json.find? "new_token" members = some new) (htruthy : new.truthy = true) :
    firstPresent (.obj members) ["new_token", "token"] = new := by
  simp [firstPresent, Json.get?, hnew, htruthy]

theorem firstPresent_of_falsy {members : List (String × Json)}
    (hnew : ∀ new, Json.find? "new_token" members = some new → new.truthy = false) :
    firstPresent (.obj members) ["new_token", "token"] =
      (Json.find? "token" members).getD .null := by
  have hfalsy : ((Json.find? "new_token" members).getD .null).truthy = false := by
    cases hfind : Json.find? "new_token" members with
    | none => rfl
    | some new => exact hnew new hfind
  simp [firstPresent, Json.get?, hfalsy]

theorem tokenMember_iff {members : List (String × Json)} {value : Json} (hnull : value ≠ .null) :
    TokenMember members value ↔ firstPresent (.obj members) ["new_token", "token"] = value := by
  by_cases hpresent : ∃ new, Json.find? "new_token" members = some new ∧ new.truthy = true
  · obtain ⟨new, hnew, htruthy⟩ := hpresent
    rw [firstPresent_of_truthy hnew htruthy]
    constructor
    · rintro (⟨hvalue, -⟩ | ⟨hfalsy, -⟩)
      · rw [hnew] at hvalue
        exact Option.some.inj hvalue
      · rw [hfalsy new hnew] at htruthy
        cases htruthy
    · rintro rfl
      exact .new hnew htruthy
  · have hfalsy : ∀ new, Json.find? "new_token" members = some new → new.truthy = false :=
      fun new hnew ↦ Bool.eq_false_iff.2 fun htruthy ↦ hpresent ⟨new, hnew, htruthy⟩
    rw [firstPresent_of_falsy hfalsy]
    constructor
    · rintro (⟨hvalue, htruthy⟩ | ⟨-, hvalue⟩)
      · exact absurd ⟨value, hvalue, htruthy⟩ hpresent
      · rw [hvalue, Option.getD_some]
    · intro hvalue
      cases hfind : Json.find? "token" members with
      | none =>
        rw [hfind] at hvalue
        exact absurd hvalue.symm hnull
      | some other =>
        rw [hfind, Option.getD_some] at hvalue
        exact .other hfalsy (hvalue ▸ hfind)

/-- An object gives the member that is looked at, unless that is null. -/
theorem newToken?_obj {members : List (String × Json)} {token : Json} :
    (obj members).newToken? = some token ↔ TokenMember members token ∧ token ≠ .null := by
  rw [newToken?]
  split
  · rename_i hnull
    refine iff_of_false (fun h ↦ by cases h) fun ⟨hmember, htoken⟩ ↦ htoken ?_
    rw [← (tokenMember_iff htoken).1 hmember, hnull]
  · rename_i hnull
    constructor
    · intro htoken
      have htoken := Option.some.inj htoken
      have hother : token ≠ .null := fun heq ↦ hnull (htoken.trans heq)
      exact ⟨(tokenMember_iff hother).2 htoken, hother⟩
    · rintro ⟨hmember, htoken⟩
      rw [(tokenMember_iff htoken).1 hmember]

end Json

/-! ### What an answer gives -/

namespace HttpResponse

variable {client : HttpClient} {answer : HttpResponse} {token : Json}

/-- The answer is declared to be JSON, and is an object with these members. -/
def HasMembers (client : HttpClient) (answer : HttpResponse) (members : List (String × Json)) :
    Prop :=
  answer.isJson = true ∧ client.json? answer = .ok (some (.obj members))

/-- What an answer gives as the new token. -/
inductive Gives (client : HttpClient) (answer : HttpResponse) : Json → Prop
  | member {members : List (String × Json)} {value : Json}
      (hmembers : answer.HasMembers client members) (hvalue : Json.TokenMember members value)
      (hnull : value ≠ .null) : Gives client answer value
  | tag {page token : String} (hpage : answer.isJson = false)
      (htext : client.text answer = .ok page) (hshows : Page.Shows page token) :
      Gives client answer (.str token)

/-- The member that is looked at is there, and it is no token. -/
def Slips (client : HttpClient) (answer : HttpResponse) : Prop :=
  ∃ members value, answer.HasMembers client members ∧ Json.TokenMember members value ∧
    value ≠ .null ∧ ¬ value.IsToken

theorem newToken?_of_isJson (hjson : answer.isJson = true) :
    client.newToken? answer = .ok (some token) ↔ ∃ members,
      client.json? answer = .ok (some (.obj members)) ∧ Json.TokenMember members token ∧
        token ≠ .null := by
  simp only [HttpClient.newToken?, if_pos hjson, ← Json.newToken?_obj]
  rcases client.json? answer with cause | _ | value
  · simp [Except.map]
  · simp [Except.map]
  · cases value <;> simp [Except.map, Json.newToken?]

theorem newToken?_of_page (hpage : answer.isJson = false) :
    client.newToken? answer = .ok (some token) ↔ ∃ page text,
      client.text answer = .ok page ∧ Page.createdToken? page = some text ∧
        token = .str text := by
  simp only [HttpClient.newToken?, hpage, if_neg Bool.false_ne_true]
  cases client.text answer with
  | error cause => simp [Except.map]
  | ok page => simp [Except.map, Option.map_eq_some_iff, eq_comm (a := token)]

theorem gives_of_newToken? (h : client.newToken? answer = .ok (some token)) :
    answer.Gives client token := by
  cases hjson : answer.isJson with
  | true =>
    obtain ⟨members, hmembers, hmember, hnull⟩ := (newToken?_of_isJson hjson).1 h
    exact .member ⟨hjson, hmembers⟩ hmember hnull
  | false =>
    obtain ⟨page, text, hpage, htext, rfl⟩ := (newToken?_of_page hjson).1 h
    exact .tag hjson hpage (Page.shows_of_createdToken? htext)

theorem exists_newToken?_iff :
    (∃ token, client.newToken? answer = .ok (some token)) ↔ ∃ token, answer.Gives client token := by
  constructor
  · exact fun ⟨token, h⟩ ↦ ⟨token, gives_of_newToken? h⟩
  · rintro ⟨_, ⟨hmembers, hmember, hnull⟩ | ⟨hjson, hpage, hshows⟩⟩
    · exact ⟨_, (newToken?_of_isJson hmembers.1).2 ⟨_, hmembers.2, hmember, hnull⟩⟩
    · rename_i page token
      cases hfound : Page.createdToken? page with
      | none => exact absurd hshows (Page.createdToken?_eq_none_iff.1 hfound _)
      | some text => exact ⟨_, (newToken?_of_page hjson).2 ⟨page, text, hpage, hfound, rfl⟩⟩

/-- What is given is a token, unless the answer slips. -/
theorem Gives.isToken_iff (h : answer.Gives client token) :
    token.IsToken ↔ ¬ answer.Slips client := by
  cases h with
  | @member members _ hmembers hvalue hnull =>
    constructor
    · rintro htoken ⟨members', value, hmembers', hvalue', hnull', hother⟩
      obtain rfl : members = members' := by
        simpa [hmembers.2] using hmembers'.2
      rw [← (Json.tokenMember_iff hnull').1 hvalue', (Json.tokenMember_iff hnull).1 hvalue]
        at hother
      exact hother htoken
    · exact fun hslips ↦ by_contra fun htoken ↦
        hslips ⟨members, token, hmembers, hvalue, hnull, htoken⟩
  | @tag _ text hpage _ hshows =>
    refine iff_of_true ⟨text, rfl, hshows.ne_empty⟩ ?_
    rintro ⟨_, _, ⟨hjson, -⟩, -⟩
    rw [hpage] at hjson
    cases hjson

end HttpResponse

namespace Issuer

variable {client : HttpClient} {server : HttpServer} {site : RequestUrl} {request : TokenRequest}

/-! ### The final answer -/

/-- The answer that the token is looked for in: the one to the token form, or the page that its
redirect leads to. -/
inductive FinalAnswer (client : HttpClient) (site : RequestUrl) : List Turn → HttpResponse → Prop
  | direct {form : Turn} {later : List Turn} {final : HttpResponse}
      (hform : form.request.sendsTokenForm = true) (hanswer : form.outcome client = .ok final)
      (hdirect : final.isRedirect = false) : FinalAnswer client site (form :: later) final
  | led {form page : Turn} {later : List Turn} {next : RequestUrl} {final : HttpResponse}
      (hform : form.request.sendsTokenForm = true) (hleads : form.LeadsTo client site next)
      (hpage : page.request = getRequest next) (hanswer : page.outcome client = .ok final) :
      FinalAnswer client site (form :: page :: later) final
  | later {turn : Turn} {turns : List Turn} {final : HttpResponse}
      (hother : turn.request.sendsTokenForm = false)
      (hlater : FinalAnswer client site turns final) : FinalAnswer client site (turn :: turns) final

theorem FinalAnswer.exists_form {turns : List Turn} {final : HttpResponse}
    (h : FinalAnswer client site turns final) :
    ∃ turn ∈ turns, turn.request.sendsTokenForm = true := by
  induction h with
  | direct hform | led hform => exact ⟨_, List.mem_cons_self, hform⟩
  | later _ _ ih =>
    obtain ⟨turn, hturn, hform⟩ := ih
    exact ⟨turn, List.mem_cons_of_mem _ hturn, hform⟩

/-- Turns before the token form make no difference. -/
theorem finalAnswer_append_iff {before after : List Turn} {final : HttpResponse}
    (hbefore : ∀ turn ∈ before, turn.request.sendsTokenForm = false) :
    FinalAnswer client site (before ++ after) final ↔ FinalAnswer client site after final := by
  induction before with
  | nil => rfl
  | cons turn rest ih =>
    obtain ⟨hturn, hrest⟩ := List.forall_mem_cons.1 hbefore
    rw [← ih hrest, List.cons_append]
    generalize rest ++ after = turns
    constructor
    · intro h
      cases h with
      | direct hform | led hform => rw [hturn] at hform; cases hform
      | later _ hlater => exact hlater
    · exact .later hturn

theorem finalAnswer_form_iff {form : Turn} {later : List Turn} {answer final : HttpResponse}
    (hform : form.request.sendsTokenForm = true) (hanswer : form.outcome client = .ok answer) :
    FinalAnswer client site (form :: later) final ↔ answer.isRedirect = false ∧ answer = final ∨
      ∃ page rest next, later = page :: rest ∧ form.LeadsTo client site next ∧
        page.request = getRequest next ∧ page.outcome client = .ok final := by
  constructor
  · intro h
    cases h with
    | direct _ hfinal hdirect =>
      rw [hanswer] at hfinal
      cases hfinal
      exact .inl ⟨hdirect, rfl⟩
    | led _ hleads hpage hfinal => exact .inr ⟨_, _, _, rfl, hleads, hpage, hfinal⟩
    | later hother =>
      rw [hform] at hother
      cases hother
  · rintro (⟨hdirect, rfl⟩ | ⟨page, rest, next, rfl, hleads, hpage, hfinal⟩)
    · exact .direct hform hanswer hdirect
    · exact .led hform hleads hpage hfinal

/-- Without an answer to the token form there is no final answer. -/
theorem not_finalAnswer_of_error {form : Turn} {later : List Turn} {cause : ClientError}
    (hform : form.request.sendsTokenForm = true) (herror : form.outcome client = .error cause)
    (final : HttpResponse) : ¬ FinalAnswer client site (form :: later) final := by
  intro h
  cases h with
  | direct _ hanswer => rw [herror] at hanswer; cases hanswer
  | led _ hleads => exact (Turn.of_error herror).2.2 _ hleads
  | later hother => rw [hform] at hother; cases hother

/-- Without a token form there is no final answer. -/
theorem not_finalAnswer_of_forall {turns : List Turn}
    (hturns : ∀ turn ∈ turns, turn.request.sendsTokenForm = false) (final : HttpResponse) :
    ¬ FinalAnswer client site turns final := by
  intro h
  obtain ⟨turn, hturn, hform⟩ := h.exists_form
  rw [hturns turn hturn] at hform
  cases hform

/-- What the answer to the form leads to is the final answer, whatever comes after it that is no
page. -/
theorem Followed.finalAnswer_iff {answer final : HttpResponse} {form : Turn}
    {last after : List Turn} {result : Except IssueError HttpResponse}
    (h : Followed client site answer last result) (hform : form.request.sendsTokenForm = true)
    (hanswer : form.outcome client = .ok answer) :
    FinalAnswer client site (form :: (last ++ after)) final ↔ result = .ok final := by
  simp only [finalAnswer_form_iff hform hanswer, Turn.leadsTo_iff hanswer]
  cases h with
  | direct hdirect => simp [hdirect]
  | lost hleads hlocation => simp [hleads, hlocation]
  | @led location _ _ hleads hlocation hnext =>
    cases haddress : client.locate site location with
    | error cause =>
      obtain ⟨rfl, rfl⟩ := hnext.of_nowhere haddress
      simp [hleads, hlocation, haddress, Except.mapError]
    | ok address =>
      obtain ⟨page, rfl, hpage, rfl⟩ := hnext.exists_turn haddress
      rcases hfinal : page.outcome client with cause | found <;>
        simp [hleads, hlocation, haddress, hpage, hfinal, Except.mapError]

/-- A search only opens pages. -/
theorem PageSearch.forall_request {P : HttpRequest → Prop} {status? : Option Int}
    {paths : List String} {turns : List Turn} {result : Except IssueError (String × HttpResponse)}
    (h : PageSearch client site status? paths turns result)
    (hget : ∀ address, P (getRequest address)) : ∀ turn ∈ turns, P turn.request := by
  induction h with
  | exhausted => exact List.forall_mem_nil _
  | unanswered hpage | found hpage => exact hpage.forall_request hget
  | missing hpage _ _ ih => exact List.forall_mem_append.2 ⟨hpage.forall_request hget, ih⟩

theorem PageSearch.sendsTokenForm_eq_false {status? : Option Int} {paths : List String}
    {turns : List Turn} {result : Except IssueError (String × HttpResponse)}
    (h : PageSearch client site status? paths turns result) :
    ∀ turn ∈ turns, turn.request.sendsTokenForm = false :=
  h.forall_request (P := (HttpRequest.sendsTokenForm · = false)) fun _ ↦ rfl

theorem SignIn.sendsTokenForm_eq_false {username password : Json} {turns : List Turn}
    {result : Except IssueError String} (h : SignIn client site username password turns result) :
    ∀ turn ∈ turns, turn.request.sendsTokenForm = false :=
  h.forall_request (P := (HttpRequest.sendsTokenForm · = false)) (fun _ ↦ rfl)
    (by simp [HttpRequest.sendsTokenForm])

theorem readToken_eq_ok_iff {answer : HttpResponse} {token : Json} :
    readToken client answer = .ok token ↔
      answer.status < 400 ∧ client.newToken? answer = .ok (some token) := by
  rw [readToken]
  split
  · rename_i hstatus
    refine iff_of_false (fun h ↦ ?_) fun h ↦ absurd h.1 (Int.not_lt.2 hstatus)
    obtain ⟨reason, -, h⟩ := Except.bind_eq_ok_iff.1 h
    obtain ⟨excerpt, -, h⟩ := Except.bind_eq_ok_iff.1 h
    cases h
  · rename_i hstatus
    rw [and_iff_right (Int.not_le.1 hstatus)]
    rcases client.newToken? answer with cause | _ | found <;>
      simp [Except.mapError, bind, Except.bind, throw, throwThe, MonadExceptOf.throw, pure,
        Except.pure]

/-- The token of a creation is that of the final answer. -/
theorem Creation.ok_iff {turns after : List Turn} {result : Except IssueError Json} {token : Json}
    (h : Creation client site request turns result)
    (hafter : ∀ turn ∈ after, turn.request.sendsTokenForm = false) :
    result = .ok token ↔
      ∃ final, FinalAnswer client site (turns ++ after) final ∧
        readToken client final = .ok token := by
  -- where no form is sent there is no final answer
  have hnone {turns : List Turn} {error : IssueError}
      (hturns : ∀ turn ∈ turns, turn.request.sendsTokenForm = false) :
      (.error error : Except IssueError Json) = .ok token ↔
        ∃ final, FinalAnswer client site (turns ++ after) final ∧
          readToken client final = .ok token := by
    refine iff_of_false (fun h ↦ by cases h) ?_
    rintro ⟨final, hfinal, -⟩
    exact not_finalAnswer_of_forall (List.forall_mem_append.2 ⟨hturns, hafter⟩) final hfinal
  cases h with
  | unopened hsearch | unread hsearch | unmarked hsearch =>
    exact hnone hsearch.sendsTokenForm_eq_false
  | undone hsearch _ hform =>
    obtain ⟨-, -, ⟨address, haddress⟩, -⟩ := hsearch.exists_page
    obtain ⟨form, rfl, hrequest, herror⟩ | ⟨_, _, _, _, rfl, _⟩ := hform.turn_or_refused haddress
    · have hsends : form.request.sendsTokenForm = true := by
        simp [hrequest, HttpRequest.sendsTokenForm]
      rw [List.append_assoc]
      simp only [finalAnswer_append_iff hsearch.sendsTokenForm_eq_false]
      refine iff_of_false (fun h ↦ by cases h) ?_
      rintro ⟨final, hfinal, -⟩
      exact not_finalAnswer_of_error hsends herror final hfinal
    · rw [List.append_nil]
      exact hnone hsearch.sendsTokenForm_eq_false
  | unfollowed hsearch _ hform hfollowed | done hsearch _ hform hfollowed =>
    obtain ⟨form, rfl, hsends, hanswer⟩ := hform.exists_form hsearch
    rw [List.append_assoc, List.append_assoc]
    simp only [finalAnswer_append_iff hsearch.sendsTokenForm_eq_false, List.singleton_append,
      hfollowed.finalAnswer_iff hsends hanswer]
    simp

/-- There is no way to sign out: the client breaks where it should give the address for that. -/
def CannotLeave (client : HttpClient) (request : TokenRequest) : Prop :=
  ∃ site fault, client.site (baseOf request.serverUrl) = .ok site ∧
    client.locate site signOutPath = .error (.broken fault)

/-- The token of a session is that of the final answer, unless the client breaks on signing out. -/
theorem Session.ok_iff {turns : List Turn} {result : Except IssueError Json} {token : Json}
    (h : Session client site request turns result) :
    result = .ok token ↔
      (∃ final, FinalAnswer client site turns final ∧ readToken client final = .ok token) ∧
        (∀ fault, client.locate site signOutPath ≠ .error (.broken fault)) ∧
        ∀ turn ∈ turns, turn.request.signsOut = true → ¬ turn.Breaks client := by
  cases h with
  | stopped hsignIn =>
    refine iff_of_false (fun h ↦ by cases h) ?_
    rintro ⟨⟨final, hfinal, -⟩, -⟩
    exact not_finalAnswer_of_forall hsignIn.sendsTokenForm_eq_false final hfinal
  | @signedIn before inner last _ result ending hsignIn hcreation hsignOut =>
    simp only [finalAnswer_append_iff hsignIn.sendsTokenForm_eq_false]
    have hquiet : ∀ turn ∈ before ++ inner, turn.request.signsOut = false :=
      List.forall_mem_append.2 ⟨hsignIn.signsOut_eq_false, hcreation.signsOut_eq_false⟩
    have hsilent {last : List Turn} (hlast : ∀ turn ∈ last, turn.request.sendsTokenForm = false) :=
      @Creation.ok_iff client site request inner last result token hcreation hlast
    cases haddress : client.locate site signOutPath with
    | error cause =>
      obtain ⟨rfl, hending⟩ := hsignOut.of_nowhere haddress
      rw [← hsilent (List.forall_mem_nil _), List.append_nil]
      have hout : ∀ turn ∈ before ++ inner, turn.request.signsOut = true → ¬ turn.Breaks client :=
        fun turn hturn hsignsOut ↦ by rw [hquiet turn hturn] at hsignsOut; cases hsignsOut
      obtain ⟨⟨reason, rfl⟩, rfl⟩ | ⟨⟨fault, rfl⟩, rfl⟩ := hending
      · exact (and_iff_left ⟨fun fault h ↦ (by cases h), hout⟩).symm
      · simp [Except.bind]
    | ok address =>
      obtain ⟨out, rfl, hrequest, hends⟩ := hsignOut.ends haddress
      have hsigns : out.request.signsOut = true := by simp [hrequest, HttpRequest.signsOut]
      have hout : (∀ turn ∈ before ++ (inner ++ [out]),
          turn.request.signsOut = true → ¬ turn.Breaks client) ↔ ¬ out.Breaks client := by
        constructor
        · exact fun h ↦ h out (by simp) hsigns
        · intro hkept turn hturn hsignsOut
          rw [← List.append_assoc] at hturn
          obtain hturn | hturn := List.mem_append.1 hturn
          · rw [hquiet turn hturn] at hsignsOut
            cases hsignsOut
          · rwa [List.mem_singleton.1 hturn]
      rw [hout, ← hsilent (by simp [hrequest, HttpRequest.sendsTokenForm])]
      cases hends with
      | letGo hkept => simp [Except.bind, hkept]
      | broken houtcome =>
        exact iff_of_false (fun h ↦ by cases h) fun h ↦ h.2.2 ⟨_, houtcome⟩

/-! ### The conversation -/

/-- The final answer of the conversation with a server. -/
def IsFinal (client : HttpClient) (server : HttpServer) (request : TokenRequest)
    (final : HttpResponse) : Prop :=
  ∃ site, client.site (baseOf request.serverUrl) = .ok site ∧
    FinalAnswer client site (turnsFrom server 0 (issue client server request []).2) final

theorem issue_eq_ok_iff {token : Json} :
    (issue client server request []).1 = .ok token ↔
      (∃ final, IsFinal client server request final ∧ final.status < 400 ∧
        client.newToken? final = .ok (some token)) ∧
        ¬ CannotLeave client request ∧ ¬ SignOutBreaks client server request := by
  simp only [← readToken_eq_ok_iff, IsFinal, SignOutBreaks, CannotLeave]
  cases hsite : client.site (baseOf request.serverUrl) with
  | error cause =>
    rw [issue_of_error hsite]
    simp
  | ok site =>
    obtain ⟨requests, result, hrun, hsession⟩ := @follows_converse client server site request 0
    rw [issue_of_ok hsite, hrun [] rfl, List.nil_append]
    have hok : result.mapError (·.fault (baseOf request.serverUrl)) = .ok token ↔
        result = .ok token := by
      cases result <;> simp [Except.mapError]
    dsimp only
    rw [hok, hsession.ok_iff]
    simp

/-- **Where a new token comes from**, whatever the client is. The answer is a token exactly if the
final answer has no error status and gives one, and the client does not break on signing out; then
it is what the final answer gives, and it can be used unless that slips. Every other conversation
ends in a fault. -/
theorem issue_token (client : HttpClient) (server : HttpServer) (request : TokenRequest) :
    ((∃ token, (issue client server request []).1 = .ok token) ↔
      (∃ final token, IsFinal client server request final ∧ final.status < 400 ∧
        final.Gives client token) ∧
        ¬ CannotLeave client request ∧ ¬ SignOutBreaks client server request) ∧
    ∀ token, (issue client server request []).1 = .ok token →
      ∃ final, IsFinal client server request final ∧ final.status < 400 ∧
        final.Gives client token ∧ (token.IsToken ↔ ¬ final.Slips client) := by
  constructor
  · simp only [issue_eq_ok_iff, exists_and_right]
    refine and_congr_left' ⟨?_, ?_⟩
    · rintro ⟨token, final, hfinal, hstatus, hnew⟩
      exact ⟨final, token, hfinal, hstatus, HttpResponse.gives_of_newToken? hnew⟩
    · rintro ⟨final, given, hfinal, hstatus, hgives⟩
      obtain ⟨token, hnew⟩ := HttpResponse.exists_newToken?_iff.2 ⟨given, hgives⟩
      exact ⟨token, final, hfinal, hstatus, hnew⟩
  · intro token htoken
    obtain ⟨⟨final, hfinal, hstatus, hnew⟩, -⟩ := issue_eq_ok_iff.1 htoken
    have hgives : final.Gives client token := HttpResponse.gives_of_newToken? hnew
    exact ⟨final, hfinal, hstatus, hgives, hgives.isToken_iff⟩

/-- The token of a page that shows one. -/
theorem issue_token_shown :
    (issue .standard (formServer shown homeward) forgetfulRequest []).1 = .ok (.str "glpat-1") ∧
      ∃ final, IsFinal .standard (formServer shown homeward) forgetfulRequest final ∧
        final.status < 400 ∧ final.Gives .standard (.str "glpat-1") ∧
        ((Json.str "glpat-1").IsToken ↔ ¬ final.Slips .standard) := by
  have hissued : (issue .standard (formServer shown homeward) forgetfulRequest []).1 =
      .ok (.str "glpat-1") := by
    decide +kernel
  exact ⟨hissued,
    (issue_token .standard (formServer shown homeward) forgetfulRequest).2 _ hissued⟩

/-- An object that says that the token is empty. -/
def emptyToken : HttpReply := .response
  { status := 200
    headers := [("content-type", "application/json")]
    body := "\x7b\"token\": \"\"\x7d".toUTF8 }

/-- **The new token may be empty.** -/
theorem issue_empty_token :
    ¬ ∀ (client : HttpClient) (server : HttpServer) (request : TokenRequest) (token : Json),
      (issue client server request []).1 = .ok token → token.IsToken := by
  intro h
  have hissued : (issue .standard (formServer emptyToken homeward) forgetfulRequest []).1 =
      .ok (.str "") := by
    decide +kernel
  obtain ⟨text, htext, hne⟩ := h _ _ _ _ hissued
  cases htext
  exact hne rfl

end Issuer

end TokenBroker
