import TokenBroker.Proofs.Except
import TokenBroker.Proofs.GitLab.Protocol
import TokenBroker.ServerUrl.Basic

/-!
# How a conversation fails

Most errors of a conversation are reported as a failure to create the token. The others stray. Each
of them has an origin (`Issuer.Origin`): an answer to the token form that leads to a place it does
not tell, or a fault that the client raises where it is used. The other way round, a form that is
lost or a turn that breaks makes every conversation stray (`Accounts.strays`).
-/

namespace TokenBroker

/-- An error that is not reported as a failure to create a token. -/
def IssueError.Stray : IssueError → Prop
  | .client (.broken _) | .noLocation => True
  | _ => False

namespace Issuer

variable {α β : Type} {client : HttpClient} {server : HttpServer} {site : RequestUrl}
  {request : TokenRequest}

/-- The result is an error that is not reported as a failure to create a token. -/
def Strays (result : Except IssueError α) : Prop :=
  ∃ error, result = .error error ∧ error.Stray

@[simp] theorem not_strays_ok (answer : α) : ¬ Strays (.ok answer) := by
  rintro ⟨error, h, -⟩
  cases h

@[simp] theorem strays_error_iff {error : IssueError} :
    Strays (.error error : Except IssueError α) ↔ error.Stray := by
  simp [Strays]

/-! ### Turns that lead astray -/

/-- The client breaks on the reply. -/
def Turn.Breaks (client : HttpClient) (turn : Turn) : Prop :=
  ∃ fault, turn.outcome client = .error (.broken fault)

/-- The turn sent the token form and was answered by a redirect without a location. -/
def Turn.LosesForm (client : HttpClient) (turn : Turn) : Prop :=
  turn.request.sendsTokenForm = true ∧ ∃ answer, turn.outcome client = .ok answer ∧
    300 ≤ answer.status ∧ answer.status ≤ 399 ∧ answer.header? "location" = none

def Turn.Astray (client : HttpClient) (turn : Turn) : Prop :=
  turn.Breaks client ∨ turn.LosesForm client

@[simp] theorem strays_outcome_iff {turn : Turn} :
    Strays ((turn.outcome client).mapError .client) ↔ turn.Breaks client := by
  rw [Turn.Breaks]
  rcases turn.outcome client with (reason | fault) | answer <;>
    simp [Except.mapError, IssueError.Stray]

/-- A turn with an answer does not break. -/
theorem Turn.not_breaks {turn : Turn} {answer : HttpResponse}
    (h : turn.outcome client = .ok answer) : ¬ turn.Breaks client := by
  simp [Turn.Breaks, h]

/-! ### Where strays come from -/

/-- Where the issuer asks for something. -/
def paths : List String :=
  [signInPath, signOutPath] ++ tokenPagePaths

/-- Where an error comes from, in a conversation of some turns: the token form is lost, or the
client raises a fault over an address, over a header with a token that it has been handed, over a
reply, or over what is in an answer. -/
inductive Origin (client : HttpClient) (site : RequestUrl) (turns : List Turn) : IssueError → Prop
  | lost {turn : Turn} (hturn : turn ∈ turns) (hlost : turn.LosesForm client) :
      Origin client site turns .noLocation
  | address {reference : String} {fault : ForeignFault}
      (hasked : reference ∈ paths ∨ ∃ turn ∈ turns, turn.Names client reference)
      (hfault : client.locate site reference = .error (.broken fault)) :
      Origin client site turns (.client (.broken fault))
  | header {turn : Turn} {csrf : String} {header : String × String} {fault : ForeignFault}
      (hturn : turn ∈ turns) (hhands : turn.Hands client csrf)
      (hheader : header ∈ tokenFormHeaders csrf)
      (hfault : client.checkHeader header = .error (.broken fault)) :
      Origin client site turns (.client (.broken fault))
  | reply {turn : Turn} {fault : ForeignFault} (hturn : turn ∈ turns)
      (hfault : turn.outcome client = .error (.broken fault)) :
      Origin client site turns (.client (.broken fault))
  | body {turn : Turn} {answer : HttpResponse} {fault : ForeignFault} (hturn : turn ∈ turns)
      (hanswer : turn.outcome client = .ok answer)
      (hfault : client.text answer = .error (.broken fault) ∨
        client.json? answer = .error (.broken fault)) :
      Origin client site turns (.client (.broken fault))

/-- A stage of a conversation accounts for its strays: they have an origin in the conversation, and
no turn of the stage leads astray without one. -/
structure Accounts (client : HttpClient) (site : RequestUrl) (whole turns : List Turn)
    (result : Except IssueError α) : Prop where
  origin : ∀ error, result = .error error → error.Stray → Origin client site whole error
  strays : (∃ turn ∈ turns, turn.Astray client) → Strays result

namespace Accounts

variable {whole before after : List Turn}

/-- An end that does not look at replies. -/
theorem silent {result : Except IssueError α}
    (horigin : ∀ error, result = .error error → error.Stray → Origin client site whole error) :
    Accounts client site whole [] result where
  origin := horigin
  strays := by simp

/-- Where there is an answer no turn has led astray, so that only the end matters. -/
theorem replace {answer : α} {result : Except IssueError β}
    (h : Accounts client site whole before (.ok answer))
    (horigin : ∀ error, result = .error error → error.Stray → Origin client site whole error) :
    Accounts client site whole before result where
  origin := horigin
  strays hturn := absurd (h.strays hturn) (not_strays_ok answer)

/-- An end that never strays. -/
theorem kept {answer : α} {result : Except IssueError β}
    (h : Accounts client site whole before (.ok answer)) (hresult : ¬ Strays result) :
    Accounts client site whole before result :=
  h.replace fun error heq hstray ↦ absurd ⟨error, heq, hstray⟩ hresult

theorem error {error : IssueError}
    (h : Accounts client site whole before (.error error : Except IssueError α)) :
    Accounts client site whole before (.error error : Except IssueError β) where
  origin := by
    rintro _ ⟨⟩ hstray
    exact h.origin error rfl hstray
  strays hturn := strays_error_iff.2 (strays_error_iff.1 (h.strays hturn))

theorem append {answer : α} {result : Except IssueError β}
    (h : Accounts client site whole before (.ok answer))
    (hafter : Accounts client site whole after result) :
    Accounts client site whole (before ++ after) result where
  origin := hafter.origin
  strays := by
    rintro ⟨turn, hturn, hastray⟩
    obtain hturn | hturn := List.mem_append.1 hturn
    · exact absurd (h.strays ⟨turn, hturn, hastray⟩) (not_strays_ok answer)
    · exact hafter.strays ⟨turn, hturn, hastray⟩

end Accounts

section

variable {whole : List Turn}

/-- What is asked for where nothing but the client strays. -/
theorem Asked.accounts {reference : String} {headers : List (String × String)}
    {ask : RequestUrl → HttpRequest} {turns : List Turn}
    {result : Except ClientError HttpResponse}
    (h : Asked client site reference headers ask turns result)
    (hreference : reference ∈ paths ∨ ∃ turn ∈ whole, turn.Names client reference)
    (hheaders : ∀ header ∈ headers, ∃ turn ∈ whole, ∃ csrf, turn.Hands client csrf ∧
      header ∈ tokenFormHeaders csrf)
    (hturns : turns ⊆ whole)
    (hask : (∃ cause, result = .error cause) ∨ ∀ address, (ask address).sendsTokenForm = false) :
    Accounts client site whole turns (result.mapError .client) := by
  cases haddress : client.locate site reference with
  | error cause =>
    obtain ⟨rfl, rfl⟩ := h.of_nowhere haddress
    refine .silent ?_
    rintro _ ⟨⟩ hstray
    cases cause with
    | transfer => cases hstray
    | broken fault => exact .address hreference haddress
  | ok address =>
    obtain ⟨turn, rfl, hrequest, rfl⟩ | ⟨header, hmem, cause, hcheck, rfl, rfl⟩ :=
      h.turn_or_refused haddress
    · constructor
      · intro error herror hstray
        cases houtcome : turn.outcome client with
        | ok answer => rw [houtcome] at herror; cases herror
        | error cause =>
          rw [houtcome] at herror
          cases herror
          cases cause with
          | transfer => cases hstray
          | broken fault => exact .reply (hturns List.mem_cons_self) houtcome
      · rintro ⟨turn', hturn', hbreaks | ⟨hform, answer, hanswer, -⟩⟩ <;>
          obtain rfl := List.mem_singleton.1 hturn'
        · exact strays_outcome_iff.2 hbreaks
        · obtain ⟨cause, herror⟩ | hask := hask
          · rw [herror] at hanswer
            cases hanswer
          · rw [hrequest, hask] at hform
            cases hform
    · refine .silent ?_
      rintro _ ⟨⟩ hstray
      cases cause with
      | transfer => cases hstray
      | broken fault =>
        obtain ⟨turn, hturn, csrf, hhands, hheader⟩ := hheaders header hmem
        exact .header hturn hhands hheader hcheck

theorem Asked.accounts_plain {reference : String} {ask : RequestUrl → HttpRequest}
    {turns : List Turn} {result : Except ClientError HttpResponse}
    (h : Asked client site reference [] ask turns result) (hreference : reference ∈ paths)
    (hturns : turns ⊆ whole) (hask : ∀ address, (ask address).sendsTokenForm = false) :
    Accounts client site whole turns (result.mapError .client) :=
  h.accounts (.inl hreference) (by simp) hturns (.inr hask)

/-- Where a page has been answered, there is the turn that it answers. -/
theorem Asked.exists_answer {reference : String} {headers : List (String × String)}
    {ask : RequestUrl → HttpRequest} {turns : List Turn} {answer : HttpResponse}
    (h : Asked client site reference headers ask turns (.ok answer)) (hturns : turns ⊆ whole) :
    ∃ turn ∈ whole, turn.outcome client = .ok answer := by
  cases h with
  | turn _ _ hresult => exact ⟨_, hturns List.mem_cons_self, hresult⟩

/-- Reading the token of a page strays only with the client. -/
theorem origin_csrfToken? {turn : Turn} {page : HttpResponse} {cause : ClientError}
    (hturn : turn ∈ whole) (hpage : turn.outcome client = .ok page)
    (hcsrf : client.csrfToken? page = .error cause) {error : IssueError}
    (herror : (.error (.client cause) : Except IssueError α) = .error error)
    (hstray : error.Stray) : Origin client site whole error := by
  cases herror
  cases cause with
  | transfer => cases hstray
  | broken fault =>
    refine .body hturn hpage (.inl ?_)
    rwa [HttpClient.csrfToken?, Except.map_eq_error_iff] at hcsrf

theorem SignIn.accounts {username password : Json} {turns : List Turn}
    {result : Except IssueError String} (h : SignIn client site username password turns result)
    (hturns : turns ⊆ whole) : Accounts client site whole turns result := by
  have hpath : signInPath ∈ paths := List.mem_cons_self
  have hget {turns : List Turn} {result : Except ClientError HttpResponse}
      (h : Opened client site signInPath turns result) (hturns : turns ⊆ whole) :=
    h.accounts_plain hpath hturns fun _ ↦ rfl
  have hpost {csrf : String} {turns : List Turn} {result : Except ClientError HttpResponse}
      (h : Posted client site signInPath (signInForm csrf username password) [] turns result)
      (hturns : turns ⊆ whole) :=
    h.accounts_plain hpath hturns fun address ↦ by simp [HttpRequest.sendsTokenForm]
  cases h with
  | unanswered hpage => exact (hget hpage hturns).error
  | missing hpage | unmarked hpage => exact (hget hpage hturns).kept (by simp [IssueError.Stray])
  | unread hpage _ hcsrf =>
    obtain ⟨turn, hturn, houtcome⟩ := hpage.exists_answer hturns
    exact (hget hpage hturns).replace fun error ↦ origin_csrfToken? hturn houtcome hcsrf
  | undone hpage _ _ hlogin =>
    obtain ⟨hturns, hlater⟩ := List.append_subset.1 hturns
    exact (hget hpage hturns).append (hpost hlogin hlater).error
  | refused hpage _ _ hlogin =>
    obtain ⟨hturns, hlater⟩ := List.append_subset.1 hturns
    exact (hget hpage hturns).append ((hpost hlogin hlater).kept (by simp [IssueError.Stray]))
  | done hpage _ _ hlogin =>
    obtain ⟨hturns, hlater⟩ := List.append_subset.1 hturns
    exact (hget hpage hturns).append ((hpost hlogin hlater).kept (not_strays_ok _))

theorem SignOut.accounts {csrf : String} {turns : List Turn} {ending : Except IssueError Unit}
    (h : SignOut client site csrf turns ending) (hturns : turns ⊆ whole) :
    Accounts client site whole turns ending := by
  have hout {result : Except ClientError HttpResponse}
      (h : Posted client site signOutPath (signOutForm csrf) [] turns result) :=
    h.accounts_plain (by simp [paths]) hturns fun _ ↦ rfl
  cases h with
  | answered h => exact (hout h).kept (not_strays_ok ())
  | unreachable h =>
    exact ⟨by simp, fun hturn ↦ absurd ((hout h).strays hturn) (by
      simp [Except.mapError, IssueError.Stray])⟩
  | broken h => exact (hout h).error

theorem PageSearch.accounts {status? : Option Int} {found : List String} {turns : List Turn}
    {result : Except IssueError (String × HttpResponse)} (hpaths : found ⊆ paths)
    (h : PageSearch client site status? found turns result) (hturns : turns ⊆ whole) :
    Accounts client site whole turns result := by
  induction h with
  | exhausted => exact .silent (by simp [IssueError.Stray])
  | unanswered hpage =>
    exact (hpage.accounts_plain (hpaths List.mem_cons_self) hturns fun _ ↦ rfl).error
  | found hpage =>
    exact (hpage.accounts_plain (hpaths List.mem_cons_self) hturns fun _ ↦ rfl).kept
      (not_strays_ok _)
  | missing hpage _ _ ih =>
    obtain ⟨hturns, hlater⟩ := List.append_subset.1 hturns
    exact (hpage.accounts_plain (hpaths List.mem_cons_self) hturns fun _ ↦ rfl).append
      (ih (fun path hpath ↦ hpaths (List.mem_cons_of_mem _ hpath)) hlater)

/-- The page that a search ends with, and where it was asked for. -/
theorem PageSearch.exists_page {status? : Option Int} {found : List String} {turns : List Turn}
    {path : String} {page : HttpResponse}
    (h : PageSearch client site status? found turns (.ok (path, page))) :
    path ∈ found ∧ page.status = 200 ∧ (∃ address, client.locate site path = .ok address) ∧
      ∃ turn ∈ turns, turn.outcome client = .ok page := by
  generalize hresult : Except.ok (path, page) = result at h
  induction h with
  | exhausted | unanswered => cases hresult
  | found hpage hstatus =>
    cases hresult
    exact ⟨List.mem_cons_self, hstatus, hpage.exists_locate,
      hpage.exists_answer (List.Subset.refl _)⟩
  | missing _ _ _ ih =>
    obtain ⟨hpath, hstatus, haddress, turn, hturn, houtcome⟩ := ih hresult
    exact ⟨List.mem_cons_of_mem _ hpath, hstatus, haddress, turn, List.mem_append_right _ hturn,
      houtcome⟩

/-- Where the token form has been answered, there is the turn that sent it. -/
theorem Asked.exists_form {csrf path : String} {page answer : HttpResponse}
    {turns later : List Turn} {status? : Option Int} {found : List String}
    (h : Posted client site path (tokenForm csrf request) (tokenFormHeaders csrf) later
      (.ok answer))
    (hsearch : PageSearch client site status? found turns (.ok (path, page))) :
    ∃ form : Turn, later = [form] ∧ form.request.sendsTokenForm = true ∧
      form.outcome client = .ok answer := by
  obtain ⟨-, -, ⟨address, haddress⟩, -⟩ := hsearch.exists_page
  obtain ⟨form, rfl, hrequest, hanswer⟩ | ⟨_, _, _, _, _, hnone⟩ := h.turn_or_refused haddress
  · exact ⟨form, rfl, by simp [hrequest, HttpRequest.sendsTokenForm], hanswer⟩
  · cases hnone

/-- The answer to the token form, and what it leads to, strays with the client or if the form is
lost. -/
theorem Followed.accounts {answer : HttpResponse} {form : Turn} {last : List Turn}
    {result : Except IssueError HttpResponse} (h : Followed client site answer last result)
    (hform : form.request.sendsTokenForm = true) (hanswer : form.outcome client = .ok answer)
    (hturns : form :: last ⊆ whole) : Accounts client site whole (form :: last) result := by
  obtain ⟨hmem, hlast⟩ := List.cons_subset.1 hturns
  have hlost : form.Astray client ↔
      answer.isRedirect = true ∧ answer.header? "location" = none := by
    simp [Turn.Astray, Turn.not_breaks hanswer, Turn.LosesForm, hform, hanswer,
      HttpResponse.isRedirect, and_assoc]
  cases h with
  | direct hdirect => exact ⟨by simp, by simp [hlost, hdirect]⟩
  | lost hleads hlocation =>
    refine ⟨?_, fun _ ↦ by simp [IssueError.Stray]⟩
    rintro _ ⟨⟩ -
    simp only [HttpResponse.isRedirect, Bool.and_eq_true, decide_eq_true_eq] at hleads
    exact .lost hmem ⟨hform, answer, hanswer, hleads.1, hleads.2, hlocation⟩
  | @led location _ _ hleads hlocation hnext =>
    have hnamed : form.Names client location := (Turn.names_iff hanswer).2 ⟨hleads, hlocation⟩
    have hlater := hnext.accounts (.inr ⟨form, hmem, hnamed⟩) (by simp) hlast
      (.inr fun _ ↦ rfl)
    refine ⟨hlater.origin, ?_⟩
    rintro ⟨turn, hturn, hastray⟩
    obtain rfl | hturn := List.mem_cons.1 hturn
    · rw [hlost, hlocation] at hastray
      cases hastray.2
    · exact hlater.strays ⟨turn, hturn, hastray⟩

/-- What the client fails to read of an answer is the text or the JSON value of its body. -/
def Unread (client : HttpClient) (answer : HttpResponse) (cause : ClientError) : Prop :=
  client.text answer = .error cause ∨ client.json? answer = .error cause

theorem unread_of_excerpt {answer : HttpResponse} {length : Nat} {cause : ClientError}
    (h : client.excerpt answer length = .error cause) : Unread client answer cause :=
  .inl (Except.map_eq_error_iff.1 h)

theorem unread_of_plainReason {answer : HttpResponse} {cause : ClientError}
    (h : client.plainReason answer = .error cause) : Unread client answer cause := by
  unfold HttpClient.plainReason at h
  dsimp only at h
  split at h
  · exact unread_of_excerpt h
  · cases h

theorem unread_of_errorMessage {answer : HttpResponse} {cause : ClientError}
    (h : client.errorMessage answer = .error cause) : Unread client answer cause := by
  unfold HttpClient.errorMessage at h
  split at h
  · obtain hjson | ⟨value?, -, h⟩ := Except.bind_eq_error_iff.1 h
    · exact .inr hjson
    split at h
    · exact unread_of_excerpt h
    · split at h
      · cases h
      · split at h
        · cases h
        · exact unread_of_plainReason h
    · exact unread_of_plainReason h
  · exact unread_of_plainReason h

theorem unread_of_newToken? {answer : HttpResponse} {cause : ClientError}
    (h : client.newToken? answer = .error cause) : Unread client answer cause := by
  unfold HttpClient.newToken? at h
  split at h
  · exact .inr (Except.map_eq_error_iff.1 h)
  · exact .inl (Except.map_eq_error_iff.1 h)

/-- Reading the final answer strays only where the client cannot read it. -/
theorem unread_of_readToken {final : HttpResponse} {error : IssueError}
    (h : readToken client final = .error error) (hstray : error.Stray) :
    ∃ cause, error = .client cause ∧ Unread client final cause := by
  unfold readToken at h
  split at h
  · rw [Except.bind_eq_error_iff] at h
    obtain hmessage | ⟨reason, -, h⟩ := h
    · obtain ⟨cause, hcause, rfl⟩ := Except.mapError_eq_error_iff.1 hmessage
      exact ⟨cause, rfl, unread_of_errorMessage hcause⟩
    rw [Except.bind_eq_error_iff] at h
    obtain hexcerpt | ⟨excerpt, -, h⟩ := h
    · obtain ⟨cause, hcause, rfl⟩ := Except.mapError_eq_error_iff.1 hexcerpt
      exact ⟨cause, rfl, unread_of_excerpt hcause⟩
    · cases h
      cases hstray
  · rw [Except.bind_eq_error_iff] at h
    obtain htoken | ⟨token?, -, h⟩ := h
    · obtain ⟨cause, hcause, rfl⟩ := Except.mapError_eq_error_iff.1 htoken
      exact ⟨cause, rfl, unread_of_newToken? hcause⟩
    · cases token? with
      | none =>
        cases h
        cases hstray
      | some token => cases h

/-- The answer that a token is looked for in is one of the turns. -/
theorem Followed.exists_final {answer final : HttpResponse} {form : Turn} {last : List Turn}
    (h : Followed client site answer last (.ok final)) (hanswer : form.outcome client = .ok answer)
    (hturns : form :: last ⊆ whole) : ∃ turn ∈ whole, turn.outcome client = .ok final := by
  obtain ⟨hmem, hlast⟩ := List.cons_subset.1 hturns
  generalize hresult : Except.ok final = result at h
  cases h with
  | direct =>
    cases hresult
    exact ⟨form, hmem, hanswer⟩
  | lost => cases hresult
  | @led _ _ result _ _ hnext =>
    cases result with
    | error cause => cases hresult
    | ok page =>
      cases hresult
      exact hnext.exists_answer hlast

theorem Creation.accounts {turns : List Turn} {result : Except IssueError Json}
    (h : Creation client site request turns result) (hturns : turns ⊆ whole) :
    Accounts client site whole turns result := by
  have hpaths : tokenPagePaths ⊆ paths := List.subset_append_right _ _
  -- the form is sent to the page that was found, with the token of that page
  have hpost {turns later : List Turn} {path csrf : String} {page : HttpResponse}
      {result : Except ClientError HttpResponse}
      (hsearch : PageSearch client site none tokenPagePaths turns (.ok (path, page)))
      (hcsrf : client.csrfToken? page = .ok (some csrf))
      (hform : Posted client site path (tokenForm csrf request) (tokenFormHeaders csrf) later
        result) (hturns : turns ++ later ⊆ whole) (hresult : ∃ cause, result = .error cause) :
      Accounts client site whole later (result.mapError .client) := by
    obtain ⟨hpath, hstatus, -, turn, hturn, houtcome⟩ := hsearch.exists_page
    obtain ⟨hturns, hlater⟩ := List.append_subset.1 hturns
    exact hform.accounts (.inl (hpaths hpath)) (fun header hheader ↦ ⟨turn, hturns hturn, csrf,
      (Turn.hands_iff houtcome).2 ⟨hstatus, hcsrf⟩, hheader⟩) hlater (.inl hresult)
  cases h with
  | unopened hsearch => exact (hsearch.accounts hpaths hturns).error
  | unread hsearch hcsrf =>
    obtain ⟨-, -, -, turn, hturn, houtcome⟩ := hsearch.exists_page
    exact (hsearch.accounts hpaths hturns).replace fun error ↦
      origin_csrfToken? (hturns hturn) houtcome hcsrf
  | unmarked hsearch =>
    exact (hsearch.accounts hpaths hturns).kept (by simp [IssueError.Stray])
  | undone hsearch hcsrf hform =>
    exact (hsearch.accounts hpaths (List.append_subset.1 hturns).1).append
      (hpost hsearch hcsrf hform hturns ⟨_, rfl⟩).error
  | unfollowed hsearch _ hform hfollowed =>
    obtain ⟨form, rfl, hsends, hanswer⟩ := hform.exists_form hsearch
    rw [List.append_assoc] at hturns ⊢
    obtain ⟨hbefore, hafter⟩ := List.append_subset.1 hturns
    exact (hsearch.accounts hpaths hbefore).append (hfollowed.accounts hsends hanswer hafter).error
  | done hsearch _ hform hfollowed =>
    obtain ⟨form, rfl, hsends, hanswer⟩ := hform.exists_form hsearch
    rw [List.append_assoc] at hturns ⊢
    obtain ⟨hbefore, hafter⟩ := List.append_subset.1 hturns
    obtain ⟨turn, hturn, hfinal⟩ := hfollowed.exists_final hanswer hafter
    refine (hsearch.accounts hpaths hbefore).append
      ((hfollowed.accounts hsends hanswer hafter).replace fun error herror hstray ↦ ?_)
    obtain ⟨cause, rfl, hunread⟩ := unread_of_readToken herror hstray
    cases cause with
    | transfer => cases hstray
    | broken fault => exact .body hturn hfinal hunread

theorem Session.accounts {turns : List Turn} {result : Except IssueError Json}
    (h : Session client site request turns result) (hturns : turns ⊆ whole) :
    Accounts client site whole turns result := by
  cases h with
  | stopped hsignIn => exact (hsignIn.accounts hturns).error
  | @signedIn _ _ _ _ _ ending hsignIn hcreation hsignOut =>
    obtain ⟨hbefore, hafter⟩ := List.append_subset.1 hturns
    obtain ⟨hlater, hlast⟩ := List.append_subset.1 hafter
    refine (hsignIn.accounts hbefore).append ?_
    have hcreation := hcreation.accounts hlater
    have hout := hsignOut.accounts hlast
    cases ending with
    | ok =>
      refine ⟨hcreation.origin, ?_⟩
      rintro ⟨turn, hturn, hastray⟩
      obtain hturn | hturn := List.mem_append.1 hturn
      · exact hcreation.strays ⟨turn, hturn, hastray⟩
      · exact absurd (hout.strays ⟨turn, hturn, hastray⟩) (not_strays_ok ())
    | error error =>
      -- the error of signing out takes the place of what was there, and it strays too
      have hstray : error.Stray := by
        cases hsignOut
        trivial
      exact ⟨(hout.error (α := Unit)).origin, fun _ ↦ strays_error_iff.2 hstray⟩

end

end Issuer

/-! ### The conversation -/

/-- The fault is a failure to create a token. -/
def Fault.IsTokenCreation (fault : Fault) : Prop :=
  ∃ message status? response?, fault = .failure (.tokenCreation message status? response?)

theorem IssueError.isTokenCreation_fault_iff {base : String} {error : IssueError} :
    (error.fault base).IsTokenCreation ↔ ¬ error.Stray := by
  rcases error with (reason | ⟨fault, hforeign⟩) | _ | _ | _ | _ | _ | _ | _ | _ <;>
    simp [IssueError.fault, Fault.IsTokenCreation, IssueError.Stray]
  rintro message status? response? rfl
  cases hforeign

namespace Issuer

/-- A fault that is no failure to create a token, and where it comes from: there is no site for the
server URL, or it has its origin in the conversation on that site. -/
inductive Foreign (client : HttpClient) (request : TokenRequest) (turns : List Turn) :
    Fault → Prop
  | site {fault : ForeignFault}
      (hsite : client.site (baseOf request.serverUrl) = .error (.broken fault)) :
      Foreign client request turns fault
  | conversation {site : RequestUrl} {error : IssueError}
      (hsite : client.site (baseOf request.serverUrl) = .ok site)
      (horigin : Origin client site turns error) :
      Foreign client request turns (error.fault (baseOf request.serverUrl))

/-- **How making a token fails**, whatever the client is. A fault that is no failure to create a
token is a location that is missing where the token form was lost, or a fault of the client where it
was used; and where a turn leads astray there is such a fault. -/
theorem issue_faults (client : HttpClient) (server : HttpServer) (request : TokenRequest) :
    let answer := (issue client server request []).1
    let turns := turnsFrom server 0 (issue client server request []).2
    (∀ fault, answer = .error fault → fault.IsTokenCreation ∨ Foreign client request turns fault) ∧
      ((∃ turn ∈ turns, turn.Astray client) →
        ∃ fault, answer = .error fault ∧ ¬ fault.IsTokenCreation) := by
  cases hsite : client.site (baseOf request.serverUrl) with
  | error cause =>
    rw [issue_of_error hsite]
    refine ⟨?_, by simp [turnsFrom]⟩
    rintro _ ⟨⟩
    cases cause with
    | transfer reason => exact .inl ⟨_, _, _, rfl⟩
    | broken fault => exact .inr (.site hsite)
  | ok site =>
    obtain ⟨requests, result, hrun, hsession⟩ := @follows_converse client server site request 0
    have haccounts := hsession.accounts (List.Subset.refl _)
    rw [issue_of_ok hsite, hrun [] rfl, List.nil_append]
    refine ⟨fun fault hfault ↦ ?_, fun hturn ↦ ?_⟩
    · obtain ⟨error, herror, rfl⟩ := Except.mapError_eq_error_iff.1 hfault
      rw [IssueError.isTokenCreation_fault_iff, or_iff_not_imp_left, not_not]
      exact fun hstray ↦ .conversation hsite (haccounts.origin error herror hstray)
    · obtain ⟨error, herror, hstray⟩ := haccounts.strays hturn
      refine ⟨_, Except.mapError_eq_error_iff.2 ⟨error, herror, rfl⟩, ?_⟩
      rw [IssueError.isTokenCreation_fault_iff, not_not]
      exact hstray

/-- A server that signs everybody in and sends the token form on without saying where to. -/
def forgetfulServer : HttpServer
  | 0 => .response { status := 200, body := "<meta name=\"csrf-token\" content=\"c1\">".toUTF8 }
  | 2 => .response { status := 200, body := "<meta name=\"csrf-token\" content=\"c2\">".toUTF8 }
  | 3 => .response { status := 302 }
  | _ => .response { status := 302, headers := [("location", "/")] }

def forgetfulRequest : TokenRequest where
  username := .str "jdoe"
  password := .str "pw"
  serverUrl := "https://gitlab.example.com"
  tokenName := "ci"

theorem parse_forgetfulRequest : ServerUrl.parse forgetfulRequest.serverUrl =
    .ok { scheme := "https", host := "gitlab.example.com", port? := none, path := "" } := by
  decide +kernel

theorem issue_forgetfulServer :
    (issue .standard forgetfulServer forgetfulRequest []).1 = .error (.missingKey "location") := by
  decide +kernel

theorem not_isTokenCreation_missingKey (key : String) :
    ¬ (Fault.missingKey key).IsTokenCreation := by
  rintro ⟨_, _, _, ⟨⟩⟩

/-- The token form is lost, and that is a fault. -/
theorem issue_faults_forgetful :
    let turns := turnsFrom forgetfulServer 0 (issue .standard forgetfulServer forgetfulRequest []).2
    (∃ turn ∈ turns, turn.Astray .standard) ∧
      ∃ fault, (issue .standard forgetfulServer forgetfulRequest []).1 = .error fault ∧
        ¬ fault.IsTokenCreation := by
  intro turns
  have hlost : ∃ turn ∈ turns, turn.request.sendsTokenForm = true ∧
      turn.outcome .standard = .ok { status := 302 } := by
    decide +kernel
  obtain ⟨turn, hturn, hform, hanswer⟩ := hlost
  have hastray : ∃ turn ∈ turns, turn.Astray .standard :=
    ⟨turn, hturn, .inr ⟨hform, _, hanswer, by decide, by decide, rfl⟩⟩
  exact ⟨hastray, (issue_faults .standard forgetfulServer forgetfulRequest).2 hastray⟩

/-- **Not every fault on a usable server URL is a failure to create a token.** -/
theorem issue_missing_location :
    ¬ ∀ (client : HttpClient) (server : HttpServer) (request : TokenRequest) (url : ServerUrl),
      ServerUrl.parse request.serverUrl = .ok url → ∀ fault,
        (issue client server request []).1 = .error fault → fault.IsTokenCreation :=
  fun h ↦ not_isTokenCreation_missingKey "location" (h .standard forgetfulServer forgetfulRequest _
    parse_forgetfulRequest _ issue_forgetfulServer)

end Issuer

end TokenBroker
