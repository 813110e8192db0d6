import TokenBroker.Proofs.GitLab.SignOut
import TokenBroker.Proofs.Http.Resolution

/-!
# Where the redirect after the token form leads

If the token form is answered by a redirect, the next request asks for its location, at the address
that the client gives for that. Of the client only this is assumed (`HttpClient.Joins`): the
addresses that it gives are those that the site makes of references. So a location that says by
itself where it leads is asked for as it is. Any other one is appended to the site. That is where it
leads to from the page with the form if it begins with a slash and the site has no path
(`RequestUrl.Fits`); below a path it goes astray.
-/

namespace TokenBroker

/-- The addresses that a client gives are those of the site that a text means, and those that the
site makes of references. Whether it gives one is up to the client. -/
structure HttpClient.Joins (client : HttpClient) : Prop where
  site : ∀ {text : String} {site : RequestUrl},
    client.site text = .ok site → RequestUrl.site text = .ok site
  refer : ∀ {site address : RequestUrl} {reference : String},
    client.locate site reference = .ok address → site.refer reference = .ok address

theorem HttpClient.joins_standard : HttpClient.standard.Joins where
  site h := Except.of_mapError_eq_ok h
  refer h := Except.of_mapError_eq_ok h

namespace Issuer

variable {client : HttpClient} {server : HttpServer} {site : RequestUrl} {request : TokenRequest}

/-! ### The turn after the form -/

/-- The form is sent to where a page is, and what it leads to is asked for next. -/
def FormIn (client : HttpClient) (site : RequestUrl) (form : Turn) (turns : List Turn) : Prop :=
  (∃ path ∈ tokenPagePaths, client.locate site path = .ok form.request.url) ∧
    ∀ next, form.LeadsTo client site next →
      ∃ final : Turn, [form, final] <:+: turns ∧ final.request = getRequest next

theorem FormIn.mono {form : Turn} {turns turns' : List Turn} (h : FormIn client site form turns)
    (hturns : turns <:+: turns') : FormIn client site form turns' := by
  refine ⟨h.1, fun next hleads ↦ ?_⟩
  obtain ⟨final, hnear, hfinal⟩ := h.2 next hleads
  exact ⟨final, hnear.trans hturns, hfinal⟩

/-- Opening a page sends no form. -/
theorem ne_of_page {form page : Turn} {address : RequestUrl}
    (hpage : page.request = getRequest address) (hsends : form.request.sendsTokenForm = true) :
    form ≠ page := by
  rintro rfl
  rw [hpage] at hsends
  exact absurd hsends (by simp [HttpRequest.sendsTokenForm])

theorem FormTurns.formIn {address : RequestUrl} {page form : Turn} {turns : List Turn}
    (h : FormTurns client site request address page turns) (hform : form ∈ turns)
    (hsends : form.request.sendsTokenForm = true) {path : String} (hpath : path ∈ tokenPagePaths)
    (haddress : client.locate site path = .ok address) : FormIn client site form turns := by
  cases h with
  | unmarked | unsendable => cases hform
  | sent _ hrequest hends =>
    obtain rfl := List.mem_singleton.1 hform
    refine ⟨⟨path, hpath, ?_⟩, fun next hleads ↦ absurd hleads (hends next)⟩
    rw [hrequest]
    exact haddress
  | @followed _ _ final next _ hrequest hleads hfinal =>
    rcases List.mem_cons.1 hform with rfl | hform
    · refine ⟨⟨path, hpath, by rw [hrequest]; exact haddress⟩, fun next' hleads' ↦ ?_⟩
      -- the location leads to one address only
      obtain ⟨location, ⟨answer, hanswer, -, -, hlocation⟩, hnext⟩ := hleads
      obtain ⟨location', ⟨answer', hanswer', -, -, hlocation'⟩, hnext'⟩ := hleads'
      obtain rfl : answer = answer' := Except.ok.inj (hanswer.symm.trans hanswer')
      obtain rfl : location = location' := Option.some.inj (hlocation.symm.trans hlocation')
      obtain rfl : next = next' := Except.ok.inj (hnext.symm.trans hnext')
      exact ⟨final, List.infix_refl _, hfinal⟩
    · exact absurd (List.mem_singleton.1 hform) (ne_of_page hfinal hsends)

theorem TokenTurns.formIn {form : Turn} {paths : List String} {turns : List Turn}
    (h : TokenTurns client site request paths turns) (hpaths : paths ⊆ tokenPagePaths)
    (hform : form ∈ turns) (hsends : form.request.sendsTokenForm = true) :
    FormIn client site form turns := by
  induction h with
  | exhausted | nowhere => cases hform
  | unanswered _ hpage =>
    exact absurd (List.mem_singleton.1 hform) (ne_of_page hpage hsends)
  | missing _ hpage _ _ _ ih =>
    have hlater := (List.mem_cons.1 hform).resolve_left (ne_of_page hpage hsends)
    exact (ih (fun path hpath ↦ hpaths (List.mem_cons_of_mem _ hpath)) hlater).mono
      (List.suffix_cons _ _).isInfix
  | found haddress hpage _ _ hturns =>
    have hlater := (List.mem_cons.1 hform).resolve_left (ne_of_page hpage hsends)
    exact (hturns.formIn hlater hsends (hpaths List.mem_cons_self) haddress).mono
      (List.suffix_cons _ _).isInfix

theorem Protocol.formIn {form : Turn} {turns : List Turn} (h : Protocol client site request turns)
    (hform : form ∈ turns) (hsends : form.request.sendsTokenForm = true) :
    FormIn client site form turns := by
  have hlater {page login : Turn} {address : RequestUrl} {csrf : String} {later : List Turn}
      (hpage : page.request = getRequest address)
      (hlogin : login.request =
        postRequest (signInForm csrf request.username request.password) [] address)
      (hform : form ∈ page :: login :: later) : form ∈ later := by
    refine (List.mem_cons.1 ((List.mem_cons.1 hform).resolve_left
      (ne_of_page hpage hsends))).resolve_left ?_
    rintro rfl
    rw [hlogin] at hsends
    exact absurd hsends (by simp [HttpRequest.sendsTokenForm])
  cases h with
  | nowhere => cases hform
  | unmarked _ hpage => exact absurd (List.mem_singleton.1 hform) (ne_of_page hpage hsends)
  | refused _ hpage _ hlogin => cases hlater hpage hlogin hform
  | @signedIn _ _ inner last _ _ haddress hpage _ hlogin _ hinner hlast =>
    have hinside : form ∈ inner := by
      refine (List.mem_append.1 (hlater hpage hlogin hform)).resolve_right fun hout ↦ ?_
      exact absurd hsends (by simpa using List.countP_eq_zero.1 hlast.countP.1 form hout)
    refine (hinner.formIn (List.Subset.refl _) hinside hsends).mono ?_
    exact (List.prefix_append inner last).isInfix.trans (List.suffix_append [_, _] _).isInfix

/-! ### The page with the form -/

/-- The paths of the pages are appended to the site as they are. -/
theorem exists_withTarget_of_page {path : String} {page : RequestUrl}
    (hpath : path ∈ tokenPagePaths) (hpage : site.refer path = .ok page) :
    ∃ rest, RequestUrl.Askable rest ∧ '/' ∈ rest ∧ '?' ∉ rest ∧
      site.withTarget (site.target.toList ++ rest) = .ok page := by
  have hpaths : ∀ path ∈ tokenPagePaths, (RequestUrl.parse path).toOption.any (fun url ↦
      let rest := url.target.toList.dropWhile (· == '/')
      !url.isAbsolute && decide (RequestUrl.Askable rest ∧ '/' ∈ rest ∧ '?' ∉ rest)) = true := by
    decide +kernel
  have hplain := hpaths path hpath
  rw [RequestUrl.refer, Except.bind_eq_ok_iff] at hpage
  obtain ⟨url, hparse, hpage⟩ := hpage
  rw [hparse] at hplain
  simp only [Except.toOption, Option.any_some, Bool.and_eq_true, Bool.not_eq_true',
    decide_eq_true_eq] at hplain
  obtain ⟨habsolute, haskable, hslash, hmark⟩ := hplain
  rw [habsolute, if_neg Bool.false_ne_true] at hpage
  exact ⟨_, haskable, hslash, hmark, hpage⟩

/-- A server that answers the token form with a redirect. -/
def redirectServer (location : String) : HttpServer :=
  formServer (.response { status := 302, headers := [("location", location)] }) homeward

/-- The turns of the conversation below a server URL. -/
def redirectTurns (serverUrl location : String) : List Turn :=
  turnsFrom (redirectServer location) 0
    (issue .standard (redirectServer location)
      { forgetfulRequest with serverUrl := serverUrl } []).2

/-- The turn that sends the token form. -/
def redirectForm (serverUrl location : String) : Turn :=
  (redirectTurns serverUrl location).getD 3 default

end Issuer

end TokenBroker
