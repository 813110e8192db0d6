import TokenBroker.Proofs.Exchange.Faults

/-!
# What is offered is what is used

The list of logins and the lookup of a chosen one go through the store in different ways. The list
is gathered, with every login whose id is not in it yet; the lookup takes, identity by identity, the
first login with the id. They agree since both prefer what comes first: of what is gathered, the
choice with an id is that of the first login with this id (`find_addLogins`, `find_loginChoices`).

No two choices for logins have one value (`valuesApart_loginChoices`), so what is shown for an id is
what the exchange of this id will use (`offered_iff_found`).
-/

namespace TokenBroker

/-- What is shown for a login ends with the stars for its password, or with a bracket. -/
theorem Credential.displayName_of_login {credential : Credential} (h : credential.kind = .login) :
    ∃ text last, credential.displayName = .str (text ++ String.singleton last) ∧
      (last = '*' ∨ last = ')') := by
  rw [kind] at h
  split at h
  · rename_i username password hcontent
    rw [displayName, hcontent]
    dsimp only
    split
    · refine ⟨username.display ++ "/******" ++ " (" ++ credential.description.display, ')', ?_,
        Or.inr rfl⟩
      rfl
    · refine ⟨username.display ++ "/*****", '*', ?_, Or.inl rfl⟩
      rw [String.append_assoc]
      rfl
  · cases h

namespace Exchange

/-! ### Choices for logins -/

/-- The choice for a login. -/
def loginChoice (current : String) (login : Credential) : Choice :=
  { label := login.displayName, value := login.id
    selected := Json.same login.id (.str current) }

/-- The choice is for a login: it is not the empty one, and not the one that keeps the present
selection. -/
def IsLoginChoice (choice : Choice) : Prop :=
  choice.label ≠ .str noneLabel ∧ choice.label ≠ .str currentLabel

/-- The choice with a value, the first one of several. -/
def choiceFor? (value : Json) (choices : List Choice) : Option Choice :=
  choices.find? fun choice ↦ Json.same choice.value value

/-- No value is that of two choices. -/
def ValuesApart (choices : List Choice) : Prop :=
  choices.Pairwise fun a b ↦ ¬ Json.same a.value b.value = true

theorem isLoginChoice_loginChoice (current : String) {login : Credential}
    (h : login.kind = .login) : IsLoginChoice (loginChoice current login) := by
  obtain ⟨text, last, hname, hlast⟩ := login.displayName_of_login h
  -- the two other labels end with a dash
  have hne : ∀ label : String, label.toList.getLast? = some '-' →
      (loginChoice current login).label ≠ .str label := by
    intro label hlabel heq
    obtain rfl : text ++ String.singleton last = label := Json.str.inj (hname.symm.trans heq)
    rw [String.toList_append, String.toList_singleton, List.getLast?_concat] at hlabel
    obtain rfl := Option.some.inj hlabel
    simp at hlast
  exact ⟨hne noneLabel (by decide), hne currentLabel (by decide)⟩

/-! ### The choice with a value -/

theorem choiceFor?_cons_of_pos {value : Json} {choice : Choice} (choices : List Choice)
    (h : Json.same choice.value value = true) :
    choiceFor? value (choice :: choices) = some choice :=
  List.find?_cons_of_pos h

theorem choiceFor?_cons_of_neg {value : Json} {choice : Choice} (choices : List Choice)
    (h : ¬ Json.same choice.value value = true) :
    choiceFor? value (choice :: choices) = choiceFor? value choices :=
  List.find?_cons_of_neg h

theorem choiceFor?_append (value : Json) (choices more : List Choice) :
    choiceFor? value (choices ++ more) = (choiceFor? value choices).or (choiceFor? value more) :=
  List.find?_append

theorem same_of_choiceFor? {value : Json} {choices : List Choice} {choice : Choice}
    (h : choiceFor? value choices = some choice) : Json.same choice.value value = true :=
  List.find?_some (p := fun choice : Choice ↦ Json.same choice.value value) h

/-- Where no value is that of two choices, a choice is found by its value. -/
theorem choiceFor?_eq_some_iff {choices : List Choice} (h : ValuesApart choices) {value : String}
    {choice : Choice} :
    choiceFor? (.str value) choices = some choice ↔
      choice ∈ choices ∧ choice.value = .str value := by
  constructor
  · intro hfind
    exact ⟨List.mem_of_find?_eq_some hfind, Json.same_str_right_iff.1 (same_of_choiceFor? hfind)⟩
  · rintro ⟨hmem, hvalue⟩
    induction choices with
    | nil => cases hmem
    | cons first rest ih =>
      obtain ⟨hfirst, hrest⟩ := List.pairwise_cons.1 h
      rcases List.mem_cons.1 hmem with rfl | hmem
      · exact choiceFor?_cons_of_pos rest (Json.same_str_right_iff.2 hvalue)
      · have hother : ¬ Json.same first.value (.str value) = true := by
          rw [← hvalue]
          exact hfirst choice hmem
        rw [choiceFor?_cons_of_neg rest hother]
        exact ih hrest hmem

/-! ### Gathering -/

/-- One step: a login is passed over if its id is listed already, and listed at the end if not. -/
theorem addLogins_cons {current : String} {choices result : List Choice} {login : Credential}
    {rest : List Credential} (h : addLogins current choices (login :: rest) = .ok result) :
    (choiceFor? login.id choices ≠ none ∧ addLogins current choices rest = .ok result) ∨
    (choiceFor? login.id choices = none ∧
      addLogins current (choices ++ [loginChoice current login]) rest = .ok result) := by
  rw [addLogins] at h
  split at h
  · cases h
  split at h
  · rename_i hlisted
    refine .inl ⟨?_, h⟩
    rwa [← Option.isSome_iff_ne_none, choiceFor?, List.isSome_find?]
  · rename_i hlisted
    refine .inr ⟨?_, h⟩
    rwa [← Option.not_isSome_iff_eq_none, choiceFor?, List.isSome_find?]

/-- **Of what is gathered, the first login with an id is listed**, unless the id was listed
before. -/
theorem find_addLogins {current : String} {logins : List Credential} (id : Json) :
    ∀ {choices result : List Choice}, addLogins current choices logins = .ok result →
      choiceFor? id result = (choiceFor? id choices).or
        ((Credential.firstWithId? id logins).map (loginChoice current)) := by
  induction logins with
  | nil =>
    rintro choices _ ⟨⟩
    exact Option.or_none.symm
  | cons login rest ih =>
    intro choices result h
    by_cases hsame : Json.same login.id id = true
    · have hfirst : Credential.firstWithId? id (login :: rest) = some login :=
        List.find?_cons_of_pos hsame
      rw [hfirst, Option.map_some]
      rcases addLogins_cons h with ⟨hlisted, h⟩ | ⟨hfree, h⟩
      · -- the listed choice has the id too, so it hides this login and all later ones
        obtain ⟨choice, hchoice⟩ := Option.ne_none_iff_exists'.1 hlisted
        have hid : (choiceFor? id choices).isSome = true :=
          List.find?_isSome.2 ⟨choice, List.mem_of_find?_eq_some hchoice,
            Json.same_trans (same_of_choiceFor? hchoice) hsame⟩
        obtain ⟨found, hfound⟩ := Option.isSome_iff_exists.1 hid
        rw [ih h, hfound, Option.some_or, Option.some_or]
      · have hnew : choiceFor? id [loginChoice current login] = some (loginChoice current login) :=
          choiceFor?_cons_of_pos [] hsame
        rw [ih h, choiceFor?_append, hnew, Option.or_assoc, Option.some_or]
    · have hfirst : Credential.firstWithId? id (login :: rest) =
          Credential.firstWithId? id rest := List.find?_cons_of_neg hsame
      rw [hfirst]
      rcases addLogins_cons h with ⟨-, h⟩ | ⟨-, h⟩
      · exact ih h
      · have hnew : choiceFor? id [loginChoice current login] = none :=
          choiceFor?_cons_of_neg [] hsame
        rw [ih h, choiceFor?_append, hnew, Option.or_none]

theorem valuesApart_addLogins {current : String} {logins : List Credential} :
    ∀ {choices result : List Choice}, addLogins current choices logins = .ok result →
      ValuesApart choices → ValuesApart result := by
  induction logins with
  | nil =>
    rintro choices _ ⟨⟩ hchoices
    exact hchoices
  | cons login rest ih =>
    intro choices result h hchoices
    rcases addLogins_cons h with ⟨-, h⟩ | ⟨hfree, h⟩
    · exact ih h hchoices
    · refine ih h (List.pairwise_append.2 ⟨hchoices, List.pairwise_singleton .., ?_⟩)
      intro choice hchoice other hother
      rw [List.mem_singleton.1 hother]
      exact List.find?_eq_none.1 hfree choice hchoice

theorem mem_addLogins {current : String} {logins : List Credential} {choice : Choice} :
    ∀ {choices result : List Choice}, addLogins current choices logins = .ok result →
      choice ∈ result →
        choice ∈ choices ∨ ∃ login ∈ logins, choice = loginChoice current login := by
  induction logins with
  | nil =>
    rintro choices _ ⟨⟩ hchoice
    exact .inl hchoice
  | cons login rest ih =>
    intro choices result h hchoice
    rcases addLogins_cons h with ⟨-, h⟩ | ⟨-, h⟩
    · refine (ih h hchoice).imp_right ?_
      rintro ⟨other, hother, rfl⟩
      exact ⟨other, List.mem_cons_of_mem _ hother, rfl⟩
    · rcases ih h hchoice with hlisted | ⟨other, hother, rfl⟩
      · rcases List.mem_append.1 hlisted with hlisted | hnew
        · exact .inl hlisted
        · exact .inr ⟨login, List.mem_cons_self, List.mem_singleton.1 hnew⟩
      · exact .inr ⟨other, List.mem_cons_of_mem _ hother, rfl⟩

/-! ### The logins of several identities -/

section

variable {store : Store} {requirements : List Requirement} {current : String}
  {whos : List Authentication}

/-- One step of the lookup: what an identity has hides what the later ones have. -/
theorem findLogin_cons {who : Authentication} {logins : List Credential}
    (h : loginsFor store requirements who = .ok logins) (id : Json) (rest : List Authentication) :
    findLogin store requirements id (who :: rest) =
      match Credential.firstWithId? id logins with
      | some login => .ok (some login)
      | none => findLogin store requirements id rest := by
  rw [findLogin, h]
  rfl

/-- One step of gathering: the logins of one identity are added before those of the later ones. -/
theorem loginChoices_cons {who : Authentication} {rest : List Authentication}
    {choices result : List Choice}
    (h : loginChoices store requirements current choices (who :: rest) = .ok result) :
    ∃ logins added, loginsFor store requirements who = .ok logins ∧
      addLogins current choices logins = .ok added ∧
      loginChoices store requirements current added rest = .ok result := by
  rw [loginChoices, Except.bind_eq_ok_iff] at h
  obtain ⟨logins, hlogins, h⟩ := h
  obtain ⟨added, hadded, h⟩ := Except.bind_eq_ok_iff.1 h
  exact ⟨logins, added, hlogins, hadded, h⟩

/-- **The gathered list has for an id the login that the lookup finds**, unless the id was listed
before. Whenever there is a list, the lookup succeeds. -/
theorem find_loginChoices (id : Json) :
    ∀ {choices result : List Choice},
      loginChoices store requirements current choices whos = .ok result →
      ∃ login?, findLogin store requirements id whos = .ok login? ∧
        choiceFor? id result = (choiceFor? id choices).or (login?.map (loginChoice current)) := by
  induction whos with
  | nil =>
    rintro choices _ ⟨⟩
    exact ⟨none, rfl, Option.or_none.symm⟩
  | cons who rest ih =>
    intro choices result h
    obtain ⟨logins, added, hlogins, hadded, h⟩ := loginChoices_cons h
    obtain ⟨later?, hlater, hresult⟩ := ih h
    rw [find_addLogins id hadded, Option.or_assoc] at hresult
    rw [findLogin_cons hlogins]
    cases hfirst : Credential.firstWithId? id logins with
    | some login =>
      refine ⟨some login, rfl, ?_⟩
      rw [hresult, hfirst, Option.map_some, Option.some_or]
    | none =>
      refine ⟨later?, hlater, ?_⟩
      rw [hresult, hfirst, Option.map_none, Option.none_or]

theorem valuesApart_loginChoices :
    ∀ {choices result : List Choice},
      loginChoices store requirements current choices whos = .ok result →
      ValuesApart choices → ValuesApart result := by
  induction whos with
  | nil =>
    rintro choices _ ⟨⟩ hchoices
    exact hchoices
  | cons who rest ih =>
    intro choices result h hchoices
    obtain ⟨logins, added, -, hadded, h⟩ := loginChoices_cons h
    exact ih h (valuesApart_addLogins hadded hchoices)

/-- What holds of the choice for every stored login holds of all that is gathered. -/
theorem forall_mem_loginChoices {P : Choice → Prop}
    (hlogin : ∀ entry ∈ store.entries, ∀ login ∈ entry.credentials, login.kind = .login →
      P (loginChoice current login)) :
    ∀ {choices result : List Choice},
      loginChoices store requirements current choices whos = .ok result →
      (∀ choice ∈ choices, P choice) → ∀ choice ∈ result, P choice := by
  induction whos with
  | nil =>
    rintro choices _ ⟨⟩ hchoices
    exact hchoices
  | cons who rest ih =>
    intro choices result h hchoices
    obtain ⟨logins, added, hlogins, hadded, h⟩ := loginChoices_cons h
    refine ih h fun choice hchoice ↦ ?_
    rcases mem_addLogins hadded hchoice with hlisted | ⟨login, hmem, rfl⟩
    · exact hchoices choice hlisted
    · obtain ⟨⟨entry, hentry, hstored⟩, hkind⟩ := mem_of_mem_loginsFor hlogins hmem
      exact hlogin entry hentry login hstored hkind

/-- What is gathered are choices for logins. -/
theorem isLoginChoice_of_mem_loginChoices {choices result : List Choice}
    (h : loginChoices store requirements current choices whos = .ok result)
    (hchoices : ∀ choice ∈ choices, IsLoginChoice choice) :
    ∀ choice ∈ result, IsLoginChoice choice :=
  forall_mem_loginChoices (fun _ _ _ _ hkind ↦ isLoginChoice_loginChoice current hkind) h hchoices

end

/-! ### The selection -/

/-- The list of an administrator is that of the logins between the empty choice and the present
selection. -/
theorem mem_administratorChoices_iff {store : Store} {caller : Authentication} {current : String}
    {requirements : List Requirement} {choices : List Choice}
    (h : administratorChoices store caller current requirements = .ok choices) :
    ∃ logins, loginChoices store requirements current [] (searched caller) = .ok logins ∧
      ∀ choice, (choice ∈ choices ∧ IsLoginChoice choice) ↔ choice ∈ logins := by
  rw [administratorChoices, Except.bind_eq_ok_iff] at h
  obtain ⟨logins, hlogins, h⟩ := h
  refine ⟨logins, hlogins, fun choice ↦ ?_⟩
  obtain rfl := Except.ok.inj h
  have hgathered := isLoginChoice_of_mem_loginChoices hlogins (by simp)
  constructor
  · rintro ⟨hmem, hnone, hcurrent⟩
    rcases List.mem_append.1 hmem with hmem | hmem
    · rcases List.mem_cons.1 hmem with rfl | hmem
      · exact absurd rfl hnone
      · exact hmem
    · split at hmem
      · cases hmem
      · rw [List.mem_singleton.1 hmem] at hcurrent
        exact absurd rfl hcurrent
  · intro hmem
    exact ⟨List.mem_append_left _ (List.mem_cons_of_mem _ hmem), hgathered choice hmem⟩

/-- **What is offered is what is used.** Let a caller who may administer ask for the logins for a
usable URL, whatever is selected at present. A readable store gives a list; and whenever there is a
list, the lookup of any id succeeds as well, and a choice for a login is offered for the id if and
only if the lookup finds a login, of which the choice then shows the name. -/
theorem offered_iff_found {exchange : Exchange} {acl : AccessControl}
    (hadmin : acl.has .administer = true) {serverUrl? : Option String} {url : ServerUrl}
    (hurl : ServerUrl.parse (exchange.serverUrlOr serverUrl?) = .ok url) (store : Store)
    (selection? : Option String) :
    (store.Readable → ∃ choices,
      exchange.choices acl store serverUrl? selection? = .ok choices) ∧
    ∀ choices, exchange.choices acl store serverUrl? selection? = .ok choices →
      ∀ id : String, ∃ login?,
        lookupLogin acl store (exchange.serverUrlOr serverUrl?) (.str id) = .ok login? ∧
        ∀ label, (∃ choice ∈ choices, IsLoginChoice choice ∧ choice.value = .str id ∧
            choice.label = label) ↔
          ∃ login, login? = some login ∧ login.displayName = label := by
  refine ⟨fun hreadable ↦ ?_, fun choices hchoices id ↦ ?_⟩
  · cases hchoices : exchange.choices acl store serverUrl? selection? with
    | ok choices => exact ⟨choices, rfl⟩
    | error fault =>
      exfalso
      rcases choices_error hadmin hchoices with ⟨hrefused⟩ | ⟨hunreadable⟩
      · rw [hurl] at hrefused
        cases hrefused
      · exact hunreadable hreadable
  · rw [Exchange.choices, requirementsOf, hurl, hadmin] at hchoices
    obtain ⟨logins, hlogins, hmem⟩ := mem_administratorChoices_iff hchoices
    obtain ⟨login?, hlogin, hfind⟩ := find_loginChoices (.str id) hlogins
    have hapart : ValuesApart logins := valuesApart_loginChoices hlogins List.Pairwise.nil
    have hlookup : lookupLogin acl store (exchange.serverUrlOr serverUrl?) (.str id) =
        .ok login? := by
      rw [lookupLogin, requirementsOf, hurl, ← hlogin]
      rfl
    refine ⟨login?, hlookup, fun label ↦ ?_⟩
    rw [show choiceFor? (.str id) [] = none from rfl, Option.none_or] at hfind
    constructor
    · rintro ⟨choice, hchoice, hkind, hvalue, rfl⟩
      have hfound := (choiceFor?_eq_some_iff hapart).2
        ⟨(hmem choice).1 ⟨hchoice, hkind⟩, hvalue⟩
      rw [hfind, Option.map_eq_some_iff] at hfound
      obtain ⟨login, rfl, rfl⟩ := hfound
      exact ⟨login, rfl, rfl⟩
    · rintro ⟨login, rfl, rfl⟩
      obtain ⟨hlisted, hvalue⟩ := (choiceFor?_eq_some_iff hapart).1 hfind
      obtain ⟨hchoice, hkind⟩ := (hmem _).2 hlisted
      exact ⟨loginChoice _ login, hchoice, hkind, hvalue, rfl⟩

/-- One id for logins in two domains and for one of the caller's own, which both of them hide, and
another id that only the caller has. -/
theorem offered_iff_found_shared :
    let login (id : String) (owner : Json) (username : String) : Credential :=
      { id := .str id, owner := owner, content := .login (.str username) (.str "p") }
    let store : Store := ⟨[
      { domain := .global
        credentials := [login "x" (.str "root") "own", login "x" (.str "jo") "other"] },
      { domain := { name := .str "d", specifications := [.scheme [.str "http"]] }
        credentials := [login "x" .null "elsewhere"] },
      { domain := { name := .str "e" }
        credentials := [login "x" .null "system", login "y" (.str "root") "only"] }]⟩
    let acl := AccessControl.start (.administrator "root")
    acl.has .administer = true ∧
      (∃ url, ServerUrl.parse (({} : Exchange).serverUrlOr (some " https://h ")) = .ok url) ∧
      ∃ choices, choices = [noneChoice "x", loginChoice "x" (login "x" .null "system"),
          loginChoice "x" (login "y" (.str "root") "only")] ∧
        ({} : Exchange).choices acl store (some " https://h ") (some "x") = .ok choices ∧
        ∀ id : String, ∃ login?,
          lookupLogin acl store (({} : Exchange).serverUrlOr (some " https://h ")) (.str id) =
            .ok login? ∧
          ∀ label, (∃ choice ∈ choices, IsLoginChoice choice ∧ choice.value = .str id ∧
              choice.label = label) ↔
            ∃ login, login? = some login ∧ login.displayName = label := by
  intro login store acl
  have hadmin : acl.has .administer = true := by decide
  have hurl : ServerUrl.parse (({} : Exchange).serverUrlOr (some " https://h ")) =
      .ok ⟨"https", "h", none, ""⟩ := by decide +kernel
  have hchoices : ({} : Exchange).choices acl store (some " https://h ") (some "x") =
      .ok [noneChoice "x", loginChoice "x" (login "x" .null "system"),
        loginChoice "x" (login "y" (.str "root") "only")] := by decide +kernel
  exact ⟨hadmin, ⟨_, hurl⟩, _, rfl, hchoices,
    (offered_iff_found hadmin hurl store (some "x")).2 _ hchoices⟩

end Exchange

end TokenBroker
