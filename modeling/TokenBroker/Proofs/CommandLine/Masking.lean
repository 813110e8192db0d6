import TokenBroker.Proofs.CommandLine.StoredLogin
import TokenBroker.Proofs.Exchange.Masking

/-!
# Secrets are not shown

The lines about a store are made from the masked store, so at the terminal two stores that differ in
secrets alone look the same. With what is known about lookups and exchanges on such stores this
comes to `secrets_not_shown`: passwords and secret texts decide nothing of what a caller, the
operator or the one who exchanges a login gets to see.
-/

namespace TokenBroker.CommandLine

variable {σ : Type}

/-! ### Listings -/

theorem credentialLine_masked (credential : Credential) :
    credentialLine credential.masked = credentialLine credential := by
  rw [credentialLine, Credential.masked_displayName]
  rfl

theorem entryLines_masked (entry : StoreEntry) : entryLines entry.masked = entryLines entry := by
  simp [entryLines, StoreEntry.masked, Function.comp_def, credentialLine_masked]

theorem flatMap_entryLines_masked (store : Store) :
    store.masked.entries.flatMap entryLines = store.entries.flatMap entryLines := by
  simp [Store.masked, List.flatMap_map, entryLines_masked]

/-- A run that shows a store: its words come to one of the commands that list what is stored, with
something printed on the way, and the configured store can be opened. -/
structure Shows (place : Workplace σ) (machine : Machine σ) (words input : List String)
    (listing : Invocation) (output : String) (store : Store) : Prop where
  lists : listing = .listCredentials ∨ listing = .listDomains
  opens : ∃ settings opened,
    prepare place.environment machine words input = .ok (settings, listing, output) ∧
    (OpenedStore.open? settings.store place.ciphers place.refusals place.freshSalt
      machine.tree).1 = .ok opened ∧ opened.store = store

/-- What is shown of a store is a function of the masked store. -/
theorem Shows.report {place : Workplace σ} {machine : Machine σ} {words input : List String}
    {listing : Invocation} {output : String} {store : Store}
    (h : Shows place machine words input listing output store) :
    (run place words input machine).1 = (if listing = .listCredentials then
      Report.lines (store.masked.entries.flatMap entryLines)
      else .lines (store.masked.domains.map domainLine)).after output := by
  obtain ⟨hlists, settings, opened, hprepare, hopen, rfl⟩ := h
  rw [run_of_prepare hprepare, flatMap_entryLines_masked, Store.domains_masked]
  rcases hopened : OpenedStore.open? settings.store place.ciphers place.refusals place.freshSalt
    machine.tree with ⟨result, tree⟩
  obtain rfl : result = .ok opened := by rw [hopened] at hopen; exact hopen
  rcases hlists with rfl | rfl
  · simp only [Invocation.run, listCredentials, Workplace.withStore, hopened, if_true]
  · simp only [Invocation.run, listDomains, Workplace.withStore, hopened, reduceCtorEq, if_false]

/-- **Secrets do not influence what is shown.** Let two stores be the same but for passwords and
secret texts. Then

* every lookup finds credentials with the same ids, or fails with the same error; so does the lookup
  of a chosen login;
* every caller is offered the same choices, for every URL and selection;
* the commands that list credentials and domains report the same, wherever these stores are opened;
* two exchanges in surroundings that behave alike, although issuers may return different tokens, end
  in the same way and leave behind stores that again are the same but for secrets. -/
theorem secrets_not_shown {store store' : Store} (h : store.masked = store'.masked) :
    (∀ (kind? : Option CredentialKind) (who : Authentication) (requirements : List Requirement),
      (store.lookup kind? who requirements).map (List.map (·.id)) =
        (store'.lookup kind? who requirements).map (List.map (·.id))) ∧
    (∀ (acl : AccessControl) (serverUrl : String) (id : Json),
      (Exchange.lookupLogin acl store serverUrl id).map (Option.map (·.id)) =
        (Exchange.lookupLogin acl store' serverUrl id).map (Option.map (·.id))) ∧
    (∀ (exchange : Exchange) (acl : AccessControl) (serverUrl? selection? : Option String),
      exchange.choices acl store serverUrl? selection? =
        exchange.choices acl store' serverUrl? selection?) ∧
    (∀ {σ τ : Type} {place : Workplace σ} {place' : Workplace τ} {machine : Machine σ}
      {machine' : Machine τ} {words input words' input' : List String} {listing : Invocation}
      {output : String}, Shows place machine words input listing output store →
      Shows place' machine' words' input' listing output store' →
        (run place words input machine).1 = (run place' words' input' machine').1) ∧
    ∀ {σ τ : Type} {R : σ → τ → Prop} {surroundings : Surroundings σ}
      {surroundings' : Surroundings τ}, surroundings.Alike R surroundings' →
      ∀ (exchange : Exchange) (acl : AccessControl) (source : Exchange.LoginSource)
        (serverUrl? : Option String) (world : σ) (world' : τ), R world world' →
        Store.RunsAlike R (exchange.exchangeLogin surroundings acl source serverUrl? store world)
          (exchange.exchangeLogin surroundings' acl source serverUrl? store' world') := by
  refine ⟨fun kind? who requirements ↦ ?_, fun acl serverUrl id ↦ ?_,
    fun exchange acl serverUrl? selection? ↦ ?_, fun hshows hshows' ↦ ?_,
    fun hsurroundings exchange acl source serverUrl? _ _ hworld ↦ ?_⟩
  · have hids (store : Store) : (store.masked.lookup kind? who requirements).map
        (List.map (·.id)) = (store.lookup kind? who requirements).map (List.map (·.id)) := by
      rw [Store.lookup_masked]
      cases store.lookup kind? who requirements <;> simp [Except.map]
    rw [← hids store, h, hids store']
  · have hids (store : Store) : (Exchange.lookupLogin acl store.masked serverUrl id).map
        (Option.map (·.id)) = (Exchange.lookupLogin acl store serverUrl id).map
          (Option.map (·.id)) := by
      rw [Exchange.lookupLogin_masked]
      cases Exchange.lookupLogin acl store serverUrl id <;> simp [Except.map, Function.comp_def]
    rw [← hids store, h, hids store']
  · rw [← Exchange.choices_masked, h, Exchange.choices_masked]
  · rw [hshows.report, hshows'.report, h]
  · exact Exchange.exchangeLogin_alike hsurroundings exchange acl source serverUrl? h hworld

/-- Surroundings that do nothing but make tokens behave alike, whatever their tokens are. -/
theorem alike_steady (id : String) (token token' : Json) :
    (Surroundings.steady id token).Alike (fun _ _ ↦ True) (Surroundings.steady id token') where
  today := rfl
  save _ _ _ _ _ _ := ⟨rfl, trivial⟩
  freshId _ _ _ := ⟨rfl, trivial⟩
  issue _ _ _ _ _ _ := ⟨rfl, trivial⟩

/-- The words for listing what is stored. -/
def listWords : List String :=
  ["credentials", "list"]

/-- A list of the credentials shows the login that a run before has stored. -/
theorem shows_steady (password : String)
    (hstored :
      (run .steady (addWords "u" password "x") [] { tree := {}, outside := () }).1.exitCode = 0)
    (tree : FileTree)
    (htree : tree =
      (run .steady (addWords "u" password "x") [] { tree := {}, outside := () }).2.tree) :
    Shows .steady { tree := tree, outside := () } listWords [] .listCredentials ""
      (.holding (NewLogin.credential { username := "u", password := password } "x")) := by
  have hconfig : Keyring.valueOf? configVariable Workplace.steady.environment = none := by decide
  obtain ⟨settings, hsettings, hstore, -⟩ :=
    settingsFor_steady { tree := {}, outside := () : Machine Unit } rfl
  have hadd := prepare_addWords hconfig hsettings "u" password "x"
  obtain ⟨file, hopens⟩ := opens_of_run decrypt_steady_salt opens_steady
    (hasEmptyStore_steady hstore) (by decide) rfl hadd hstored
  obtain ⟨master, hmaster, hopen⟩ := hopens.opened
  have hlist : prepare Workplace.steady.environment { tree := tree, outside := () : Machine Unit }
      listWords [] = .ok (settings, .listCredentials, "") := by
    have hwords : findCommandWord programGrammar programHelp listWords =
        .ok ({ others := listWords }, "credentials", listWords.tail) := rfl
    have htarget : commandOrGroup? "credentials" = some (.inr .credentials) := rfl
    have hsame : settingsFor Workplace.steady.environment
        { tree := tree, outside := () : Machine Unit }
        (configPath? Workplace.steady.environment []) = .ok settings := by
      rw [configPath_of_unset hconfig]
      exact hsettings
    exact prepare_eq_ok hwords htarget hsame rfl
  refine ⟨Or.inl rfl, settings, .ofFile Workplace.steady.refusals file (.holding
    (NewLogin.credential { username := "u", password := password } "x")), hlist, ?_, rfl⟩
  simp only [OpenedStore.open?, hopens.kind, hmaster, htree, hopen]

/-- Two machines that have stored the same login with different passwords, and an exchange of it
that makes different tokens. -/
theorem secrets_not_shown_passwords :
    let login (password : String) :=
      NewLogin.credential { username := "u", password := password } "x"
    let acl := AccessControl.start (.administrator "root")
    let exchanged (password token : String) := Exchange.exchangeLogin {}
      (.steady "id" (.str token)) acl (.stored (some "x")) (some "https://h")
      (.holding (login password)) ()
    let stored := run .steady (addWords "u" "p" "x") [] { tree := {}, outside := () }
    let stored' := run .steady (addWords "u" "q" "x") [] { tree := {}, outside := () }
    let tree := stored.2.tree
    let tree' := stored'.2.tree
    (Store.holding (login "p")).masked = (Store.holding (login "q")).masked ∧
      stored.1.exitCode = 0 ∧ stored'.1.exitCode = 0 ∧
      (run .steady listWords [] { tree := tree, outside := () }).1 =
        (run .steady listWords [] { tree := tree', outside := () }).1 ∧
      (exchanged "p" "s").1 = (exchanged "q" "t").1 ∧
      (exchanged "p" "s").2.1 ≠ (exchanged "q" "t").2.1 ∧
      (exchanged "p" "s").2.1.masked = (exchanged "q" "t").2.1.masked := by
  intro login acl exchanged stored stored' tree tree'
  have halike : (Store.holding (login "p")).masked = (Store.holding (login "q")).masked := rfl
  obtain ⟨-, -, -, hshown, hexchanged⟩ := secrets_not_shown halike
  have hruns : Store.RunsAlike (fun _ _ ↦ True) (exchanged "p" "s") (exchanged "q" "t") :=
    hexchanged (alike_steady "id" (.str "s") (.str "t")) {} acl (.stored (some "x"))
      (some "https://h") () () trivial
  have hdifferent : (exchanged "p" "s").2.1 ≠ (exchanged "q" "t").2.1 := by decide +kernel
  have hstored : stored.1.exitCode = 0 := by decide +kernel
  have hstored' : stored'.1.exitCode = 0 := by decide +kernel
  have hshows := shows_steady "p" hstored tree rfl
  have hshows' := shows_steady "q" hstored' tree' rfl
  clear_value tree tree' exchanged
  exact ⟨halike, hstored, hstored', hshown hshows hshows', hruns.result, hdifferent, hruns.store⟩

end TokenBroker.CommandLine
