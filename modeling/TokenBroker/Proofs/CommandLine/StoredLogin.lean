import TokenBroker.CommandLine.Program
import TokenBroker.Proofs.Exchange.Calls
import TokenBroker.Proofs.Exchange.Selection
import TokenBroker.Proofs.Store.Restart

/-!
# A login stored and exchanged at the terminal

One run of the program stores a login, and a later one exchanges it; nothing goes from the one to
the other but the files. The first run puts the login into the global domain, under its id as it was
typed (`save_of_addCredential`). The second one opens what the first has saved, drops the blanks
around the id that it is given, and asks the issuer for a token if that is the id of the login
(`calls_of_run`). So a login can be exchanged under the id that it was stored with exactly if
there are no blanks at the ends of the id (`createToken_of_addCredential`).
-/

namespace TokenBroker

/-! ### A store with one login -/

namespace Store

/-- The store with a single credential, which is in the global domain. -/
def holding (credential : Credential) : Store :=
  ⟨[{ domain := .global, credentials := [credential] }]⟩

theorem addCredential_empty {who : Authentication} (h : who.has .manageDomains = true)
    (credential : Credential) :
    addCredential .null credential who .empty =
      .ok (.change (.append .null credential) .null true) := by
  have hallowed : checkAdd credential who = .ok () := by
    rw [checkAdd]
    split
    · rfl
    · exact checkManage_eq_ok_iff.2 h
  rw [addCredential, hallowed]
  rfl

theorem mutate_append_empty (credential : Credential) :
    empty.mutate (.append .null credential) = holding credential := rfl

theorem writable_holding {credential : Credential} (h : credential.Plain) :
    (holding credential).Writable := by
  have happend : ∀ others, ∀ other ∈ others ++ [credential], other ∈ others ∨ other.Plain := by
    intro others other hother
    rcases List.mem_append.1 hother with hold | hnew
    · exact Or.inl hold
    · rw [List.mem_singleton.1 hnew]
      exact Or.inr h
  exact writable_empty.updateCredentials .null (f := (· ++ [credential])) happend

end Store

namespace Exchange

/-- A login without an owner is found under its id, by whoever looks for it, and under no other. -/
theorem lookupLogin_holding {login : Credential} (hkind : login.kind = .login)
    (howner : login.owner = .null) {serverUrl : String} {url : ServerUrl}
    (hurl : ServerUrl.parse serverUrl = .ok url) (acl : AccessControl) (id : String)
    (hcaller : acl.caller ≠ .system) :
    lookupLogin acl (.holding login) serverUrl (.str id) =
      .ok (if login.id = .str id then some login else none) := by
  have hsystem : loginsFor (.holding login) url.requirements .system = .ok [login] := by
    have hoffers : Store.offers (some .login) .system login = true := by
      simp [Store.offers, hkind, Credential.visibleTo, howner]
    show Except.ok ([login].filter (Store.offers (some .login) .system) ++ []) = _
    rw [List.filter_cons_of_pos hoffers]
    rfl
  have hcallers : loginsFor (.holding login) url.requirements acl.caller = .ok [] := by
    have hoffers : ¬ Store.offers (some .login) acl.caller login = true := by
      cases hacl : acl.caller with
      | system => exact absurd hacl hcaller
      | principal name permissions => simp [Store.offers, Credential.visibleTo, howner]
    show Except.ok ([login].filter (Store.offers (some .login) acl.caller) ++ []) = _
    rw [List.filter_cons_of_neg hoffers]
    rfl
  have hrequirements : requirementsOf serverUrl = .ok url.requirements := by
    rw [requirementsOf, hurl]
    rfl
  rw [lookupLogin, hrequirements]
  show findLogin (.holding login) url.requirements (.str id) [.system, acl.caller] = _
  rw [findLogin_cons hsystem, findLogin_cons hcallers]
  by_cases hid : login.id = .str id
  · have hfirst : Credential.firstWithId? (.str id) [login] = some login :=
      List.find?_cons_of_pos (Json.same_str_right_iff.2 hid)
    rw [hfirst, if_pos hid]
  · have hfirst : Credential.firstWithId? (.str id) [login] = none :=
      List.find?_cons_of_neg (fun hsame ↦ hid (Json.same_str_right_iff.1 hsame))
    rw [hfirst, if_neg hid]
    rfl

end Exchange

namespace CommandLine

variable {σ τ : Type}

namespace Workplace

/-- The same workplace, with a record of the calls of the issuer. -/
def recorded (place : Workplace σ) : Workplace (σ × List IssuerCall) where
  environment := place.environment
  ciphers := place.ciphers
  freshSalt := place.freshSalt
  refusals := place.refusals
  today := place.today
  freshId outside := ((place.freshId outside.1).1, (place.freshId outside.1).2, outside.2)
  issue request outside :=
    ((place.issue request outside.1).1, (place.issue request outside.1).2,
      outside.2 ++ [⟨request, (place.issue request outside.1).1⟩])

theorem records_recorded (place : Workplace σ) (save : Saver FileTree) :
    (place.recorded.surroundings save).Records (·.outside.2) where
  save _ _ := rfl
  freshId _ := rfl
  issue _ _ := rfl

/-- The configured store is an encrypted one. It can be opened, which leaves the files behind as
given. -/
structure Opens (place : Workplace σ) (settings : Settings) (tree : FileTree)
    (file : EncryptedFile) (store : Store) (after : FileTree) : Prop where
  kind : settings.store.kind = .encryptedFile
  opened : ∃ master, settings.store.masterPassword? = some master ∧
    EncryptedFile.openStore place.ciphers tree place.refusals settings.store.path master none
      place.freshSalt = (.ok (file, store), after)

/-- A command runs on the store that can be opened. -/
theorem Opens.withStore {place : Workplace σ} {settings : Settings} {machine : Machine σ}
    {file : EncryptedFile} {store : Store} {after : FileTree}
    (h : place.Opens settings machine.tree file store after)
    (run : OpenedStore → Machine σ → Report × Machine σ) :
    place.withStore settings machine run =
      run (.ofFile place.refusals file store) { machine with tree := after } := by
  obtain ⟨master, hmaster, hopen⟩ := h.opened
  simp only [Workplace.withStore, OpenedStore.open?, h.kind, hmaster, hopen]

/-- The configured store can be opened, and there is nothing in it. -/
def HasEmptyStore (place : Workplace σ) (settings : Settings) (tree : FileTree) : Prop :=
  ∃ file after, place.Opens settings tree file .empty after

/-- A store that does not stand in its file once the salt has been obtained is an empty one. -/
theorem hasEmptyStore_of_absent {place : Workplace σ} {settings : Settings} {tree : FileTree}
    (hkind : settings.store.kind = .encryptedFile) {master : String}
    (hmaster : settings.store.masterPassword? = some master) (hnonempty : master.isEmpty = false)
    {salt : ByteArray}
    (hsalt : (EncryptedFile.loadSalt tree place.refusals settings.store.path place.freshSalt).1 =
      .ok salt)
    (habsent : (EncryptedFile.loadSalt tree place.refusals settings.store.path
      place.freshSalt).2.node? settings.store.path.place = none) :
    place.HasEmptyStore settings tree := by
  let file := EncryptedFile.keyed place.ciphers settings.store.path master salt
  exact ⟨file, _, hkind, master, hmaster, EncryptedFile.openStore_eq_ok_iff.2 ⟨hnonempty, rfl,
    Or.inr ⟨rfl, Prod.ext hsalt rfl⟩, EncryptedFile.load_of_node_eq_none habsent⟩⟩

end Workplace

/-- A run does what its words come to. -/
theorem run_of_prepare {place : Workplace σ} {machine : Machine σ} {words input : List String}
    {settings : Settings} {invocation : Invocation} {output : String}
    (h : prepare place.environment machine words input = .ok (settings, invocation, output)) :
    run place words input machine =
      ((invocation.run place settings machine).1.after output,
        (invocation.run place settings machine).2) := by
  rw [run, h]

/-! ### Two command lines -/

/-- The words for storing a login. -/
def addWords (username password id : String) : List String :=
  ["credentials", "add", "--username", username, "--password", password, "--id", id]

/-- The words for exchanging a stored login. -/
def createWords (serverUrl id : String) : List String :=
  ["create-token", "--server-url", serverUrl, "--credentials-id", id]

section

variable {env : Environment} {machine : Machine σ} {settings : Settings}

theorem configPath_of_unset (h : Keyring.valueOf? configVariable env = none) :
    configPath? env [] = none := by
  rw [configPath?, h]
  rfl

/-- A run is prepared in stages: its words lead to a command, its settings are read, and the command
takes the words that are left. -/
theorem prepare_eq_ok {words input rest : List String} {found : Found} {word : String}
    (hwords : findCommandWord programGrammar programHelp words = .ok (found, word, rest))
    {target : Command ⊕ Group} (htarget : commandOrGroup? word = some target)
    (hsettings : settingsFor env machine (configPath? env found.given) = .ok settings)
    {invocation : Invocation} {output : String}
    (hinvocation : target.elim (invocationOf · rest input) (groupInvocation · rest input) =
      .ok (invocation, output)) :
    prepare env machine words input = .ok (settings, invocation, output) := by
  rw [prepare, hwords, Except.bind_eq_ok_iff]
  refine ⟨_, rfl, ?_⟩
  dsimp only
  rw [htarget]
  dsimp only
  rw [hsettings, Except.bind_eq_ok_iff]
  refine ⟨_, rfl, ?_⟩
  cases target with
  | inl command =>
    rw [Sum.elim_inl] at hinvocation
    dsimp only
    rw [hinvocation]
    rfl
  | inr group =>
    rw [Sum.elim_inr] at hinvocation
    dsimp only
    rw [hinvocation]
    rfl

/-- Any name, password and id can be given, also such as begin with hyphens. -/
theorem prepare_addWords (hconfig : Keyring.valueOf? configVariable env = none)
    (hsettings : settingsFor env machine none = .ok settings) (username password id : String) :
    prepare env machine (addWords username password id) [] =
      .ok (settings, .addCredential username password (some id) "" none none, "") := by
  have hwords : findCommandWord programGrammar programHelp (addWords username password id) =
      .ok ({ others := addWords username password id }, "credentials",
        (addWords username password id).tail) := rfl
  have htarget : commandOrGroup? "credentials" = some (.inr .credentials) := rfl
  rw [← configPath_of_unset hconfig] at hsettings
  exact prepare_eq_ok hwords htarget hsettings rfl

theorem prepare_createWords (hconfig : Keyring.valueOf? configVariable env = none)
    (hsettings : settingsFor env machine none = .ok settings) (serverUrl id : String) :
    prepare env machine (createWords serverUrl id) [] =
      .ok (settings, .createToken serverUrl id, "") := by
  have hwords : findCommandWord programGrammar programHelp (createWords serverUrl id) =
      .ok ({ others := createWords serverUrl id }, "create-token",
        (createWords serverUrl id).tail) := rfl
  have htarget : commandOrGroup? "create-token" = some (.inl .createToken) := rfl
  rw [← configPath_of_unset hconfig] at hsettings
  exact prepare_eq_ok hwords htarget hsettings rfl

end

/-! ### Storing -/

theorem exitCode_ofFault (fault : Fault) : (Report.ofFault fault).exitCode = 1 := by
  cases fault <;> rfl

/-- **An addition that is accepted has been saved**: the files of the next run are those that a save
of the login, under its id as it was typed, has left. -/
theorem save_of_addCredential {place : Workplace σ} {settings : Settings} {machine : Machine σ}
    {file : EncryptedFile} {tree : FileTree}
    (hopens : place.Opens settings machine.tree file .empty tree) {login : NewLogin} {id : String}
    (hid : id ≠ "") {serverUrl? : Option String} (hurl : serverUrl?.filter (!·.isEmpty) = none)
    (haccepted :
      (addCredential place settings login (some id) serverUrl? machine).1.exitCode = 0) :
    file.save place.refusals (.holding (login.credential id)) tree =
      (.ok (), (addCredential place settings login (some id) serverUrl? machine).2.tree) := by
  have hchosen : (some id).filter (!·.isEmpty) = some id := by simpa using hid
  have hwrite : Store.addCredential .null (login.credential id) place.operator .empty =
      .ok (.change (.append .null (login.credential id)) .null true) :=
    Store.addCredential_empty (by simp [Workplace.operator]) _
  rw [addCredential, hopens.withStore] at haccepted ⊢
  simp only [chosenId, hchosen, storeIn, domainFor, hurl, Store.perform, OpenedStore.ofFile,
    Domain.global, hwrite, Store.mutate_append_empty, Workplace.saver] at haccepted ⊢
  rcases hsave : file.save place.refusals (.holding (login.credential id)) tree with
    ⟨failure | _, saved⟩
  · simp only [hsave] at haccepted
    rw [show storedReport id (Except.map _ (Except.error _)) = Report.ofFault _ from rfl,
      exitCode_ofFault] at haccepted
    cases haccepted
  · rfl

/-- **The next run opens the store with the login in it**, if its cipher opens what that of the
first one seals. -/
theorem opens_of_run {place : Workplace σ} {place' : Workplace τ} {settings : Settings}
    (hrejects : ∀ password salt, (place.ciphers password salt).decrypt? salt = none)
    (hopens : ∀ password salt,
      (place'.ciphers password salt).Opens (place.ciphers password salt))
    {machine : Machine σ} (hempty : place.HasEmptyStore settings machine.tree)
    {words input : List String} {username password id description output : String}
    {serverUrl? owner? : Option String} (hid : id ≠ "")
    (hnoUrl : serverUrl?.filter (!·.isEmpty) = none)
    (hadd : prepare place.environment machine words input = .ok (settings,
      .addCredential username password (some id) description serverUrl? owner?, output))
    (haccepted : (run place words input machine).1.exitCode = 0) :
    let login : NewLogin := ⟨username, password, description, owner?⟩
    let after := (run place words input machine).2.tree
    ∃ file, place'.Opens settings after file (.holding (login.credential id)) after := by
  intro login after
  rw [run_of_prepare hadd] at haccepted
  have hafter : after =
      (addCredential place settings login (some id) serverUrl? machine).2.tree := by
    rw [show after = (run place words input machine).2.tree from rfl, run_of_prepare hadd]
    rfl
  obtain ⟨file, tree, hopened⟩ := hempty
  have hsave := save_of_addCredential hopened hid hnoUrl haccepted
  obtain ⟨master, hmaster, hopen⟩ := hopened.opened
  have howner : (Json.ofText? owner?).Plain := by
    cases owner? with
    | none => exact Json.plain_null
    | some owner => exact Json.plain_str owner
  have hplain : (login.credential id).Plain := Credential.plain_of_texts (Json.plain_str _)
    howner (Json.plain_str _) ⟨Json.plain_str _, Json.plain_str _⟩
  rw [hafter]
  exact ⟨_, hopened.kind, master, hmaster, EncryptedFile.openStore_of_save (hrejects master)
    (hopens master) hopen (Store.writable_holding hplain) hsave place'.refusals place'.freshSalt⟩

/-! ### Exchanging -/

/-- An exchange leaves the machine as it leaves its surroundings. -/
theorem machine_runExchange {place : Workplace σ} {settings : Settings} {machine : Machine σ}
    {file : EncryptedFile} {store : Store} {tree : FileTree}
    (hopens : place.Opens settings machine.tree file store tree)
    (run : Surroundings (Machine σ) → AccessControl → Store → Machine σ →
      Except Fault Outcome × Store × Machine σ) :
    (runExchange place settings machine run).2 =
      (run (place.surroundings (file.save place.refusals)) (.start place.operator) store
        { machine with tree := tree }).2.2 := by
  rw [runExchange, hopens.withStore]
  rfl

/-- **The request for a stored login.** Where the store holds one login, without an owner, an
exchange asks the issuer for one token, with the name and the password of the login, if the id that
is given is that of the login once the blanks at its ends are dropped; and for none if not. -/
theorem calls_of_run {place : Workplace σ} {settings : Settings}
    {machine : Machine (σ × List IssuerCall)} {file : EncryptedFile} {login : Credential}
    {tree : FileTree} (hopens : place.Opens settings machine.tree file (.holding login) tree)
    {username password : Json} (hcontent : login.content = .login username password)
    (howner : login.owner = .null) (hnonempty : login.id ≠ .str "")
    {words input : List String} {serverUrl id output : String}
    (hcreate : prepare place.environment machine words input =
      .ok (settings, .createToken serverUrl id, output))
    {url : ServerUrl} (hurl : ServerUrl.parse serverUrl = .ok url) :
    (run place.recorded words input machine).2.outside.2 =
      machine.outside.2 ++ if login.id = .str (stripped id) then
        settings.exchange.callsFor place.today
          (fun request ↦ (place.issue request machine.outside.1).1)
          { username := username, password := password, serverUrl := stripped serverUrl
            tokenName := settings.exchange.tokenName }
      else [] := by
  have hrun : (run place.recorded words input machine).2 =
      (createToken place.recorded settings serverUrl id machine).2 := by
    have hcreate : prepare place.recorded.environment machine words input = _ := hcreate
    rw [run_of_prepare hcreate]
    rfl
  have hopens : place.recorded.Opens settings machine.tree file (.holding login) tree :=
    ⟨hopens.kind, hopens.opened⟩
  rw [hrun, createToken, machine_runExchange hopens]
  have hserver := settings.exchange.serverUrlOr_of_parse hurl
  have hkindLogin : login.kind = .login := by rw [Credential.kind, hcontent]
  have hlookup : Exchange.lookupLogin (.start place.recorded.operator) (.holding login)
      (settings.exchange.serverUrlOr (some serverUrl)) (.str (stripped ((some id).getD ""))) =
        .ok (if login.id = .str (stripped id) then some login else none) := by
    rw [hserver]
    exact Exchange.lookupLogin_holding hkindLogin howner (ServerUrl.parse_stripped hurl) _ _
      fun heq ↦ by cases heq
  have hadmin : (AccessControl.start place.recorded.operator).has .administer = true :=
    Authentication.has_administrator _ _
  by_cases hsame : login.id = .str (stripped id)
  · rw [if_pos hsame] at hlookup ⊢
    have hgiven : stripped ((some id).getD "") ≠ "" := by
      intro hblank
      rw [Option.getD_some] at hblank
      exact hnonempty (hblank ▸ hsame)
    rw [← hserver]
    exact (place.records_recorded _).byCredentials_of_login hadmin hgiven hlookup hcontent _
  · rw [if_neg hsame] at hlookup ⊢
    obtain ⟨message, hnone⟩ := Exchange.byCredentials_of_none hadmin (Or.inr hlookup)
      (place.recorded.surroundings (file.save place.recorded.refusals))
      { machine with tree := tree }
    rw [hnone, List.append_nil]

/-! ### There and back -/

/-- **A login from the terminal can be exchanged at the terminal, if its id has no blanks at its
ends.** Let a run store a login under an id, without an owner and without a server, in an encrypted
store in which there is nothing, and let it be accepted. Let a later run, with its own cipher, which
opens what the first one seals, and with what the first one has left of the files, exchange the id
on a usable URL. If there are no blanks at the ends of the id, the issuer is asked for one token,
with the name and the password of the login, unless there is no such day as that on which the token
is to expire. If there are blanks, it is asked for nothing. -/
theorem createToken_of_addCredential {place : Workplace σ} {place' : Workplace τ}
    {settings : Settings}
    (hrejects : ∀ password salt, (place.ciphers password salt).decrypt? salt = none)
    (hopens : ∀ password salt,
      (place'.ciphers password salt).Opens (place.ciphers password salt))
    -- the first run
    {machine : Machine σ} (hempty : place.HasEmptyStore settings machine.tree)
    {words input : List String} {username password id description output : String}
    {serverUrl? : Option String} (hid : id ≠ "") (hnoUrl : serverUrl?.filter (!·.isEmpty) = none)
    (hadd : prepare place.environment machine words input =
      .ok (settings, .addCredential username password (some id) description serverUrl? none,
        output))
    (haccepted : (run place words input machine).1.exitCode = 0)
    -- the second run
    {machine' : Machine (τ × List IssuerCall)}
    (htree : machine'.tree = (run place words input machine).2.tree)
    (hcalls : machine'.outside.2 = [])
    {words' input' : List String} {serverUrl output' : String}
    (hcreate : prepare place'.environment machine' words' input' =
      .ok (settings, .createToken serverUrl id, output'))
    {url : ServerUrl} (hurl : ServerUrl.parse serverUrl = .ok url) :
    let calls := (run place'.recorded words' input' machine').2.outside.2
    (stripped id = id → ∀ expires?, settings.exchange.expiry? place'.today = .ok expires? →
      let request : TokenRequest :=
        { username := .str username, password := .str password, serverUrl := stripped serverUrl
          tokenName := settings.exchange.tokenName, expires? := expires? }
      calls = [⟨request, (place'.issue request machine'.outside.1).1⟩]) ∧
    (∀ fault, settings.exchange.expiry? place'.today = .error fault → calls = []) ∧
    (stripped id ≠ id → calls = []) := by
  intro calls
  obtain ⟨file, hopened⟩ := opens_of_run hrejects hopens hempty hid hnoUrl hadd haccepted
  rw [← htree] at hopened
  have hnonempty : Json.str id ≠ .str "" := fun heq ↦ hid (Json.str.inj heq)
  have hcalled : calls = machine'.outside.2 ++ if Json.str id = .str (stripped id) then
      settings.exchange.callsFor place'.today
        (fun request ↦ (place'.issue request machine'.outside.1).1)
        { username := .str username, password := .str password, serverUrl := stripped serverUrl
          tokenName := settings.exchange.tokenName }
      else [] :=
    calls_of_run hopened rfl rfl hnonempty hcreate hurl
  rw [hcalls, List.nil_append] at hcalled
  refine ⟨fun hstripped expires? hexpiry ↦ ?_, fun fault hexpiry ↦ ?_, fun hstripped ↦ ?_⟩
  · rw [hcalled, hstripped, if_pos rfl, Exchange.callsFor_of_ok hexpiry]
  · rw [hcalled, Exchange.callsFor_of_error hexpiry, ite_self]
  · rw [hcalled, if_neg fun heq ↦ hstripped (Json.str.inj heq).symm]

/-! ### Two runs -/

/-- A workplace with nothing but a master password in its environment, where all ids are the same
and the issuer always makes the same token. -/
def Workplace.steady : Workplace Unit where
  environment := [("TOKEN_EXCHANGE_STORE__MASTER_PASSWORD", "pw")]
  ciphers := Cipher.labelled
  freshSalt := "0123456789abcdef".toUTF8
  today := ⟨1⟩
  freshId world := ("new", world)
  issue _ world := (.ok (.str "t"), world)

theorem decrypt_steady_salt (password : String) (salt : ByteArray) :
    (Workplace.steady.ciphers password salt).decrypt? salt = none :=
  Cipher.decrypt_labelled_salt password salt

theorem opens_steady (password : String) (salt : ByteArray) :
    (Workplace.steady.ciphers password salt).Opens (Workplace.steady.ciphers password salt) :=
  Cipher.faithful_labelled password salt

/-- What such a workplace is configured with, on any machine. -/
theorem settingsFor_steady (machine : Machine σ) (hkeyring : machine.keyring = {}) :
    ∃ settings, settingsFor Workplace.steady.environment machine none = .ok settings ∧
      settings.store =
        ⟨.encryptedFile, .ofString ".token-exchange/credentials.enc", some "pw"⟩ ∧
      settings.exchange = {} := by
  rw [settingsFor, hkeyring]
  exact ⟨_, rfl, rfl, rfl⟩

theorem hasEmptyStore_steady {settings : Settings} (hstore : settings.store =
      ⟨.encryptedFile, .ofString ".token-exchange/credentials.enc", some "pw"⟩) :
    Workplace.steady.HasEmptyStore settings {} := by
  have hsalt : (EncryptedFile.loadSalt {} {} (.ofString ".token-exchange/credentials.enc")
      Workplace.steady.freshSalt).1 = .ok Workplace.steady.freshSalt := by decide +kernel
  have habsent : (EncryptedFile.loadSalt {} {} (.ofString ".token-exchange/credentials.enc")
      Workplace.steady.freshSalt).2.node?
        (FilePath.ofString ".token-exchange/credentials.enc").place = none := by decide +kernel
  exact Workplace.hasEmptyStore_of_absent (by rw [hstore]) (by rw [hstore]) (by decide)
    (by rw [hstore]; exact hsalt) (by rw [hstore]; exact habsent)

/-- An id without blanks. -/
theorem createToken_of_addCredential_plain :
    let stored := run .steady (addWords "u" "p" "x") [] { tree := {}, outside := () }
    let machine : Machine (Unit × List IssuerCall) := { tree := stored.2.tree, outside := ((), []) }
    stored.1.exitCode = 0 ∧
      (run Workplace.steady.recorded (createWords " https://h" "x") [] machine).2.outside.2 =
        [⟨{ username := .str "u", password := .str "p", serverUrl := "https://h"
            tokenName := "mytoken" }, .ok (.str "t")⟩] := by
  intro stored machine
  have hstored : stored.1.exitCode = 0 := by decide +kernel
  obtain ⟨settings, hsettings, hstore, hexchange⟩ :=
    settingsFor_steady { tree := {}, outside := () : Machine Unit } rfl
  have hconfig : Keyring.valueOf? configVariable Workplace.steady.environment = none := by decide
  have hadd := prepare_addWords hconfig hsettings "u" "p" "x"
  have hcreate : prepare Workplace.steady.environment machine (createWords " https://h" "x") [] =
      .ok (settings, .createToken " https://h" "x", "") :=
    prepare_createWords hconfig hsettings " https://h" "x"
  have hurl : ServerUrl.parse " https://h" = .ok ⟨"https", "h", none, ""⟩ := by decide +kernel
  have hexpiry : settings.exchange.expiry? Workplace.steady.today = .ok none := by
    rw [hexchange]
    rfl
  have hstripped : stripped " https://h" = "https://h" := by decide +kernel
  have htree : machine.tree = stored.2.tree := rfl
  have hcalls : machine.outside.2 = [] := rfl
  refine ⟨hstored, ?_⟩
  clear_value machine
  have hcalled := (createToken_of_addCredential decrypt_steady_salt opens_steady
    (hasEmptyStore_steady hstore) (by decide) rfl hadd hstored htree hcalls hcreate hurl).1
    (by decide) none hexpiry
  rw [hcalled, hstripped, hexchange]
  rfl

/-- An id that begins with a blank: the login is stored, and cannot be exchanged. -/
theorem createToken_of_padded_id :
    let stored := run .steady (addWords "u" "p" " x") [] { tree := {}, outside := () }
    let machine : Machine (Unit × List IssuerCall) := { tree := stored.2.tree, outside := ((), []) }
    stored.1.exitCode = 0 ∧
      (run Workplace.steady.recorded (createWords "https://h" " x") [] machine).2.outside.2 =
        [] := by
  intro stored machine
  have hstored : stored.1.exitCode = 0 := by decide +kernel
  obtain ⟨settings, hsettings, hstore, -⟩ :=
    settingsFor_steady { tree := {}, outside := () : Machine Unit } rfl
  have hconfig : Keyring.valueOf? configVariable Workplace.steady.environment = none := by decide
  have hadd := prepare_addWords hconfig hsettings "u" "p" " x"
  have hcreate : prepare Workplace.steady.environment machine (createWords "https://h" " x") [] =
      .ok (settings, .createToken "https://h" " x", "") :=
    prepare_createWords hconfig hsettings "https://h" " x"
  have hurl : ServerUrl.parse "https://h" = .ok ⟨"https", "h", none, ""⟩ := by decide +kernel
  obtain ⟨file, hopens⟩ := opens_of_run decrypt_steady_salt opens_steady
    (hasEmptyStore_steady hstore) (by decide) rfl hadd hstored
  have htree : machine.tree = stored.2.tree := rfl
  have hcalls : machine.outside.2 = [] := rfl
  refine ⟨hstored, ?_⟩
  clear_value machine
  rw [← htree] at hopens
  have hcalled := calls_of_run hopens rfl rfl (by decide) hcreate hurl
  rw [hcalled, hcalls]
  rfl

end CommandLine

end TokenBroker
