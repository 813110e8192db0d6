import TokenBroker.CommandLine.Credentials
import TokenBroker.Proofs.CommandLine.StoredLogin
import TokenBroker.Proofs.Store.Decoding
import TokenBroker.Proofs.Store.FailedSaves
import TokenBroker.Proofs.Store.Persistence

/-!
# Removing an id everywhere

The command for removing a credential goes from domain to domain and takes the credentials with an
id out of each, with a save of its own wherever there are any. So it is not all or nothing. If all
saves succeed, the id is gone from the whole store, and nothing else is. If a save fails, the
command ends there: the domains before that one have been cleared, and that one and those after it
are as they were (`removeCredential_outcome`). One domain is the step
(`Store.removeCredential_split`), and the command is a run over the domains that are left, wherever
in the list they begin (`outcome_removeFrom`).

The removals are also steps of a store in its file (`steps_removeFrom`), so that after the command,
whether it went through or not, the file holds the store as the command leaves it.
-/

namespace TokenBroker

variable {σ : Type}

/-! ### Taking an id out of a domain -/

namespace StoreEntry

/-- The domain holds a credential with an id. -/
def Holds (id : String) (entry : StoreEntry) : Prop :=
  ∃ credential ∈ entry.credentials, credential.id = .str id

instance (id : String) (entry : StoreEntry) : Decidable (entry.Holds id) :=
  inferInstanceAs (Decidable (∃ credential ∈ entry.credentials, credential.id = .str id))

/-- The domain with its credentials, but without those with an id. -/
def without (id : String) (entry : StoreEntry) : StoreEntry :=
  { entry with credentials := entry.credentials.filter fun credential ↦ credential.id ≠ .str id }

theorem without_of_not_holds {id : String} {entry : StoreEntry} (h : ¬ entry.Holds id) :
    entry.without id = entry := by
  have hkept : entry.credentials.filter (fun credential ↦ credential.id ≠ .str id) =
      entry.credentials :=
    List.filter_eq_self.2 fun credential hcredential ↦
      decide_eq_true fun hid ↦ h ⟨credential, hcredential, hid⟩
  rw [without, hkept]

end StoreEntry

/-- **What is asked for at a domain** is to take the id out of it, or nothing if the domain does not
hold it. -/
theorem Store.removeCredential_split {before after : List StoreEntry} {entry : StoreEntry}
    {who : Authentication} (hstore : NamesDistinct ⟨before ++ entry :: after⟩)
    (hwho : who.has .manageDomains = true) (id : String) :
    removeCredential entry.domain.name (.str id) who ⟨before ++ entry :: after⟩ =
      .ok (if entry.Holds id then
        .change (.remove entry.domain.name (.str id)) entry.domain.name true
      else .settled false) := by
  have hcredentials : credentialsOf ⟨before ++ entry :: after⟩ entry.domain.name =
      entry.credentials := by
    rw [credentialsOf, hstore.entry_eq_some (List.mem_append_right _ List.mem_cons_self)]
    rfl
  have hany : (entry.credentials.any fun credential ↦ Json.same credential.id (.str id)) = true ↔
      entry.Holds id := by
    simp [StoreEntry.Holds, Json.same_str_right_iff]
  rw [removeCredential, checkManage_eq_ok_iff.2 hwho, Except.bind_eq_ok_iff]
  refine ⟨(), rfl, ?_⟩
  rw [hcredentials]
  by_cases h : entry.Holds id
  · rw [if_pos h, if_pos (hany.2 h)]
    rfl
  · rw [if_neg h, if_neg (mt hany.1 h)]
    rfl

/-- What comes of it is the store with the id taken out of the domain. -/
theorem Store.mutate_remove_split {before after : List StoreEntry} {entry : StoreEntry}
    (hstore : NamesDistinct ⟨before ++ entry :: after⟩) (id : String) :
    mutate ⟨before ++ entry :: after⟩ (.remove entry.domain.name (.str id)) =
      ⟨before ++ entry.without id :: after⟩ := by
  have hkeep : (fun credential : Credential ↦ !Json.same credential.id (.str id)) =
      fun credential ↦ decide (credential.id ≠ .str id) := by
    funext credential
    rw [Bool.eq_iff_iff]
    simp [← Json.same_str_right_iff]
  rw [mutate, hstore.updateCredentials_split (Json.same_self _), hkeep]
  rfl

/-! ### Stores that can be opened -/

/-- A store that is read from its file has distinct names. -/
theorem EncryptedFile.namesDistinct_of_load {file : EncryptedFile} {tree : FileTree} {store : Store}
    (h : file.load tree = .ok store) : store.NamesDistinct := by
  rw [load] at h
  split at h
  · split at h
    · cases h
    split at h
    · cases h
    rename_i text _
    rw [readStore] at h
    split at h
    · cases h
    split at h
    · cases h
    · cases h
    rename_i document _
    cases hdecode : Store.decode document with
    | error cause => rw [hdecode] at h; cases h
    | ok decoded =>
      rw [hdecode] at h
      obtain rfl := Except.ok.inj h
      exact (Store.proper_of_decode hdecode).namesDistinct
  · obtain rfl := Except.ok.inj h
    exact Store.namesDistinct_empty

/-- **Whatever store is opened has distinct names**, also where its file repeats them. -/
theorem OpenedStore.namesDistinct_of_open {settings : StoreSettings} {ciphers : CipherFamily}
    {refusals : Refusals} {fresh : ByteArray} {tree tree' : FileTree} {opened : OpenedStore}
    (h : open? settings ciphers refusals fresh tree = (.ok opened, tree')) :
    opened.store.NamesDistinct := by
  rw [open?] at h
  split at h
  · cases h
    exact Store.namesDistinct_empty
  · cases h
  · rename_i password _ _
    obtain ⟨result, after, hopen⟩ : ∃ result after, EncryptedFile.openStore ciphers tree refusals
        settings.path password none fresh = (result, after) := ⟨_, _, rfl⟩
    rw [hopen] at h
    cases result with
    | error error => cases h
    | ok found =>
      cases h
      exact EncryptedFile.namesDistinct_of_load
        (EncryptedFile.openStore_eq_ok_iff.1 hopen).2.2.2

namespace CommandLine

/-! ### From domain to domain -/

/-- The call that takes an id out of a domain. -/
def removal (who : Authentication) (id : String) (domain : Domain) : StoreCall :=
  ⟨who, .removeCredential domain.name (.str id)⟩

/-- Of the removals from domains, one after the other, the first one whose save fails. -/
def firstFailed? (save : Saver σ) (id : String) (who : Authentication) (domains : List Domain)
    (store : Store) (world : σ) : Option StoreCall.Turn :=
  (StoreCall.turns save (domains.map (removal who id)) (store, world)).find? (·.failed)

section

variable {save : Saver σ} {who : Authentication} {id : String} {store next : Store}
  {mutation : Mutation} {world world' : σ} {domain : Domain}

theorem propose_removal {proposal : Proposal Bool}
    (h : Store.removeCredential domain.name (.str id) who store = .ok proposal) :
    (removal who id domain).write.propose (removal who id domain).who store =
      .ok (proposal.map .done) := by
  rw [removal, StoreWrite.propose, h]
  rfl

/-- Removals that do not fail are passed over. -/
theorem firstFailed_of_not_failed
    (hfailed : (removal who id domain).failsToSave save (store, world) = false)
    (hrun : (removal who id domain).run save (store, world) = (next, world')) (rest : List Domain) :
    firstFailed? save id who (domain :: rest) store world =
      firstFailed? save id who rest next world' := by
  have hturn : ¬ ((removal who id domain).turn save (store, world)).failed = true := by
    rw [StoreCall.turn, hfailed]
    exact Bool.false_ne_true
  rw [firstFailed?, List.map_cons, StoreCall.turns, List.find?_cons_of_neg hturn, hrun]
  rfl

/-- **A domain that does not hold the id** is passed over. -/
theorem removeFrom_of_settled
    (h : Store.removeCredential domain.name (.str id) who store = .ok (.settled false))
    (save : Saver σ) (world : σ) (rest : List Domain) :
    firstFailed? save id who (domain :: rest) store world =
        firstFailed? save id who rest store world ∧
      removeFrom save (.str id) who (domain :: rest) store world =
        ((removeFrom save (.str id) who rest store world).1.map (false || ·),
          (removeFrom save (.str id) who rest store world).2) := by
  have hpropose := propose_removal h
  refine ⟨firstFailed_of_not_failed ?_ ?_ rest, ?_⟩
  · rw [StoreCall.failsToSave, hpropose]
    rfl
  · rw [StoreCall.run, StoreWrite.run, Store.perform, hpropose]
    rfl
  · rw [removeFrom, Store.perform, h]

/-- **A domain that is cleared.** -/
theorem removeFrom_of_saved {name : Json}
    (h : Store.removeCredential domain.name (.str id) who store = .ok (.change mutation name true))
    (hnext : store.mutate mutation = next) (hsave : save next world = (.ok (), world'))
    (rest : List Domain) :
    firstFailed? save id who (domain :: rest) store world =
        firstFailed? save id who rest next world' ∧
      removeFrom save (.str id) who (domain :: rest) store world =
        ((removeFrom save (.str id) who rest next world').1.map (true || ·),
          (removeFrom save (.str id) who rest next world').2) := by
  subst hnext
  have hpropose := propose_removal h
  refine ⟨firstFailed_of_not_failed ?_ ?_ rest, ?_⟩
  · rw [StoreCall.failsToSave, hpropose]
    show (!(save (store.mutate mutation) world).1.isOk) = false
    rw [hsave]
    rfl
  · rw [StoreCall.run, StoreWrite.run, Store.perform, hpropose]
    simp only [Proposal.map, hsave]
  · rw [removeFrom, Store.perform, h]
    simp only [hsave]

/-- **A domain whose save fails** ends the command. -/
theorem removeFrom_of_failed {name : Json} {failure : SaveFailure}
    (h : Store.removeCredential domain.name (.str id) who store = .ok (.change mutation name true))
    (hsave : save (store.mutate mutation) world = (.error failure, world')) (rest : List Domain) :
    firstFailed? save id who (domain :: rest) store world =
        some ⟨removal who id domain, store, .error (failure.storeError name), store, true⟩ ∧
      removeFrom save (.str id) who (domain :: rest) store world =
        (.error (failure.storeError name), store, world') := by
  have hturn : (removal who id domain).turn save (store, world) =
      ⟨removal who id domain, store, .error (failure.storeError name), store, true⟩ := by
    rw [StoreCall.turn_of_change (propose_removal h), hsave]
  constructor
  · rw [firstFailed?, List.map_cons, StoreCall.turns, hturn, List.find?_cons_of_pos rfl]
  · rw [removeFrom, Store.perform, h]
    simp only [hsave]

end

/-! ### The whole command -/

/-- What removals come to, from domains that come after others: the answer, and the store that they
leave. -/
structure RemovalOutcome (who : Authentication) (id : String) (before rest : List StoreEntry)
    (firstFailed? : Option StoreCall.Turn) (answer : Except StoreError Bool) (store : Store) :
    Prop where
  /-- If no save fails, all of them are cleared, and the answer is whether any held the id. -/
  saved : firstFailed? = none →
    answer = .ok (decide (∃ entry ∈ rest, entry.Holds id)) ∧
    store = ⟨before ++ rest.map (·.without id)⟩
  /-- If a save fails, the domains before that one are cleared, and nothing else is changed. -/
  failed : ∀ turn, firstFailed? = some turn → ∃ cleared entry later error,
    rest = cleared ++ entry :: later ∧ entry.Holds id ∧ turn.call = removal who id entry.domain ∧
    turn.ending = .error error ∧ error.fault.IsStorage ∧ answer = .error error ∧
    store = ⟨before ++ (cleared.map (·.without id) ++ entry :: later)⟩

/-- One more domain, which has been cleared. -/
theorem RemovalOutcome.cons {who : Authentication} {id : String} {before rest : List StoreEntry}
    {entry : StoreEntry} {firstFailed? : Option StoreCall.Turn} {answer : Except StoreError Bool}
    {store : Store}
    (h : RemovalOutcome who id (before ++ [entry.without id]) rest firstFailed? answer store) :
    RemovalOutcome who id before (entry :: rest) firstFailed?
      (answer.map (decide (entry.Holds id) || ·)) store where
  saved hnone := by
    obtain ⟨rfl, rfl⟩ := h.saved hnone
    refine ⟨?_, by rw [List.append_assoc]; rfl⟩
    simp [Except.map]
  failed turn hturn := by
    obtain ⟨cleared, failing, later, error, rfl, hholds, hcall, hending, hstorage, rfl, rfl⟩ :=
      h.failed turn hturn
    exact ⟨entry :: cleared, failing, later, error, rfl, hholds, hcall, hending, hstorage, rfl,
      by rw [List.append_assoc]; rfl⟩

theorem outcome_removeFrom (save : Saver σ) {who : Authentication}
    (hwho : who.has .manageDomains = true) (id : String) (rest before : List StoreEntry) (world : σ)
    (hstore : Store.NamesDistinct ⟨before ++ rest⟩) :
    let result := removeFrom save (.str id) who (rest.map (·.domain)) ⟨before ++ rest⟩ world
    RemovalOutcome who id before rest
      (firstFailed? save id who (rest.map (·.domain)) ⟨before ++ rest⟩ world)
      result.1 result.2.1 := by
  induction rest generalizing before world with
  | nil =>
    refine ⟨fun _ ↦ ⟨rfl, rfl⟩, fun turn hturn ↦ ?_⟩
    cases hturn
  | cons entry rest ih =>
    have hasked := Store.removeCredential_split hstore hwho id
    have hcleared := Store.mutate_remove_split hstore id
    -- the others go on from here with the entry as it is now
    have hothers := ih (before ++ [entry.without id])
    rw [List.append_assoc, List.singleton_append] at hothers
    have hnext : Store.NamesDistinct ⟨before ++ entry.without id :: rest⟩ := by
      rw [Store.NamesDistinct, Store.domains, List.map_append] at hstore ⊢
      exact hstore
    by_cases hholds : entry.Holds id
    · rw [if_pos hholds] at hasked
      rcases hsave : save ⟨before ++ entry.without id :: rest⟩ world with ⟨failure | _, world'⟩
      · obtain ⟨hfirst, hresult⟩ :=
          removeFrom_of_failed hasked (hcleared ▸ hsave) (rest.map (·.domain))
        rw [List.map_cons, hfirst, hresult]
        refine ⟨fun hnone ↦ (by cases hnone), fun turn hturn ↦ ?_⟩
        obtain rfl := Option.some.inj hturn
        exact ⟨[], entry, rest, _, rfl, hholds, rfl, rfl, failure.isStorage_storeError _, rfl, rfl⟩
      · obtain ⟨hfirst, hresult⟩ := removeFrom_of_saved hasked hcleared hsave (rest.map (·.domain))
        rw [List.map_cons, hfirst, hresult, ← decide_eq_true hholds]
        exact (hothers world' hnext).cons
    · rw [if_neg hholds] at hasked
      obtain ⟨hfirst, hresult⟩ :=
        removeFrom_of_settled hasked save world (rest.map (·.domain))
      rw [StoreEntry.without_of_not_holds hholds] at hothers hnext
      rw [List.map_cons, hfirst, hresult, ← decide_eq_false hholds]
      refine RemovalOutcome.cons ?_
      rw [StoreEntry.without_of_not_holds hholds]
      exact hothers world hnext

/-! ### The file of the store -/

/-- A write is saved to the files of a machine as it is saved to files. -/
theorem perform_saver {α : Type} {file : EncryptedFile} {save : Saver FileTree}
    (hsave : ∀ next tree, ∃ refusals, save next tree = file.save refusals next tree)
    (write : Store → Except StoreError (Proposal α)) (store : Store) (machine : Machine σ) :
    ∃ refusals answer after tree,
      Store.perform (file.save refusals) write store machine.tree = (answer, after, tree) ∧
      Store.perform (Workplace.saver save) write store machine =
        (answer, after, { machine with tree := tree }) := by
  cases hwrite : write store with
  | error error =>
    exact ⟨{}, .error error, store, machine.tree, by rw [Store.perform, hwrite],
      by rw [Store.perform, hwrite]⟩
  | ok proposal =>
    cases proposal with
    | settled answer =>
      exact ⟨{}, .ok answer, store, machine.tree, by rw [Store.perform, hwrite],
        by rw [Store.perform, hwrite]⟩
    | change mutation domain answer =>
      obtain ⟨refusals, hnext⟩ := hsave (store.mutate mutation) machine.tree
      refine ⟨refusals, _, _, _, rfl, ?_⟩
      simp only [Store.perform, hwrite, Workplace.saver, hnext]
      rcases file.save refusals (store.mutate mutation) machine.tree with ⟨failure | _, tree⟩ <;>
        rfl

/-- **Removals are steps of the store in its file**, whatever the file system refuses of them. -/
theorem steps_removeFrom {file : EncryptedFile} (hfaithful : file.cipher.Faithful)
    {save : Saver FileTree}
    (hsave : ∀ next tree, ∃ refusals, save next tree = file.save refusals next tree)
    (who : Authentication) (id : String) :
    ∀ (domains : List Domain) (store : Store) (machine : Machine σ),
      let result := removeFrom (Workplace.saver save) (.str id) who domains store machine
      Relation.ReflTransGen (EncryptedFile.Step file) (store, machine.tree)
        (result.2.1, result.2.2.tree)
  | [], _, _ => .refl
  | domain :: rest, store, machine => by
    obtain ⟨refusals, answer, after, tree, hfile, hmachine⟩ :=
      perform_saver hsave (Store.removeCredential domain.name (.str id) who) store machine
    have hrun : (removal who id domain).write.run (file.save refusals) who store machine.tree =
        (answer.map .done, after, tree) := by
      refine (StoreWrite.perform_map _ _ StoreAnswer.done store machine.tree).trans ?_
      rw [hfile]
    have hplain : (removal who id domain).write.Plain := trivial
    have hstep : EncryptedFile.Step file (store, machine.tree) (after, tree) :=
      .write hplain hfaithful hrun
    rw [removeFrom, hmachine]
    cases answer with
    | error error => exact .single hstep
    | ok removed =>
      exact .head hstep (steps_removeFrom hfaithful hsave who id rest after
        { machine with tree := tree })

/-! ### Removing everywhere, and only that -/

/-- What the command does once the store is open: what it reports, the store that it leaves, and the
machine. -/
def removeOpened (place : Workplace σ) (id : String) (opened : OpenedStore) (machine : Machine σ) :
    Report × Store × Machine σ :=
  let (answer, store, machine) := removeFrom (Workplace.saver opened.save) (.str id) place.operator
    opened.store.domains opened.store machine
  (removedReport "Credential deleted successfully" "Credential not found" answer, store, machine)

theorem removedReport_decide (found missing : String) (p : Prop) [Decidable p] :
    removedReport found missing (.ok (decide p)) = .said (if p then found else missing) := by
  by_cases h : p
  · rw [decide_eq_true h, if_pos h, removedReport]
  · rw [decide_eq_false h, if_neg h, removedReport]

/-- **Removing an id removes it everywhere, and only that.** Let the words of a run come to removing
an id, and let its store be one that can be opened. Then the domains of the store have distinct
names, and the run is what follows. Take any such store, in which any domains hold the id, and any
way to save it.

If no save fails, the command says that the credential was deleted if some domain held the id, and
that it was not found if none did; and each domain is there as it was, with its credentials but
those with the id. If a save fails, the command ends with exit code 1 and the message of that save;
the domains before that one are without the id, and that one, which held it, and all those after it
are as they were.

And if an encrypted file, away from other files of the broker, held the store before, it holds it
afterwards, whatever the file system refused of the saves. -/
theorem removeCredential_outcome (place : Workplace σ) (id : String) :
    (∀ words input settings output machine opened tree,
      prepare place.environment machine words input =
        .ok (settings, .removeCredential id, output) →
      OpenedStore.open? settings.store place.ciphers place.refusals place.freshSalt machine.tree =
        (.ok opened, tree) →
      opened.store.NamesDistinct ∧
      run place words input machine =
        let (report, _, after) := removeOpened place id opened { machine with tree := tree }
        (report.after output, after)) ∧
    ∀ opened machine, opened.store.NamesDistinct →
      let (report, store, after) := removeOpened place id opened machine
      let firstFailed? := firstFailed? (Workplace.saver opened.save) id place.operator
        opened.store.domains opened.store machine
      (firstFailed? = none →
        report = .said (if ∃ entry ∈ opened.store.entries, entry.Holds id then
          "Credential deleted successfully" else "Credential not found") ∧
        store = ⟨opened.store.entries.map (·.without id)⟩) ∧
      (∀ turn, firstFailed? = some turn → ∃ cleared entry later error,
        opened.store.entries = cleared ++ entry :: later ∧ entry.Holds id ∧
        turn.call = removal place.operator id entry.domain ∧ turn.ending = .error error ∧
        error.fault.IsStorage ∧ report = .ofFault error.fault ∧ report.exitCode = 1 ∧
        store = ⟨cleared.map (·.without id) ++ entry :: later⟩) ∧
      ∀ file salt?, file.cipher.Faithful → EncryptedFile.Apart file.path →
        (∀ next tree, ∃ refusals, opened.save next tree = file.save refusals next tree) →
        EncryptedFile.Synced file salt? opened.store machine.tree →
        EncryptedFile.Synced file salt? store after.tree := by
  refine ⟨fun words input settings output machine opened tree hprepare hopen ↦ ?_,
    fun opened machine hdistinct ↦ ?_⟩
  · refine ⟨OpenedStore.namesDistinct_of_open hopen, ?_⟩
    rw [run_of_prepare hprepare, Invocation.run, removeCredential, Workplace.withStore, hopen]
    rfl
  have hwho : place.operator.has .manageDomains = true := Authentication.has_administrator _ _
  have houtcome := outcome_removeFrom (Workplace.saver opened.save) hwho id opened.store.entries []
    machine hdistinct
  refine ⟨fun hnone ↦ ?_, fun turn hturn ↦ ?_, fun file salt? hfaithful hapart hsave hsynced ↦ ?_⟩
  · obtain ⟨hanswer, hstore⟩ := houtcome.saved hnone
    exact ⟨(congrArg (removedReport _ _) hanswer).trans (removedReport_decide _ _ _), hstore⟩
  · obtain ⟨cleared, entry, later, error, hentries, hholds, hcall, hending, hstorage, hanswer,
      hstore⟩ := houtcome.failed turn hturn
    have hreport : (removeOpened place id opened machine).1 = .ofFault error.fault :=
      congrArg (removedReport _ _) hanswer
    exact ⟨cleared, entry, later, error, hentries, hholds, hcall, hending, hstorage, hreport,
      (congrArg Report.exitCode hreport).trans (exitCode_ofFault _), hstore⟩
  · exact hsynced.steps hapart (steps_removeFrom hfaithful hsave place.operator id
      opened.store.domains opened.store machine)

/-- Three domains, of which the first and the last one hold the id, and a disk that is full after
the first save. -/
theorem removeCredential_outcome_disk_full :
    let token (id : String) : Credential := { id := .str id, content := .secretText (.str "t") }
    let login : Credential := { id := .str "x", content := .login (.str "u") (.str "p") }
    let entry (name : String) (credentials : List Credential) : StoreEntry :=
      ⟨{ name := .str name }, credentials⟩
    let start : Store := ⟨[⟨.global, [token "y", login]⟩, entry "h" [token "z"],
      entry "i" [token "x", token "y", login]]⟩
    let opened : OpenedStore :=
      { name := "memory"
        store := start
        save := fun _ tree ↦
          if tree.nodes.isEmpty then (.ok (), ⟨[(⟨.working, ["store"]⟩, .directory)]⟩)
          else (.error (.other "disk full"), tree) }
    let (report, store, _) := removeOpened .steady "x" opened { tree := {}, outside := () }
    report = .failed "Failed to save credentials: disk full" ∧ report.exitCode = 1 ∧
      (∃ cleared entry later, start.entries = cleared ++ entry :: later ∧ entry.Holds "x" ∧
        store = ⟨cleared.map (·.without "x") ++ entry :: later⟩) ∧
      store.entries.map (·.credentials) =
        [[token "y"], [token "z"], [token "x", token "y", login]] := by
  intro token login entry start opened
  have hdistinct : opened.store.NamesDistinct := by decide +kernel
  obtain ⟨-, hfailed, -⟩ := (removeCredential_outcome .steady "x").2 opened
    { tree := {}, outside := () } hdistinct
  obtain ⟨turn, hturn⟩ : ∃ turn, firstFailed? (Workplace.saver opened.save) "x"
      Workplace.steady.operator opened.store.domains opened.store
      { tree := {}, outside := () : Machine Unit } = some turn :=
    Option.isSome_iff_exists.1 (by decide +kernel)
  obtain ⟨cleared, failing, later, error, hentries, hholds, -, -, -, -, hcode, hstore⟩ :=
    hfailed turn hturn
  exact ⟨by decide +kernel, hcode, ⟨cleared, failing, later, hentries, hholds, hstore⟩,
    by decide +kernel⟩

end CommandLine

end TokenBroker
