import TokenBroker.Proofs.Store.Runs

/-!
# The ids within a domain

An addition is turned away by the same credential, and credentials are the same only if their kinds
are: a login and a secret text of one id are two credentials. So the invariant of the store is that
no domain holds the *same* credential twice (`Store.CredentialsDistinct`), and a domain holds an id
at most once for each kind (`StoreCall.runAll_ids`). That an id stands in a domain only once does
not follow, and fails after two additions (`StoreCall.runAll_shared_id`), although removals and the
choice of a login go by the id alone.
-/

namespace TokenBroker

variable {σ : Type}

namespace Store

/-- No domain holds the same credential twice. -/
def CredentialsDistinct (store : Store) : Prop :=
  ∀ entry ∈ store.entries, entry.credentials.Pairwise fun a b ↦ a.same b = false

theorem credentialsDistinct_empty : empty.CredentialsDistinct := by
  intro entry hentry
  rw [List.mem_singleton.1 hentry]
  exact List.Pairwise.nil

/-! ### Additions -/

/-- What is asked of an addition that finds the credential in its domain. -/
theorem addCredential_eq_settled_iff {name : Json} {credential : Credential}
    {who : Authentication} {store : Store} {answer : Bool} :
    addCredential name credential who store = .ok (.settled answer) ↔
      answer = false ∧ checkAdd credential who = .ok () ∧
        ∃ entry, store.entry? name = some entry ∧
          ∃ other ∈ entry.credentials, other.same credential = true := by
  constructor
  · intro h
    obtain ⟨hwho, entry, hentry, ⟨hsame, hanswer⟩ | ⟨-, hchange⟩⟩ := addCredential_eq_ok h
    · cases hanswer
      exact ⟨rfl, hwho, entry, hentry, hsame⟩
    · cases hchange
  · rintro ⟨rfl, hwho, entry, hentry, hsame⟩
    have hany : (entry.credentials.any fun other ↦ other.same credential) = true :=
      List.any_eq_true.2 hsame
    rw [addCredential, hwho, hentry]
    show (if (entry.credentials.any fun other ↦ other.same credential) = true then _ else _) = _
    rw [if_pos hany]
    rfl

end Store

/-- The same credentials are those of one kind and one id. -/
theorem Credential.same_eq_true_iff {a b : Credential} :
    a.same b = true ↔ a.kind = b.kind ∧ Json.same a.id b.id = true := by
  simp [Credential.same]

namespace StoreWrite

/-- **An addition is turned away by a credential of its kind and id, and by nothing else.** -/
theorem run_addCredential_eq_false_iff {save : Saver σ} {who : Authentication} {name : Json}
    {credential : Credential} {store : Store} {world : σ} :
    ((addCredential name credential).run save who store world).1 = .ok (.done false) ↔
      Store.checkAdd credential who = .ok () ∧
        ∃ entry, store.entry? name = some entry ∧
          ∃ other ∈ entry.credentials,
            other.kind = credential.kind ∧ Json.same other.id credential.id = true := by
  simp only [← Credential.same_eq_true_iff]
  have hrun : ((addCredential name credential).run save who store world).1 =
      (Store.perform save (Store.addCredential name credential who) store world).1.map .done := by
    show (Store.perform save (fun store ↦ (Store.addCredential name credential who store).map
      (Proposal.map StoreAnswer.done)) store world).1 = _
    rw [perform_map]
  rw [hrun]
  constructor
  · intro h
    obtain ⟨result, store', world', hperform⟩ : ∃ result store' world',
        Store.perform save (Store.addCredential name credential who) store world =
          (result, store', world') := ⟨_, _, _, rfl⟩
    rw [hperform] at h
    obtain rfl : result = .ok false := by
      cases result with
      | error error => cases h
      | ok answer => cases h; rfl
    rcases Store.perform_cases hperform with ⟨_, -, heq, -⟩ | ⟨answer, hwrite, -⟩ |
      ⟨_, _, _, _, -, -, heq, -⟩ | ⟨_, _, _, hwrite, -, heq, -⟩
    · cases heq
    · exact (Store.addCredential_eq_settled_iff.1 hwrite).2
    · cases heq
    · -- an addition that is made is not answered with `false`
      cases heq
      obtain ⟨-, _, -, ⟨-, heq⟩ | ⟨-, heq⟩⟩ := Store.addCredential_eq_ok hwrite <;> cases heq
  · intro h
    have hwrite := Store.addCredential_eq_settled_iff.2 ⟨rfl, h⟩
    simp only [Store.perform, hwrite]
    rfl

/-- A write that says that nothing was changed has changed nothing. -/
theorem run_of_false {save : Saver σ} {who : Authentication} {write : StoreWrite} {store : Store}
    {world : σ} (h : (write.run save who store world).1 = .ok (.done false)) :
    (write.run save who store world).2 = (store, world) := by
  obtain ⟨result, store', world', hrun⟩ : ∃ result store' world',
      write.run save who store world = (result, store', world') := ⟨_, _, _, rfl⟩
  rw [hrun] at h ⊢
  rcases run_cases hrun with ⟨rfl, rfl, -⟩ | ⟨_, _, _, _, -, -, rfl, -⟩ | ⟨answer, heffect, -, rfl⟩
  · rfl
  · cases h
  · cases h
    cases heffect

/-! ### What the effects keep -/

/-- **Effects make no credential stand twice.** An addition has looked through its domain, and the
other writes only take away. -/
theorem Effect.credentialsDistinct {who : Authentication} {store store' : Store}
    {write : StoreWrite} {answer : StoreAnswer} (h : write.Effect who store answer store')
    (hnames : store.NamesDistinct) (hstore : store.CredentialsDistinct) :
    store'.CredentialsDistinct := by
  cases h with
  | create hwho hurl hname hfree =>
    intro entry hentry
    rcases List.mem_append.1 hentry with hold | hnew
    · exact hstore entry hold
    · rw [List.mem_singleton.1 hnew]
      exact List.Pairwise.nil
  | @add name credential entry hwho hentry hnew =>
    obtain ⟨before, after, hentries, hname, -⟩ := Store.exists_split hentry
    obtain rfl : store = ⟨before ++ entry :: after⟩ := by rw [← hentries]
    rw [hnames.updateCredentials_split hname]
    intro other hother
    rcases List.mem_append.1 hother with hbefore | hother
    · exact hstore other (List.mem_append_left _ hbefore)
    rcases List.mem_cons.1 hother with rfl | hafter
    · -- the one list that has changed, by a credential that is not in it
      have hold := hstore entry (List.mem_append_right _ List.mem_cons_self)
      refine List.pairwise_append.2 ⟨hold, List.pairwise_singleton _ _, fun a ha b hb ↦ ?_⟩
      rw [List.mem_singleton.1 hb]
      exact hnew a ha
    · exact hstore other (List.mem_append_right _ (List.mem_cons_of_mem _ hafter))
  | @remove name id hwho hany =>
    intro entry hentry
    obtain ⟨old, hold, rfl⟩ := List.mem_map.1 hentry
    split
    · exact (hstore old hold).filter _
    · exact hstore old hold
  | erase hwho hname hentry =>
    intro entry hmem
    exact hstore entry (List.mem_of_mem_filter hmem)

end StoreWrite

namespace StoreCall

/-- Runs keep credentials distinct. -/
theorem credentialsDistinct_runAll (save : Saver σ) {start : Store × σ}
    (hnames : start.1.NamesDistinct) (hstart : start.1.CredentialsDistinct)
    (calls : List StoreCall) : (runAll save calls start).1.CredentialsDistinct := by
  have hboth : (runAll save calls start).1.NamesDistinct ∧
      (runAll save calls start).1.CredentialsDistinct :=
    runAll_induction (P := fun store ↦ store.NamesDistinct ∧ store.CredentialsDistinct) save
      ⟨hnames, hstart⟩ fun _ _ _ _ _ hstore h ↦
        ⟨h.namesDistinct hstore.1, h.credentialsDistinct hstore.1 hstore.2⟩
  exact hboth.2

/-- **What stands in a domain was added to it** by one of the calls. -/
theorem exists_addCredential_of_mem (save : Saver σ) {calls : List StoreCall} {world : σ}
    {entry : StoreEntry} (hentry : entry ∈ (runAll save calls (.empty, world)).1.entries)
    {credential : Credential} (hcredential : credential ∈ entry.credentials) :
    ∃ call ∈ calls, ∃ name, call.write = .addCredential name credential ∧
      Json.same entry.domain.name name = true := by
  refine runAll_induction (P := fun store ↦ ∀ entry ∈ store.entries,
    ∀ credential ∈ entry.credentials, ∃ call ∈ calls, ∃ name,
      call.write = .addCredential name credential ∧ Json.same entry.domain.name name = true)
    save ?_ ?_ entry hentry credential hcredential
  · intro entry hentry credential hcredential
    rw [List.mem_singleton.1 hentry] at hcredential
    cases hcredential
  · rintro ⟨who, write⟩ hcall store answer store' hstore heffect entry hentry credential hmem
    cases heffect with
    | create hwho hurl hname hfree =>
      rcases List.mem_append.1 hentry with hold | hnew
      · exact hstore entry hold credential hmem
      · rw [List.mem_singleton.1 hnew] at hmem
        cases hmem
    | @add name added holder hwho hholder hnew =>
      obtain ⟨old, hold, rfl⟩ := List.mem_map.1 hentry
      split at hmem
      · rename_i hname
        rw [if_pos hname]
        rcases List.mem_append.1 hmem with hbefore | hadded
        · exact hstore old hold credential hbefore
        · rw [List.mem_singleton.1 hadded]
          exact ⟨⟨who, .addCredential name added⟩, hcall, name, rfl, hname⟩
      · rename_i hname
        rw [if_neg hname]
        exact hstore old hold credential hmem
    | @remove name id hwho hany =>
      obtain ⟨old, hold, rfl⟩ := List.mem_map.1 hentry
      split at hmem
      · rename_i hname
        rw [if_pos hname]
        exact hstore old hold credential (List.mem_of_mem_filter hmem)
      · rename_i hname
        rw [if_neg hname]
        exact hstore old hold credential hmem
    | erase hwho hname hholder =>
      exact hstore entry (List.mem_of_mem_filter hentry) credential hmem

/-- No two calls add credentials of different kinds under one id to one domain. -/
def KindsApart (calls : List StoreCall) : Prop :=
  ∀ call ∈ calls, ∀ call' ∈ calls, ∀ name name' credential credential',
    call.write = .addCredential name credential → call'.write = .addCredential name' credential' →
    Json.same name name' = true → Json.same credential.id credential'.id = true →
    credential.kind = credential'.kind

/-- **A domain holds an id at most once for each kind.** After any calls on the store with nothing
in it, by anybody, and whether they could be saved or not:

* two credentials of one kind in a domain have different ids;
* any two have, if no calls gave one id to both kinds;
* an addition to a domain is answered with `false` exactly if it is allowed and a credential of its
  kind with its id stands in the domain, and then nothing is changed. -/
theorem runAll_ids (save : Saver σ) (calls : List StoreCall) (world : σ) {entry : StoreEntry}
    (hentry : entry ∈ (runAll save calls (.empty, world)).1.entries) :
    (entry.credentials.Pairwise fun a b ↦ a.kind = b.kind → Json.same a.id b.id = false) ∧
    (KindsApart calls → entry.credentials.Pairwise fun a b ↦ Json.same a.id b.id = false) ∧
    ∀ (who : Authentication) (credential : Credential),
      let added := (StoreWrite.addCredential entry.domain.name credential).run save who
        (runAll save calls (.empty, world)).1 (runAll save calls (.empty, world)).2
      (added.1 = .ok (.done false) ↔ Store.checkAdd credential who = .ok () ∧
        ∃ other ∈ entry.credentials,
          other.kind = credential.kind ∧ Json.same other.id credential.id = true) ∧
      (added.1 = .ok (.done false) → added.2 = runAll save calls (.empty, world)) := by
  have hnames : (runAll save calls (.empty, world)).1.NamesDistinct :=
    namesDistinct_runAll save Store.namesDistinct_empty calls
  have hdistinct : entry.credentials.Pairwise fun a b ↦ a.same b = false :=
    credentialsDistinct_runAll save Store.namesDistinct_empty Store.credentialsDistinct_empty calls
      entry hentry
  have hkinds : entry.credentials.Pairwise
      fun a b ↦ a.kind = b.kind → Json.same a.id b.id = false := by
    refine hdistinct.imp fun {a b} hne hkind ↦ ?_
    by_contra hid
    rw [Bool.not_eq_false] at hid
    rw [Credential.same_eq_true_iff.2 ⟨hkind, hid⟩] at hne
    cases hne
  refine ⟨hkinds, fun hapart ↦ hkinds.imp_of_mem fun {a b} ha hb hne ↦ ?_,
    fun who credential ↦ ⟨?_, StoreWrite.run_of_false⟩⟩
  · by_contra hid
    rw [Bool.not_eq_false] at hid
    -- the calls that added the two were made on one domain
    obtain ⟨call, hcall, name, hwrite, hname⟩ := exists_addCredential_of_mem save hentry ha
    obtain ⟨call', hcall', name', hwrite', hname'⟩ := exists_addCredential_of_mem save hentry hb
    have hkind := hapart call hcall call' hcall' name name' a b hwrite hwrite'
      (Json.same_trans (Json.same_symm hname) hname') hid
    rw [hne hkind] at hid
    cases hid
  · -- the name of an entry leads to it, since no other entry has it
    rw [StoreWrite.run_addCredential_eq_false_iff, hnames.entry_eq_some hentry]
    simp only [Option.some.injEq, exists_eq_left']

/-- A login that is added twice, and a secret text under another id. -/
theorem runAll_ids_apart :
    let login : Credential := { id := .str "x", content := .login (.str "u") (.str "p") }
    let token : Credential := { id := .str "y", content := .secretText (.str "t") }
    let calls : List StoreCall := [⟨.system, .getOrCreateDomain "https://h"⟩,
      ⟨.system, .addCredential (.str "h") login⟩, ⟨.system, .addCredential (.str "h") login⟩,
      ⟨.system, .addCredential (.str "h") token⟩]
    let entry : StoreEntry :=
      { domain := Store.domainFor ⟨"https", "h", none, ""⟩ "h", credentials := [login, token] }
    entry ∈ (runAll Store.saveInMemory calls (.empty, none)).1.entries ∧ KindsApart calls ∧
      (entry.credentials.Pairwise fun a b ↦ Json.same a.id b.id = false) ∧
      ((StoreWrite.addCredential entry.domain.name login).run Store.saveInMemory .system
        (runAll Store.saveInMemory calls (.empty, none)).1
        (runAll Store.saveInMemory calls (.empty, none)).2).1 = .ok (.done false) := by
  intro login token calls entry
  have hentry : entry ∈ (runAll Store.saveInMemory calls (.empty, none)).1.entries := by
    decide +kernel
  have hapart : KindsApart calls := by
    intro call hcall call' hcall' name name' credential credential' hwrite hwrite' hname hid
    simp only [calls, List.mem_cons, List.not_mem_nil, or_false] at hcall hcall'
    rcases hcall with rfl | rfl | rfl | rfl <;> rcases hcall' with rfl | rfl | rfl | rfl <;>
      cases hwrite <;> cases hwrite' <;> first | rfl | simp [login, token] at hid
  obtain ⟨-, hids, hadded⟩ := runAll_ids Store.saveInMemory calls none hentry
  exact ⟨hentry, hapart, hids hapart,
    (hadded .system login).1.2 ⟨rfl, login, List.mem_cons_self, rfl, Json.same_self _⟩⟩

/-- **An id may stand in a domain twice**: once for a login and once for a secret text, whose
addition says that it was made. -/
theorem runAll_shared_id :
    let login : Credential := { id := .str "x", content := .login (.str "u") (.str "p") }
    let token : Credential := { id := .str "x", content := .secretText (.str "t") }
    let calls : List StoreCall := [⟨.system, .addCredential .null login⟩,
      ⟨.system, .addCredential .null token⟩]
    (runAll Store.saveInMemory calls (.empty, none)).1.entries =
        [{ domain := .global, credentials := [login, token] }] ∧
      (¬ [login, token].Pairwise fun a b ↦ Json.same a.id b.id = false) ∧
      ((StoreWrite.addCredential .null token).run Store.saveInMemory .system
        ⟨[{ domain := .global, credentials := [login] }]⟩ none).1 = .ok (.done true) := by
  refine ⟨?_, ?_, ?_⟩
  all_goals decide +kernel

end StoreCall

end TokenBroker
