import Mathlib.Data.List.Forall2
import TokenBroker.Proofs.Store.Runs

/-!
# What a principal without privileges can write

Every write asks for the permission to manage domains, except that a principal may add what it owns.
So a principal that may neither manage domains nor administer can make additions of its own and
nothing else: any other write is denied before the store is looked at
(`StoreWrite.run_of_unprivileged`), and an addition has no effect but the credential at the end of a
list (`StoreWrite.Effect.addsOwn`). Runs of such calls only ever extend the lists of a store
(`StoreCall.runAll_unprivileged`).
-/

namespace TokenBroker

variable {σ : Type}

/-- Neither of the permissions that allow to write what one does not own is granted. -/
def Authentication.Unprivileged (who : Authentication) : Prop :=
  .manageDomains ∉ who.granted ∧ .administer ∉ who.granted

instance (who : Authentication) : Decidable who.Unprivileged :=
  inferInstanceAs (Decidable (_ ∧ _))

theorem Authentication.Unprivileged.has_manageDomains {who : Authentication}
    (h : who.Unprivileged) : who.has .manageDomains = false := by
  obtain ⟨hmanage, hadminister⟩ := h
  simp [Authentication.has, hmanage, hadminister]

namespace StoreWrite

/-- The write adds a credential that belongs to the one who makes it. -/
def AddsOwn (who : Authentication) : StoreWrite → Prop
  | .addCredential _ credential => credential.owner = .str who.name
  | .getOrCreateDomain _ | .removeCredential _ _ | .removeDomain _ => False

/-! ### One write -/

/-- **Whatever is no addition of one's own is denied**, in every store, and nothing is changed or
saved. -/
theorem run_of_unprivileged {who : Authentication} (hwho : who.Unprivileged) {write : StoreWrite}
    (hown : ¬ write.AddsOwn who) (save : Saver σ) (store : Store) (world : σ) :
    write.run save who store world =
      (.error (.denied .manageDomains who.name), store, world) := by
  have hmanage : Store.checkManage who = .error (.denied .manageDomains who.name) := by
    rw [Store.checkManage, hwho.has_manageDomains]
    rfl
  -- the permission is asked for first, so nothing of the store is needed to see the denial
  have hpropose : write.propose who store = .error (.denied .manageDomains who.name) := by
    cases write with
    | getOrCreateDomain serverUrl =>
      rw [propose, Store.getOrCreateDomain, hmanage]
      rfl
    | addCredential name credential =>
      have howner : (credential.owner == .str who.name) = false := beq_eq_false_iff_ne.2 hown
      have hadd : Store.checkAdd credential who = .error (.denied .manageDomains who.name) := by
        rw [Store.checkAdd, howner, hmanage]
        rfl
      rw [propose, Store.addCredential, hadd]
      rfl
    | removeCredential name id =>
      rw [propose, Store.removeCredential, hmanage]
      rfl
    | removeDomain name =>
      rw [propose, Store.removeDomain, hmanage]
      rfl
  simp only [run, Store.perform, hpropose]

/-- **The only effect is the addition of a credential of one's own.** -/
theorem Effect.addsOwn {who : Authentication} {store store' : Store} {write : StoreWrite}
    {answer : StoreAnswer} (h : write.Effect who store answer store')
    (hwho : who.Unprivileged) :
    ∃ name credential, write = .addCredential name credential ∧
      credential.owner = .str who.name ∧
      store' = store.updateCredentials name (· ++ [credential]) := by
  have hdenied : who.has .manageDomains ≠ true := by simp [hwho.has_manageDomains]
  cases h with
  | create hmanage => exact absurd hmanage hdenied
  | @add name credential entry hadd hentry hnew =>
    refine ⟨name, credential, rfl, ?_, rfl⟩
    by_contra howner
    rw [Store.checkAdd, beq_eq_false_iff_ne.2 howner] at hadd
    exact hdenied (Store.checkManage_eq_ok_iff.1 hadd)
  | remove hmanage => exact absurd hmanage hdenied
  | erase hmanage => exact absurd hmanage hdenied

end StoreWrite

/-! ### Runs -/

namespace Store

/-- A store has the domains of another one, and in each of them the credentials of the other one
followed by some that may stand there. -/
def Extends (may : Domain → Credential → Prop) (store store' : Store) : Prop :=
  List.Forall₂ (fun before after ↦ after.domain = before.domain ∧
    ∃ added, after.credentials = before.credentials ++ added ∧
      ∀ credential ∈ added, may before.domain credential) store.entries store'.entries

namespace Extends

variable {may : Domain → Credential → Prop} {store store' : Store}

theorem refl (may : Domain → Credential → Prop) (store : Store) : store.Extends may store :=
  List.forall₂_same.2 fun _ _ ↦ ⟨rfl, [], by simp, nofun⟩

theorem domains_eq (h : store.Extends may store') : store'.domains = store.domains := by
  rw [Extends] at h
  simp only [domains]
  generalize store.entries = entries, store'.entries = entries' at h
  induction h with
  | nil => rfl
  | cons hentry _ ih => rw [List.map_cons, List.map_cons, hentry.1, ih]

/-- One credential more at the end of a list is another extension. -/
theorem updateCredentials (h : store.Extends may store') {name : Json} {credential : Credential}
    (hmay : ∀ domain : Domain, Json.same domain.name name = true → may domain credential) :
    store.Extends may (store'.updateCredentials name (· ++ [credential])) := by
  refine List.forall₂_map_right_iff.2 (h.imp fun before after hentry ↦ ?_)
  obtain ⟨hdomain, added, hcredentials, hadded⟩ := hentry
  split
  · rename_i hname
    refine ⟨hdomain, added ++ [credential], by simp [hcredentials], fun other hother ↦ ?_⟩
    rcases List.mem_append.1 hother with hold | hnew
    · exact hadded other hold
    · rw [List.mem_singleton.1 hnew]
      exact hmay before.domain (hdomain ▸ hname)
  · exact ⟨hdomain, added, hcredentials, hadded⟩

end Extends

end Store

namespace StoreCall

/-- One of some calls adds a credential to a domain, for the one who makes it. -/
def AddedOwn (calls : List StoreCall) (domain : Domain) (credential : Credential) : Prop :=
  ∃ call ∈ calls, ∃ name, call.write = .addCredential name credential ∧
    Json.same domain.name name = true ∧ credential.owner = .str call.who.name

/-- **Principals without privileges are confined to what they own.** Let nobody who calls be allowed
to manage domains or to administer. Then, from any store and whether or not the calls could be
saved,

* the domains stay as they are, with their metadata and in their order, and each keeps its
  credentials, followed by what was added to it;
* what was added was added by a call of the one who owns it;
* every call but the addition of a credential of one's own is denied, in any store whatever. -/
theorem runAll_unprivileged (save : Saver σ) {calls : List StoreCall}
    (hcalls : ∀ call ∈ calls, call.who.Unprivileged) (start : Store × σ) :
    (runAll save calls start).1.domains = start.1.domains ∧
    start.1.Extends (AddedOwn calls) (runAll save calls start).1 ∧
    ∀ call ∈ calls, ¬ call.write.AddsOwn call.who → ∀ (store : Store) (world : σ),
      call.write.run save call.who store world =
        (.error (.denied .manageDomains call.who.name), store, world) := by
  have hextends : start.1.Extends (AddedOwn calls) (runAll save calls start).1 := by
    refine runAll_induction (P := start.1.Extends (AddedOwn calls)) save (.refl _ _) ?_
    intro call hcall store answer store' hstore heffect
    obtain ⟨name, credential, hwrite, howner, rfl⟩ := heffect.addsOwn (hcalls call hcall)
    exact hstore.updateCredentials fun domain hname ↦
      ⟨call, hcall, name, hwrite, hname, howner⟩
  refine ⟨hextends.domains_eq, hextends, fun call hcall hown store world ↦ ?_⟩
  exact StoreWrite.run_of_unprivileged (hcalls call hcall) hown save store world

/-- Two principals, one of whom may read, add to the global domain what they own; neither may remove
it again, nor add what belongs to the other one. -/
theorem runAll_unprivileged_two :
    let jo := Authentication.user "jo"
    let di := Authentication.principal "di" []
    let login (owner : String) : Credential :=
      { id := .str owner, owner := .str owner, content := .login (.str "u") (.str "p") }
    let calls : List StoreCall := [⟨jo, .addCredential .null (login "jo")⟩,
      ⟨di, .addCredential .null (login "jo")⟩, ⟨di, .addCredential .null (login "di")⟩,
      ⟨jo, .removeCredential .null (.str "jo")⟩, ⟨di, .getOrCreateDomain "https://h"⟩]
    let finish := runAll Store.saveInMemory calls (.empty, none)
    (∀ call ∈ calls, call.who.Unprivileged) ∧
      finish.1.entries = [{ domain := .global, credentials := [login "jo", login "di"] }] ∧
      Store.empty.Extends (AddedOwn calls) finish.1 ∧
      (StoreWrite.removeCredential .null (.str "jo")).run Store.saveInMemory jo finish.1 none =
        (.error (.denied .manageDomains "jo"), finish.1, none) := by
  intro jo di login calls finish
  have hcalls : ∀ call ∈ calls, call.who.Unprivileged := by decide
  obtain ⟨-, hextends, hdenied⟩ := runAll_unprivileged Store.saveInMemory hcalls (.empty, none)
  exact ⟨hcalls, by decide +kernel, hextends,
    hdenied ⟨jo, .removeCredential .null (.str "jo")⟩ (by simp [calls]) id finish.1 none⟩

end StoreCall

end TokenBroker
