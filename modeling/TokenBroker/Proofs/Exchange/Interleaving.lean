import Mathlib.Data.List.Induction
import Mathlib.Logic.Function.Basic
import TokenBroker.Proofs.Exchange.Storing
import TokenBroker.Proofs.Store.Holdings

/-!
# Exchanges side by side

An exchange stores its token by two calls of the store, and other calls may come between them. Here
any number of exchanges share one store with anybody else who writes to it: a run is a list of
events, in any order, each of which is one call, and any save may fail. `Shared.step` carries out
one event. Two steps of one exchange without anything between them are the running `storeAs`
(`storeAs_eq_two_steps`).

The invariant that carries the runs is kept by each single call: a call changes the store by the
effect of one write, or not at all (`Shared.step_cases`). A failed save is the second case, so it
takes back nothing that others have done before.
-/

namespace TokenBroker.Exchange

variable {σ ι : Type}

/-! ### One exchange -/

/-- What an exchange wants to store, and for which server. -/
structure Storing where
  serverUrl : String
  credential : Credential
  deriving DecidableEq, Inhabited, Repr

/-- How far an exchange has come. -/
inductive Phase
  | begun
  | located (domain : Domain)
  | ended (result : Except Fault Domain)
  deriving DecidableEq

namespace Storing

variable (storing : Storing)

/-- The call that an exchange makes next, if it makes any. -/
def call? : Phase → Option StoreWrite
  | .begun => some (.getOrCreateDomain storing.serverUrl)
  | .located domain => some (.addCredential domain.name storing.credential)
  | .ended _ => none

/-- How an exchange goes on after the answer to its call. -/
def resume : Phase → Except StoreError StoreAnswer → Phase
  | .begun, .ok (.domain domain) => .located domain
  | .located domain, .ok (.done true) => .ended (.ok domain)
  | .located domain, .ok (.done false) =>
    let message := "credential " ++ storing.credential.id.display ++ " already exists"
    .ended (.error (.failure (.storage message domain.name)))
  | .begun, .error error | .located _, .error error => .ended (.error error.fault)
  | phase, _ => phase

end Storing

/-! ### Many exchanges -/

/-- What exchanges share: the store and the world it is saved to, and how far each of them is. -/
structure Shared (ι σ : Type) where
  store : Store
  world : σ
  phase : ι → Phase

/-- One call: the next one of an exchange, or one of somebody else. -/
inductive Event (ι : Type)
  | exchange (i : ι)
  | other (who : Authentication) (write : StoreWrite)

namespace Shared

variable [DecidableEq ι] (save : Saver σ) (storings : ι → Storing)

/-- The call of an event, if there is one; exchanges act as the system. -/
def call? (s : Shared ι σ) : Event ι → Option (Authentication × StoreWrite)
  | .exchange i => ((storings i).call? (s.phase i)).map (Authentication.system, ·)
  | .other who write => some (who, write)

/-- Carries out an event. -/
def step (s : Shared ι σ) (event : Event ι) : Shared ι σ :=
  match s.call? storings event with
  | none => s
  | some (who, write) =>
    let (answer, store, world) := write.run save who s.store s.world
    { store := store
      world := world
      phase := match event with
        | .exchange i => Function.update s.phase i ((storings i).resume (s.phase i) answer)
        | .other _ _ => s.phase }

/-- Carries out events one after the other. -/
def steps (s : Shared ι σ) (events : List (Event ι)) : Shared ι σ :=
  events.foldl (step save storings) s

@[simp] theorem steps_nil (s : Shared ι σ) : s.steps save storings [] = s := rfl

theorem steps_append (s : Shared ι σ) (before after : List (Event ι)) :
    s.steps save storings (before ++ after) =
      (s.steps save storings before).steps save storings after :=
  List.foldl_append

theorem steps_concat (s : Shared ι σ) (before : List (Event ι)) (event : Event ι) :
    s.steps save storings (before ++ [event]) =
      (s.steps save storings before).step save storings event := by
  rw [steps_append]
  rfl

/-- The call of an event ends in an error: it is refused, or its save fails. -/
def Fails (s : Shared ι σ) (event : Event ι) : Prop :=
  ∃ who write error, s.call? storings event = some (who, write) ∧
    (write.run save who s.store s.world).1 = .error error

/-- An event takes the credential with an id from the domain with a name: somebody removes the id
from the domain, or removes the domain, and is told that it is done. -/
def Takes (s : Shared ι σ) (name id : Json) : Event ι → Prop
  | .exchange _ => False
  | .other who write => write.Targets name id ∧
      (write.run save who s.store s.world).1 = .ok (.done true)

/-! ### One step -/

variable {save storings} {s : Shared ι σ}

/-- **A call changes the store by the effect of its write, or not at all.** -/
theorem step_cases (s : Shared ι σ) (event : Event ι) :
    (s.step save storings event).store = s.store ∨
    ∃ who write answer, s.call? storings event = some (who, write) ∧
      (write.run save who s.store s.world).1 = .ok answer ∧
      write.Effect who s.store answer (s.step save storings event).store := by
  unfold step
  split
  · exact Or.inl rfl
  · rename_i who write hcall
    obtain ⟨result, store', world', hrun⟩ : ∃ result store' world',
        write.run save who s.store s.world = (result, store', world') := ⟨_, _, _, rfl⟩
    simp only [hrun]
    rcases StoreWrite.run_cases hrun with ⟨hsame, -, -⟩ | ⟨_, _, _, _, -, -, -, hsame⟩ |
      ⟨answer, heffect, -, hresult⟩
    · exact Or.inl hsame
    · exact Or.inl hsame
    · exact Or.inr ⟨who, write, answer, hcall, by rw [hrun]; exact hresult, heffect⟩

/-- **A call that fails leaves the store as it was.** -/
theorem step_store_of_fails {event : Event ι} (h : s.Fails save storings event) :
    (s.step save storings event).store = s.store := by
  obtain ⟨who, write, error, hcall, herror⟩ := h
  rcases s.step_cases event with hsame | ⟨who', write', answer, hcall', hanswer, -⟩
  · exact hsame
  · rw [hcall, Option.some.injEq, Prod.mk.injEq] at hcall'
    obtain ⟨rfl, rfl⟩ := hcall'
    rw [herror] at hanswer
    cases hanswer

theorem namesDistinct_step (hstore : s.store.NamesDistinct) (event : Event ι) :
    (s.step save storings event).store.NamesDistinct := by
  rcases s.step_cases event with hsame | ⟨_, _, _, -, -, heffect⟩
  · rwa [hsame]
  · exact heffect.namesDistinct hstore

/-- A credential stays in its domain unless the event takes it. -/
theorem mem_credentialsOf_step {event : Event ι} {name : Json} {credential : Credential}
    (hmem : credential ∈ s.store.credentialsOf name)
    (htakes : ¬ s.Takes save name credential.id event) :
    credential ∈ (s.step save storings event).store.credentialsOf name := by
  rcases s.step_cases event with hsame | ⟨who, write, answer, hcall, hanswer, heffect⟩
  · rwa [hsame]
  · refine heffect.mem_credentialsOf hmem fun htargets ↦ ?_
    rw [heffect.answer_of_targets htargets] at hanswer
    cases event with
    | exchange i =>
      -- the calls of an exchange create domains and add credentials
      obtain ⟨write', hcall', heq⟩ := Option.map_eq_some_iff.1 hcall
      cases heq
      cases hphase : s.phase i <;> rw [hphase] at hcall' <;> cases hcall' <;> exact htargets
    | other who' write' =>
      cases hcall
      exact htakes ⟨htargets, hanswer⟩

/-! ### One step of an exchange -/

/-- The other exchanges stay where they are. -/
theorem step_phase_of_ne {i : ι} {event : Event ι} (h : event ≠ .exchange i) (s : Shared ι σ) :
    (s.step save storings event).phase i = s.phase i := by
  unfold step
  split
  · rfl
  · cases event with
    | exchange j => exact Function.update_of_ne (fun heq ↦ h (by rw [heq])) _ _
    | other who write => rfl

/-- An exchange that has ended makes no call. -/
theorem step_of_ended {i : ι} {result : Except Fault Domain} (h : s.phase i = .ended result) :
    s.step save storings (.exchange i) = s := by
  have hcall : s.call? storings (.exchange i) = none := by
    simp only [call?, h]
    rfl
  rw [step, hcall]

variable (save storings) in
/-- An exchange goes on from the answer to its call. -/
theorem step_exchange {i : ι} {phase : Phase} (hphase : s.phase i = phase) {write : StoreWrite}
    (hcall : (storings i).call? phase = some write) {result : Except StoreError StoreAnswer}
    {store' : Store} {world' : σ}
    (hrun : write.run save .system s.store s.world = (result, store', world')) :
    (s.step save storings (.exchange i)).store = store' ∧
      (s.step save storings (.exchange i)).world = world' ∧
      (s.step save storings (.exchange i)).phase i = (storings i).resume phase result := by
  have hevent : s.call? storings (.exchange i) = some (.system, write) := by
    simp only [call?, hphase, hcall, Option.map_some]
  simp only [step, hevent, hrun, hphase, Function.update_self, and_self]

/-- An event at which an exchange adds its credential: it has located a domain, and ends with it. -/
def Adds (save : Saver σ) (storings : ι → Storing) (s : Shared ι σ) (i : ι) (domain : Domain) :
    Prop :=
  s.phase i = .located domain ∧
    (s.step save storings (.exchange i)).phase i = .ended (.ok domain) ∧
    ∃ holder, Json.same holder.name domain.name = true ∧
      s.store.Gains (storings i).credential holder (s.step save storings (.exchange i)).store

variable (save storings) in
/-- The first call makes at most an empty domain. -/
theorem step_begun {i : ι} (hphase : s.phase i = .begun) :
    s.store.AtMostNewDomain (s.step save storings (.exchange i)).store ∧
      ∀ result, (s.step save storings (.exchange i)).phase i = .ended result →
        ∃ fault, result = .error fault := by
  obtain ⟨result, store', world', hrun⟩ : ∃ result store' world',
      (StoreWrite.getOrCreateDomain (storings i).serverUrl).run save .system s.store s.world =
        (result, store', world') := ⟨_, _, _, rfl⟩
  obtain ⟨hstore, -, hnext⟩ := step_exchange save storings hphase rfl hrun
  rw [hstore, hnext]
  constructor
  · rcases StoreWrite.run_cases hrun with ⟨rfl, -, -⟩ | ⟨_, _, _, _, -, -, -, rfl⟩ |
      ⟨answer, heffect, -, -⟩
    · exact .refl _
    · exact .refl _
    · cases heffect with
      | create hwho hurl hname hfree => exact .fresh _ _ hfree
  · intro result' hended
    match result, hended with
    | .error error, hended => cases hended; exact ⟨_, rfl⟩
    | .ok (.domain _), hended => cases hended
    | .ok (.done _), hended => cases hended

variable (save storings) in
/-- The second call adds the credential, or changes nothing and ends the exchange with an error. -/
theorem step_located {i : ι} {domain : Domain} (hphase : s.phase i = .located domain)
    (hdistinct : s.store.NamesDistinct) :
    s.Adds save storings i domain ∨
      (s.step save storings (.exchange i)).store = s.store ∧
        ∀ result, (s.step save storings (.exchange i)).phase i = .ended result →
          ∃ fault, result = .error fault := by
  obtain ⟨result, store', world', hrun⟩ : ∃ result store' world',
      (StoreWrite.addCredential domain.name (storings i).credential).run save .system s.store
        s.world = (result, store', world') := ⟨_, _, _, rfl⟩
  obtain ⟨hstore, -, hnext⟩ := step_exchange save storings hphase rfl hrun
  have hfails : result ≠ .ok (.done true) → ∀ result',
      (s.step save storings (.exchange i)).phase i = .ended result' →
        ∃ fault, result' = .error fault := by
    intro hresult result' hended
    rw [hnext] at hended
    match result, hresult, hended with
    | .error error, _, hended => cases hended; exact ⟨_, rfl⟩
    | .ok (.domain _), _, hended => cases hended
    | .ok (.done true), hresult, _ => exact absurd rfl hresult
    | .ok (.done false), _, hended => cases hended; exact ⟨_, rfl⟩
  rcases StoreWrite.run_cases hrun with ⟨rfl, -, hresult⟩ | ⟨_, _, _, _, -, -, rfl, rfl⟩ |
    ⟨answer, heffect, -, rfl⟩
  · exact Or.inr ⟨hstore, hfails hresult⟩
  · exact Or.inr ⟨hstore, hfails (by simp)⟩
  · have hanswer : answer = .done true := by
      cases heffect
      rfl
    rw [hanswer] at hnext
    refine Or.inl ⟨hphase, hnext, ?_⟩
    rw [hstore]
    exact heffect.gains hdistinct

variable (save storings) in
/-- **An exchange that goes on adds its credential and ends well, or adds nothing.** -/
theorem step_exchange_cases (hdistinct : s.store.NamesDistinct) (i : ι) :
    (∃ domain, s.Adds save storings i domain) ∨
    s.store.AtMostNewDomain (s.step save storings (.exchange i)).store ∧
      ∀ domain, (s.step save storings (.exchange i)).phase i = .ended (.ok domain) →
        s.phase i = .ended (.ok domain) := by
  cases hphase : s.phase i with
  | begun =>
    obtain ⟨hmost, hended⟩ := step_begun save storings hphase
    refine Or.inr ⟨hmost, fun domain hok ↦ ?_⟩
    obtain ⟨fault, heq⟩ := hended _ hok
    cases heq
  | located domain =>
    rcases step_located save storings hphase hdistinct with
      hadds | ⟨hsame, hended⟩
    · exact Or.inl ⟨domain, hadds⟩
    · rw [hsame]
      refine Or.inr ⟨.refl _, fun domain' hok ↦ ?_⟩
      obtain ⟨fault, heq⟩ := hended _ hok
      cases heq
  | ended result =>
    rw [step_of_ended hphase]
    exact Or.inr ⟨.refl _, fun domain hok ↦ by rw [← hok, hphase]⟩

/-! ### Runs -/

variable (save storings) in
theorem namesDistinct_steps (hdistinct : s.store.NamesDistinct) (events : List (Event ι)) :
    (s.steps save storings events).store.NamesDistinct := by
  induction events using List.reverseRec with
  | nil => exact hdistinct
  | append_singleton before event ih =>
    rw [steps_concat]
    exact namesDistinct_step ih event

variable (save storings) in
/-- What has ended stays ended. -/
theorem phase_steps_of_ended {i : ι} {result : Except Fault Domain}
    (h : s.phase i = .ended result) (events : List (Event ι)) :
    (s.steps save storings events).phase i = .ended result := by
  induction events using List.reverseRec with
  | nil => exact h
  | append_singleton before event ih =>
    rw [steps_concat]
    by_cases hevent : event = .exchange i
    · rwa [hevent, step_of_ended ih]
    · rwa [step_phase_of_ne hevent]

/-- An exchange that has ended well has added its credential at one of the events. -/
theorem exists_adds (hdistinct : s.store.NamesDistinct) {i : ι} (hbegun : s.phase i = .begun)
    {events : List (Event ι)} {domain : Domain}
    (h : (s.steps save storings events).phase i = .ended (.ok domain)) :
    ∃ before after, events = before ++ .exchange i :: after ∧
      (s.steps save storings before).Adds save storings i domain := by
  induction events using List.reverseRec with
  | nil =>
    rw [steps_nil, hbegun] at h
    cases h
  | append_singleton before event ih =>
    have hearlier : (s.steps save storings before).phase i = .ended (.ok domain) →
        ∃ start rest, before ++ [event] = start ++ .exchange i :: rest ∧
          (s.steps save storings start).Adds save storings i domain := by
      intro hended
      obtain ⟨start, rest, rfl, hadds⟩ := ih hended
      exact ⟨start, rest ++ [event], by simp, hadds⟩
    rw [steps_concat] at h
    by_cases hevent : event = .exchange i
    · subst hevent
      rcases step_exchange_cases save storings
        (namesDistinct_steps save storings hdistinct before) i with ⟨domain', hadds⟩ | ⟨-, hended⟩
      · have heq := hadds.2.1
        rw [h] at heq
        cases heq
        exact ⟨before, [], rfl, hadds⟩
      · exact hearlier (hended _ h)
    · rw [step_phase_of_ne hevent] at h
      exact hearlier h

/-- An exchange adds its credential at one event only. -/
theorem adds_unique {i : ι} {before after before' after' : List (Event ι)} {domain domain' : Domain}
    (hevents : before ++ .exchange i :: after = before' ++ .exchange i :: after')
    (h : (s.steps save storings before).Adds save storings i domain)
    (h' : (s.steps save storings before').Adds save storings i domain') : before' = before := by
  -- after the event of one addition the exchange has ended, so it cannot add again
  have hlater : ∀ {start rest : List (Event ι)} {found found' : Domain},
      (s.steps save storings start).Adds save storings i found →
      (s.steps save storings (start ++ .exchange i :: rest)).Adds save storings i found' →
      False := by
    intro start rest found found' hfirst hsecond
    have hended := phase_steps_of_ended save storings hfirst.2.1 rest
    have hlocated := hsecond.1
    rw [List.append_cons, steps_append, steps_concat, hended] at hlocated
    cases hlocated
  rcases List.append_eq_append_iff.1 hevents with ⟨between, rfl, heq⟩ | ⟨between, rfl, heq⟩
  · cases between with
    | nil => simp
    | cons event rest =>
      rw [List.cons_append, List.cons.injEq] at heq
      rw [← heq.1] at h'
      exact (hlater h h').elim
  · cases between with
    | nil => simp
    | cons event rest =>
      rw [List.cons_append, List.cons.injEq] at heq
      rw [← heq.1] at h
      exact (hlater h' h).elim

/-- A credential stays in its domain until an event takes it. -/
theorem mem_credentialsOf_steps {name : Json} {credential : Credential}
    (hmem : credential ∈ s.store.credentialsOf name) {events : List (Event ι)}
    (htakes : ∀ before event after, events = before ++ event :: after →
      ¬ (s.steps save storings before).Takes save name credential.id event) :
    credential ∈ (s.steps save storings events).store.credentialsOf name := by
  induction events using List.reverseRec with
  | nil => exact hmem
  | append_singleton before event ih =>
    rw [steps_concat]
    refine mem_credentialsOf_step (ih fun start other rest heq ↦ ?_) (htakes before event [] rfl)
    exact htakes start other (rest ++ [event]) (by simp [heq])

/-! ### Fresh ids -/

/-- The ids that exchanges store their tokens under are different, and nobody else uses one. -/
structure FreshIds (storings : ι → Storing) (s : Shared ι σ) (events : List (Event ι)) : Prop where
  distinct : ∀ i j, i ≠ j →
    Json.same (storings i).credential.id (storings j).credential.id = false
  unused : ∀ i, s.store.copies (storings i).credential.id = 0
  others : ∀ who name credential, .other who (.addCredential name credential) ∈ events →
    ∀ i, Json.same credential.id (storings i).credential.id = false

variable (save) in
/-- Under fresh ids only the exchange itself brings its id in, and it ends well by doing so. -/
theorem copies_step {start : Shared ι σ} {events : List (Event ι)}
    (hfresh : start.FreshIds storings events) {event : Event ι} (hevent : event ∈ events)
    (hdistinct : s.store.NamesDistinct) (i : ι) :
    (∃ domain, s.Adds save storings i domain ∧ event = .exchange i ∧
      (s.step save storings event).store.copies (storings i).credential.id =
        s.store.copies (storings i).credential.id + 1) ∨
    (s.step save storings event).store.copies (storings i).credential.id ≤
      s.store.copies (storings i).credential.id := by
  rcases s.step_cases event with hsame | ⟨who, write, answer, hcall, -, heffect⟩
  · rw [hsame]
    exact Or.inr (Nat.le_refl _)
  rcases heffect.copies_cases hdistinct (storings i).credential.id with
    ⟨name, credential, rfl, hid, hcopies⟩ | hle
  · cases event with
    | other who' write' =>
      cases hcall
      rw [hfresh.others _ _ _ hevent i] at hid
      cases hid
    | exchange j =>
      obtain ⟨write', hcall', heq⟩ := Option.map_eq_some_iff.1 hcall
      cases heq
      cases hphase : s.phase j with
      | begun => rw [hphase] at hcall'; cases hcall'
      | ended result => rw [hphase] at hcall'; cases hcall'
      | located domain =>
        rw [hphase] at hcall'
        cases hcall'
        have hji : j = i := by
          by_contra hne
          rw [hfresh.distinct j i hne] at hid
          cases hid
        subst hji
        rcases step_located save storings hphase hdistinct with
          hadds | ⟨hsame, -⟩
        · exact Or.inl ⟨domain, hadds, rfl, hcopies⟩
        · rw [hsame] at hcopies
          omega
  · exact Or.inr hle

/-- **Under fresh ids a credential is in the store at most once**, and not at all unless its
exchange has ended well. -/
theorem copies_steps {events : List (Event ι)} (hfresh : s.FreshIds storings events)
    (hdistinct : s.store.NamesDistinct) (i : ι) {before after : List (Event ι)}
    (hevents : events = before ++ after) :
    (s.steps save storings before).store.copies (storings i).credential.id ≤ 1 ∧
      ((∀ domain, (s.steps save storings before).phase i ≠ .ended (.ok domain)) →
        (s.steps save storings before).store.copies (storings i).credential.id = 0) := by
  induction before using List.reverseRec generalizing after with
  | nil =>
    rw [steps_nil, hfresh.unused i]
    exact ⟨Nat.zero_le _, fun _ ↦ rfl⟩
  | append_singleton before event ih =>
    obtain ⟨hle, hzero⟩ := @ih (event :: after) (by simp [hevents])
    rw [steps_concat]
    have hnames := namesDistinct_steps save storings hdistinct before
    have hevent : event ∈ events := by simp [hevents]
    rcases copies_step save hfresh hevent hnames i with
      ⟨domain, hadds, rfl, hcopies⟩ | hfewer
    · -- the exchange had not ended, so its id was not there yet
      have hnone := hzero fun domain' hended ↦ by rw [hadds.1] at hended; cases hended
      rw [hcopies, hnone]
      exact ⟨Nat.le_refl _, fun hended ↦ absurd hadds.2.1 (hended domain)⟩
    · refine ⟨Nat.le_trans hfewer hle, fun hended ↦ Nat.le_zero.1 (Nat.le_trans hfewer ?_)⟩
      refine Nat.le_of_eq (hzero fun domain hok ↦ hended domain ?_)
      have hstays := phase_steps_of_ended save storings hok [event]
      rwa [← steps_append, steps_concat] at hstays

/-! ### The running program -/

/-- **An exchange that nobody interrupts is the running one**: its two calls do what `storeAs` does.
-/
theorem storeAs_eq_two_steps {i : ι} (hbegun : s.phase i = .begun) :
    ∃ result, ((s.step save storings (.exchange i)).step save storings (.exchange i)).phase i =
        .ended result ∧
      storeAs save .system (storings i).serverUrl (storings i).credential s.store s.world =
        (result, ((s.step save storings (.exchange i)).step save storings (.exchange i)).store,
          ((s.step save storings (.exchange i)).step save storings (.exchange i)).world) := by
  obtain ⟨first, store₁, world₁, hfirst⟩ : ∃ first store₁ world₁,
      Store.perform save (Store.getOrCreateDomain (storings i).serverUrl .system) s.store s.world =
        (first, store₁, world₁) := ⟨_, _, _, rfl⟩
  have hrun₁ : (StoreWrite.getOrCreateDomain (storings i).serverUrl).run save .system s.store
      s.world = (first.map .domain, store₁, world₁) := by
    show Store.perform save (fun store ↦ (Store.getOrCreateDomain (storings i).serverUrl .system
      store).map (Proposal.map StoreAnswer.domain)) s.store s.world = _
    rw [StoreWrite.perform_map, hfirst]
  obtain ⟨hstore₁, hworld₁, hphase₁⟩ := step_exchange save storings hbegun rfl hrun₁
  cases first with
  | error error =>
    rw [step_of_ended hphase₁]
    refine ⟨.error error.fault, hphase₁, ?_⟩
    rw [hstore₁, hworld₁]
    simp only [storeAs, hfirst]
  | ok domain =>
    obtain ⟨second, store₂, world₂, hsecond⟩ : ∃ second store₂ world₂,
        Store.perform save (Store.addCredential domain.name (storings i).credential .system) store₁
          world₁ = (second, store₂, world₂) := ⟨_, _, _, rfl⟩
    have hrun₂ : (StoreWrite.addCredential domain.name (storings i).credential).run save .system
        (s.step save storings (.exchange i)).store (s.step save storings (.exchange i)).world =
          (second.map .done, store₂, world₂) := by
      rw [hstore₁, hworld₁]
      show Store.perform save (fun store ↦ (Store.addCredential domain.name (storings i).credential
        .system store).map (Proposal.map StoreAnswer.done)) store₁ world₁ = _
      rw [StoreWrite.perform_map, hsecond]
    obtain ⟨hstore₂, hworld₂, hphase₂⟩ := step_exchange save storings hphase₁ rfl hrun₂
    rw [hstore₂, hworld₂, hphase₂]
    simp only [storeAs, hfirst, hsecond]
    cases second with
    | error error => exact ⟨_, rfl, rfl⟩
    | ok added => cases added <;> exact ⟨_, rfl, rfl⟩

/-! ### Every order of calls -/

/-- **No update is lost or doubled, in whatever order the calls come.** For every run:

* no two domains have the same name;
* a call that ends in an error, as one does whose save fails, changes nothing;
* an exchange that ends well has added its credential to the domain that it reports, at one event
  and at no other, and there it stays until somebody removes it from the domain, or the domain;
* an exchange that does not end well has added nothing at any event;
* if the ids are fresh, the store never holds one of them twice, and holds none of an exchange that
  has not ended well. -/
theorem exchanges_interleaved (save : Saver σ) (storings : ι → Storing) {s : Shared ι σ}
    (hdistinct : s.store.NamesDistinct) (hbegun : ∀ i, s.phase i = .begun)
    (events : List (Event ι)) :
    (s.steps save storings events).store.NamesDistinct ∧
    (∀ event, (s.steps save storings events).Fails save storings event →
      (s.steps save storings (events ++ [event])).store = (s.steps save storings events).store) ∧
    (∀ i domain, (s.steps save storings events).phase i = .ended (.ok domain) →
      ∃ before after, events = before ++ .exchange i :: after ∧
        (∃ holder, Json.same holder.name domain.name = true ∧
          (s.steps save storings before).store.Gains (storings i).credential holder
            (s.steps save storings (before ++ [.exchange i])).store) ∧
        (∀ before' after', events = before' ++ .exchange i :: after' → before' ≠ before →
          (s.steps save storings before').store.AtMostNewDomain
            (s.steps save storings (before' ++ [.exchange i])).store) ∧
        ∀ during rest, after = during ++ rest →
          (∀ between event later, during = between ++ event :: later →
            ¬ (s.steps save storings (before ++ .exchange i :: between)).Takes save domain.name
              (storings i).credential.id event) →
          (storings i).credential ∈
            (s.steps save storings (before ++ .exchange i :: during)).store.credentialsOf
              domain.name) ∧
    (∀ i, (∀ domain, (s.steps save storings events).phase i ≠ .ended (.ok domain)) →
      ∀ before after, events = before ++ .exchange i :: after →
        (s.steps save storings before).store.AtMostNewDomain
          (s.steps save storings (before ++ [.exchange i])).store) ∧
    (s.FreshIds storings events → ∀ i,
      (s.steps save storings events).store.copies (storings i).credential.id ≤ 1 ∧
        ((∀ domain, (s.steps save storings events).phase i ≠ .ended (.ok domain)) →
          (s.steps save storings events).store.copies (storings i).credential.id = 0)) := by
  refine ⟨namesDistinct_steps save storings hdistinct events, fun event hfails ↦ ?_,
    fun i domain hended ↦ ?_, fun i hended before after hevents ↦ ?_, fun hfresh i ↦ ?_⟩
  · rw [steps_concat, step_store_of_fails hfails]
  · obtain ⟨before, after, hevents, hadds⟩ := exists_adds hdistinct (hbegun i) hended
    obtain ⟨holder, hholder, hgains⟩ := hadds.2.2
    refine ⟨before, after, hevents, ⟨holder, hholder, ?_⟩, fun before' after' hevents' hne ↦ ?_,
      fun during rest hafter htakes ↦ ?_⟩
    · rwa [steps_concat]
    · rw [steps_concat]
      rcases step_exchange_cases save storings
        (namesDistinct_steps save storings hdistinct before') i with ⟨domain', hadds'⟩ | ⟨hmost, -⟩
      · exact absurd (adds_unique (hevents.symm.trans hevents') hadds hadds') hne
      · exact hmost
    · rw [List.append_cons, steps_append, steps_concat]
      have hmem := hgains.mem_credentialsOf (namesDistinct_steps save storings hdistinct before)
      rw [Store.credentialsOf_congr hholder] at hmem
      refine mem_credentialsOf_steps hmem fun between event later hduring ↦ ?_
      have htake := htakes between event later hduring
      rwa [List.append_cons, steps_append, steps_concat] at htake
  · rw [steps_concat]
    rcases step_exchange_cases save storings
      (namesDistinct_steps save storings hdistinct before) i with ⟨domain, hadds⟩ | ⟨hmost, -⟩
    · -- an addition ends the exchange well, and it stays ended
      have hstays := phase_steps_of_ended save storings hadds.2.1 after
      rw [← steps_concat, ← steps_append, ← List.append_cons, ← hevents] at hstays
      exact absurd hstays (hended domain)
    · exact hmost
  · exact copies_steps hfresh hdistinct i (List.append_nil events).symm

/-- Two exchanges on one server, each of which makes its first call before the second one of the
other: both find their credentials in one domain. -/
theorem exchanges_interleaved_two :
    let storings : Bool → Storing := fun i ↦
      ⟨"https://h", { id := .str (if i then "b" else "a"), content := .secretText (.str "t") }⟩
    let start : Shared Bool (Option SaveFailure) := ⟨.empty, none, fun _ ↦ .begun⟩
    let events : List (Event Bool) :=
      [.exchange false, .exchange true, .exchange false, .exchange true]
    start.store.NamesDistinct ∧ (∀ i, start.phase i = .begun) ∧ start.FreshIds storings events ∧
      ∀ i, (storings i).credential ∈
          (start.steps Store.saveInMemory storings events).store.credentialsOf (.str "h") ∧
        (start.steps Store.saveInMemory storings events).store.copies
          (storings i).credential.id ≤ 1 := by
  intro storings start events
  have hdistinct : start.store.NamesDistinct := by decide
  have hfresh : start.FreshIds storings events :=
    ⟨by decide, by decide, fun who name credential hmem ↦ by simp [events] at hmem⟩
  refine ⟨hdistinct, fun _ ↦ rfl, hfresh, fun i ↦ ?_⟩
  obtain ⟨-, -, hadded, -, hcopies⟩ := exchanges_interleaved Store.saveInMemory storings hdistinct
    (fun _ ↦ rfl) events
  have hended : (start.steps Store.saveInMemory storings events).phase i =
      .ended (.ok (Store.domainFor ⟨"https", "h", none, ""⟩ "h")) := by
    cases i <;> decide +kernel
  obtain ⟨before, after, hevents, -, -, hstays⟩ := hadded i _ hended
  refine ⟨?_, (hcopies hfresh i).1⟩
  rw [hevents]
  refine hstays after [] (List.append_nil after).symm fun between event later hafter htakes ↦ ?_
  have hmem : event ∈ events := by simp [hevents, hafter]
  have hexchange : ∃ j, event = .exchange j := by
    simp only [events, List.mem_cons, List.not_mem_nil, or_false] at hmem
    rcases hmem with rfl | rfl | rfl | rfl <;> exact ⟨_, rfl⟩
  obtain ⟨j, rfl⟩ := hexchange
  exact htakes

end Shared

end TokenBroker.Exchange
