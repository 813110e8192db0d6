import TokenBroker.Proofs.Store.Live
import TokenBroker.Proofs.Store.Runs

/-!
# Failed saves

A call that asks for a change takes effect only if the changed store could be saved. If the save
fails, the call ends in a report of the store and leaves the store as it was, so that the same call
can be made again (`StoreCall.failed_cases`). What saves have failed in a run therefore shows in the
answers of those calls and nowhere else: without them the run goes as it did
(`StoreCall.turns_saved`).

In memory the change has been made by the time the save fails, and has to be undone. A store in
memory is compared with another one by what it holds, since places on the heap differ between a run
with failed calls and one without. What is seen of a run in memory is the run on the store
(`StoreCall.view_liveTurns`), so there too failed saves leave no trace.
-/

namespace TokenBroker

variable {σ τ : Type}

/-- All saves succeed. -/
def Saver.Works (save : Saver σ) : Prop :=
  ∀ store world, (save store world).1 = .ok ()

/-- A save to nowhere, which never fails. -/
def saveNowhere : Saver Unit := fun _ world ↦
  (.ok (), world)

theorem works_saveNowhere : saveNowhere.Works :=
  fun _ _ ↦ rfl

namespace StoreCall

/-! ### How calls go -/

/-- A call asks for a change of the store that cannot be saved. -/
def failsToSave (save : Saver σ) (call : StoreCall) (now : Store × σ) : Bool :=
  match call.write.propose call.who now.1 with
  | .ok (.change mutation _ _) => !(save (now.1.mutate mutation) now.2).1.isOk
  | _ => false

/-- How a call went: what the store was before and after it, how it ended, and whether a save has
failed in it. -/
structure Turn where
  call : StoreCall
  before : Store
  ending : Except StoreError StoreAnswer
  after : Store
  failed : Bool

/-- How a call goes. -/
def turn (save : Saver σ) (call : StoreCall) (now : Store × σ) : Turn where
  call := call
  before := now.1
  ending := (call.write.run save call.who now.1 now.2).1
  after := (call.run save now).1
  failed := call.failsToSave save now

/-- How the calls of a run go. -/
def turns (save : Saver σ) : List StoreCall → Store × σ → List Turn
  | [], _ => []
  | call :: rest, now => call.turn save now :: turns save rest (call.run save now)

/-! ### One call -/

variable {save : Saver σ} {call : StoreCall} {store : Store} {world : σ}

/-- A call that asks for a change goes by its save. -/
theorem turn_of_change {mutation : Mutation} {domain : Json} {answer : StoreAnswer}
    (h : call.write.propose call.who store = .ok (.change mutation domain answer)) :
    call.turn save (store, world) =
      match (save (store.mutate mutation) world).1 with
      | .ok () => ⟨call, store, .ok answer, store.mutate mutation, false⟩
      | .error failure => ⟨call, store, .error (failure.storeError domain), store, true⟩ := by
  unfold turn run failsToSave StoreWrite.run Store.perform
  simp only [h]
  rcases save (store.mutate mutation) world with ⟨failure | _, world'⟩ <;> rfl

/-- **A call whose save fails** ends in a report of the store and leaves the store as it was. What
it asks for is an effect that it has, whoever saves, once the save succeeds. -/
theorem failed_cases (h : (call.turn save (store, world)).failed = true) :
    ∃ next domain answer failure, call.write.Effect call.who store answer next ∧
      call.turn save (store, world) =
        ⟨call, store, .error (SaveFailure.storeError domain failure), store, true⟩ ∧
      ∀ {τ : Type} (save' : Saver τ) (world' : τ), (save' next world').1 = .ok () →
        call.turn save' (store, world') = ⟨call, store, .ok answer, next, false⟩ := by
  have hfails : call.failsToSave save (store, world) = true := h
  unfold failsToSave at hfails
  split at hfails
  · rename_i mutation domain answer hpropose
    cases hsave : (save (store.mutate mutation) world).1 with
    | ok _ =>
      rw [hsave] at hfails
      cases hfails
    | error failure =>
      refine ⟨_, domain, answer, failure, StoreWrite.effect_of_propose hpropose, ?_,
        fun save' world' hworks ↦ ?_⟩
      · rw [turn_of_change hpropose, hsave]
      · rw [turn_of_change hpropose, hworks]
  · cases hfails

/-- A call that does not fail to save goes alike wherever all saves succeed. -/
theorem turn_congr (h : (call.turn save (store, world)).failed = false) {save' : Saver τ}
    (hworks : save'.Works) (world' : τ) :
    call.turn save' (store, world') = call.turn save (store, world) := by
  cases hpropose : call.write.propose call.who store with
  | error error =>
    unfold turn run failsToSave StoreWrite.run Store.perform
    simp only [hpropose]
  | ok proposal =>
    cases proposal with
    | settled answer =>
      unfold turn run failsToSave StoreWrite.run Store.perform
      simp only [hpropose]
    | change mutation domain answer =>
      rw [turn_of_change hpropose] at h ⊢
      rw [turn_of_change hpropose, hworks]
      cases hsave : (save (store.mutate mutation) world).1 with
      | ok _ => rfl
      | error failure =>
        rw [hsave] at h
        cases h

/-! ### Runs -/

/-- The turns of a run in which no save has failed. -/
def saved (turns : List Turn) : List Turn :=
  turns.filter fun turn ↦ !turn.failed

theorem saved_turns_of_failed {now : Store × σ} (h : (call.turn save now).failed = true)
    (rest : List StoreCall) :
    saved (turns save (call :: rest) now) = saved (turns save rest (call.run save now)) := by
  rw [turns, saved, List.filter_cons_of_neg (by rw [h]; decide)]
  rfl

theorem saved_turns_of_not_failed {now : Store × σ} (h : (call.turn save now).failed = false)
    (rest : List StoreCall) :
    saved (turns save (call :: rest) now) =
      call.turn save now :: saved (turns save rest (call.run save now)) := by
  rw [turns, saved, List.filter_cons_of_pos (by rw [h]; decide)]
  rfl

/-- **Without the calls whose saves fail, a run goes as it did.** -/
theorem turns_saved {save' : Saver τ} (hworks : save'.Works) :
    ∀ (calls : List StoreCall) (start : Store × σ) (world' : τ),
      turns save' ((saved (turns save calls start)).map (·.call)) (start.1, world') =
        saved (turns save calls start) ∧
      (runAll save' ((saved (turns save calls start)).map (·.call)) (start.1, world')).1 =
        (runAll save calls start).1
  | [], _, _ => ⟨rfl, rfl⟩
  | call :: rest, (store, world), world' => by
    cases hfailed : (call.turn save (store, world)).failed with
    | true =>
      -- the store is the same after the call, so the others go on from where it began
      obtain ⟨_, _, _, _, -, hturn, -⟩ := failed_cases hfailed
      have hstore : (call.run save (store, world)).1 = store := congrArg Turn.after hturn
      rw [saved_turns_of_failed hfailed]
      have hrest := turns_saved hworks rest (call.run save (store, world)) world'
      rw [hstore] at hrest
      exact hrest
    | false =>
      have hturn := turn_congr hfailed hworks world'
      have hrun : call.run save' (store, world') =
          ((call.run save (store, world)).1, (call.run save' (store, world')).2) :=
        Prod.ext (congrArg Turn.after hturn) rfl
      obtain ⟨hturns, hstore⟩ := turns_saved hworks rest (call.run save (store, world))
        (call.run save' (store, world')).2
      rw [saved_turns_of_not_failed hfailed, List.map_cons]
      refine ⟨?_, ?_⟩
      · show call.turn save' (store, world') :: turns save' _ (call.run save' (store, world')) = _
        rw [hrun, hturns, hturn]
      · show (runAll save' _ (call.run save' (store, world'))).1 = _
        rw [hrun]
        exact hstore

/-! ### In memory -/

/-- How a call went on a store in memory. -/
structure LiveTurn where
  call : StoreCall
  before : LiveStore
  ending : Except StoreError StoreAnswer
  after : LiveStore
  failed : Bool

/-- What can be seen of how a call went in memory. -/
def LiveTurn.view (turn : LiveTurn) : Turn where
  call := turn.call
  before := turn.before.view
  ending := turn.ending
  after := turn.after.view
  failed := turn.failed

/-- Carries out a call in memory. -/
def runLive (save : Saver σ) (call : StoreCall) (now : LiveStore × σ) :
    Except StoreError StoreAnswer × LiveStore × σ :=
  now.1.perform save (fun store ↦ call.write.propose call.who store) now.2

/-- A call asks for a change, which is made in place and cannot be saved. -/
def failsLive (save : Saver σ) (call : StoreCall) (now : LiveStore × σ) : Bool :=
  match call.write.propose call.who now.1.view with
  | .ok (.change mutation domain _) => !(now.1.commit save mutation domain now.2).1.isOk
  | _ => false

/-- How a call goes in memory. -/
def liveTurn (save : Saver σ) (call : StoreCall) (now : LiveStore × σ) : LiveTurn where
  call := call
  before := now.1
  ending := (call.runLive save now).1
  after := (call.runLive save now).2.1
  failed := call.failsLive save now

/-- How the calls of a run go in memory. -/
def liveTurns (save : Saver σ) : List StoreCall → LiveStore × σ → List LiveTurn
  | [], _ => []
  | call :: rest, now => call.liveTurn save now :: liveTurns save rest (call.runLive save now).2

/-- Carries out calls in memory, one after the other. -/
def runAllLive (save : Saver σ) (calls : List StoreCall) (start : LiveStore × σ) : LiveStore × σ :=
  calls.foldl (fun now call ↦ (call.runLive save now).2) start

/-- The turns in memory in which no save has failed. -/
def savedLive (turns : List LiveTurn) : List LiveTurn :=
  turns.filter fun turn ↦ !turn.failed

theorem map_view_savedLive (turns : List LiveTurn) :
    (savedLive turns).map LiveTurn.view = saved (turns.map LiveTurn.view) := by
  rw [savedLive, saved, List.filter_map]
  rfl

/-- A save fails in memory if it fails on the store. -/
theorem failsLive_eq {live : LiveStore} (hlive : live.Sound) (save : Saver σ) (call : StoreCall)
    (world : σ) : call.failsLive save (live, world) = call.failsToSave save (live.view, world) := by
  unfold failsLive failsToSave
  cases hpropose : call.write.propose call.who live.view with
  | error error => rfl
  | ok proposal =>
    cases proposal with
    | settled answer => rfl
    | change mutation domain answer =>
      obtain ⟨-, hcommit⟩ := hlive.commit save mutation domain world
      rcases hsave : save (live.view.mutate mutation) world with ⟨failure | _, world'⟩
      all_goals
        simp only [hsave, Prod.mk.injEq] at hcommit ⊢
        rw [hcommit.1]
        rfl

/-- **A call goes in memory as it goes on the store.** -/
theorem view_liveTurn {live : LiveStore} (hlive : live.Sound) (save : Saver σ) (call : StoreCall)
    (world : σ) :
    (call.liveTurn save (live, world)).after.Sound ∧
      (call.liveTurn save (live, world)).view = call.turn save (live.view, world) ∧
      (call.runLive save (live, world)).2.2 = (call.run save (live.view, world)).2 := by
  obtain ⟨hsound, hperform⟩ :=
    hlive.perform save (fun store ↦ call.write.propose call.who store) world
  have hrun : call.write.run save call.who live.view world =
      ((call.runLive save (live, world)).1, (call.runLive save (live, world)).2.1.view,
        (call.runLive save (live, world)).2.2) := hperform
  have hfails := failsLive_eq hlive save call world
  refine ⟨hsound, ?_, ?_⟩
  · simp only [liveTurn, LiveTurn.view, turn, run, hrun, hfails]
  · simp only [run, hrun]

/-- **Calls go in memory as they go on the store.** -/
theorem view_liveTurns (save : Saver σ) (calls : List StoreCall) {live : LiveStore}
    (hlive : live.Sound) (world : σ) :
    (liveTurns save calls (live, world)).map LiveTurn.view = turns save calls (live.view, world) ∧
      (runAllLive save calls (live, world)).1.view = (runAll save calls (live.view, world)).1 ∧
      ∀ turn ∈ liveTurns save calls (live, world), turn.before.Sound ∧ turn.after.Sound := by
  induction calls generalizing live world with
  | nil => exact ⟨rfl, rfl, fun _ h ↦ absurd h List.not_mem_nil⟩
  | cons call rest ih =>
    obtain ⟨hsound, hturn, hworld⟩ := view_liveTurn hlive save call world
    have hnext : ((call.runLive save (live, world)).2.1.view,
        (call.runLive save (live, world)).2.2) = call.run save (live.view, world) :=
      Prod.ext (congrArg Turn.after hturn) hworld
    obtain ⟨hturns, hstore, hall⟩ := ih hsound (call.runLive save (live, world)).2.2
    refine ⟨?_, ?_, ?_⟩
    · rw [liveTurns, List.map_cons, hturn, turns, ← hnext]
      exact congrArg (_ :: ·) hturns
    · rw [runAll, List.foldl_cons, ← hnext]
      exact hstore
    · rintro turn (_ | ⟨_, hmem⟩)
      · exact ⟨hlive, hsound⟩
      · exact hall turn hmem

/-- A turn whose save failed is a failed turn of the store. -/
theorem failed_spec (calls : List StoreCall) (start : Store × σ) :
    ∀ turn ∈ turns save calls start, turn.failed = true →
      turn.after = turn.before ∧
      (∃ error, turn.ending = .error error ∧ error.fault.IsStorage) ∧
      ∃ answer next, turn.call.write.Effect turn.call.who turn.before answer next ∧
        ∀ {τ : Type} (save' : Saver τ) (world : τ), (save' next world).1 = .ok () →
          turn.call.turn save' (turn.before, world) =
            ⟨turn.call, turn.before, .ok answer, next, false⟩ := by
  induction calls generalizing start with
  | nil => exact fun turn hturn ↦ absurd hturn List.not_mem_nil
  | cons call rest ih =>
    intro turn hturn hfailed
    rcases List.mem_cons.1 hturn with rfl | hturn
    · obtain ⟨next, domain, answer, failure, heffect, hturn, hagain⟩ := failed_cases hfailed
      rw [hturn]
      exact ⟨rfl, ⟨_, rfl, failure.isStorage_storeError domain⟩, answer, next, heffect, hagain⟩
    · exact ih _ turn hturn hfailed

/-- **Failed saves leave no trace.** Let calls be carried out one after the other on a store in
memory, which is changed in place before it is saved, where any save may fail in any way. A call
whose save fails ends in a report of the store, and the store holds what it held. Made again where
it can be saved, the call has the effect that it asked for, and goes as it would have gone if it had
not failed. And the calls whose saves did not fail go exactly as they would have gone without the
others: with the same endings, the same contents before and after each of them, and the same
contents in the end. -/
theorem failed_saves_leave_no_trace (save : Saver σ) (calls : List StoreCall) {start : LiveStore}
    (hstart : start.Sound) (world : σ) :
    (∀ turn ∈ liveTurns save calls (start, world), turn.failed = true →
      turn.after.view = turn.before.view ∧
      (∃ error, turn.ending = .error error ∧ error.fault.IsStorage) ∧
      ∃ answer next, turn.call.write.Effect turn.call.who turn.before.view answer next ∧
        ∀ {τ : Type} (save' : Saver τ) (world : τ), (save' next world).1 = .ok () →
          (turn.call.liveTurn save' (turn.after, world)).view =
              ⟨turn.call, turn.before.view, .ok answer, next, false⟩ ∧
            (turn.call.liveTurn save' (turn.before, world)).view =
              ⟨turn.call, turn.before.view, .ok answer, next, false⟩) ∧
    ∀ {τ : Type} {save' : Saver τ}, save'.Works → ∀ world' : τ,
      let kept := savedLive (liveTurns save calls (start, world))
      (liveTurns save' (kept.map (·.call)) (start, world')).map LiveTurn.view =
        kept.map LiveTurn.view ∧
      (runAllLive save' (kept.map (·.call)) (start, world')).1.view =
        (runAllLive save calls (start, world)).1.view := by
  obtain ⟨hturns, hstore, hsound⟩ := view_liveTurns save calls hstart world
  refine ⟨fun turn hturn hfailed ↦ ?_, fun {τ save'} hworks world' ↦ ?_⟩
  · have hview : turn.view ∈ turns save calls (start.view, world) :=
      hturns ▸ List.mem_map_of_mem hturn
    obtain ⟨hafter, hending, answer, next, heffect, hagain⟩ := failed_spec calls _ _ hview hfailed
    obtain ⟨hbefore, hback⟩ := hsound turn hturn
    refine ⟨hafter, hending, answer, next, heffect, fun save' world' hsaves ↦ ⟨?_, ?_⟩⟩
    · rw [(view_liveTurn hback save' turn.call world').2.1]
      exact (congrArg (fun store ↦ turn.call.turn save' (store, world')) hafter).trans
        (hagain save' world' hsaves)
    · rw [(view_liveTurn hbefore save' turn.call world').2.1]
      exact hagain save' world' hsaves
  · intro kept
    have hkept : kept.map LiveTurn.view = saved (turns save calls (start.view, world)) := by
      rw [map_view_savedLive, hturns]
    have hcalls : kept.map (·.call) =
        (saved (turns save calls (start.view, world))).map (·.call) := by
      rw [← hkept, List.map_map]
      rfl
    obtain ⟨hagain, hend, -⟩ := view_liveTurns save' (kept.map (·.call)) hstart world'
    obtain ⟨hsame, hsameEnd⟩ := turns_saved hworks calls (start.view, world) world'
    rw [hagain, hend, hkept, hstore, hcalls]
    exact ⟨hsame, hsameEnd⟩

/-- The disk is full when a domain is first asked for, and cannot be written to when a credential is
first added to it. Both calls are made again, and the store holds what it holds without the first
attempts. -/
theorem failed_saves_leave_no_trace_retried :
    let token : Credential := { id := .str "t", content := .secretText (.str "glpat") }
    let create : StoreCall := ⟨.system, .getOrCreateDomain "https://h"⟩
    let add : StoreCall := ⟨.system, .addCredential (.str "h") token⟩
    let scripted : Saver (List (Except SaveFailure Unit)) := fun _ script ↦
      (script.headD (.ok ()), script.tail)
    let script : List (Except SaveFailure Unit) :=
      [.error (.other "disk full"), .ok (), .error (.reported "read-only file system")]
    let start := LiveStore.ofStore .empty
    let went := liveTurns scripted [create, create, add, add] (start, script)
    start.Sound ∧
      went.map (·.failed) = [true, false, true, false] ∧
      (∀ turn ∈ went, turn.failed = true → turn.after.view = turn.before.view ∧
        ∃ error, turn.ending = .error error) ∧
      (liveTurns saveNowhere [create, add] (start, ())).map LiveTurn.view =
        (savedLive went).map LiveTurn.view ∧
      (runAllLive saveNowhere [create, add] (start, ())).1.view =
        (runAllLive scripted [create, create, add, add] (start, script)).1.view := by
  intro token create add scripted script start went
  have hstart : start.Sound := LiveStore.sound_ofStore Store.namesDistinct_empty
  obtain ⟨hfailed, hsaved⟩ :=
    failed_saves_leave_no_trace scripted [create, create, add, add] hstart script
  have hkept : (savedLive went).map (·.call) = [create, add] := by decide +kernel
  obtain ⟨hturns, hstore⟩ := hsaved works_saveNowhere ()
  rw [hkept] at hturns hstore
  refine ⟨hstart, by decide +kernel, fun turn hturn hfail ↦ ?_, hturns, hstore⟩
  obtain ⟨hafter, ⟨error, hending, -⟩, -⟩ := hfailed turn hturn hfail
  exact ⟨hafter, error, hending⟩

end StoreCall

end TokenBroker
