import Mathlib.Data.List.Induction
import TokenBroker.Proofs.Store.Writes

/-!
# Runs of writes

A run is a list of calls, each a write that somebody makes, carried out one after the other on one
store and the world it is saved to. Any call may be refused and any save may fail. What every effect
keeps is kept by whole runs (`StoreCall.runAll_induction`), so an invariant of the store is proved
on the effects of single writes.
-/

namespace TokenBroker

variable {σ : Type}

/-- A write, and who makes it. -/
structure StoreCall where
  who : Authentication
  write : StoreWrite
  deriving DecidableEq, Inhabited, Repr

namespace StoreCall

/-- Carries out a call. -/
def run (save : Saver σ) (call : StoreCall) (now : Store × σ) : Store × σ :=
  (call.write.run save call.who now.1 now.2).2

/-- Carries out calls one after the other. -/
def runAll (save : Saver σ) (calls : List StoreCall) (start : Store × σ) : Store × σ :=
  calls.foldl (fun now call ↦ call.run save now) start

variable (save : Saver σ)

theorem runAll_append (before after : List StoreCall) (start : Store × σ) :
    runAll save (before ++ after) start = runAll save after (runAll save before start) :=
  List.foldl_append

theorem runAll_concat (before : List StoreCall) (call : StoreCall) (start : Store × σ) :
    runAll save (before ++ [call]) start = call.run save (runAll save before start) := by
  rw [runAll_append]
  rfl

/-- **What the effects of calls keep, their run keeps.** -/
theorem runAll_induction {P : Store → Prop} {calls : List StoreCall} {start : Store × σ}
    (hstart : P start.1)
    (heffect : ∀ call ∈ calls, ∀ store answer store', P store →
      call.write.Effect call.who store answer store' → P store') :
    P (runAll save calls start).1 := by
  induction calls using List.reverseRec with
  | nil => exact hstart
  | append_singleton before call ih =>
    rw [runAll_concat]
    have hbefore : P (runAll save before start).1 :=
      ih fun other hother ↦ heffect other (List.mem_append_left _ hother)
    show P (call.write.run save call.who (runAll save before start).1
      (runAll save before start).2).2.1
    refine StoreWrite.run_induction hbefore (fun answer store' h ↦ ?_) _
    exact heffect call (List.mem_append_right _ (List.mem_singleton_self _)) _ _ _ hbefore h

/-- Runs keep the names of domains distinct. -/
theorem namesDistinct_runAll {start : Store × σ} (hstart : start.1.NamesDistinct)
    (calls : List StoreCall) : (runAll save calls start).1.NamesDistinct :=
  runAll_induction save hstart fun _ _ _ _ _ hstore h ↦ h.namesDistinct hstore

end StoreCall

end TokenBroker
