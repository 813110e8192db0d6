import TokenBroker.Exchange.Create

/-!
# Blocks and who acts in them

An invocation as a tree of what it does with its access control: it asks for permissions, checks
them, and runs blocks as somebody else or as the system, one within the other. A check that is
denied and a block that fails are results, on which what follows may depend; so an exception may be
passed on through any number of blocks, or be caught in any of them (`Activity`).

The access control has one field for who acts, and a block remembers nothing but what it found
there. That is enough: wherever one looks, the one who acts is that of the innermost block that is
open, and the caller where there is none; all questions are answered for it, and in the end
everything is as it was (`Activity.roles_given_back`). Blocks that are opened and left one by one in
a `Session` come to the same (`Activity.drive_eq_run`).
-/

namespace TokenBroker

/-- The access control of a caller within blocks, the innermost of which comes first. -/
def AccessControl.inBlocks (caller : Authentication) (opened : List Authentication) :
    AccessControl :=
  ⟨caller, opened.headD caller⟩

/-- Every access control is one within blocks; outside of them it is that of a new invocation. -/
example (acl : AccessControl) : .inBlocks acl.caller [acl.current] = acl ∧
    .inBlocks acl.caller [] = AccessControl.start acl.caller :=
  ⟨rfl, rfl⟩

/-- What an invocation does with its access control, and how it ends: normally, or with an exception
of whatever kind. What it does next may depend on every answer, and on how every block has ended. -/
inductive Activity (ε : Type)
  | ends (result : Except ε Unit)
  | asks (permission : Permission) (next : Bool → Activity ε)
  | checks (permission : Permission) (next : Except Failure Unit → Activity ε)
  | impersonates (who : Authentication) (block : Activity ε) (next : Except ε Unit → Activity ε)

/-- What an invocation learns where it stands. -/
inductive Answer
  | none
  | asked (permission : Permission) (granted : Bool)
  | checked (permission : Permission) (result : Except Failure Unit)

/-- The answer is the one for somebody who acts. -/
def Answer.IsFor (who : Authentication) : Answer → Prop
  | .none => True
  | .asked permission granted => granted = who.has permission
  | .checked permission result =>
    result = if who.has permission then .ok () else .error (.permissionDenied permission who.name)

/-- A point of an invocation: the blocks that are open there, the innermost first, the access
control, and what is learned. -/
structure Point where
  opened : List Authentication
  acl : AccessControl
  answer : Answer

/-- At a point of an invocation of a caller, the innermost open block says who acts, and for whom
questions are answered. -/
structure Point.Faithful (caller : Authentication) (point : Point) : Prop where
  acl : point.acl = .inBlocks caller point.opened
  answer : point.answer.IsFor (point.opened.headD caller)

/-- How an activity ends, and the points that it has passed. -/
structure Course (ε : Type) where
  result : Except ε Unit
  points : List Point

namespace Activity

variable {ε : Type} {caller : Authentication} {opened : List Authentication}

/-- A block that runs as the system. -/
def elevates (block : Activity ε) (next : Except ε Unit → Activity ε) : Activity ε :=
  .impersonates .system block next

/-- Carries out an activity. The open blocks are noted for the points alone. -/
def run : Activity ε → List Authentication → AccessControl → Course ε × AccessControl
  | .ends result, opened, acl => (⟨result, [⟨opened, acl, .none⟩]⟩, acl)
  | .asks permission next, opened, acl =>
    let granted := acl.has permission
    let (later, acl') := (next granted).run opened acl
    (⟨later.result, ⟨opened, acl, .asked permission granted⟩ :: later.points⟩, acl')
  | .checks permission next, opened, acl =>
    let result := acl.check permission
    let (later, acl') := (next result).run opened acl
    (⟨later.result, ⟨opened, acl, .checked permission result⟩ :: later.points⟩, acl')
  | .impersonates who block next, opened, acl =>
    let (inner, acl') := acl.within who (block.run (who :: opened))
    let (later, acl') := (next inner.result).run opened acl'
    (⟨later.result, ⟨opened, acl, .none⟩ :: inner.points ++ later.points⟩, acl')

/-- Carries out an activity in a session: its blocks are opened, and left when they have ended. -/
def drive : Activity ε → List Authentication → Session → Option (Course ε × Session)
  | .ends result, opened, session => some (⟨result, [⟨opened, session.acl, .none⟩]⟩, session)
  | .asks permission next, opened, session => do
    let granted := session.acl.has permission
    let (later, session') ← (next granted).drive opened session
    return (⟨later.result, ⟨opened, session.acl, .asked permission granted⟩ :: later.points⟩,
      session')
  | .checks permission next, opened, session => do
    let result := session.acl.check permission
    let (later, session') ← (next result).drive opened session
    return (⟨later.result, ⟨opened, session.acl, .checked permission result⟩ :: later.points⟩,
      session')
  | .impersonates who block next, opened, session => do
    let (inner, session') ← block.drive (who :: opened) (session.enter who)
    let session' ← session'.leaveAt? (session'.blocks.length - 1)
    let (later, session') ← (next inner.result).drive opened session'
    return (⟨later.result, ⟨opened, session.acl, .none⟩ :: inner.points ++ later.points⟩, session')

/-! ### The innermost block -/

/-- **An activity gives every role back.** -/
theorem run_snd (activity : Activity ε) (opened : List Authentication) (acl : AccessControl) :
    (activity.run opened acl).2 = acl := by
  induction activity generalizing opened acl with
  | ends result => rfl
  | asks permission next ih => exact ih _ opened acl
  | checks permission next ih => exact ih _ opened acl
  | impersonates who block next ihblock ihnext =>
    -- the caller is that of the block, and the role is the one found at its beginning
    have hblock : (acl.within who (block.run (who :: opened))).2 = acl := by
      show (block.run (who :: opened) (acl.actingAs who)).2.actingAs acl.current = acl
      rw [ihblock]
      rfl
    show ((next _).run opened (acl.within who (block.run (who :: opened))).2).2 = acl
    rw [hblock]
    exact ihnext _ opened acl

/-- A block runs as somebody else, and nothing else changes. -/
theorem within_run (acl : AccessControl) (who : Authentication) (block : Activity ε)
    (opened : List Authentication) :
    acl.within who (block.run opened) = ((block.run opened (acl.actingAs who)).1, acl) := by
  refine Prod.ext rfl ?_
  show (block.run opened (acl.actingAs who)).2.actingAs acl.current = acl
  rw [run_snd]
  rfl

/-- **At every point the innermost block says who acts.** -/
theorem faithful_of_mem_points (activity : Activity ε) {point : Point}
    (h : point ∈ (activity.run opened (.inBlocks caller opened)).1.points) :
    point.Faithful caller := by
  induction activity generalizing opened with
  | ends result =>
    rw [List.mem_singleton.1 h]
    exact ⟨rfl, trivial⟩
  | asks permission next ih =>
    rcases List.mem_cons.1 h with rfl | hlater
    · exact ⟨rfl, rfl⟩
    · exact ih _ hlater
  | checks permission next ih =>
    rcases List.mem_cons.1 h with rfl | hlater
    · exact ⟨rfl, rfl⟩
    · exact ih _ hlater
  | impersonates who block next ihblock ihnext =>
    simp only [run, within_run, List.cons_append, List.mem_cons, List.mem_append] at h
    rcases h with rfl | hinside | hlater
    · exact ⟨rfl, trivial⟩
    · -- within the block its role is that of the innermost one
      exact @ihblock (who :: opened) hinside
    · exact ihnext _ hlater

/-! ### Sessions -/

/-- A block that is left gives back what it has found. -/
theorem leaveAt?_enter (session : Session) (who : Authentication) :
    (session.enter who).leaveAt? ((session.enter who).blocks.length - 1) = some session := by
  have hblocks : (session.enter who).blocks = session.blocks ++ [session.acl.current] := rfl
  have hplace : (session.enter who).blocks.length - 1 = session.blocks.length := by
    rw [hblocks, List.length_append, List.length_singleton, Nat.add_sub_cancel]
  rw [Session.leaveAt?, hplace, hblocks, List.getElem?_concat_length, Option.map_some,
    List.eraseIdx_append_of_length_le (Nat.le_refl _), Nat.sub_self]
  simp [Session.enter, AccessControl.actingAs]

/-- **Blocks that are opened and left one by one come to the same.** -/
theorem drive_eq_run (activity : Activity ε) (opened : List Authentication) (session : Session) :
    activity.drive opened session = some ((activity.run opened session.acl).1, session) := by
  induction activity generalizing opened session with
  | ends result => rfl
  | asks permission next ih =>
    simp only [drive, run, ih]
    rfl
  | checks permission next ih =>
    simp only [drive, run, ih]
    rfl
  | impersonates who block next ihblock ihnext =>
    simp only [drive, run, ihblock, ihnext, within_run, leaveAt?_enter, Option.bind_eq_bind,
      Option.bind_some]
    rfl

/-- **Roles are given back.** Let an invocation of a caller do anything with its access control,
within any blocks that are open, and let every block end normally or with an exception of any kind.
Then

* at every point the one who acts is that of the innermost open block, and the caller if none is
  open; the caller stays the same; and whether a permission is there is said for the one who acts;
* in the end the access control is what it was, and in a session the same blocks are open that were
  open at first, with the same end and the same points;
* a credential is stored as the system, and the access control is what it was, whether it could be
  stored or not. -/
theorem roles_given_back (caller : Authentication) (outer : List Authentication) :
    (∀ {ε : Type} (activity : Activity ε),
      let acl := AccessControl.inBlocks caller outer
      (∀ point ∈ (activity.run outer acl).1.points,
        point.acl.current = point.opened.headD caller ∧ point.acl.caller = caller ∧
          point.answer.IsFor point.acl.current) ∧
      (activity.run outer acl).2 = acl ∧
      ∀ blocks, activity.drive outer ⟨acl, blocks⟩ =
        some ((activity.run outer acl).1, ⟨acl, blocks⟩)) ∧
    ∀ {σ : Type} (save : Saver σ) (serverUrl : String) (credential : Credential) (store : Store)
      (world : σ), let acl := AccessControl.inBlocks caller outer
      Exchange.storeCredential save serverUrl credential acl store world =
        (Exchange.storeAs save .system serverUrl credential store world, acl) := by
  refine ⟨fun activity ↦ ⟨fun point hpoint ↦ ?_, run_snd activity _ _, fun blocks ↦ ?_⟩,
    fun _ _ _ _ _ ↦ rfl⟩
  · obtain ⟨hacl, hanswer⟩ := faithful_of_mem_points activity hpoint
    rw [hacl]
    exact ⟨rfl, rfl, hanswer⟩
  · exact drive_eq_run activity outer ⟨_, blocks⟩

/-- An exception leaves an elevated block and the block around it, and is caught outside. -/
example :
    let failing : Activity String := elevates (.ends (.error "boom")) .ends
    let activity := impersonates (.user "bob") failing fun _ ↦ .asks .read fun _ ↦ .ends (.ok ())
    let course := (activity.run [] (.start (.user "alice"))).1
    course.points.map (·.acl.current.name) = ["alice", "bob", "SYSTEM", "bob", "alice", "alice"] :=
  rfl

end Activity

end TokenBroker
