import TokenBroker.Failure

/-!
# Access control

The access control of one invocation knows who called and who acts at the moment. A block runs as
somebody else and gives the role back when it ends, however it ends. A `Session` keeps the blocks
that are open, for callers that open and leave them one by one.
-/

namespace TokenBroker

/-- Who called, and who acts at the moment. -/
structure AccessControl where
  caller : Authentication
  current : Authentication
  deriving DecidableEq, Inhabited, Repr

namespace AccessControl

/-- The access control at the beginning of an invocation. -/
def start (caller : Authentication) : AccessControl :=
  ⟨caller, caller⟩

/-- Whether the one who acts has a permission. -/
def has (acl : AccessControl) (permission : Permission) : Bool :=
  acl.current.has permission

/-- Fails unless the one who acts has a permission. -/
def check (acl : AccessControl) (permission : Permission) : Except Failure Unit :=
  if acl.has permission then .ok ()
  else .error (.permissionDenied permission acl.current.name)

/-- The same invocation with somebody else acting. -/
def actingAs (acl : AccessControl) (who : Authentication) : AccessControl :=
  { acl with current := who }

/-- Runs a block as somebody else. The block ends with a result of its own, an error included, and
the role is given back. -/
def within {α : Type} (acl : AccessControl) (who : Authentication)
    (block : AccessControl → α × AccessControl) : α × AccessControl :=
  let (result, inner) := block (acl.actingAs who)
  (result, inner.actingAs acl.current)

/-- Runs a block as the system. -/
def elevated {α : Type} (acl : AccessControl) (block : AccessControl → α × AccessControl) :
    α × AccessControl :=
  acl.within .system block

end AccessControl

/-- An invocation with the blocks that are open in it, from the outermost to the innermost; a block
remembers who acted when it was opened. -/
structure Session where
  acl : AccessControl
  blocks : List Authentication := []
  deriving DecidableEq, Inhabited, Repr

namespace Session

/-- Opens a block. -/
def enter (session : Session) (who : Authentication) : Session :=
  { acl := session.acl.actingAs who
    blocks := session.blocks ++ [session.acl.current] }

/-- Leaves an open block, given by its place. -/
def leaveAt? (session : Session) (place : Nat) : Option Session :=
  session.blocks[place]?.map fun previous =>
    { acl := session.acl.actingAs previous
      blocks := session.blocks.eraseIdx place }

end Session

end TokenBroker
