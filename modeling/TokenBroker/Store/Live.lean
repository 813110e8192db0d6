import TokenBroker.Store.Basic

/-!
# The store in memory

A `Store` is what a store holds. In memory it is a dictionary from domains to lists of credentials,
and the dictionary and the lists are objects that are changed in place: a `LiveStore` is the table
in use on a `Heap` of such objects, and `LiveStore.view` reads off what it holds.

A write that asks for a change makes it in place, on the table in use or on one of its lists, and
saves afterwards (`LiveStore.commit`). To be able to go back, it copies the table before that, with
every list of it. If the save fails, the copy becomes the table in use.
-/

namespace TokenBroker

/-- A row of a table: a domain, and the place of the list of its credentials. -/
structure TableRow where
  domain : Domain
  list : Nat
  deriving DecidableEq, Inhabited, Repr

/-- The lists of credentials and the tables in memory, each known by its place. -/
structure Heap where
  lists : List (List Credential) := []
  tables : List (List TableRow) := []
  deriving DecidableEq, Inhabited, Repr

namespace Heap

/-! ### Objects -/

def listAt (heap : Heap) (place : Nat) : List Credential :=
  heap.lists.getD place []

def tableAt (heap : Heap) (place : Nat) : List TableRow :=
  heap.tables.getD place []

def setList (heap : Heap) (place : Nat) (credentials : List Credential) : Heap :=
  { heap with lists := heap.lists.set place credentials }

def setTable (heap : Heap) (place : Nat) (rows : List TableRow) : Heap :=
  { heap with tables := heap.tables.set place rows }

/-- A new list, and its place. -/
def newList (heap : Heap) (credentials : List Credential) : Nat × Heap :=
  (heap.lists.length, { heap with lists := heap.lists ++ [credentials] })

/-- A new table, and its place. -/
def newTable (heap : Heap) (rows : List TableRow) : Nat × Heap :=
  (heap.tables.length, { heap with tables := heap.tables ++ [rows] })

/-! ### Tables -/

/-- The row of a table for the domain with a name. -/
def row? (heap : Heap) (table : Nat) (name : Json) : Option TableRow :=
  (heap.tableAt table).find? fun row => Json.same row.domain.name name

/-- The entries that rows stand for. -/
def entries (heap : Heap) (rows : List TableRow) : List StoreEntry :=
  rows.map fun row => { domain := row.domain, credentials := heap.listAt row.list }

/-- The store that a table stands for. -/
def storeAt (heap : Heap) (table : Nat) : Store :=
  ⟨heap.entries (heap.tableAt table)⟩

/-- Rows for entries, each with a new list. -/
def newRows (heap : Heap) : List StoreEntry → List TableRow × Heap
  | [] => ([], heap)
  | entry :: rest =>
    let (list, heap) := heap.newList entry.credentials
    let (rows, heap) := heap.newRows rest
    (⟨entry.domain, list⟩ :: rows, heap)

/-- A new table for a store, with new lists. -/
def newStore (heap : Heap) (store : Store) : Nat × Heap :=
  let (rows, heap) := heap.newRows store.entries
  heap.newTable rows

/-- A copy of a table, with copies of its lists. -/
def copy (heap : Heap) (table : Nat) : Nat × Heap :=
  heap.newStore (heap.storeAt table)

/-- Changes a table in place, or the list of one of its rows. A change of a domain that the table
does not have comes to nothing. -/
def mutate (heap : Heap) (table : Nat) : Mutation → Heap
  | .setDefault domain =>
    let (list, heap) := heap.newList []
    if (heap.row? table domain.name).isSome then heap
    else heap.setTable table (heap.tableAt table ++ [⟨domain, list⟩])
  | .append name credential =>
    match heap.row? table name with
    | none => heap
    | some row => heap.setList row.list (heap.listAt row.list ++ [credential])
  | .remove name id =>
    match heap.row? table name with
    | none => heap
    | some row =>
      let (list, heap) := heap.newList <|
        (heap.listAt row.list).filter fun credential => !Json.same credential.id id
      heap.setTable table <| (heap.tableAt table).map fun other =>
        if Json.same other.domain.name name then { other with list := list } else other
  | .pop name =>
    heap.setTable table <| (heap.tableAt table).filter fun row => !Json.same row.domain.name name

end Heap

/-- A store in memory: the table in use on a heap. -/
structure LiveStore where
  heap : Heap
  table : Nat
  deriving DecidableEq, Inhabited, Repr

namespace LiveStore

variable {σ α : Type}

/-- What a store in memory holds. -/
def view (live : LiveStore) : Store :=
  live.heap.storeAt live.table

/-- Brings a store into memory. -/
def ofStore (store : Store) : LiveStore :=
  let (table, heap) := Heap.newStore {} store
  { heap := heap, table := table }

/-- Makes a change in place and saves the store. If the save fails, a copy from before the change
becomes the table in use. -/
def commit (save : Saver σ) (mutation : Mutation) (domain : Json) (live : LiveStore) (world : σ) :
    Except StoreError Unit × LiveStore × σ :=
  let (copy, heap) := live.heap.copy live.table
  let changed : LiveStore := { live with heap := heap.mutate live.table mutation }
  match save changed.view world with
  | (.ok (), world) => (.ok (), changed, world)
  | (.error failure, world) =>
    (.error (failure.storeError domain), { changed with table := copy }, world)

/-- Carries out a write on a store in memory. -/
def perform (save : Saver σ) (write : Store → Except StoreError (Proposal α))
    (live : LiveStore) (world : σ) : Except StoreError α × LiveStore × σ :=
  match write live.view with
  | .error error => (.error error, live, world)
  | .ok (.settled answer) => (.ok answer, live, world)
  | .ok (.change mutation domain answer) =>
    let (saved, live, world) := live.commit save mutation domain world
    (saved.map fun _ => answer, live, world)

end LiveStore

end TokenBroker
