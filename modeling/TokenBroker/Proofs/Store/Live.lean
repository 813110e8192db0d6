import Mathlib.Data.List.Nodup
import Mathlib.Data.List.Pairwise
import TokenBroker.Proofs.Store.Entries
import TokenBroker.Store.Live

/-!
# The store in memory is the store

A table represents a store (`Heap.Represents`) if its rows stand for the entries of the store and
each has a list of its own. A change in place then makes it represent the changed store
(`Heap.Represents.mutate`), and leaves every table alone that shares no list with it
(`Heap.Represents.keeps_mutate`). A copy of a table represents the same store with lists that are
new (`Heap.represents_newStore`, `Heap.Represents.apart_newStore`); that is why it can be gone back
to after a change.

So a write that is carried out in memory ends as it does on the store, whether its save succeeds or
fails (`LiveStore.Sound.perform`).
-/

namespace TokenBroker

variable {σ α : Type}

/-- A change of the credentials of a name that is not there changes nothing. -/
theorem Store.updateCredentials_of_none {store : Store} {name : Json} (h : store.entry? name = none)
    (f : List Credential → List Credential) : store.updateCredentials name f = store := by
  have hentries : (store.entries.map fun entry ↦
      if Json.same entry.domain.name name then { entry with credentials := f entry.credentials }
      else entry) = store.entries := by
    refine (List.map_congr_left fun entry hentry ↦ ?_).trans (List.map_id _)
    rw [entry_eq_none_iff.1 h entry hentry]
    rfl
  rw [updateCredentials, hentries]

namespace Heap

variable {heap heap' : Heap} {table other : Nat} {store store' : Store} {rows : List TableRow}

/-! ### Reading what has been written -/

theorem listAt_newList {place : Nat} (h : place < heap.lists.length)
    (credentials : List Credential) :
    (heap.newList credentials).2.listAt place = heap.listAt place := by
  simp [newList, listAt, List.getD_eq_getElem?_getD, List.getElem?_append_left h]

@[simp] theorem listAt_newList_self (heap : Heap) (credentials : List Credential) :
    (heap.newList credentials).2.listAt (heap.newList credentials).1 = credentials := by
  simp [newList, listAt]

theorem listAt_setList_self {place : Nat} (h : place < heap.lists.length)
    (credentials : List Credential) :
    (heap.setList place credentials).listAt place = credentials := by
  simp [setList, listAt, h]

theorem listAt_setList_of_ne {place place' : Nat} (h : place ≠ place')
    (credentials : List Credential) :
    (heap.setList place credentials).listAt place' = heap.listAt place' := by
  simp [setList, listAt, List.getD_eq_getElem?_getD, h]

theorem tableAt_setTable_self (h : table < heap.tables.length) (rows : List TableRow) :
    (heap.setTable table rows).tableAt table = rows := by
  simp [setTable, tableAt, h]

theorem tableAt_setTable_of_ne (h : table ≠ other) (rows : List TableRow) :
    (heap.setTable table rows).tableAt other = heap.tableAt other := by
  simp [setTable, tableAt, List.getD_eq_getElem?_getD, h]

/-- Rows stand for the same entries wherever their lists hold the same. -/
theorem entries_congr (h : ∀ row ∈ rows, heap'.listAt row.list = heap.listAt row.list) :
    heap'.entries rows = heap.entries rows :=
  List.map_congr_left fun row hrow ↦ by rw [h row hrow]

/-! ### Tables that represent stores -/

/-- The rows of a table in memory stand for the entries of a store, in order. Each has a list of its
own, and no two are of one name. -/
structure Represents (heap : Heap) (table : Nat) (store : Store) : Prop where
  table_lt : table < heap.tables.length
  list_lt : ∀ row ∈ heap.tableAt table, row.list < heap.lists.length
  lists_nodup : ((heap.tableAt table).map (·.list)).Nodup
  entries_eq : heap.entries (heap.tableAt table) = store.entries
  names_distinct : store.NamesDistinct

namespace Represents

theorem storeAt_eq (h : heap.Represents table store) : heap.storeAt table = store :=
  congrArg Store.mk h.entries_eq

/-- A row is known by its list. -/
theorem eq_of_list_eq (h : heap.Represents table store) {row row' : TableRow}
    (hrow : row ∈ heap.tableAt table) (hrow' : row' ∈ heap.tableAt table)
    (hlist : row.list = row'.list) : row = row' :=
  List.inj_on_of_nodup_map h.lists_nodup hrow hrow' hlist

/-- The entry of a name is that of its row. -/
theorem entry_eq (h : heap.Represents table store) (name : Json) :
    store.entry? name =
      (heap.row? table name).map fun row ↦ ⟨row.domain, heap.listAt row.list⟩ := by
  rw [Store.entry?, ← h.entries_eq, entries, List.find?_map]
  rfl

/-- The row of a name is the only one of the name. -/
theorem same_iff_eq (h : heap.Represents table store) {name : Json} {row row' : TableRow}
    (hfound : heap.row? table name = some row) (hrow' : row' ∈ heap.tableAt table) :
    Json.same row'.domain.name name = true ↔ row' = row := by
  have hname : Json.same row.domain.name name = true := by simpa using List.find?_some hfound
  refine ⟨fun hname' ↦ ?_, fun heq ↦ heq ▸ hname⟩
  have hdistinct : (heap.tableAt table).Pairwise fun a b ↦ a.domain.same b.domain = false := by
    have hnames := h.names_distinct
    rw [← h.storeAt_eq, Store.NamesDistinct, Store.domains, List.pairwise_map] at hnames
    exact List.pairwise_map.1 hnames
  have : Std.Symm fun a b : TableRow ↦ a.domain.same b.domain = false :=
    ⟨fun a b hab ↦ (Json.same_comm _ _).trans hab⟩
  by_contra hne
  have hother := hdistinct.forall hrow' (List.mem_of_find?_eq_some hfound) hne
  rw [Domain.same, Json.same_trans hname' (Json.same_symm hname)] at hother
  cases hother

/-- A table in memory may be written over with rows that have lists of their own. -/
theorem setTable (hlt : table < heap.tables.length)
    (hlists : ∀ row ∈ rows, row.list < heap.lists.length) (hnodup : (rows.map (·.list)).Nodup)
    (hentries : heap.entries rows = store.entries) (hstore : store.NamesDistinct) :
    (heap.setTable table rows).Represents table store := by
  have hrows := tableAt_setTable_self hlt rows
  refine ⟨?_, ?_, ?_, ?_, hstore⟩
  · simpa [Heap.setTable] using hlt
  · rwa [hrows]
  · rwa [hrows]
  · rwa [hrows]

end Represents

/-! ### What is left alone -/

/-- A table and its lists are as they were. -/
structure Keeps (heap heap' : Heap) (table : Nat) : Prop where
  tables_le : heap.tables.length ≤ heap'.tables.length
  lists_le : heap.lists.length ≤ heap'.lists.length
  table_eq : heap'.tableAt table = heap.tableAt table
  list_eq : ∀ row ∈ heap.tableAt table, heap'.listAt row.list = heap.listAt row.list

/-- Two tables share no list. -/
def Apart (heap : Heap) (table other : Nat) : Prop :=
  table ≠ other ∧ ∀ row ∈ heap.tableAt table, ∀ row' ∈ heap.tableAt other, row.list ≠ row'.list

theorem Keeps.refl (heap : Heap) (table : Nat) : heap.Keeps heap table :=
  ⟨Nat.le_refl _, Nat.le_refl _, rfl, fun _ _ ↦ rfl⟩

theorem Keeps.setTable (h : heap.Keeps heap' other) (hne : table ≠ other) (rows : List TableRow) :
    heap.Keeps (heap'.setTable table rows) other where
  tables_le := by simpa [Heap.setTable] using h.tables_le
  lists_le := h.lists_le
  table_eq := (tableAt_setTable_of_ne hne rows).trans h.table_eq
  list_eq := h.list_eq

theorem keeps_setList {place : Nat} (h : ∀ row ∈ heap.tableAt table, place ≠ row.list)
    (credentials : List Credential) : heap.Keeps (heap.setList place credentials) table where
  tables_le := Nat.le_refl _
  lists_le := by simp [setList]
  table_eq := rfl
  list_eq row hrow := listAt_setList_of_ne (h row hrow) credentials

namespace Represents

theorem keeps_newList (h : heap.Represents table store) (credentials : List Credential) :
    heap.Keeps (heap.newList credentials).2 table where
  tables_le := Nat.le_refl _
  lists_le := by simp [newList]
  table_eq := rfl
  list_eq row hrow := listAt_newList (h.list_lt row hrow) credentials

/-- A table that is left alone represents what it did. -/
theorem of_keeps (h : heap.Represents table store) (hkeeps : heap.Keeps heap' table) :
    heap'.Represents table store where
  table_lt := Nat.lt_of_lt_of_le h.table_lt hkeeps.tables_le
  list_lt row hrow := Nat.lt_of_lt_of_le (h.list_lt row (hkeeps.table_eq ▸ hrow)) hkeeps.lists_le
  lists_nodup := hkeeps.table_eq ▸ h.lists_nodup
  entries_eq := by rw [hkeeps.table_eq, entries_congr hkeeps.list_eq, h.entries_eq]
  names_distinct := h.names_distinct

/-- **A change in place leaves every other table alone** that shares no list with the one that is
changed. -/
theorem keeps_mutate (h : heap.Represents other store) (hapart : heap.Apart table other)
    (mutation : Mutation) : heap.Keeps (heap.mutate table mutation) other := by
  obtain ⟨hne, hlists⟩ := hapart
  cases mutation with
  | setDefault domain =>
    simp only [mutate]
    split
    · exact h.keeps_newList []
    · exact (h.keeps_newList []).setTable hne _
  | append name credential =>
    simp only [mutate]
    split
    · exact .refl heap other
    · rename_i row hfound
      exact keeps_setList (hlists row (List.mem_of_find?_eq_some hfound)) _
  | remove name id =>
    simp only [mutate]
    split
    · exact .refl heap other
    · exact (h.keeps_newList _).setTable hne _
  | pop name => exact (Keeps.refl heap other).setTable hne _

/-! ### Changes in place -/

/-- A domain is taken in with a new list. -/
theorem mutate_setDefault (h : heap.Represents table store) (domain : Domain) :
    (heap.mutate table (.setDefault domain)).Represents table
      (store.mutate (.setDefault domain)) := by
  have hnew := h.of_keeps (h.keeps_newList [])
  have hentry := h.entry_eq domain.name
  have hrow : (heap.newList []).2.row? table domain.name = heap.row? table domain.name := rfl
  simp only [Heap.mutate, Store.mutate, hrow, hentry, Option.isSome_map]
  split
  · exact hnew
  · rename_i hnone
    rw [Option.not_isSome_iff_eq_none] at hnone
    rw [hnone] at hentry
    refine .setTable hnew.table_lt ?_ ?_ ?_ (h.names_distinct.appendDomain hentry)
    · intro row hrow
      rcases List.mem_append.1 hrow with hold | hlast
      · exact hnew.list_lt row hold
      · obtain rfl := List.mem_singleton.1 hlast
        simp [newList]
    · rw [List.map_append, List.nodup_append]
      refine ⟨h.lists_nodup, List.nodup_singleton _, ?_⟩
      rintro place hplace _ hlast rfl
      obtain ⟨row, hrow, rfl⟩ := List.mem_map.1 hplace
      exact absurd (h.list_lt row hrow) (by simp_all [newList])
    · have hold := hnew.entries_eq
      rw [Store.appendDomain, ← hold, entries, entries, List.map_append]
      simp [newList, listAt]

/-- A credential is put at the end of the list of its domain. -/
theorem mutate_append (h : heap.Represents table store) (name : Json) (credential : Credential) :
    (heap.mutate table (.append name credential)).Represents table
      (store.mutate (.append name credential)) := by
  have hentry := h.entry_eq name
  simp only [Heap.mutate, Store.mutate]
  split
  · rename_i hnone
    rw [hnone] at hentry
    rwa [Store.updateCredentials_of_none hentry]
  · rename_i row hfound
    have hrow : row ∈ heap.tableAt table := List.mem_of_find?_eq_some hfound
    refine ⟨h.table_lt, ?_, h.lists_nodup, ?_, h.names_distinct.updateCredentials _ _⟩
    · intro row' hrow'
      rw [setList, List.length_set]
      exact h.list_lt row' hrow'
    · rw [Store.updateCredentials, ← h.entries_eq, entries, entries, List.map_map]
      refine List.map_congr_left fun row' hrow' ↦ ?_
      by_cases heq : row' = row
      · subst heq
        simp [listAt_setList_self (h.list_lt row' hrow), (h.same_iff_eq hfound hrow).2 rfl]
      · have hname := mt (h.same_iff_eq hfound hrow').1 heq
        have hlist : row.list ≠ row'.list := fun hlist ↦ heq (h.eq_of_list_eq hrow hrow' hlist).symm
        simp [listAt_setList_of_ne hlist, hname]

/-- The list of a domain gives way to a new one, without the credentials of an id. -/
theorem mutate_remove (h : heap.Represents table store) (name id : Json) :
    (heap.mutate table (.remove name id)).Represents table (store.mutate (.remove name id)) := by
  have hentry := h.entry_eq name
  simp only [Heap.mutate, Store.mutate]
  split
  · rename_i hnone
    rw [hnone] at hentry
    rwa [Store.updateCredentials_of_none hentry]
  · rename_i row hfound
    have hrow : row ∈ heap.tableAt table := List.mem_of_find?_eq_some hfound
    generalize hkept : (heap.listAt row.list).filter _ = kept
    have hnew := h.of_keeps (h.keeps_newList kept)
    refine .setTable hnew.table_lt ?_ ?_ ?_ (h.names_distinct.updateCredentials _ _)
    · intro row'' hrow''
      obtain ⟨row', hrow', rfl⟩ := List.mem_map.1 hrow''
      split
      · simp [newList]
      · exact hnew.list_lt row' hrow'
    · rw [List.map_map]
      refine List.Nodup.map_on (fun a ha b hb hab ↦ ?_) (List.Nodup.of_map _ h.lists_nodup)
      -- the new list is on no other row, so rows with one list are both the row found, or old rows
      simp only [Function.comp_apply, h.same_iff_eq hfound ha, h.same_iff_eq hfound hb] at hab
      split at hab
      · rename_i harow
        split at hab
        · rename_i hbrow
          rw [harow, hbrow]
        · exact absurd hab.symm (Nat.ne_of_lt (h.list_lt b hb))
      · split at hab
        · exact absurd hab (Nat.ne_of_lt (h.list_lt a ha))
        · exact h.eq_of_list_eq ha hb hab
    · rw [Store.updateCredentials, ← h.entries_eq, entries, entries, List.map_map, List.map_map]
      refine List.map_congr_left fun row' hrow' ↦ ?_
      by_cases heq : row' = row
      · subst heq
        simp [(h.same_iff_eq hfound hrow).2 rfl, hkept]
      · have hname := mt (h.same_iff_eq hfound hrow').1 heq
        simp [hname, listAt_newList (h.list_lt row' hrow')]

/-- A domain is dropped with its list. -/
theorem mutate_pop (h : heap.Represents table store) (name : Json) :
    (heap.mutate table (.pop name)).Represents table (store.mutate (.pop name)) := by
  refine .setTable h.table_lt ?_ ?_ ?_ (h.names_distinct.eraseDomain name)
  · exact fun row hrow ↦ h.list_lt row (List.mem_of_mem_filter hrow)
  · exact h.lists_nodup.sublist (List.filter_sublist.map _)
  · rw [Store.mutate, Store.eraseDomain, ← h.entries_eq, entries, entries, List.filter_map]
    rfl

/-- **A change in place is the change of the store.** -/
theorem mutate (h : heap.Represents table store) (mutation : Mutation) :
    (heap.mutate table mutation).Represents table (store.mutate mutation) := by
  cases mutation with
  | setDefault domain => exact h.mutate_setDefault domain
  | append name credential => exact h.mutate_append name credential
  | remove name id => exact h.mutate_remove name id
  | pop name => exact h.mutate_pop name

end Represents

/-! ### Copies -/

/-- Rows for entries have been made, with lists that were not there before. -/
structure Makes (heap heap' : Heap) (rows : List TableRow) (entries : List StoreEntry) : Prop where
  tables_eq : heap'.tables = heap.tables
  lists_le : heap.lists.length ≤ heap'.lists.length
  list_eq : ∀ place < heap.lists.length, heap'.listAt place = heap.listAt place
  list_ge : ∀ row ∈ rows, heap.lists.length ≤ row.list
  list_lt : ∀ row ∈ rows, row.list < heap'.lists.length
  lists_nodup : (rows.map (·.list)).Nodup
  entries_eq : heap'.entries rows = entries

theorem makes_newRows (entries : List StoreEntry) (heap : Heap) :
    heap.Makes (heap.newRows entries).2 (heap.newRows entries).1 entries := by
  induction entries generalizing heap with
  | nil =>
    exact ⟨rfl, Nat.le_refl _, fun _ _ ↦ rfl, fun _ h ↦ absurd h List.not_mem_nil,
      fun _ h ↦ absurd h List.not_mem_nil, List.nodup_nil, rfl⟩
  | cons entry rest ih =>
    have hlength : (heap.newList entry.credentials).2.lists.length = heap.lists.length + 1 := by
      simp [newList]
    -- the others are made once the list of the first one is there
    obtain ⟨htables, hle, hsame, hge, hlt, hnodup, hentries⟩ :=
      ih (heap.newList entry.credentials).2
    rw [hlength] at hle hsame hge
    refine ⟨htables, Nat.le_of_succ_le hle, fun place hplace ↦ ?_, ?_, ?_, ?_, ?_⟩
    · exact (hsame place (by omega)).trans (listAt_newList hplace _)
    · rintro row (_ | ⟨_, hrow⟩)
      · exact Nat.le_refl _
      · have := hge row hrow
        omega
    · rintro row (_ | ⟨_, hrow⟩)
      · exact hle
      · exact hlt row hrow
    · refine List.nodup_cons.2 ⟨fun hmem ↦ ?_, hnodup⟩
      obtain ⟨row, hrow, hlist⟩ := List.mem_map.1 hmem
      have := hge row hrow
      change row.list = heap.lists.length at hlist
      omega
    · have hfirst := (hsame heap.lists.length (Nat.lt_succ_self _)).trans
        (listAt_newList_self heap entry.credentials)
      exact congrArg₂ List.cons (congrArg (StoreEntry.mk entry.domain) hfirst) hentries

theorem tableAt_newStore_self (heap : Heap) (store : Store) :
    (heap.newStore store).2.tableAt (heap.newStore store).1 = (heap.newRows store.entries).1 := by
  simp [newStore, newTable, tableAt]

/-- A new table represents the store that it is made for. -/
theorem represents_newStore (heap : Heap) (hstore : store.NamesDistinct) :
    (heap.newStore store).2.Represents (heap.newStore store).1 store := by
  have hmade := makes_newRows store.entries heap
  refine ⟨by simp [newStore, newTable], ?_, ?_, ?_, hstore⟩
  all_goals rw [tableAt_newStore_self]
  · exact hmade.list_lt
  · exact hmade.lists_nodup
  · exact hmade.entries_eq

namespace Represents

/-- The tables that are there are left alone by a new one. -/
theorem keeps_newStore (h : heap.Represents table store') (store : Store) :
    heap.Keeps (heap.newStore store).2 table := by
  have hmade := makes_newRows store.entries heap
  refine ⟨?_, hmade.lists_le, ?_, fun row hrow ↦ hmade.list_eq row.list (h.list_lt row hrow)⟩
  · simp [newStore, newTable, hmade.tables_eq]
  · simp [newStore, newTable, hmade.tables_eq, tableAt, List.getD_eq_getElem?_getD,
      List.getElem?_append_left h.table_lt]

/-- A new table has no list of those that are there. -/
theorem apart_newStore (h : heap.Represents table store') (store : Store) :
    (heap.newStore store).2.Apart table (heap.newStore store).1 := by
  have hmade := makes_newRows store.entries heap
  refine ⟨?_, fun row hrow row' hrow' ↦ ?_⟩
  · have hplace : (heap.newStore store).1 = heap.tables.length := by
      simp [newStore, newTable, hmade.tables_eq]
    rw [hplace]
    exact Nat.ne_of_lt h.table_lt
  · rw [(h.keeps_newStore store).table_eq] at hrow
    rw [tableAt_newStore_self] at hrow'
    exact Nat.ne_of_lt (Nat.lt_of_lt_of_le (h.list_lt row hrow) (hmade.list_ge row' hrow'))

end Represents

end Heap

/-! ### Writes in memory -/

namespace LiveStore

variable {live : LiveStore}

/-- The table in use represents what the store holds. -/
def Sound (live : LiveStore) : Prop :=
  live.heap.Represents live.table live.view

/-- A store that is brought into memory is what the memory holds. -/
theorem view_ofStore {store : Store} (hstore : store.NamesDistinct) :
    (ofStore store).view = store :=
  (Heap.represents_newStore {} hstore).storeAt_eq

theorem sound_ofStore {store : Store} (hstore : store.NamesDistinct) : (ofStore store).Sound := by
  rw [Sound, view_ofStore hstore]
  exact Heap.represents_newStore {} hstore

theorem sound_of_represents {heap : Heap} {table : Nat} {store : Store}
    (h : heap.Represents table store) : (⟨heap, table⟩ : LiveStore).Sound := by
  rwa [Sound, view, h.storeAt_eq]

/-- **A change is made and saved, or the store goes back to what it held.** -/
theorem Sound.commit (h : live.Sound) (save : Saver σ) (mutation : Mutation) (domain : Json)
    (world : σ) :
    let outcome := live.commit save mutation domain world
    outcome.2.1.Sound ∧
      (outcome.1, outcome.2.1.view, outcome.2.2) =
        match save (live.view.mutate mutation) world with
        | (.ok (), world) => (.ok (), live.view.mutate mutation, world)
        | (.error failure, world) => (.error (failure.storeError domain), live.view, world) := by
  -- the table in use is changed after the copy was made, and the copy is not
  have hcopy := Heap.represents_newStore live.heap h.names_distinct
  have huse := h.of_keeps (h.keeps_newStore live.view)
  have hchanged := huse.mutate mutation
  have hback := hcopy.of_keeps (hcopy.keeps_mutate (h.apart_newStore live.view) mutation)
  have hview : LiveStore.view ⟨(live.heap.copy live.table).2.mutate live.table mutation,
      live.table⟩ = live.view.mutate mutation := hchanged.storeAt_eq
  simp only [LiveStore.commit, hview]
  rcases save (live.view.mutate mutation) world with ⟨failure | _, world'⟩
  · exact ⟨sound_of_represents hback, congrArg (_, ·, world') hback.storeAt_eq⟩
  · exact ⟨sound_of_represents hchanged, congrArg (_, ·, world') hview⟩

/-- The table that was in use keeps a change that could not be saved. It is in use no longer. -/
example :
    let token : Credential := { id := .str "t", content := .secretText (.str "glpat") }
    let live := ofStore .empty
    let after := (live.commit Store.saveInMemory (.append .null token) .null
      (some (.other "disk full"))).2.1
    after.view = live.view ∧ after.heap.storeAt live.table ≠ live.view := by
  decide

/-- **A write in memory ends as it does on the store.** -/
theorem Sound.perform (h : live.Sound) (save : Saver σ)
    (write : Store → Except StoreError (Proposal α)) (world : σ) :
    let outcome := live.perform save write world
    outcome.2.1.Sound ∧
      Store.perform save write live.view world =
        (outcome.1, outcome.2.1.view, outcome.2.2) := by
  cases hwrite : write live.view with
  | error error =>
    simp only [LiveStore.perform, Store.perform, hwrite]
    exact ⟨h, trivial⟩
  | ok proposal =>
    cases proposal with
    | settled answer =>
      simp only [LiveStore.perform, Store.perform, hwrite]
      exact ⟨h, trivial⟩
    | change mutation domain answer =>
      obtain ⟨hsound, hcommit⟩ := h.commit save mutation domain world
      simp only [LiveStore.perform, Store.perform, hwrite]
      refine ⟨hsound, ?_⟩
      rcases hsave : save (live.view.mutate mutation) world with ⟨failure | _, world'⟩
      all_goals
        simp only [hsave, Prod.mk.injEq] at hcommit
        obtain ⟨hresult, hview, hworld⟩ := hcommit
        rw [hresult, hview, hworld]
        rfl

end LiveStore

end TokenBroker
