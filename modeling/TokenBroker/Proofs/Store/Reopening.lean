import TokenBroker.Proofs.Store.Arrangement
import TokenBroker.Proofs.Store.Persistence

/-!
# Stores over time

What is seen of a store over time is a list of stores, `Store.Seen`: of a store in memory, call
after call; of a store in a file, call after call as well, with changes of other files by others in
between, and read back from the file at any time. The calls come with handles on domains,
`StoreRequest`, which may describe a domain in another way than the store does.

The file may fail to be the store in memory. A save that is refused half way may have written the
next store already, where the file is the temporary file of its own path, and a path that leads
back to a directory on its own way may be lost to a directory. `EncryptedFile.Recorded` is what
holds on every path: if the file can be opened at all, what comes out is the store in memory or
what a write would have made of it. So reading it back is one more step of the kind that writes
take, and the arrangement of the domains is kept (`Store.arrangement_of_seen`).
-/

namespace TokenBroker

/-! ### Calls with handles -/

/-- A call as it is made, with a handle on a domain. -/
inductive StoreRequest
  | getOrCreateDomain (serverUrl : String)
  | addCredential (handle : Domain) (credential : Credential)
  | removeCredential (handle : Domain) (id : Json)
  | removeDomain (handle : Domain)
  deriving DecidableEq, Inhabited, Repr

namespace StoreRequest

/-- A handle stands for the domain of its name. -/
def write : StoreRequest → StoreWrite
  | .getOrCreateDomain serverUrl => .getOrCreateDomain serverUrl
  | .addCredential handle credential => .addCredential handle.name credential
  | .removeCredential handle id => .removeCredential handle.name id
  | .removeDomain handle => .removeDomain handle.name

/-- Carries out a call. -/
def run {σ : Type} (save : Saver σ) (who : Authentication) (request : StoreRequest)
    (now : Store × σ) : Store × σ :=
  (request.write.run save who now.1 now.2).2

end StoreRequest

namespace EncryptedFile

open FileTree (Leaves)

variable {ciphers : CipherFamily} {file : EncryptedFile} {store store' : Store}
  {tree tree' : FileTree} {refusals : Refusals}

/-! ### What is left at the place of a store -/

/-- Obtaining a salt leaves nothing but directories and the fresh salt. -/
theorem loadSalt_leaves {path : FilePath} {fresh : ByteArray} {result : Except FileError ByteArray}
    (h : loadSalt tree refusals path fresh = (result, tree')) (place : FilePlace) :
    tree.Leaves place fresh tree' := by
  have hmade := FileTree.ensureDirectories_leaves tree path.parent place fresh
  rcases loadSalt_cases h with ⟨-, rfl⟩ | ⟨-, rfl⟩ | ⟨written, hwrite, -, rfl⟩
  · exact .refl _ _ _
  · exact hmade
  · exact hmade.trans (FileTree.write_setMode_leaves hwrite _ _)

/-- **A save leaves nothing at the place of the file but directories and the sealed store**, on
every path; and if it succeeds, the file can be reached. -/
theorem writeFile_leaves {result : Except FileError Unit}
    (h : file.writeFile refusals store tree = (result, tree')) :
    tree.Leaves file.path.place (file.sealStore store) tree' ∧
      (result = .ok () → tree'.Passable file.path ∧
        ∃ mode, tree'.node? file.path.place = some (.file (file.sealStore store) mode)) := by
  have hmade := FileTree.ensureDirectories_leaves tree file.path.parent file.path.place
    (file.sealStore store)
  rcases writeFile_stages h with ⟨⟨error, rfl⟩, rfl⟩ | ⟨written, hwrite, hend⟩
  · exact ⟨hmade, nofun⟩
  have hwritten := hmade.trans
    (FileTree.write_setMode_leaves hwrite FileTree.privateMode file.path.place)
  rcases hend with ⟨⟨error, rfl⟩, rfl⟩ | ⟨-, hmoved⟩
  · exact ⟨hwritten, nofun⟩
  · obtain ⟨-, -, htemporary, -⟩ := FileTree.write_eq_ok hwrite
    obtain ⟨⟨mode, hnode⟩, -⟩ := FileTree.setMode_file htemporary refusals FileTree.privateMode
    obtain ⟨hleaves, hpassable, htarget⟩ := FileTree.replace_leaves hnode hmoved
    exact ⟨hwritten.trans hleaves, fun _ ↦ ⟨hpassable, mode, htarget⟩⟩

/-! ### What comes out of the file -/

/-- Whatever of a file can be unsealed is the text of the store or of what a write would have made
of it; and unless nothing was ever written, something stands there. -/
structure Recorded (file : EncryptedFile) (store : Store) (tree : FileTree) : Prop where
  writable : store.Writable
  reached : store = Store.empty ∨ tree.Passable file.path ∧ tree.node? file.path.place ≠ none
  content : ∀ sealed mode text, tree.node? file.path.place = some (.file sealed mode) →
    file.cipher.decrypt? sealed = some text → ∃ next, store.Follows next ∧ next.Writable ∧
      next.encode.Fits file.room ∧ text = next.encode.indented.toUTF8

/-- What is left at the place of the file makes no difference, if it cannot be unsealed or is what a
write would have made of the store. -/
theorem Recorded.of_leaves (h : Recorded file store tree) {content : ByteArray}
    (hleaves : tree.Leaves file.path.place content tree')
    (hcontent : ∀ text, file.cipher.decrypt? content = some text →
      ∃ next, store.Follows next ∧ next.Writable ∧ next.encode.Fits file.room ∧
        text = next.encode.indented.toUTF8) :
    Recorded file store tree' := by
  refine ⟨h.writable, ?_, fun sealed mode text hnode hsealed ↦ ?_⟩
  · exact h.reached.imp id fun ⟨hpassable, hnode⟩ ↦
      ⟨hleaves.passable hpassable, hleaves.node_ne_none hnode⟩
  · rcases hleaves.node with hsame | ⟨-, hmade⟩ | ⟨mode', hfile⟩
    · exact h.content sealed mode text (hsame ▸ hnode) hsealed
    · rw [hmade] at hnode
      cases hnode
    · rw [hfile, Option.some.injEq, FileNode.file.injEq] at hnode
      exact hcontent text (hnode.1 ▸ hsealed)

/-- **What is read from the file comes after the store**, and the file is a record of it. -/
theorem Recorded.of_load (h : Recorded file store tree) (hload : file.load tree = .ok store') :
    store.Follows store' ∧ Recorded file store' tree := by
  rw [load] at hload
  split at hload
  · split at hload
    · cases hload
    rename_i sealed hread
    obtain ⟨hpassable, mode, hnode⟩ := FileTree.read_eq_ok_iff.1 hread
    split at hload
    · cases hload
    rename_i text hsealed
    obtain ⟨next, hfollows, hwritable, hfits, rfl⟩ := h.content sealed mode text hnode hsealed
    rw [readStore_of_writable hwritable hfits, Except.ok.injEq] at hload
    subst hload
    refine ⟨hfollows, hwritable, Or.inr ⟨hpassable, by rw [hnode]; simp⟩, ?_⟩
    intro sealed' mode' text' hnode' hsealed'
    rw [hnode, Option.some.injEq, FileNode.file.injEq] at hnode'
    rw [← hnode'.1, hsealed, Option.some.injEq] at hsealed'
    exact ⟨next, .same, hwritable, hfits, hsealed'.symm⟩
  · rename_i hmissing
    cases hload
    rcases h.reached with rfl | ⟨hpassable, hnode⟩
    · exact ⟨.same, h⟩
    · obtain ⟨node, hnode⟩ := Option.ne_none_iff_exists'.1 hnode
      exact absurd (FileTree.exists_of_passable hpassable hnode) hmissing

/-- Opening the file, whether its salt is given, read or made, is reading it. -/
theorem Recorded.of_openStore {path : FilePath} {password : String} {salt? : Option ByteArray}
    {fresh : ByteArray} (hrejects : file.cipher.decrypt? fresh = none)
    (hopen : openStore ciphers tree refusals path password salt? fresh =
      (.ok (file, store'), tree')) (h : Recorded file store tree) :
    store.Follows store' ∧ Recorded file store' tree' := by
  obtain ⟨-, -, hsalt, hload⟩ := openStore_eq_ok_iff.1 hopen
  refine Recorded.of_load ?_ hload
  rcases hsalt with ⟨-, rfl⟩ | ⟨-, hsalt⟩
  · exact h
  · refine h.of_leaves (loadSalt_leaves hsalt _) fun text hfresh ↦ ?_
    rw [hrejects] at hfresh
    cases hfresh

/-- Before the file is opened for the first time it is a record of the empty store. -/
theorem recorded_of_absent (h : tree.node? file.path.place = none) :
    Recorded file Store.empty tree where
  writable := Store.writable_empty
  reached := Or.inl rfl
  content sealed mode text hnode := by
    rw [h] at hnode
    cases hnode

/-- **A write keeps the record**, whether it is refused, saved or not. -/
theorem Recorded.run (h : Recorded file store tree) {write : StoreWrite} {who : Authentication}
    {sealer : Cipher} {result : Except StoreError StoreAnswer} (hplain : write.Plain)
    (hsealer : file.cipher.Opens sealer)
    (hrun : write.run ({ file with cipher := sealer }.save refusals) who store tree =
      (result, store', tree')) : Recorded file store' tree' := by
  -- whichever store was to be saved, its sealed text is opened as its text
  have htext : ∀ {next : Store} {text : ByteArray},
      file.cipher.decrypt? ({ file with cipher := sealer }.sealStore next) = some text →
        text = next.encode.indented.toUTF8 := by
    intro next text hsealed
    rw [sealStore, hsealer, Option.some.injEq] at hsealed
    exact hsealed.symm
  rcases StoreWrite.run_cases hrun with ⟨rfl, rfl, -⟩ |
    ⟨next, _, _, _, heffect, hsaved, -, rfl⟩ | ⟨answer, heffect, hsaved, -⟩
  · exact h
  · rcases save_cases hsaved with ⟨-, rfl⟩ | ⟨hfits, written, hwrite, -⟩
    · exact h
    refine h.of_leaves (writeFile_leaves hwrite).1 fun text hsealed ↦ ?_
    exact ⟨next, .effect heffect, heffect.writable h.writable hplain, hfits, htext hsealed⟩
  · obtain ⟨hfits, hwrite⟩ := writeFile_of_save hsaved
    obtain ⟨hpassable, mode, hnode⟩ := (writeFile_leaves hwrite).2 rfl
    have hwritable : store'.Writable := heffect.writable h.writable hplain
    refine ⟨hwritable, Or.inr ⟨hpassable, by rw [hnode]; simp⟩, ?_⟩
    intro sealed mode' text hnode' hsealed
    rw [hnode, Option.some.injEq, FileNode.file.injEq] at hnode'
    exact ⟨store', .same, hwritable, hfits, htext (hnode'.1 ▸ hsealed)⟩

/-! ### From one moment to the next -/

/-- What may happen between two moments: a call, whatever the file system refuses; a change of other
files by others, which leaves the directories on the way; or that the file is opened again with the
same key. The credentials that are added are plain, as those with texts for fields are
(`Credential.plain_of_texts`), and a fresh salt is no sealed text. -/
inductive Next (ciphers : CipherFamily) (file : EncryptedFile) :
    Store × FileTree → Store × FileTree → Prop
  | call {who : Authentication} {request : StoreRequest} {sealer : Cipher} {refusals : Refusals}
      {now : Store × FileTree} (hplain : request.write.Plain) (hsealer : file.cipher.Opens sealer) :
      Next ciphers file now (request.run ({ file with cipher := sealer }.save refusals) who now)
  | others {store : Store} {tree tree' : FileTree}
      (hway : ∀ p ∈ file.path.way, tree.node? p = some .directory → tree'.node? p = some .directory)
      (hstore : tree'.node? file.path.place = tree.node? file.path.place) :
      Next ciphers file (store, tree) (store, tree')
  | reopen {store store' : Store} {tree tree' : FileTree} {refusals : Refusals}
      {salt? : Option ByteArray} {fresh : ByteArray} (hrejects : file.cipher.decrypt? fresh = none)
      (hopen : openStore ciphers tree refusals file.path file.password salt? fresh =
        (.ok (file, store'), tree')) : Next ciphers file (store, tree) (store', tree')

/-- **Every step keeps the record**, and the store comes after the one before. -/
theorem Recorded.next {now next : Store × FileTree} (h : Recorded file now.1 now.2)
    (hnext : Next ciphers file now next) : now.1.Follows next.1 ∧ Recorded file next.1 next.2 := by
  cases hnext with
  | call hplain hsealer => exact ⟨Store.follows_run _ _ _ _ _, h.run hplain hsealer rfl⟩
  | @others store tree tree' hway hstore =>
    have hrecorded : Recorded file store tree' :=
      { writable := h.writable
        reached := h.reached.imp id fun ⟨hpassable, hnode⟩ ↦
          ⟨fun p hp ↦ hway p hp (hpassable p hp), by rwa [hstore]⟩
        content := by
          rw [hstore]
          exact h.content }
    exact ⟨.same, hrecorded⟩
  | reopen hrejects hopen => exact h.of_openStore hrejects hopen

end EncryptedFile

/-! ### What is seen of a store -/

namespace Store

open EncryptedFile (Next Synced Apart keyed openStore)

/-- The stores that are seen one after the other, from the first one on: of a store in memory with
any contents at first and any way to save it, or of one in a file that was opened where nothing
stood. -/
inductive Seen : List Store → Prop
  | inMemory {σ : Type} {save : Saver σ} {contents : List StoreEntry} {world : σ}
      {later : List (Store × σ)}
      (hrun : ((ofEntries contents, world) :: later).IsChain fun now next ↦
        ∃ who, ∃ request : StoreRequest, next = request.run save who now) :
      Seen (ofEntries contents :: later.map (·.1))
  | inFile {ciphers : CipherFamily} {file : EncryptedFile} {store : Store} {tree₀ tree : FileTree}
      {refusals : Refusals} {path : FilePath} {password : String} {salt? : Option ByteArray}
      {fresh : ByteArray} {later : List (Store × FileTree)}
      (habsent : tree₀.node? path.place = none) (hrejects : file.cipher.decrypt? fresh = none)
      (hopen : openStore ciphers tree₀ refusals path password salt? fresh =
        (.ok (file, store), tree))
      (hrun : ((store, tree) :: later).IsChain (Next ciphers file)) :
      Seen (store :: later.map (·.1))

/-- **What is seen is a run of writes**, read back or not, from an arranged store on. -/
theorem Seen.isChain {stores : List Store} (h : Seen stores) :
    stores.IsChain Follows ∧ ∀ store ∈ stores.head?, store.Arranged := by
  cases h with
  | inMemory hrun =>
    refine ⟨List.isChain_map_of_isChain Prod.fst ?_ hrun, fun store hstore ↦ ?_⟩
    · rintro now _ ⟨who, request, rfl⟩
      exact follows_run _ who request.write now.1 now.2
    · obtain rfl : ofEntries _ = store := Option.some.inj hstore
      exact arranged_ofEntries _
  | @inFile ciphers file first tree₀ tree _ path _ _ _ _ habsent hrejects hopen hrun =>
    obtain ⟨-, hfile, -, -⟩ := EncryptedFile.openStore_eq_ok_iff.1 hopen
    obtain rfl : file.path = path := by rw [hfile]; rfl
    obtain ⟨hfollows, hrecorded⟩ :=
      (EncryptedFile.recorded_of_absent habsent).of_openStore hrejects hopen
    have hrecords : ∀ now ∈ (first, tree) :: _, file.Recorded now.1 now.2 :=
      hrun.induction _ _ (fun _ _ hnext hnow ↦ (hnow.next hnext).2) fun _ ↦ hrecorded
    have hsteps := hrun.imp_of_mem_imp fun now next hnow _ hnext ↦
      ((hrecords now hnow).next hnext).1
    refine ⟨List.isChain_map_of_isChain Prod.fst (fun _ _ hstep ↦ hstep) hsteps, ?_⟩
    intro store hstore
    obtain rfl : first = store := Option.some.inj hstore
    exact hfollows.arranged arranged_empty

/-- **The arrangement of a store.** In whatever is seen of a store, with any contents at first, any
calls with any handles, any failed saves and, in a file, any reopening: names are distinct, and the
first domain is the global one, which has neither description nor specifications; and over any part
of it the domains whose names are there all along are the same, with their descriptions and
specifications, in the same order. -/
theorem arrangement_of_seen {stores : List Store} (h : Seen stores) :
    (∀ store ∈ stores, store.NamesDistinct ∧ ∃ others, store.domains =
      { name := .null, description := .null, specifications := [] } :: others) ∧
    ∀ part, part <:+: stores → ∀ store ∈ part, ∀ later ∈ part,
      lasting part later = lasting part store := by
  obtain ⟨hchain, hstart⟩ := h.isChain
  obtain ⟨harranged, hlasting⟩ := arranged_of_isChain hchain hstart
  exact ⟨fun store hstore ↦ ⟨(harranged store hstore).namesDistinct,
    (harranged store hstore).global⟩, hlasting⟩

/-- Two domains are made in a file, a third one cannot be saved, a credential is added with a handle
that describes its domain in another way, the first one is removed, and the file is opened again. -/
theorem arrangement_of_seen_reopened :
    let file := keyed Cipher.labelled ⟨.working, ["store.enc"]⟩ "pw" "s".toUTF8
    let handle (name : String) : Domain :=
      { name := .str name, description := .str "another", specifications := [.scheme []] }
    let credential : Credential := { id := .str "x", content := .secretText (.str "t") }
    let call (refusals : Refusals) (request : StoreRequest) (now : Store × FileTree) :=
      request.run (file.save refusals) .system now
    let first := (Store.empty, { })
    let second := call {} (.getOrCreateDomain "https://a") first
    let third := call {} (.getOrCreateDomain "https://b") second
    let fourth := call { replacements := [file.path] } (.getOrCreateDomain "https://c") third
    let fifth := call {} (.addCredential (handle "b") credential) fourth
    let sixth := call {} (.removeDomain (handle "a")) fifth
    let stores := [first, second, third, fourth, fifth, sixth, sixth].map Prod.fst
    Seen stores ∧
      (stores.map fun store ↦ store.domains.map (·.name)) =
        [[.null], [.null, .str "a"], [.null, .str "a", .str "b"], [.null, .str "a", .str "b"],
          [.null, .str "a", .str "b"], [.null, .str "b"], [.null, .str "b"]] ∧
      (∀ store ∈ stores, store.NamesDistinct) ∧
      ∀ store ∈ stores.drop 2,
        (lasting (stores.drop 2) store).map (fun domain ↦ (domain.name, domain.description)) =
          [(.null, .null), (.str "b", .str autogeneratedDescription)] := by
  intro file handle credential call first second third fourth fifth sixth stores
  have hplain : credential.Plain := Credential.plain_of_texts (Json.plain_str _) Json.plain_null
    (Json.plain_str _) (Json.plain_str _)
  have hrejects : file.cipher.decrypt? ByteArray.empty = none :=
    Cipher.decrypt_labelled_eq_none (by decide) (by decide)
  have hfaithful : file.cipher.Faithful := Cipher.faithful_labelled _ _
  have hopen : openStore Cipher.labelled {} {} file.path file.password (some "s".toUTF8)
      ByteArray.empty = (.ok (file, Store.empty), {}) :=
    EncryptedFile.openStore_eq_ok_iff.2 ⟨by decide, rfl, Or.inl ⟨rfl, rfl⟩,
      EncryptedFile.load_of_node_eq_none (by decide)⟩
  -- file and store stay together, so that the file gives the store back
  have hapart : Apart file.path :=
    EncryptedFile.apart_of_way (by decide) (by decide) (by decide)
  have hcall : ∀ (refusals : Refusals) (request : StoreRequest) (now : Store × FileTree),
      request.write.Plain → Synced file (some "s".toUTF8) now.1 now.2 →
        Synced file (some "s".toUTF8) (call refusals request now).1 (call refusals request now).2 :=
    fun _ _ _ hplain hnow ↦ hnow.step hapart (.write hplain hfaithful rfl)
  have hfirst : Synced file (some "s".toUTF8) first.1 first.2 :=
    ⟨writable_empty, Or.inl ⟨by decide, rfl⟩, Or.inl rfl⟩
  have hsixth : Synced file (some "s".toUTF8) sixth.1 sixth.2 :=
    hcall _ _ fifth trivial <| hcall _ _ fourth hplain <| hcall _ _ third trivial <|
      hcall _ _ second trivial <| hcall _ _ first trivial hfirst
  have hnext : ∀ (refusals : Refusals) (request : StoreRequest) (now : Store × FileTree),
      request.write.Plain → Next Cipher.labelled file now (call refusals request now) :=
    fun _ _ _ hplain ↦ .call hplain hfaithful
  have hreopen : ∀ now : Store × FileTree, Synced file (some "s".toUTF8) now.1 now.2 →
      Next Cipher.labelled file now now :=
    fun now hnow ↦ .reopen hrejects (hnow.openStore_eq (by decide) rfl {} ByteArray.empty)
  have hrun : [first, second, third, fourth, fifth, sixth, sixth].IsChain
      (Next Cipher.labelled file) :=
    .cons_cons (hnext _ _ _ trivial) <| .cons_cons (hnext _ _ _ trivial) <|
      .cons_cons (hnext _ _ _ trivial) <| .cons_cons (hnext _ _ _ hplain) <|
        .cons_cons (hnext _ _ _ trivial) <| .cons_cons (hreopen sixth hsixth) <| .singleton _
  have hseen : Seen stores := .inFile (by decide) hrejects hopen hrun
  obtain ⟨harranged, hlasting⟩ := arrangement_of_seen hseen
  refine ⟨hseen, by decide +kernel, fun store hstore ↦ (harranged store hstore).1, ?_⟩
  intro store hstore
  have hlast : sixth.1 ∈ stores.drop 2 := .tail _ (.tail _ (.tail _ (.head _)))
  rw [hlasting _ (List.drop_suffix 2 stores).isInfix sixth.1 hlast store hstore]
  decide +kernel

end Store

end TokenBroker
