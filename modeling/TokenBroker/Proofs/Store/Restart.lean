import TokenBroker.Proofs.Store.Reopening

/-!
# What another process finds

A process leaves a store behind in two files, and the next one starts from these. What was saved
last is what the next process opens (`openStore_of_save`), with a cipher of its own that opens what
the other one sealed. This holds on every path, unlike the agreement of file and memory over whole
runs: where a save succeeds, the path leads to a file in a directory that is not on its own way.

The salt is there all along. It is not lost to the temporary file, which has another name, nor to
the store, since a file that holds its own salt cannot be opened in the first place.
-/

namespace TokenBroker.EncryptedFile

variable {ciphers ciphers' : CipherFamily} {file : EncryptedFile} {store next : Store}
  {tree tree' tree'' : FileTree} {path : FilePath} {refusals refusals' : Refusals}

/-! ### The files beside each other -/

theorem names_ne_nil_of_file {content : ByteArray} {mode : Nat}
    (h : tree.node? path.place = some (.file content mode)) : path.names ≠ [] := by
  intro hnil
  have hroot : tree.node? path.place = some .directory := by
    rw [FileTree.node?, FilePath.place, hnil]
    rfl
  rw [h] at hroot
  cases hroot

theorem exists_parent_child (h : path.names ≠ []) : ∃ name, path = path.parent.child name := by
  obtain ⟨name, hname⟩ : ∃ name, path.names.getLast? = some name :=
    Option.isSome_iff_exists.1 (by simpa using h)
  exact ⟨name, (FilePath.child_parent hname).symm⟩

/-- The salt is reached in the same way as the store. -/
theorem way_saltPath (h : path.names ≠ []) : (saltPath path).way = path.way := by
  obtain ⟨name, hname⟩ := exists_parent_child h
  rw [saltPath, FilePath.way_child]
  conv_rhs => rw [hname, FilePath.way_child]

theorem temporary_place_ne_salt (h : path.names ≠ []) :
    (path.withExtension "tmp").place ≠ (saltPath path).place := by
  obtain ⟨name, hname⟩ := exists_parent_child h
  have hlast : path.names.getLast? = some name := by rw [hname]; simp [FilePath.child]
  rw [FilePath.withExtension, hlast, saltPath]
  exact FilePath.place_child_ne path.parent (tmp_ne (by decide)) (by decide) (tmp_ne (by decide))

/-! ### The salt -/

/-- A salt that was obtained stands in its file. -/
theorem salt_of_loadSalt {fresh salt : ByteArray}
    (h : loadSalt tree refusals path fresh = (.ok salt, tree')) :
    tree'.Passable (saltPath path) ∧
      ∃ mode, tree'.node? (saltPath path).place = some (.file salt mode) := by
  rcases loadSalt_cases h with ⟨hread, rfl⟩ | ⟨⟨error, herror⟩, -⟩ | ⟨written, hwrite, hfresh, rfl⟩
  · exact FileTree.read_eq_ok_iff.1 hread.symm
  · cases herror
  · obtain rfl : salt = fresh := Except.ok.inj hfresh
    obtain ⟨hpassable, -, hfile, hwritten⟩ := FileTree.write_eq_ok hwrite
    obtain ⟨hnode, hmode⟩ := FileTree.setMode_file hfile refusals FileTree.privateMode
    exact ⟨hmode.passable (hwritten.passable hpassable), hnode⟩

/-- A file that holds its own salt cannot be opened, if no salt is a sealed text under its own
key; so a store that was opened is another file than its salt. -/
theorem saltPath_place_ne (hnames : path.names ≠ []) {password : String}
    (hrejects : ∀ salt, (ciphers password salt).decrypt? salt = none)
    (hfile : file = keyed ciphers path password file.salt)
    (hpassable : tree.Passable (saltPath path)) {mode : Nat}
    (hsalt : tree.node? (saltPath path).place = some (.file file.salt mode))
    (hload : file.load tree = .ok store) : (saltPath path).place ≠ path.place := by
  intro heq
  have hpath : file.path = path := by rw [hfile]; rfl
  have hcipher : file.cipher = ciphers password file.salt := by rw [hfile]; rfl
  have hreach : tree.Passable file.path := by
    intro p hp
    refine hpassable p ?_
    rwa [way_saltPath hnames, ← hpath]
  rw [heq, ← hpath] at hsalt
  rw [load_of_passable hreach hsalt, hcipher, hrejects] at hload
  cases hload

/-- A save that succeeds leaves the salt in its file. -/
theorem salt_of_writeFile (hnames : file.path.names ≠ [])
    (hne : (saltPath file.path).place ≠ file.path.place) {salt : ByteArray} {mode : Nat}
    (hsalt : tree.node? (saltPath file.path).place = some (.file salt mode))
    (h : file.writeFile refusals next tree = (.ok (), tree')) :
    ∃ mode, tree'.node? (saltPath file.path).place = some (.file salt mode) := by
  rcases writeFile_stages h with ⟨⟨error, herror⟩, -⟩ | ⟨written, hwrite, hend⟩
  · cases herror
  rcases hend with ⟨⟨error, herror⟩, -⟩ | ⟨-, hmoved⟩
  · cases herror
  have htemporary : (saltPath file.path).place ≠ file.temporaryPath.place :=
    (temporary_place_ne_salt hnames).symm
  -- the directories: a file that is there is left alone
  obtain ⟨mode₁, hmade⟩ : ∃ mode, (tree.ensureDirectories file.path.parent).2.node?
      (saltPath file.path).place = some (.file salt mode) := by
    have hleaves := FileTree.ensureDirectories_leaves tree file.path.parent
      (saltPath file.path).place salt
    rcases hleaves.node with hsame | ⟨hnone, -⟩ | hfile
    · exact ⟨mode, hsame.trans hsalt⟩
    · rw [hsalt] at hnone
      cases hnone
    · exact hfile
  -- the temporary file, which has another name
  obtain ⟨-, -, hfile, hwritten⟩ := FileTree.write_eq_ok hwrite
  obtain ⟨⟨mode₂, hnode⟩, hmode⟩ := FileTree.setMode_file hfile refusals FileTree.privateMode
  have hprepared := ((hwritten.trans hmode).other _ htemporary).trans hmade
  -- the move, to another place than that of the salt
  by_cases hown : file.temporaryPath.place = file.path.place
  · obtain ⟨-, -, htree⟩ := FileTree.replace_moves hnode hmoved
    rw [htree, if_pos hown]
    exact ⟨mode₁, hprepared⟩
  · obtain ⟨-, -, hkeeps⟩ := FileTree.replace_eq_ok hnode hown hmoved
    exact ⟨mode₁, (hkeeps.other _ (not_or.2 ⟨htemporary, hne⟩)).trans hprepared⟩

/-! ### Opening what was saved -/

/-- **What was saved last is what another process opens**, whatever its file system refuses. -/
theorem openStore_of_save {password : String} {fresh : ByteArray}
    (hrejects : ∀ salt, (ciphers password salt).decrypt? salt = none)
    (hopens : ∀ salt, (ciphers' password salt).Opens (ciphers password salt))
    (hopen : openStore ciphers tree refusals path password none fresh = (.ok (file, store), tree'))
    (hnext : next.Writable) (hsave : file.save refusals' next tree' = (.ok (), tree''))
    (refusals'' : Refusals) (fresh'' : ByteArray) :
    openStore ciphers' tree'' refusals'' path password none fresh'' =
      (.ok (keyed ciphers' path password file.salt, next), tree'') := by
  obtain ⟨hpassword, hfile, hsalt, hload⟩ := openStore_eq_ok_iff.1 hopen
  have hcipher : file.cipher = ciphers password file.salt := by rw [hfile]; rfl
  have hroom : file.room = Json.usualRoom := by rw [hfile]; rfl
  obtain rfl : file.path = path := by rw [hfile]; rfl
  obtain ⟨hgiven, -⟩ | ⟨-, hsalt⟩ := hsalt
  · cases hgiven
  obtain ⟨hpassable, mode, hnode⟩ := salt_of_loadSalt hsalt
  obtain ⟨hfits, hwrite⟩ := writeFile_of_save hsave
  obtain ⟨hreach, mode', hstore⟩ := (writeFile_leaves hwrite).2 rfl
  have hnames := names_ne_nil_of_file hstore
  have hne := saltPath_place_ne hnames hrejects hfile hpassable hnode hload
  obtain ⟨mode'', hkept⟩ := salt_of_writeFile hnames hne hnode hwrite
  have hreachSalt : tree''.Passable (saltPath file.path) := by
    intro p hp
    rw [way_saltPath hnames] at hp
    exact hreach p hp
  refine openStore_eq_ok_iff.2 ⟨hpassword, rfl, Or.inr ⟨rfl, ?_⟩, ?_⟩
  · exact loadSalt_of_passable hreachSalt hkept refusals'' fresh''
  · have hsealed : (ciphers' password file.salt).decrypt? (file.sealStore next) =
        some next.encode.indented.toUTF8 := by
      rw [sealStore, hcipher]
      exact hopens file.salt _
    -- what is loaded depends on the file of this process, with its own cipher
    let opened := keyed ciphers' file.path password file.salt
    have hreach : tree''.Passable opened.path := hreach
    have hsealed : opened.cipher.decrypt? (file.sealStore next) = _ := hsealed
    rw [load_of_passable hreach hstore, hsealed]
    rw [hroom] at hfits
    exact readStore_of_writable hnext hfits

end TokenBroker.EncryptedFile
