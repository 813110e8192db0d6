import TokenBroker.Proofs.FileTree.Changes
import TokenBroker.Proofs.Store.Document
import TokenBroker.Store.EncryptedFile

/-!
# What the operations on an encrypted file do

One description for each operation: a salt that is there is read and one that is not there is made
(`loadSalt_cases`), opening is obtaining the salt and then loading (`openStore_eq_ok_iff`), and a
save either fails with the file as it was or puts the sealed store in its place (`writeFile_cases`).

A store file, its temporary file and its salt are files of one directory. `Apart` collects what
follows from that about their places, for a path that does not lead back to a directory on its own
way.
-/

namespace TokenBroker

open FileTree (Passable Keeps OnWay)

namespace EncryptedFile

variable {tree tree' : FileTree} {path : FilePath} {refusals : Refusals}

/-! ### The files of one directory -/

/-- The file of a store and the files beside it do not get in each other's way. -/
structure Apart (path : FilePath) : Prop where
  way_salt : (saltPath path).way = path.way
  way_parent : path.way = path.parent.way ++ [path.parent.place]
  not_mem_way : path.place ∉ path.way
  temporary_ne : (path.withExtension "tmp").place ≠ path.place
  temporary_ne_salt : (path.withExtension "tmp").place ≠ (saltPath path).place

theorem tmp_ne {stem name : String} (h : name.toList.getLast? ≠ some 'p') :
    stem ++ "." ++ "tmp" ≠ name := by
  rintro rfl
  exact h (by simp)

/-- **The files are apart** if the path leads to something in a directory that is not on its own
way. -/
theorem apart_of_way (hnames : path.names ≠ []) (hway : path.place ∉ path.way)
    (htemporary : path ≠ path.withExtension "tmp") : Apart path := by
  -- all three are names in one directory, and different names stand at different places
  obtain ⟨directory, name, rfl, hup⟩ := FilePath.exists_child hnames hway
  have hparent : (directory.child name).parent = directory := FilePath.parent_child directory name
  have hsalt : saltPath (directory.child name) = directory.child "credentials.salt" := by
    rw [saltPath, hparent]
  have hextension : (directory.child name).withExtension "tmp" =
      directory.child (FilePath.stem name ++ "." ++ "tmp") := by
    have hlast : (directory.child name).names.getLast? = some name := by simp [FilePath.child]
    rw [FilePath.withExtension, hlast, hparent]
  rw [hextension] at htemporary
  have htmp : FilePath.stem name ++ "." ++ "tmp" ≠ ".." := tmp_ne (by decide)
  refine ⟨?_, ?_, hway, ?_, ?_⟩
  · rw [hsalt, FilePath.way_child, FilePath.way_child]
  · rw [hparent, FilePath.way_child]
  · rw [hextension]
    refine FilePath.place_child_ne directory htmp hup ?_
    intro heq
    exact htemporary (by rw [heq])
  · rw [hextension, hsalt]
    exact FilePath.place_child_ne directory htmp (by decide) (tmp_ne (by decide))

namespace Apart

theorem onWay_parent (h : Apart path) {p : FilePlace} : OnWay path.parent p ↔ p ∈ path.way := by
  rw [h.way_parent, List.mem_append, List.mem_singleton]
  rfl

theorem passable_salt (h : Apart path) : tree.Passable (saltPath path) ↔ tree.Passable path := by
  rw [Passable, Passable, h.way_salt]

end Apart

/-! ### Loading -/

theorem fromUTF8_toUTF8 (text : String) : String.fromUTF8? text.toUTF8 = some text := by
  have hvalid : text.toUTF8.IsValidUTF8 := text.isValidUTF8
  rw [String.fromUTF8?, dif_pos hvalid]
  rfl

/-- **A writable store is read from the text of its document**, if that stays within the limits. -/
theorem readStore_of_writable {store : Store} (h : store.Writable) {room : Nat}
    (hfits : store.encode.Fits room) : readStore store.encode.indented.toUTF8 room = .ok store := by
  obtain ⟨hparse, hdecode⟩ := h.decode_parse hfits
  rw [readStore, fromUTF8_toUTF8]
  simp only [hparse, hdecode]
  rfl

theorem load_of_node_eq_none {file : EncryptedFile} (h : tree.node? file.path.place = none) :
    file.load tree = .ok Store.empty := by
  rw [load, FileTree.exists_of_node_eq_none h]
  rfl

theorem load_of_passable {file : EncryptedFile} (h : tree.Passable file.path) {sealed : ByteArray}
    {mode : Nat} (hnode : tree.node? file.path.place = some (.file sealed mode)) :
    file.load tree = match file.cipher.decrypt? sealed with
      | none => .error .rejected
      | some text => readStore text file.room := by
  rw [load, FileTree.exists_of_passable h hnode, FileTree.read_eq_ok_iff.2 ⟨h, mode, hnode⟩]
  rfl

/-! ### Opening -/

/-- A salt that is there already is read, and nothing changes. -/
theorem loadSalt_of_passable (h : tree.Passable (saltPath path)) {salt : ByteArray} {mode : Nat}
    (hnode : tree.node? (saltPath path).place = some (.file salt mode)) (refusals : Refusals)
    (fresh : ByteArray) : loadSalt tree refusals path fresh = (.ok salt, tree) := by
  simp only [loadSalt, FileTree.exists_of_passable h hnode, if_true,
    FileTree.read_eq_ok_iff.2 ⟨h, mode, hnode⟩]

/-- A salt that is there is read. One that is not there is written in a directory that is made for
it where it is missing. -/
theorem loadSalt_cases {fresh : ByteArray} {result : Except FileError ByteArray}
    (h : loadSalt tree refusals path fresh = (result, tree')) :
    result = tree.read (saltPath path) ∧ tree' = tree ∨
    (∃ error, result = .error error) ∧ tree' = (tree.ensureDirectories path.parent).2 ∨
    ∃ written,
      (tree.ensureDirectories path.parent).2.write refusals (saltPath path) fresh = .ok written ∧
      result = .ok fresh ∧
      tree' = written.setMode refusals (saltPath path) FileTree.privateMode := by
  simp only [loadSalt] at h
  split at h
  · obtain ⟨rfl, rfl⟩ := Prod.mk.inj h
    exact Or.inl ⟨rfl, rfl⟩
  rw [show (saltPath path).parent = path.parent from FilePath.parent_child _ _] at h
  rcases hdirectories : tree.ensureDirectories path.parent with ⟨error | _, made⟩
  · simp only [hdirectories] at h
    obtain ⟨rfl, rfl⟩ := Prod.mk.inj h
    exact Or.inr (Or.inl ⟨⟨_, rfl⟩, rfl⟩)
  simp only [hdirectories] at h
  split at h
  · obtain ⟨rfl, rfl⟩ := Prod.mk.inj h
    exact Or.inr (Or.inl ⟨⟨_, rfl⟩, rfl⟩)
  · rename_i written hwrite
    obtain ⟨rfl, rfl⟩ := Prod.mk.inj h
    exact Or.inr (Or.inr ⟨written, hwrite, rfl, rfl⟩)

/-- **A salt that was obtained stands in its file**, where it was before or was just made. -/
theorem loadSalt_eq_ok (hapart : Apart path) {fresh salt : ByteArray}
    (h : loadSalt tree refusals path fresh = (.ok salt, tree')) :
    tree'.Passable (saltPath path) ∧
      (∃ mode, tree'.node? (saltPath path).place = some (.file salt mode)) ∧
      (tree' = tree ∨
        salt = fresh ∧ tree.Keeps (fun p ↦ p ∈ path.way ∨ p = (saltPath path).place) tree') := by
  rcases loadSalt_cases h with ⟨hread, rfl⟩ | ⟨⟨error, herror⟩, -⟩ | ⟨written, hwrite, hfresh, rfl⟩
  · obtain ⟨hpassable, hnode⟩ := FileTree.read_eq_ok_iff.1 hread.symm
    exact ⟨hpassable, hnode, Or.inl rfl⟩
  · cases herror
  have hmade := FileTree.ensureDirectories_keeps tree path.parent
  obtain ⟨hpassable, -, hfile, hwritten⟩ := FileTree.write_eq_ok hwrite
  obtain ⟨hnode, hmode⟩ := FileTree.setMode_file hfile refusals FileTree.privateMode
  obtain rfl : salt = fresh := Except.ok.inj hfresh
  refine ⟨hmode.passable (hwritten.passable hpassable), hnode, Or.inr ⟨rfl, ?_⟩⟩
  refine (hmade.mono fun p hp ↦ Or.inl (hapart.onWay_parent.1 hp)).trans ?_
  exact (hwritten.trans hmode).mono fun p hp ↦ Or.inr hp

/-- The file at a path with the key of a password and a salt. -/
def keyed (ciphers : CipherFamily) (path : FilePath) (password : String) (salt : ByteArray)
    (room : Nat := Json.usualRoom) : EncryptedFile :=
  ⟨path, password, salt, ciphers password salt, room⟩

/-- **Opening is obtaining the salt and then loading the store.** -/
theorem openStore_eq_ok_iff {ciphers : CipherFamily} {password : String} {salt? : Option ByteArray}
    {fresh : ByteArray} {room : Nat} {file : EncryptedFile} {store : Store} :
    openStore ciphers tree refusals path password salt? fresh room = (.ok (file, store), tree') ↔
      password.isEmpty = false ∧ file = keyed ciphers path password file.salt room ∧
      (salt?.filter (·.size != 0) = some file.salt ∧ tree' = tree ∨
        salt?.filter (·.size != 0) = none ∧
          loadSalt tree refusals path fresh = (.ok file.salt, tree')) ∧
      file.load tree' = .ok store := by
  constructor
  · intro h
    -- whichever way the salt was obtained, this is what is done with it
    have hloaded : ∀ {salt : ByteArray} {tree₁ : FileTree},
        (((keyed ciphers path password salt room).load tree₁).map fun store ↦
          (keyed ciphers path password salt room, store), tree₁) = (.ok (file, store), tree') →
        file = keyed ciphers path password salt room ∧ tree' = tree₁ ∧
          file.load tree' = .ok store := by
      intro salt tree₁ h
      obtain ⟨h, rfl⟩ := Prod.mk.inj h
      cases hstore : (keyed ciphers path password salt room).load tree₁ with
      | error error => rw [hstore] at h; cases h
      | ok loaded => rw [hstore] at h; cases h; exact ⟨rfl, rfl, hstore⟩
    rw [openStore] at h
    split at h
    · cases h
    rename_i hpassword
    refine ⟨by simpa using hpassword, ?_⟩
    cases hgiven : salt?.filter (·.size != 0) with
    | some salt =>
      simp only [hgiven] at h
      obtain ⟨rfl, rfl, hload⟩ := hloaded h
      exact ⟨rfl, Or.inl ⟨rfl, rfl⟩, hload⟩
    | none =>
      simp only [hgiven] at h
      rcases hsalt : loadSalt tree refusals path fresh with ⟨error | salt, tree₁⟩
      · simp only [hsalt] at h
        cases h
      · simp only [hsalt] at h
        obtain ⟨rfl, rfl, hload⟩ := hloaded h
        exact ⟨rfl, Or.inr ⟨rfl, rfl⟩, hload⟩
  · rintro ⟨hpassword, hfile, hsalt, hload⟩
    generalize file.salt = salt at hfile hsalt
    subst hfile
    rw [keyed] at hload
    rcases hsalt with ⟨hgiven, rfl⟩ | ⟨hgiven, hsalt⟩
    · simp only [openStore, hpassword, hgiven, Bool.false_eq_true, if_false, hload]
      rfl
    · simp only [openStore, hpassword, hgiven, hsalt, Bool.false_eq_true, if_false, hload]
      rfl

/-! ### Saving -/

/-- Where a save may leave something besides the file itself: on the way to the file, where
directories were missing, and in its temporary file. -/
def Around (file : EncryptedFile) (p : FilePlace) : Prop :=
  p ∈ file.path.way ∨ p = file.temporaryPath.place

namespace Apart

variable {file : EncryptedFile}

theorem not_around (h : Apart file.path) : ¬ file.Around file.path.place :=
  not_or.2 ⟨h.not_mem_way, h.temporary_ne.symm⟩

theorem salt_not_around (h : Apart file.path) (hway : (saltPath file.path).place ∉ file.path.way) :
    ¬ file.Around (saltPath file.path).place :=
  not_or.2 ⟨hway, h.temporary_ne_salt.symm⟩

end Apart

/-- How far a save gets: to the directories on the way, to the temporary file, or to the end. Each
refusal leaves what was done before it. -/
theorem writeFile_stages {file : EncryptedFile} {store : Store} {result : Except FileError Unit}
    (h : file.writeFile refusals store tree = (result, tree')) :
    (∃ error, result = .error error) ∧ tree' = (tree.ensureDirectories file.path.parent).2 ∨
    ∃ written,
      (tree.ensureDirectories file.path.parent).2.write refusals file.temporaryPath
        (file.sealStore store) = .ok written ∧
      ((∃ error, result = .error error) ∧
          tree' = written.setMode refusals file.temporaryPath FileTree.privateMode ∨
        result = .ok () ∧ (written.setMode refusals file.temporaryPath FileTree.privateMode).replace
          refusals file.temporaryPath file.path = .ok tree') := by
  rw [writeFile] at h
  rcases hdirectories : tree.ensureDirectories file.path.parent with ⟨error | _, made⟩
  · simp only [hdirectories] at h
    obtain ⟨rfl, rfl⟩ := Prod.mk.inj h
    exact Or.inl ⟨⟨_, rfl⟩, rfl⟩
  simp only [hdirectories] at h
  split at h
  · obtain ⟨rfl, rfl⟩ := Prod.mk.inj h
    exact Or.inl ⟨⟨_, rfl⟩, rfl⟩
  rename_i written hwrite
  refine Or.inr ⟨written, hwrite, ?_⟩
  split at h
  · obtain ⟨rfl, rfl⟩ := Prod.mk.inj h
    exact Or.inl ⟨⟨_, rfl⟩, rfl⟩
  · rename_i moved hmoved
    obtain ⟨rfl, rfl⟩ := Prod.mk.inj h
    exact Or.inr ⟨rfl, hmoved⟩

/-- **A save fails with the file as it was or puts the sealed store in its place.** -/
theorem writeFile_cases {file : EncryptedFile} {store : Store} {result : Except FileError Unit}
    (h : file.writeFile refusals store tree = (result, tree')) (hapart : Apart file.path) :
    (∃ error, result = .error error) ∧ tree.Keeps file.Around tree' ∨
    result = .ok () ∧ tree'.Passable file.path ∧
      (∃ mode, tree'.node? file.path.place = some (.file (file.sealStore store) mode)) ∧
      tree.Keeps (fun p ↦ file.Around p ∨ p = file.path.place) tree' := by
  have hmade : tree.Keeps file.Around (tree.ensureDirectories file.path.parent).2 :=
    (FileTree.ensureDirectories_keeps tree file.path.parent).mono
      fun p hp ↦ Or.inl (hapart.onWay_parent.1 hp)
  rcases writeFile_stages h with ⟨herror, rfl⟩ | ⟨written, hwrite, hend⟩
  · exact Or.inl ⟨herror, hmade⟩
  obtain ⟨-, -, hfile, hwritten⟩ := FileTree.write_eq_ok hwrite
  obtain ⟨⟨mode, hnode⟩, hmode⟩ := FileTree.setMode_file hfile refusals FileTree.privateMode
  have hmade := hmade.trans ((hwritten.trans hmode).mono fun p hp ↦ Or.inr hp)
  rcases hend with ⟨herror, rfl⟩ | ⟨rfl, hmoved⟩
  · exact Or.inl ⟨herror, hmade⟩
  obtain ⟨hpassable, hmovedNode, hmoved⟩ := FileTree.replace_eq_ok hnode hapart.temporary_ne hmoved
  refine Or.inr ⟨rfl, hmoved.passable hpassable, ⟨mode, hmovedNode⟩, ?_⟩
  refine (hmade.mono fun p hp ↦ Or.inl hp).trans (hmoved.mono fun p hp ↦ ?_)
  rcases hp with hp | hp
  · exact Or.inl (Or.inr hp)
  · exact Or.inr hp

/-- **A save fails before it writes**, since the document goes beyond a limit, or it succeeds if the
file could be written. -/
theorem save_cases {file : EncryptedFile} {store : Store} {saved : Except SaveFailure Unit}
    (h : file.save refusals store tree = (saved, tree')) :
    (∃ failure, saved = .error failure) ∧ tree' = tree ∨
    store.encode.Fits file.room ∧ ∃ written, file.writeFile refusals store tree = (written, tree') ∧
      (saved = .ok () ↔ written = .ok ()) := by
  rw [save] at h
  split at h
  · obtain ⟨rfl, rfl⟩ := Prod.mk.inj h
    exact Or.inl ⟨⟨_, rfl⟩, rfl⟩
  rename_i hfits
  rcases hwrite : file.writeFile refusals store tree with ⟨error | _, written⟩ <;>
    simp only [hwrite] at h <;> obtain ⟨rfl, rfl⟩ := Prod.mk.inj h
  · exact Or.inr ⟨hfits, _, rfl, nofun, nofun⟩
  · exact Or.inr ⟨hfits, _, rfl, fun _ ↦ rfl, fun _ ↦ rfl⟩

/-- A save that succeeds has written the file. -/
theorem writeFile_of_save {file : EncryptedFile} {store : Store}
    (h : file.save refusals store tree = (.ok (), tree')) :
    store.encode.Fits file.room ∧ file.writeFile refusals store tree = (.ok (), tree') := by
  rcases save_cases h with ⟨⟨failure, hfailure⟩, -⟩ | ⟨hfits, written, hwrite, hok⟩
  · cases hfailure
  · rw [hok.1 rfl] at hwrite
    exact ⟨hfits, hwrite⟩

/-- **A write changes the store and the file, or neither of them.** A cipher may seal a text in
another way each time, so the one that seals need not be that of the file. -/
theorem run_cases {file : EncryptedFile} {who : Authentication} {write : StoreWrite}
    {sealer : Cipher} {store store' : Store} {result : Except StoreError StoreAnswer}
    (h : write.run ({ file with cipher := sealer }.save refusals) who store tree =
      (result, store', tree')) (hapart : Apart file.path) :
    store' = store ∧ tree.Keeps file.Around tree' ∨
    (∃ answer, result = .ok answer ∧ write.Effect who store answer store') ∧
      store'.encode.Fits file.room ∧ tree'.Passable file.path ∧
      (∃ mode, tree'.node? file.path.place =
        some (.file (sealer.encrypt store'.encode.indented.toUTF8) mode)) ∧
      tree.Keeps (fun p ↦ file.Around p ∨ p = file.path.place) tree' := by
  rcases StoreWrite.run_cases h with ⟨rfl, rfl, -⟩ | ⟨next, _, _, _, -, hsaved, -, rfl⟩ |
    ⟨answer, heffect, hsaved, hresult⟩
  · exact Or.inl ⟨rfl, .refl _ _⟩
  · rcases save_cases hsaved with ⟨-, rfl⟩ | ⟨-, written, hwrite, hok⟩
    · exact Or.inl ⟨rfl, .refl _ _⟩
    rcases writeFile_cases hwrite hapart with ⟨-, hkeeps⟩ | ⟨rfl, -⟩
    · exact Or.inl ⟨rfl, hkeeps⟩
    · cases hok.2 rfl
  · obtain ⟨hfits, hwrite⟩ := writeFile_of_save hsaved
    rcases writeFile_cases hwrite hapart with ⟨⟨error, herror⟩, -⟩ | ⟨-, hwritten⟩
    · cases herror
    · exact Or.inr ⟨⟨answer, hresult, heffect⟩, hfits, hwritten⟩

end EncryptedFile

end TokenBroker
