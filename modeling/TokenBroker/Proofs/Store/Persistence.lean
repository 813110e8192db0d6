import Mathlib.Logic.Relation
import TokenBroker.Proofs.Store.EncryptedFile

/-!
# The encrypted file and the store in memory

`EncryptedFile.Synced` says that a file holds a store: the file is there and what is sealed in it is
the text of the store, or it is not there and the store has nothing in it; and the salt that the
file was opened with can be had again. Opening the file at such a moment gives that store
(`Synced.openStore_eq`). A file that was opened where nothing stood is synced
(`synced_of_openStore`), and every step keeps it so, whatever the file system refuses
(`Synced.step`): a save writes beside the file and moves what it has written, so that it fails as a
whole.

This needs a path that does not lead back to a directory on its own way. There, making the
directories that a save needs puts one in the place of the file, and the store can no longer be
opened (`openStore_of_looping_path`).
-/

namespace TokenBroker

open FileTree (Keeps)

/-- A cipher opens what another one seals. To seal a text twice need not give the same bytes. -/
def Cipher.Opens (cipher sealer : Cipher) : Prop :=
  ∀ text, cipher.decrypt? (sealer.encrypt text) = some text

/-! ### The labelled cipher -/

namespace Cipher

theorem dropLabel_append (label rest : List UInt8) :
    dropLabel? label (label ++ rest) = some rest := by
  induction label with
  | nil => rfl
  | cons b label ih => rw [List.cons_append, dropLabel?, if_pos rfl, ih]

theorem dropLabel_eq_none_of_length_lt {label sealed : List UInt8}
    (h : sealed.length < label.length) : dropLabel? label sealed = none := by
  induction label generalizing sealed with
  | nil => exact absurd h (Nat.not_lt_zero _)
  | cons b label ih =>
    cases sealed with
    | nil => rfl
    | cons c rest => rw [dropLabel?, ih (Nat.lt_of_succ_lt_succ h), ite_self]

theorem faithful_labelled (password : String) (salt : ByteArray) :
    (labelled password salt).Faithful := by
  intro text
  simp only [labelled, ByteArray.data_append, Array.toList_append, dropLabel_append]
  rfl

theorem size_label (password : String) (salt : ByteArray) :
    (label password salt).size = 9 + password.utf8ByteSize + 6 + (hex salt).utf8ByteSize + 1 := by
  simp [label, String.toUTF8, String.toByteArray_append]
  rfl

/-- What is shorter than a label is not opened. -/
theorem decrypt_labelled_of_size_lt {password : String} {salt sealed : ByteArray}
    (h : sealed.size < (label password salt).size) :
    (labelled password salt).decrypt? sealed = none := by
  have hlt : sealed.data.toList.length < (label password salt).data.toList.length := h
  simp only [labelled, dropLabel_eq_none_of_length_lt hlt]
  rfl

/-- What is no longer than the words of a label is not opened. -/
theorem decrypt_labelled_eq_none {password : String} {salt sealed : ByteArray}
    (hpassword : password ≠ "") (h : sealed.size ≤ 16) :
    (labelled password salt).decrypt? sealed = none := by
  have hpos : 0 < password.utf8ByteSize :=
    Nat.pos_of_ne_zero fun hzero ↦ hpassword (String.utf8ByteSize_eq_zero_iff.1 hzero)
  have hsize := size_label password salt
  exact decrypt_labelled_of_size_lt (by omega)

theorem length_le_utf8ByteSize (cs : List Char) : cs.length ≤ (String.ofList cs).utf8ByteSize := by
  induction cs with
  | nil => exact Nat.zero_le _
  | cons c rest ih =>
    have hcons : String.ofList (c :: rest) = String.singleton c ++ String.ofList rest := by
      rw [← String.toList_inj]
      simp
    have hc : 1 ≤ (String.singleton c).utf8ByteSize := by
      rw [String.utf8ByteSize_singleton]
      exact Char.utf8Size_pos c
    rw [hcons, String.utf8ByteSize_append, List.length_cons]
    omega

/-- No salt is a sealed text under its own key, since the label of a key is longer than its salt. -/
theorem decrypt_labelled_salt (password : String) (salt : ByteArray) :
    (labelled password salt).decrypt? salt = none := by
  have hhex : salt.size ≤ (hex salt).utf8ByteSize := by
    refine le_trans ?_ (length_le_utf8ByteSize _)
    rw [List.length_flatMap]
    have htwo : ∀ b ∈ salt.data.toList, (hexByte b).length = 2 := fun _ _ ↦ rfl
    rw [List.map_congr_left htwo, List.map_const', List.sum_replicate_nat]
    exact Nat.le_mul_of_pos_right salt.data.toList.length Nat.two_pos
  have hsize := size_label password salt
  exact decrypt_labelled_of_size_lt (by omega)

end Cipher

namespace EncryptedFile

variable {ciphers : CipherFamily} {file : EncryptedFile} {salt? : Option ByteArray}
  {store store' : Store} {tree tree' : FileTree}

/-! ### What the file holds -/

/-- The salt of a file can be had again: it was given, or it stands in its own file. -/
def SaltKept (file : EncryptedFile) (salt? : Option ByteArray) (tree : FileTree) : Prop :=
  salt?.filter (·.size != 0) = some file.salt ∨
    salt?.filter (·.size != 0) = none ∧ (saltPath file.path).place ≠ file.path.place ∧
      tree.Passable (saltPath file.path) ∧
      ∃ mode, tree.node? (saltPath file.path).place = some (.file file.salt mode)

/-- A file holds a store, which can be opened in the way in which it was opened before. -/
structure Synced (file : EncryptedFile) (salt? : Option ByteArray) (store : Store)
    (tree : FileTree) : Prop where
  writable : store.Writable
  content : tree.node? file.path.place = none ∧ store = Store.empty ∨
    store.encode.Fits file.room ∧ tree.Passable file.path ∧ ∃ sealed mode,
      tree.node? file.path.place = some (.file sealed mode) ∧
      file.cipher.decrypt? sealed = some store.encode.indented.toUTF8
  salt : SaltKept file salt? tree

theorem Synced.load_eq (h : Synced file salt? store tree) : file.load tree = .ok store := by
  rcases h.content with ⟨hnode, rfl⟩ | ⟨hfits, hpassable, sealed, mode, hnode, hsealed⟩
  · exact load_of_node_eq_none hnode
  · rw [load_of_passable hpassable hnode, hsealed]
    exact readStore_of_writable h.writable hfits

/-- **A file that holds a store is opened with that store in it**, and opening it changes nothing.
-/
theorem Synced.openStore_eq (h : Synced file salt? store tree)
    (hpassword : file.password.isEmpty = false)
    (hfile : file = keyed ciphers file.path file.password file.salt)
    (refusals : Refusals) (fresh : ByteArray) :
    openStore ciphers tree refusals file.path file.password salt? fresh =
      (.ok (file, store), tree) := by
  refine openStore_eq_ok_iff.2 ⟨hpassword, hfile, ?_, h.load_eq⟩
  rcases h.salt with hgiven | ⟨hgiven, -, hpassable, mode, hnode⟩
  · exact Or.inl ⟨hgiven, rfl⟩
  · exact Or.inr ⟨hgiven, loadSalt_of_passable hpassable hnode refusals fresh⟩

/-! ### Opening for the first time -/

/-- **A file that was opened where nothing stood holds the store that was opened.** The salt is not
made in the place of the store, since what is made there is no sealed text. -/
theorem synced_of_openStore {refusals : Refusals} {path : FilePath} {password : String}
    {fresh : ByteArray} (hapart : Apart path)
    (hrejects : ∀ salt, (ciphers password salt).decrypt? fresh = none)
    (habsent : tree.node? path.place = none)
    (hopen : openStore ciphers tree refusals path password salt? fresh =
      (.ok (file, store), tree')) :
    Synced file salt? store tree' := by
  obtain ⟨-, hfile, hsalt, hload⟩ := openStore_eq_ok_iff.1 hopen
  have hcipher : file.cipher = ciphers password file.salt := by rw [hfile]; rfl
  obtain rfl : file.path = path := by rw [hfile]; rfl
  -- nothing stands at the place of the store even after the salt was made
  suffices hkept : tree'.node? file.path.place = none ∧ SaltKept file salt? tree' by
    rw [load_of_node_eq_none hkept.1, Except.ok.injEq] at hload
    subst hload
    exact ⟨Store.writable_empty, Or.inl ⟨hkept.1, rfl⟩, hkept.2⟩
  rcases hsalt with ⟨hgiven, rfl⟩ | ⟨hgiven, hsalt⟩
  · exact ⟨habsent, Or.inl hgiven⟩
  obtain ⟨hpassable, ⟨mode, hnode⟩, hmade⟩ := loadSalt_eq_ok hapart hsalt
  have hne : (saltPath file.path).place ≠ file.path.place := by
    intro heq
    rcases hmade with rfl | ⟨hfresh, -⟩
    · rw [heq, habsent] at hnode
      cases hnode
    · rw [heq] at hnode
      rw [load_of_passable (hapart.passable_salt.1 hpassable) hnode, hcipher, hfresh,
        hrejects] at hload
      cases hload
  refine ⟨?_, Or.inr ⟨hgiven, hne, hpassable, mode, hnode⟩⟩
  rcases hmade with rfl | ⟨-, hkeeps⟩
  · exact habsent
  · rw [hkeeps.other, habsent]
    rintro (hway | heq)
    · exact hapart.not_mem_way hway
    · exact hne heq.symm

/-! ### Steps -/

/-- What may happen between two moments: a write, whatever the file system refuses, or a change of
other files by others, which leaves the directories on the way. -/
inductive Step (file : EncryptedFile) : Store × FileTree → Store × FileTree → Prop
  | write {who : Authentication} {write : StoreWrite} {sealer : Cipher} {refusals : Refusals}
      {store store' : Store} {tree tree' : FileTree} {result : Except StoreError StoreAnswer}
      (hplain : write.Plain) (hsealer : file.cipher.Opens sealer)
      (hrun : write.run ({ file with cipher := sealer }.save refusals) who store tree =
        (result, store', tree')) : Step file (store, tree) (store', tree')
  | others {store : Store} {tree tree' : FileTree}
      (hway : ∀ p ∈ file.path.way, tree.node? p = some .directory → tree'.node? p = some .directory)
      (hstore : tree'.node? file.path.place = tree.node? file.path.place)
      (hsalt : tree'.node? (saltPath file.path).place = tree.node? (saltPath file.path).place) :
      Step file (store, tree) (store, tree')

/-- A salt is kept where its file is, being on no way. -/
theorem SaltKept.of_eq (h : SaltKept file salt? tree) (hapart : Apart file.path)
    (hway : ∀ p ∈ file.path.way, tree.node? p = some .directory → tree'.node? p = some .directory)
    (hsalt : (saltPath file.path).place ∉ file.path.way →
      (saltPath file.path).place ≠ file.path.place →
      tree'.node? (saltPath file.path).place = tree.node? (saltPath file.path).place) :
    SaltKept file salt? tree' := by
  rcases h with hgiven | ⟨hgiven, hne, hpassable, mode, hnode⟩
  · exact Or.inl hgiven
  have hnot : (saltPath file.path).place ∉ file.path.way :=
    hapart.way_salt ▸ hpassable.place_not_mem_way (by rw [hnode]; simp)
  refine Or.inr ⟨hgiven, hne, fun p hp ↦ hway p (hapart.way_salt ▸ hp) (hpassable p hp), mode, ?_⟩
  rw [hsalt hnot hne, hnode]

theorem SaltKept.of_keeps (h : SaltKept file salt? tree) (hapart : Apart file.path)
    (hkeeps : tree.Keeps (fun p ↦ file.Around p ∨ p = file.path.place) tree') :
    SaltKept file salt? tree' :=
  h.of_eq hapart (fun p _ hp ↦ hkeeps.directory p hp) fun hway hne ↦
    hkeeps.other _ (not_or.2 ⟨hapart.salt_not_around hway, hne⟩)

/-- What a failed save leaves behind makes no difference. -/
theorem Synced.of_keeps (h : Synced file salt? store tree) (hapart : Apart file.path)
    (hkeeps : tree.Keeps file.Around tree') : Synced file salt? store tree' where
  writable := h.writable
  content := by
    rw [hkeeps.other _ hapart.not_around]
    rcases h.content with hnone | ⟨hfits, hpassable, hcontent⟩
    · exact Or.inl hnone
    · exact Or.inr ⟨hfits, hkeeps.passable hpassable, hcontent⟩
  salt := h.salt.of_keeps hapart (hkeeps.mono fun _ ↦ Or.inl)

/-- **Every step keeps file and store together.** -/
theorem Synced.step (h : Synced file salt? store tree) (hapart : Apart file.path)
    (hstep : Step file (store, tree) (store', tree')) : Synced file salt? store' tree' := by
  cases hstep with
  | write hplain hsealer hrun =>
    rcases run_cases hrun hapart with ⟨rfl, hkeeps⟩ |
      ⟨⟨answer, -, heffect⟩, hfits, hpassable, ⟨mode, hnode⟩, hkeeps⟩
    · exact h.of_keeps hapart hkeeps
    · -- the file may have been missing until now; from here on it holds a sealed text
      exact ⟨heffect.writable h.writable hplain,
        Or.inr ⟨hfits, hpassable, _, mode, hnode, hsealer _⟩, h.salt.of_keeps hapart hkeeps⟩
  | others hway hstore hsalt =>
    refine ⟨h.writable, ?_, h.salt.of_eq hapart hway fun _ _ ↦ hsalt⟩
    rw [hstore]
    rcases h.content with hnone | ⟨hfits, hpassable, hcontent⟩
    · exact Or.inl hnone
    · exact Or.inr ⟨hfits, fun p hp ↦ hway p hp (hpassable p hp), hcontent⟩

theorem Synced.steps {start finish : Store × FileTree} (hapart : Apart file.path)
    (hsteps : Relation.ReflTransGen (Step file) start finish)
    (h : Synced file salt? start.1 start.2) : Synced file salt? finish.1 finish.2 := by
  induction hsteps with
  | refl => exact h
  | tail _ hstep ih => exact ih.step hapart hstep

/-- Carries out writes one after the other, each with what the file system refuses of it. -/
def runAll (file : EncryptedFile) (who : Authentication) (writes : List (StoreWrite × Refusals))
    (start : Store × FileTree) : Store × FileTree :=
  writes.foldl (fun now call ↦ (call.1.run (file.save call.2) who now.1 now.2).2) start

theorem steps_runAll (file : EncryptedFile) (hfaithful : file.cipher.Faithful)
    (who : Authentication) (writes : List (StoreWrite × Refusals))
    (hplain : ∀ call ∈ writes, call.1.Plain) (start : Store × FileTree) :
    Relation.ReflTransGen (Step file) start (file.runAll who writes start) := by
  induction writes generalizing start with
  | nil => exact .refl
  | cons call rest ih =>
    have hstep : Step file start (call.1.run (file.save call.2) who start.1 start.2).2 :=
      .write (hplain _ List.mem_cons_self) hfaithful rfl
    exact .head hstep (ih (fun other hother ↦ hplain _ (List.mem_cons_of_mem _ hother)) _)

/-- A write that ends in an error leaves the content of the file as it was. -/
theorem Synced.read_of_error (h : Synced file salt? store tree) (hapart : Apart file.path)
    {write : StoreWrite} {sealer : Cipher} {who : Authentication} {refusals : Refusals}
    {error : StoreError}
    (hrun : write.run ({ file with cipher := sealer }.save refusals) who store tree =
      (.error error, store', tree')) :
    (tree'.read file.path).toOption = (tree.read file.path).toOption := by
  rcases run_cases hrun hapart with ⟨-, hkeeps⟩ | ⟨⟨answer, heq, -⟩, -⟩
  · have hnode := hkeeps.other _ hapart.not_around
    rcases h.content with ⟨hnone, -⟩ | ⟨-, hpassable, sealed, mode, hfile, -⟩
    · rw [FileTree.toOption_read_of_node_eq_none hnone,
        FileTree.toOption_read_of_node_eq_none (hnode.trans hnone)]
    · rw [FileTree.read_eq_ok_iff.2 ⟨hpassable, mode, hfile⟩,
        FileTree.read_eq_ok_iff.2 ⟨hkeeps.passable hpassable, mode, hnode.trans hfile⟩]
  · cases heq

/-- **File and store agree over whole runs.** Let a file be opened at a path that does not lead back
to a directory on its own way, that is not the path of its own temporary file, and where nothing
stands. After any steps, whatever the file system refuses, opening it again in the same way gives
the store as it is in memory, and changes nothing; and a write that ends in an error leaves both the
store and the content of the file as they were. -/
theorem openStore_of_steps {tree₀ tree₁ : FileTree} {refusals₀ : Refusals} {path : FilePath}
    {password : String} {fresh₀ : ByteArray} {store₀ : Store}
    (hway : path.place ∉ path.way) (htemporary : path ≠ path.withExtension "tmp")
    (habsent : tree₀.node? path.place = none)
    (hrejects : ∀ salt, (ciphers password salt).decrypt? fresh₀ = none)
    (hopen : openStore ciphers tree₀ refusals₀ path password salt? fresh₀ =
      (.ok (file, store₀), tree₁))
    (hsteps : Relation.ReflTransGen (Step file) (store₀, tree₁) (store, tree)) :
    (∀ refusals fresh,
      openStore ciphers tree refusals path password salt? fresh = (.ok (file, store), tree)) ∧
    ∀ (write : StoreWrite) (sealer : Cipher) (who : Authentication) (refusals : Refusals)
      (error : StoreError) (store' : Store) (tree' : FileTree),
      write.run ({ file with cipher := sealer }.save refusals) who store tree =
        (.error error, store', tree') →
      store' = store ∧ (tree'.read path).toOption = (tree.read path).toOption := by
  have hnames : path.names ≠ [] := by
    intro hnil
    have hroot : tree₀.node? path.place = some .directory := by
      rw [FileTree.node?, FilePath.place, hnil]
      rfl
    rw [habsent] at hroot
    cases hroot
  have hapart := apart_of_way hnames hway htemporary
  obtain ⟨hpassword, hfile, -, -⟩ := openStore_eq_ok_iff.1 hopen
  have hsynced₀ := synced_of_openStore hapart hrejects habsent hopen
  obtain rfl : file.path = path := by rw [hfile]; rfl
  obtain rfl : file.password = password := by rw [hfile]; rfl
  have hsynced : Synced file salt? store tree := Synced.steps hapart hsteps hsynced₀
  refine ⟨hsynced.openStore_eq hpassword hfile, ?_⟩
  intro write sealer who refusals error store' tree' hrun
  exact ⟨Store.perform_error hrun, hsynced.read_of_error hapart hrun⟩

/-- A save that is refused and one that is not, after the salt was made. -/
theorem openStore_of_steps_refused :
    ∃ (file : EncryptedFile) (store : Store) (tree : FileTree), store.entries.length = 2 ∧
      openStore Cipher.labelled tree {} ⟨.working, ["store.enc"]⟩ "pw" none ByteArray.empty =
        (.ok (file, store), tree) := by
  obtain ⟨tree₁, hsalt, hnode, ⟨store, tree⟩, hlength, hsteps⟩ : ∃ tree₁,
      loadSalt {} {} ⟨.working, ["store.enc"]⟩ "0123456789abcdef".toUTF8 =
        (.ok "0123456789abcdef".toUTF8, tree₁) ∧
      FileTree.node? tree₁ (FilePath.place ⟨.working, ["store.enc"]⟩) = none ∧
      ∃ finish : Store × FileTree, finish.1.entries.length = 2 ∧ Relation.ReflTransGen
        (Step (keyed Cipher.labelled ⟨.working, ["store.enc"]⟩ "pw" "0123456789abcdef".toUTF8))
        (Store.empty, tree₁) finish :=
    ⟨⟨[(⟨.working, ["credentials.salt"]⟩, .file "0123456789abcdef".toUTF8 FileTree.privateMode)]⟩,
      rfl, rfl, _, by decide +kernel, steps_runAll _ (Cipher.faithful_labelled _ _) .system
        [(.getOrCreateDomain "https://h", { replacements := [⟨.working, ["store.enc"]⟩] }),
          (.getOrCreateDomain "https://h", {})] (by simp [StoreWrite.Plain]) _⟩
  have hopen : openStore Cipher.labelled {} {} ⟨.working, ["store.enc"]⟩ "pw" none
      "0123456789abcdef".toUTF8 = (.ok (keyed Cipher.labelled ⟨.working, ["store.enc"]⟩ "pw"
        "0123456789abcdef".toUTF8, Store.empty), tree₁) :=
    openStore_eq_ok_iff.2 ⟨by decide, rfl, Or.inr ⟨rfl, hsalt⟩, load_of_node_eq_none hnode⟩
  exact ⟨_, store, tree, hlength, (openStore_of_steps (by decide) (by decide) (by decide)
    (fun salt ↦ Cipher.decrypt_labelled_eq_none (by decide) (by decide)) hopen hsteps).1 {}
      ByteArray.empty⟩

/-- A path that leads back to a directory on its own way: the first save, which fails, makes that
directory, and the store can no longer be opened. -/
theorem openStore_of_looping_path :
    ∃ (file : EncryptedFile) (store : Store) (tree : FileTree),
      FileTree.node? {} (FilePath.place ⟨.working, ["x", "..", "x"]⟩) = none ∧
      FilePath.withExtension ⟨.working, ["x", "..", "x"]⟩ "tmp" ≠ ⟨.working, ["x", "..", "x"]⟩ ∧
      openStore Cipher.labelled {} {} ⟨.working, ["x", "..", "x"]⟩ "pw" (some "s".toUTF8)
        ByteArray.empty = (.ok (file, Store.empty), {}) ∧
      Relation.ReflTransGen (Step file) (Store.empty, {}) (store, tree) ∧
      (openStore Cipher.labelled tree {} ⟨.working, ["x", "..", "x"]⟩ "pw" (some "s".toUTF8)
        ByteArray.empty).1.toBool = false := by
  have hopen : openStore Cipher.labelled {} {} ⟨.working, ["x", "..", "x"]⟩ "pw" (some "s".toUTF8)
      ByteArray.empty = (.ok (keyed Cipher.labelled ⟨.working, ["x", "..", "x"]⟩ "pw" "s".toUTF8,
        Store.empty), {}) :=
    openStore_eq_ok_iff.2 ⟨by decide, rfl, Or.inl ⟨rfl, rfl⟩, load_of_node_eq_none (by decide)⟩
  obtain ⟨⟨store, tree⟩, hreopen, hsteps⟩ : ∃ finish : Store × FileTree,
      (openStore Cipher.labelled finish.2 {} ⟨.working, ["x", "..", "x"]⟩ "pw" (some "s".toUTF8)
        ByteArray.empty).1.toBool = false ∧
      Relation.ReflTransGen
        (Step (keyed Cipher.labelled ⟨.working, ["x", "..", "x"]⟩ "pw" "s".toUTF8))
        (Store.empty, {}) finish :=
    ⟨_, by decide +kernel, steps_runAll _ (Cipher.faithful_labelled _ _) .system
      [(.getOrCreateDomain "https://h", {})] (by simp [StoreWrite.Plain]) _⟩
  exact ⟨_, store, tree, by decide, by decide, hopen, hsteps, hreopen⟩

end EncryptedFile

end TokenBroker
