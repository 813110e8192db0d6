import TokenBroker.Proofs.FileTree.Places

/-!
# What operations on a file tree change

Every operation is described by what it leaves alone, `FileTree.Keeps`: directories stay
directories, and what stands outside a set of places stays what it is. Most operations give no tree
back if they fail, so that only their successes are described. A file that is written stands at the
place of its path afterwards, and nowhere else has anything changed; making directories changes only
places on the way.
-/

namespace TokenBroker.FileTree

variable {tree tree' tree'' : FileTree}

/-! ### Putting and dropping -/

/-- A node that is put in place of another one is found there. -/
theorem find_map_self {place : FilePlace} (node : FileNode)
    {nodes : List (FilePlace × FileNode)} (hany : ∃ other ∈ nodes, other.1 = place) :
    (nodes.map fun other ↦ if other.1 == place then (place, node) else other).find?
      (fun other ↦ other.1 == place) = some (place, node) := by
  induction nodes with
  | nil =>
    obtain ⟨_, h, -⟩ := hany
    exact absurd h List.not_mem_nil
  | cons first rest ih =>
    rw [List.map_cons, List.find?_cons]
    by_cases hplace : first.1 = place
    · simp only [hplace, beq_self_eq_true, if_true]
    · have hrest : ∃ other ∈ rest, other.1 = place := by
        obtain ⟨other, hother, heq⟩ := hany
        rcases List.mem_cons.1 hother with rfl | hother
        · exact absurd heq hplace
        · exact ⟨other, hother, heq⟩
      simp only [beq_eq_false_iff_ne.2 hplace, Bool.false_eq_true, if_false, ih hrest]

/-- What stands elsewhere is found as before. -/
theorem find_map_of_ne {place q : FilePlace} (h : q ≠ place) (node : FileNode)
    (nodes : List (FilePlace × FileNode)) :
    (nodes.map fun other ↦ if other.1 == place then (place, node) else other).find?
      (fun other ↦ other.1 == q) = nodes.find? fun other ↦ other.1 == q := by
  induction nodes with
  | nil => rfl
  | cons first rest ih =>
    rw [List.map_cons, List.find?_cons, List.find?_cons, ih]
    by_cases hplace : first.1 = place
    · have hfirst : (first.1 == q) = false := beq_eq_false_iff_ne.2 fun heq ↦ h (heq ▸ hplace)
      have hput : (place == q) = false := beq_eq_false_iff_ne.2 (Ne.symm h)
      simp only [hplace, beq_self_eq_true, if_true, hput]
    · simp only [beq_eq_false_iff_ne.2 hplace, Bool.false_eq_true, if_false]

/-- Nothing can be put at the beginning of a path; everywhere else what is put is there. -/
theorem node_put {place : FilePlace} (h : place.names ≠ []) (tree : FileTree) (node : FileNode)
    (q : FilePlace) :
    FileTree.node? (tree.put place node) q = if q = place then some node else tree.node? q := by
  by_cases hroot : q.names = []
  · have hne : q ≠ place := fun heq ↦ h (heq ▸ hroot)
    simp [node?, hroot, hne]
  have hisEmpty : q.names.isEmpty = false := by simpa using hroot
  simp only [node?, hisEmpty, put, Bool.false_eq_true, if_false]
  by_cases hany : ∃ other ∈ tree.nodes, other.1 = place
  · rw [if_pos (by simpa [List.any_eq_true] using hany)]
    by_cases hq : q = place
    · subst hq
      rw [find_map_self node hany, if_pos rfl]
      rfl
    · rw [find_map_of_ne hq, if_neg hq]
  · rw [if_neg (by simpa [List.any_eq_true] using hany), List.find?_append]
    by_cases hq : q = place
    · subst hq
      have hnone : tree.nodes.find? (fun other ↦ other.1 == q) = none := by
        rw [List.find?_eq_none]
        exact fun other hother heq ↦ hany ⟨other, hother, by simpa using heq⟩
      rw [hnone, if_pos rfl]
      simp
    · have hput : (place == q) = false := beq_eq_false_iff_ne.2 (Ne.symm hq)
      rw [if_neg hq, List.find?_cons, hput]
      simp

theorem node_drop {place q : FilePlace} (h : q ≠ place) (tree : FileTree) :
    FileTree.node? (tree.drop place) q = tree.node? q := by
  simp only [node?, drop, List.find?_filter]
  congr 3
  funext other
  by_cases hq : other.1 = q
  · simp [hq, h]
  · simp [hq]

theorem names_ne_nil_of_node {place : FilePlace} (h : tree.node? place ≠ some .directory) :
    place.names ≠ [] := by
  intro hnil
  exact h (by simp [node?, hnil])

/-! ### Keeping -/

/-- What a change of a tree leaves alone: directories, and everything outside some places. -/
structure Keeps (changed : FilePlace → Prop) (tree tree' : FileTree) : Prop where
  directory : ∀ p, tree.node? p = some .directory → tree'.node? p = some .directory
  other : ∀ p, ¬ changed p → tree'.node? p = tree.node? p

namespace Keeps

variable {changed changed' : FilePlace → Prop}

theorem refl (changed : FilePlace → Prop) (tree : FileTree) : tree.Keeps changed tree :=
  ⟨fun _ h ↦ h, fun _ _ ↦ rfl⟩

theorem trans (h : tree.Keeps changed tree') (h' : tree'.Keeps changed tree'') :
    tree.Keeps changed tree'' :=
  ⟨fun p hp ↦ h'.directory p (h.directory p hp), fun p hp ↦ (h'.other p hp).trans (h.other p hp)⟩

theorem mono (h : tree.Keeps changed tree') (hsub : ∀ p, changed p → changed' p) :
    tree.Keeps changed' tree' :=
  ⟨h.directory, fun p hp ↦ h.other p fun hchanged ↦ hp (hsub p hchanged)⟩

/-- A way that can be passed stays so. -/
theorem passable (h : tree.Keeps changed tree') {path : FilePath} (hpath : tree.Passable path) :
    tree'.Passable path :=
  fun p hp ↦ h.directory p (hpath p hp)

/-- Only the place of what is put has changed, if it was no directory. -/
theorem put {place : FilePlace} (h : tree.node? place ≠ some .directory) (node : FileNode) :
    tree.Keeps (· = place) (tree.put place node) where
  directory p hp := by
    have hne : p ≠ place := fun heq ↦ h (heq ▸ hp)
    rw [node_put (names_ne_nil_of_node h), if_neg hne, hp]
  other p hp := by rw [node_put (names_ne_nil_of_node h), if_neg hp]

end Keeps

/-! ### Directories -/

/-- A directory that could be made is put where nothing was. -/
theorem makeDirectory_eq_ok {path : FilePath} (h : tree.makeDirectory path = .ok tree') :
    tree.node? path.place = none ∧ tree' = tree.put path.place .directory := by
  rw [makeDirectory, Except.bind_eq_ok_iff] at h
  obtain ⟨p, hlocate, h⟩ := h
  obtain ⟨-, rfl⟩ := locate_eq_ok_iff.1 hlocate
  split at h
  · cases h
  · rename_i hnone
    exact ⟨hnone, (Except.ok.inj h).symm⟩

theorem makeDirectory_keeps {path : FilePath} (h : tree.makeDirectory path = .ok tree') :
    tree.Keeps (· = path.place) tree' := by
  obtain ⟨hnone, rfl⟩ := makeDirectory_eq_ok h
  exact .put (by simp [hnone]) _

theorem ensureDirectory_keeps (tree : FileTree) (path : FilePath) :
    tree.Keeps (· = path.place) (tree.ensureDirectory path).2 := by
  rw [ensureDirectory]
  cases hmade : tree.makeDirectory path with
  | ok made => exact makeDirectory_keeps hmade
  | error cause => exact .refl _ _

/-- A path and the directories on the way to it. -/
def OnWay (path : FilePath) (p : FilePlace) : Prop :=
  p ∈ path.way ∨ p = path.place

theorem onWay_of_parent {path : FilePath} {p : FilePlace} (h : OnWay path.parent p) :
    OnWay path p := by
  by_cases hnames : path.names = []
  · have hparent : path.parent = path := by
      obtain ⟨anchor, names⟩ := path
      obtain rfl : names = [] := hnames
      rfl
    rwa [hparent] at h
  · obtain ⟨name, hname⟩ : ∃ name, path.names.getLast? = some name :=
      Option.isSome_iff_exists.1 (by simpa using hnames)
    rw [← FilePath.child_parent hname]
    refine Or.inl ?_
    rw [FilePath.way_child, List.mem_append, List.mem_singleton]
    exact h

theorem ensureDirectoriesWithin_keeps (steps : Nat) (tree : FileTree) (path : FilePath) :
    tree.Keeps (OnWay path) (ensureDirectoriesWithin steps tree path).2 := by
  have hensure : ∀ tree : FileTree, tree.Keeps (OnWay path) (tree.ensureDirectory path).2 :=
    fun tree ↦ (ensureDirectory_keeps tree path).mono fun p hp ↦ Or.inr hp
  induction steps generalizing path with
  | zero => exact hensure tree
  | succ steps ih =>
    rw [ensureDirectoriesWithin]
    split
    · -- the directory above comes first, and is on the way
      have hparent := (ih path.parent fun tree ↦
        (ensureDirectory_keeps tree path.parent).mono fun p hp ↦ Or.inr hp).mono
          fun p hp ↦ onWay_of_parent hp
      split
      · rename_i error between hbetween
        rwa [hbetween] at hparent
      · rename_i between hbetween
        rw [hbetween] at hparent
        exact hparent.trans (hensure between)
    · exact hensure tree

/-- **Making directories changes only what stands on the way**, whether it succeeds or not. -/
theorem ensureDirectories_keeps (tree : FileTree) (path : FilePath) :
    tree.Keeps (OnWay path) (tree.ensureDirectories path).2 :=
  ensureDirectoriesWithin_keeps _ tree path

/-! ### Files -/

/-- **A file that could be written is at the place of its path**, which was no directory. -/
theorem write_eq_ok {refusals : Refusals} {path : FilePath} {content : ByteArray}
    (h : tree.write refusals path content = .ok tree') :
    tree.Passable path ∧ tree.node? path.place ≠ some .directory ∧
      (∃ mode, tree'.node? path.place = some (.file content mode)) ∧
      tree.Keeps (· = path.place) tree' := by
  obtain ⟨p, hlocate, h⟩ := Except.bind_eq_ok_iff.1 (Except.of_mapError_eq_ok h)
  obtain ⟨hpassable, rfl⟩ := locate_eq_ok_iff.1 hlocate
  -- a file that is there keeps its mode, a new one has the usual one
  obtain ⟨mode, hne, rfl⟩ : ∃ mode, tree.node? path.place ≠ some .directory ∧
      tree' = tree.put path.place (.file content mode) := by
    simp only at h
    split at h
    · cases h
    split at h
    · cases h
    · rename_i old mode hnode
      exact ⟨mode, by rw [hnode]; simp, (Except.ok.inj h).symm⟩
    · rename_i hnone
      exact ⟨usualMode, by rw [hnone]; simp, (Except.ok.inj h).symm⟩
  refine ⟨hpassable, hne, ⟨mode, ?_⟩, .put hne _⟩
  rw [node_put (names_ne_nil_of_node hne), if_pos rfl]

/-- A change of mode leaves the content of the file alone, refused or not. -/
theorem setMode_file {path : FilePath} {content : ByteArray}
    (h : ∃ old, tree.node? path.place = some (.file content old)) (refusals : Refusals)
    (mode : Nat) :
    (∃ mode', (tree.setMode refusals path mode).node? path.place = some (.file content mode')) ∧
      tree.Keeps (· = path.place) (tree.setMode refusals path mode) := by
  have hsame : tree.Keeps (· = path.place) tree := .refl _ _
  unfold setMode
  split
  · exact ⟨h, hsame⟩
  split
  · exact ⟨h, hsame⟩
  · rename_i p hlocate
    obtain ⟨-, rfl⟩ := locate_eq_ok_iff.1 hlocate
    obtain ⟨old, hnode⟩ := h
    have hne : tree.node? path.place ≠ some .directory := by rw [hnode]; simp
    rw [hnode]
    refine ⟨⟨mode, ?_⟩, .put hne _⟩
    rw [node_put (names_ne_nil_of_node hne), if_pos rfl]

/-- A file that could be moved has taken the place of the target, which was no directory; one that
was there already has stayed. -/
theorem replace_moves {refusals : Refusals} {source target : FilePath} {content : ByteArray}
    {mode : Nat} (hnode : tree.node? source.place = some (.file content mode))
    (h : tree.replace refusals source target = .ok tree') :
    tree.Passable target ∧ tree.node? target.place ≠ some .directory ∧
      tree' = if source.place = target.place then tree
        else (tree.drop source.place).put target.place (.file content mode) := by
  obtain ⟨p, hsource, h⟩ := Except.bind_eq_ok_iff.1 (Except.of_mapError_eq_ok h)
  obtain ⟨q, htarget, h⟩ := Except.bind_eq_ok_iff.1 h
  obtain ⟨-, rfl⟩ := locate_eq_ok_iff.1 hsource
  obtain ⟨hpassable, rfl⟩ := locate_eq_ok_iff.1 htarget
  simp only [hnode] at h
  split at h
  · cases h
  split at h
  · cases h
  · cases h
  · -- what stood at the target makes no difference, unless it was a directory
    rename_i node hfile hnot
    obtain rfl : FileNode.file content mode = node := Option.some.inj hfile
    refine ⟨hpassable, fun hdirectory ↦ hnot _ _ hdirectory rfl, ?_⟩
    split at h
    · rename_i hsame
      rw [if_pos hsame]
      exact (Except.ok.inj h).symm
    · rename_i hne
      rw [if_neg hne]
      exact (Except.ok.inj h).symm

/-- **A file that could be moved is at the place of the target**, which was no directory; nothing is
said about the place that it left. -/
theorem replace_eq_ok {refusals : Refusals} {source target : FilePath} {content : ByteArray}
    {mode : Nat} (hnode : tree.node? source.place = some (.file content mode))
    (hne : source.place ≠ target.place) (h : tree.replace refusals source target = .ok tree') :
    tree.Passable target ∧ tree'.node? target.place = some (.file content mode) ∧
      tree.Keeps (fun p ↦ p = source.place ∨ p = target.place) tree' := by
  obtain ⟨hpassable, hdirectory, hmoved⟩ := replace_moves hnode h
  rw [if_neg hne] at hmoved
  have hnames : target.place.names ≠ [] := names_ne_nil_of_node hdirectory
  rw [hmoved]
  refine ⟨hpassable, by rw [node_put hnames, if_pos rfl], fun p hp ↦ ?_, fun p hp ↦ ?_⟩
  · have hnot : p ≠ target.place := fun heq ↦ hdirectory (heq ▸ hp)
    have hnot' : p ≠ source.place := by
      rintro rfl
      rw [hnode] at hp
      cases hp
    rw [node_put hnames, if_neg hnot, node_drop hnot', hp]
  · rw [not_or] at hp
    rw [node_put hnames, if_neg hp.2, node_drop hp.1]

/-! ### What comes to stand at a place -/

/-- Directories stay directories, and at a place there is still what was there, or a directory where
nothing was, or a file of a given content. -/
structure Leaves (place : FilePlace) (content : ByteArray) (tree tree' : FileTree) : Prop where
  directory : ∀ p, tree.node? p = some .directory → tree'.node? p = some .directory
  node : tree'.node? place = tree.node? place ∨
    tree.node? place = none ∧ tree'.node? place = some .directory ∨
    ∃ mode, tree'.node? place = some (.file content mode)

namespace Leaves

variable {place : FilePlace} {content : ByteArray}

theorem refl (place : FilePlace) (content : ByteArray) (tree : FileTree) :
    tree.Leaves place content tree :=
  ⟨fun _ h ↦ h, Or.inl rfl⟩

theorem trans (h : tree.Leaves place content tree') (h' : tree'.Leaves place content tree'') :
    tree.Leaves place content tree'' := by
  refine ⟨fun p hp ↦ h'.directory p (h.directory p hp), ?_⟩
  rcases h'.node with hsame' | ⟨hnone', hmade'⟩ | hfile'
  · rw [hsame']
    exact h.node
  · -- nothing was there in between, so nothing was there before
    rcases h.node with hsame | ⟨-, hmade⟩ | ⟨mode, hfile⟩
    · exact Or.inr (Or.inl ⟨hsame.symm.trans hnone', hmade'⟩)
    · rw [hmade] at hnone'
      cases hnone'
    · rw [hfile] at hnone'
      cases hnone'
  · exact Or.inr (Or.inr hfile')

/-- A way that can be passed stays so. -/
theorem passable (h : tree.Leaves place content tree') {path : FilePath}
    (hpath : tree.Passable path) : tree'.Passable path :=
  fun p hp ↦ h.directory p (hpath p hp)

/-- What is there stays there in some form. -/
theorem node_ne_none (h : tree.Leaves place content tree') (hnode : tree.node? place ≠ none) :
    tree'.node? place ≠ none := by
  rcases h.node with hsame | ⟨-, hmade⟩ | ⟨mode, hfile⟩
  · rwa [hsame]
  · simp [hmade]
  · simp [hfile]

/-- A change at one place leaves what the change puts there, if it is at the place in question. -/
theorem of_keeps {changed : FilePlace} (h : tree.Keeps (· = changed) tree')
    (hnode : tree.node? changed = none ∧ tree'.node? changed = some .directory ∨
      ∃ mode, tree'.node? changed = some (.file content mode)) :
    tree.Leaves place content tree' := by
  refine ⟨h.directory, ?_⟩
  by_cases hplace : place = changed
  · subst hplace
    exact Or.inr hnode
  · exact Or.inl (h.other place hplace)

end Leaves

theorem ensureDirectory_leaves (tree : FileTree) (path : FilePath) (place : FilePlace)
    (content : ByteArray) : tree.Leaves place content (tree.ensureDirectory path).2 := by
  rw [ensureDirectory]
  cases hmade : tree.makeDirectory path with
  | error cause => exact .refl _ _ _
  | ok made =>
    have hkeeps := makeDirectory_keeps hmade
    obtain ⟨hnone, rfl⟩ := makeDirectory_eq_ok hmade
    have hne : tree.node? path.place ≠ some .directory := by rw [hnone]; simp
    have hnames : path.place.names ≠ [] := names_ne_nil_of_node hne
    exact .of_keeps hkeeps (Or.inl ⟨hnone, by rw [node_put hnames, if_pos rfl]⟩)

theorem ensureDirectoriesWithin_leaves (steps : Nat) (tree : FileTree) (path : FilePath)
    (place : FilePlace) (content : ByteArray) :
    tree.Leaves place content (ensureDirectoriesWithin steps tree path).2 := by
  induction steps generalizing path with
  | zero => exact ensureDirectory_leaves tree path place content
  | succ steps ih =>
    rw [ensureDirectoriesWithin]
    split
    · have hparent := ih path.parent
      split
      · rename_i error between hbetween
        rwa [hbetween] at hparent
      · rename_i between hbetween
        rw [hbetween] at hparent
        exact hparent.trans (ensureDirectory_leaves between path place content)
    · exact ensureDirectory_leaves tree path place content

theorem ensureDirectories_leaves (tree : FileTree) (path : FilePath) (place : FilePlace)
    (content : ByteArray) : tree.Leaves place content (tree.ensureDirectories path).2 :=
  ensureDirectoriesWithin_leaves _ tree path place content

/-- **Writing a file and giving it a mode leaves the file at its path**, and elsewhere what was
there. -/
theorem write_setMode_leaves {refusals : Refusals} {path : FilePath} {content : ByteArray}
    (h : tree.write refusals path content = .ok tree') (mode : Nat) (place : FilePlace) :
    tree.Leaves place content (tree'.setMode refusals path mode) := by
  obtain ⟨-, -, hfile, hwritten⟩ := write_eq_ok h
  obtain ⟨hnode, hmode⟩ := setMode_file hfile refusals mode
  exact .of_keeps (hwritten.trans hmode) (Or.inr hnode)

/-- **Moving a file leaves it at the target**, also if it was there already. -/
theorem replace_leaves {refusals : Refusals} {source target : FilePath} {content : ByteArray}
    {mode : Nat} (hnode : tree.node? source.place = some (.file content mode))
    (h : tree.replace refusals source target = .ok tree') :
    tree.Leaves target.place content tree' ∧ tree'.Passable target ∧
      tree'.node? target.place = some (.file content mode) := by
  by_cases hne : source.place = target.place
  · obtain ⟨hpassable, -, hmoved⟩ := replace_moves hnode h
    rw [if_pos hne] at hmoved
    subst hmoved
    exact ⟨.refl _ _ _, hpassable, hne ▸ hnode⟩
  · obtain ⟨hpassable, htarget, hkeeps⟩ := replace_eq_ok hnode hne h
    exact ⟨⟨hkeeps.directory, Or.inr (Or.inr ⟨mode, htarget⟩)⟩, hkeeps.passable hpassable, htarget⟩

end TokenBroker.FileTree
