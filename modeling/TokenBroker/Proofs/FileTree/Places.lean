import Mathlib.Data.List.Induction
import TokenBroker.FileTree
import TokenBroker.Proofs.Except

/-!
# Where paths lead

Following a path is a walk over places. Where it ends, `FilePath.place`, and which places it goes
through, `FilePath.way`, are matters of the path alone; the tree decides only whether the walk
succeeds, which it does if there are directories all along the way (`FileTree.locate_eq_ok_iff`). A
path that leads back to a place on its own way ends in a directory if it can be followed at all.

Every name in a directory stands at a place of its own (`FilePath.place_child`), and the way to it
goes through that directory (`FilePath.way_child`).
-/

namespace TokenBroker

/-! ### Walking -/

/-- One step of a walk. -/
def FilePlace.enter (place : FilePlace) (name : String) : FilePlace :=
  if name = ".." then { place with names := place.names.dropLast }
  else { place with names := place.names ++ [name] }

/-- The places that a walk leaves again. -/
def FilePlace.walk (place : FilePlace) : List String → List FilePlace
  | [] => []
  | name :: rest => place :: (place.enter name).walk rest

namespace FilePath

/-- The place where a path begins. -/
def start (path : FilePath) : FilePlace :=
  ⟨path.anchor, []⟩

/-- The place that a path leads to. -/
def place (path : FilePath) : FilePlace :=
  path.names.foldl FilePlace.enter path.start

/-- The places on the way to it. -/
def way (path : FilePath) : List FilePlace :=
  path.start.walk path.names

end FilePath

theorem FilePlace.walk_append (place : FilePlace) (names later : List String) :
    place.walk (names ++ later) = place.walk names ++ (names.foldl enter place).walk later := by
  induction names generalizing place with
  | nil => rfl
  | cons name rest ih =>
    rw [List.cons_append, walk, walk, ih]
    rfl

/-! ### Names in a directory -/

namespace FilePath

theorem child_parent {path : FilePath} {name : String} (h : path.names.getLast? = some name) :
    path.parent.child name = path := by
  obtain ⟨anchor, names⟩ := path
  obtain ⟨before, rfl⟩ := List.getLast?_eq_some_iff.1 h
  simp [parent, child]

@[simp] theorem parent_child (path : FilePath) (name : String) :
    (path.child name).parent = path := by
  simp [parent, child]

theorem way_child (path : FilePath) (name : String) :
    (path.child name).way = path.way ++ [path.place] := by
  simp only [way, child, FilePlace.walk_append]
  rfl

theorem place_child (path : FilePath) {name : String} (h : name ≠ "..") :
    (path.child name).place = { path.place with names := path.place.names ++ [name] } := by
  simp only [place, child, List.foldl_append, List.foldl_cons, List.foldl_nil]
  rw [FilePlace.enter, if_neg h]
  rfl

theorem place_child_up (path : FilePath) :
    (path.child "..").place = { path.place with names := path.place.names.dropLast } := by
  simp only [place, child, List.foldl_append, List.foldl_cons, List.foldl_nil]
  rw [FilePlace.enter, if_pos rfl]
  rfl

/-- Different names in a directory stand at different places. -/
theorem place_child_ne (path : FilePath) {name name' : String} (hup : name ≠ "..")
    (hup' : name' ≠ "..") (h : name ≠ name') :
    (path.child name).place ≠ (path.child name').place := by
  rw [place_child path hup, place_child path hup']
  intro heq
  have hnames := congrArg FilePlace.names heq
  exact h (List.cons.inj (List.append_cancel_left hnames)).1

/-- A walk goes down one name at a time, so it has been in every directory above the one it is in.
-/
theorem dropLast_mem_way (path : FilePath) :
    ∀ p ∈ path.way ++ [path.place],
      { p with names := p.names.dropLast } ∈ path.way ++ [path.place] := by
  obtain ⟨anchor, names⟩ := path
  -- from the end: the last name is followed from where the others have led
  induction names using List.reverseRec with
  | nil =>
    intro p hp
    rw [List.mem_singleton.1 hp]
    exact List.mem_singleton_self _
  | append_singleton names name ih =>
    have hway : way ⟨anchor, names ++ [name]⟩ = way ⟨anchor, names⟩ ++ [place ⟨anchor, names⟩] :=
      way_child ⟨anchor, names⟩ name
    intro p hp
    rw [hway] at hp ⊢
    rcases List.mem_append.1 hp with hp | hp
    · exact List.mem_append_left _ (ih p hp)
    · rw [List.mem_singleton.1 hp]
      refine List.mem_append_left _ ?_
      by_cases hup : name = ".."
      · subst hup
        rw [show place ⟨anchor, names ++ [".."]⟩ = _ from place_child_up ⟨anchor, names⟩]
        exact ih _ (ih _ (List.mem_append_right _ (List.mem_singleton_self _)))
      · rw [show place ⟨anchor, names ++ [name]⟩ = _ from place_child ⟨anchor, names⟩ hup]
        simp

/-- A path that does not lead back to its own way, nor to its beginning, names something in a
directory. -/
theorem exists_child {path : FilePath} (hnames : path.names ≠ []) (hway : path.place ∉ path.way) :
    ∃ (directory : FilePath) (name : String), path = directory.child name ∧ name ≠ ".." := by
  obtain ⟨name, hname⟩ : ∃ name, path.names.getLast? = some name :=
    Option.isSome_iff_exists.1 (by simpa using hnames)
  refine ⟨path.parent, name, (child_parent hname).symm, ?_⟩
  rintro rfl
  rw [← child_parent hname, way_child, place_child_up] at hway
  exact hway (dropLast_mem_way _ _ (List.mem_append_right _ (List.mem_singleton_self _)))

end FilePath

/-! ### Following a path in a tree -/

namespace FileTree

/-- There are directories all along the way of a path. -/
def Passable (tree : FileTree) (path : FilePath) : Prop :=
  ∀ p ∈ path.way, tree.node? p = some .directory

theorem follow_eq_ok_iff {tree : FileTree} {names : List String} {place p : FilePlace} :
    tree.follow place names = .ok p ↔
      (∀ q ∈ place.walk names, tree.node? q = some .directory) ∧
        p = names.foldl FilePlace.enter place := by
  induction names generalizing place with
  | nil =>
    rw [follow, Except.ok.injEq]
    exact ⟨fun h ↦ ⟨fun q hq ↦ absurd hq List.not_mem_nil, h.symm⟩, fun h ↦ h.2.symm⟩
  | cons name rest ih =>
    have hstep : tree.node? place = some .directory →
        tree.follow place (name :: rest) = tree.follow (place.enter name) rest := by
      intro hnode
      rw [follow, hnode, FilePlace.enter]
      simp only
      split <;> rfl
    constructor
    · intro h
      have hnode : tree.node? place = some .directory := by
        rw [follow] at h
        split at h
        · cases h
        · cases h
        · assumption
      rw [hstep hnode, ih] at h
      exact ⟨List.forall_mem_cons.2 ⟨hnode, h.1⟩, h.2⟩
    · rintro ⟨hway, hp⟩
      obtain ⟨hnode, hrest⟩ := List.forall_mem_cons.1 hway
      rw [hstep hnode, ih]
      exact ⟨hrest, hp⟩

/-- **A path can be followed if there are directories all along its way**, and then it leads to its
place. -/
theorem locate_eq_ok_iff {tree : FileTree} {path : FilePath} {p : FilePlace} :
    tree.locate path = .ok p ↔ tree.Passable path ∧ p = path.place :=
  follow_eq_ok_iff

/-- What can be reached and is no directory is not on its own way. -/
theorem Passable.place_not_mem_way {tree : FileTree} {path : FilePath} (h : tree.Passable path)
    (hnode : tree.node? path.place ≠ some .directory) : path.place ∉ path.way :=
  fun hmem ↦ hnode (h _ hmem)

theorem lookup_of_passable {tree : FileTree} {path : FilePath} (h : tree.Passable path)
    {node : FileNode} (hnode : tree.node? path.place = some node) :
    tree.lookup path = .ok node := by
  rw [lookup, locate_eq_ok_iff.2 ⟨h, rfl⟩]
  simp only [bind, Except.bind, hnode]
  rfl

theorem lookup_eq_ok {tree : FileTree} {path : FilePath} {node : FileNode}
    (h : tree.lookup path = .ok node) :
    tree.Passable path ∧ tree.node? path.place = some node := by
  rw [lookup, Except.bind_eq_ok_iff] at h
  obtain ⟨p, hlocate, h⟩ := h
  obtain ⟨hpassable, rfl⟩ := locate_eq_ok_iff.1 hlocate
  split at h
  · rename_i found hfound
    obtain rfl : found = node := Except.ok.inj h
    exact ⟨hpassable, hfound⟩
  · cases h

theorem exists_of_passable {tree : FileTree} {path : FilePath} (h : tree.Passable path)
    {node : FileNode} (hnode : tree.node? path.place = some node) : tree.exists? path = true := by
  rw [exists?, lookup_of_passable h hnode]
  rfl

theorem lookup_of_node_eq_none {tree : FileTree} {path : FilePath}
    (h : tree.node? path.place = none) : ∃ cause, tree.lookup path = .error cause := by
  cases hlookup : tree.lookup path with
  | error cause => exact ⟨cause, rfl⟩
  | ok node =>
    rw [(lookup_eq_ok hlookup).2] at h
    cases h

theorem exists_of_node_eq_none {tree : FileTree} {path : FilePath}
    (h : tree.node? path.place = none) : tree.exists? path = false := by
  obtain ⟨cause, hlookup⟩ := lookup_of_node_eq_none h
  rw [exists?, hlookup]
  rfl

theorem toOption_read_of_node_eq_none {tree : FileTree} {path : FilePath}
    (h : tree.node? path.place = none) : (tree.read path).toOption = none := by
  obtain ⟨cause, hlookup⟩ := lookup_of_node_eq_none h
  rw [read, hlookup]
  rfl

/-- **A file can be read if it is at the place of its path** and the path can be followed. -/
theorem read_eq_ok_iff {tree : FileTree} {path : FilePath} {content : ByteArray} :
    tree.read path = .ok content ↔
      tree.Passable path ∧ ∃ mode, tree.node? path.place = some (.file content mode) := by
  constructor
  · intro h
    obtain ⟨node, hlookup, h⟩ := Except.bind_eq_ok_iff.1 (Except.of_mapError_eq_ok h)
    obtain ⟨hpassable, hnode⟩ := lookup_eq_ok hlookup
    split at h
    · rename_i old mode
      obtain rfl : old = content := Except.ok.inj h
      exact ⟨hpassable, mode, hnode⟩
    · cases h
  · rintro ⟨hpassable, mode, hnode⟩
    rw [read, lookup_of_passable hpassable hnode]
    rfl

end FileTree

end TokenBroker
