import TokenBroker.Number.Shortest

/-!
# JSON values

Values with the members of objects in order, since documents and messages show that order. Numbers
are integers of any size or binary64 numbers, told apart by how they are written.

Two values are the *same* (`Json.same`) when they have one canonical form: truth values count as
the integers 0 and 1, binary64 numbers that are integers count as those, and the order of members
does not matter. This is the equality by which stored names and ids are compared.
-/

namespace TokenBroker

/-- A JSON value. -/
inductive Json
  | null
  | bool (b : Bool)
  | int (n : Int)
  | float (x : Binary64)
  | str (s : String)
  | arr (items : List Json)
  | obj (members : List (String × Json))
  deriving Inhabited, Repr

namespace Json

/-! ### Decidable equality -/

mutual

/-- Structural equality, decided. -/
def decEq : (a b : Json) → Decidable (a = b)
  | .null, .null => isTrue rfl
  | .bool a, .bool b =>
    if h : a = b then isTrue (h ▸ rfl) else isFalse fun e => h (by injection e)
  | .int a, .int b =>
    if h : a = b then isTrue (h ▸ rfl) else isFalse fun e => h (by injection e)
  | .float a, .float b =>
    if h : a = b then isTrue (h ▸ rfl) else isFalse fun e => h (by injection e)
  | .str a, .str b =>
    if h : a = b then isTrue (h ▸ rfl) else isFalse fun e => h (by injection e)
  | .arr a, .arr b =>
    match decEqItems a b with
    | isTrue h => isTrue (h ▸ rfl)
    | isFalse h => isFalse fun e => h (by injection e)
  | .obj a, .obj b =>
    match decEqMembers a b with
    | isTrue h => isTrue (h ▸ rfl)
    | isFalse h => isFalse fun e => h (by injection e)
  | .null, .bool _ | .null, .int _ | .null, .float _ | .null, .str _ | .null, .arr _
  | .null, .obj _ | .bool _, .null | .bool _, .int _ | .bool _, .float _ | .bool _, .str _
  | .bool _, .arr _ | .bool _, .obj _ | .int _, .null | .int _, .bool _ | .int _, .float _
  | .int _, .str _ | .int _, .arr _ | .int _, .obj _ | .float _, .null | .float _, .bool _
  | .float _, .int _ | .float _, .str _ | .float _, .arr _ | .float _, .obj _ | .str _, .null
  | .str _, .bool _ | .str _, .int _ | .str _, .float _ | .str _, .arr _ | .str _, .obj _
  | .arr _, .null | .arr _, .bool _ | .arr _, .int _ | .arr _, .float _ | .arr _, .str _
  | .arr _, .obj _ | .obj _, .null | .obj _, .bool _ | .obj _, .int _ | .obj _, .float _
  | .obj _, .str _ | .obj _, .arr _ => isFalse nofun

/-- Equality of item lists, decided. -/
def decEqItems : (a b : List Json) → Decidable (a = b)
  | [], [] => isTrue rfl
  | [], _ :: _ => isFalse nofun
  | _ :: _, [] => isFalse nofun
  | x :: a, y :: b =>
    match decEq x y, decEqItems a b with
    | isTrue h, isTrue h' => isTrue (h ▸ h' ▸ rfl)
    | isFalse h, _ => isFalse fun e => h (by injection e)
    | _, isFalse h => isFalse fun e => h (by injection e)

/-- Equality of member lists, decided. -/
def decEqMembers : (a b : List (String × Json)) → Decidable (a = b)
  | [], [] => isTrue rfl
  | [], _ :: _ => isFalse nofun
  | _ :: _, [] => isFalse nofun
  | (k, x) :: a, (l, y) :: b =>
    if hk : k = l then
      match decEq x y, decEqMembers a b with
      | isTrue h, isTrue h' => isTrue (hk ▸ h ▸ h' ▸ rfl)
      | isFalse h, _ => isFalse fun e => h (by injection e with e; injection e)
      | _, isFalse h => isFalse fun e => h (by injection e)
    else isFalse fun e => hk (by injection e with e; injection e)

end

instance : DecidableEq Json := decEq

/-! ### Members -/

/-- The value of the first member with a name. -/
def find? (name : String) : List (String × Json) → Option Json
  | [] => none
  | (key, value) :: rest => if key = name then some value else find? name rest

/-- The value of a member of an object; none for every other value. -/
def get? (name : String) : Json → Option Json
  | .obj members => find? name members
  | _ => none

/-- Gives a member a value, in its place if the name is there and at the end if not. -/
def setMember (name : String) (value : Json) : List (String × Json) → List (String × Json)
  | [] => [(name, value)]
  | (key, old) :: rest =>
    if key = name then (key, value) :: rest else (key, old) :: setMember name value rest

/-- The members that remain of a list with repeated names: each name in its first place with its
last value. -/
def distinctMembers (members : List (String × Json)) : List (String × Json) :=
  members.foldl (fun kept (name, value) => setMember name value kept) []

/-! ### Truth -/

/-- Whether a value counts as present: not null, false, zero, or empty. -/
def truthy : Json → Bool
  | .null => false
  | .bool b => b
  | .int n => n != 0
  | .float x => !x.isZero
  | .str s => !s.isEmpty
  | .arr items => !items.isEmpty
  | .obj members => !members.isEmpty

/-- Whether a value can serve as a key: arrays and objects cannot. -/
def hashable : Json → Bool
  | .arr _ => false
  | .obj _ => false
  | _ => true

/-! ### Sameness -/

/-- Inserts a member before the first one with a greater name. -/
def insertByName (member : String × Json) : List (String × Json) → List (String × Json)
  | [] => [member]
  | other :: rest =>
    if other.1 < member.1 then other :: insertByName member rest else member :: other :: rest

mutual

/-- The canonical form of a value. -/
def canon : Json → Json
  | .null => .null
  | .bool b => .int (if b then 1 else 0)
  | .int n => .int n
  | .float x =>
    match x.toInt? with
    | some n => .int n
    | none => .float x
  | .str s => .str s
  | .arr items => .arr (canonItems items)
  | .obj members => .obj (canonMembers members)

/-- The canonical forms of items, in their order. -/
def canonItems : List Json → List Json
  | [] => []
  | item :: rest => canon item :: canonItems rest

/-- The canonical forms of members, in the order of their names. -/
def canonMembers : List (String × Json) → List (String × Json)
  | [] => []
  | (name, value) :: rest => insertByName (name, canon value) (canonMembers rest)

end

/-- Whether two values are equal as stored names and ids are. -/
def same (a b : Json) : Bool :=
  decide (a.canon = b.canon)

@[simp] theorem canon_null : canon .null = .null := by rw [canon]

@[simp] theorem canon_str (s : String) : canon (.str s) = .str s := by rw [canon]

@[simp] theorem same_self (a : Json) : same a a = true := by simp [same]

theorem same_symm {a b : Json} (h : same a b = true) : same b a = true := by
  simpa [same, eq_comm] using h

theorem same_trans {a b c : Json} (hab : same a b = true) (hbc : same b c = true) :
    same a c = true := by
  simp only [same, decide_eq_true_eq] at *
  exact hab.trans hbc

@[simp] theorem same_str (s t : String) : same (.str s) (.str t) = decide (s = t) := by
  simp [same]

/-- A text is the same as no other value. -/
theorem same_str_right_iff {a : Json} {s : String} : same a (.str s) = true ↔ a = .str s := by
  rw [same, decide_eq_true_eq, canon_str]
  constructor
  · intro h
    cases a with
    | str t => rwa [canon_str] at h
    | float x =>
      rw [canon] at h
      split at h <;> cases h
    | _ =>
      rw [canon] at h
      cases h
  · rintro rfl
    exact canon_str s

/-! ### Abbreviations -/

/-- A text or null. -/
def ofText? : Option String → Json
  | none => .null
  | some s => .str s

/-- The text of a value, if it is one. -/
def text? : Json → Option String
  | .str s => some s
  | _ => none

end Json

end TokenBroker
