import Mathlib.Data.List.Basic
import TokenBroker.Config.Value

/-!
# Maps over maps

A map is read by its names, and `find?` takes the first entry with a name. So what a map says after
entries have been put in, or after another map has been laid over it, is known once it is known for
every name (`find?_insert`, `find?_overEntries`). The map above has to have every key once
(`Keyed`); the one below may be anything.

Two levels are enough for settings: `at?` reads a name within a section, and
`at?_overEntries` says that laying one configuration over another is done leaf by leaf.
-/

namespace TokenBroker.ConfigValue

variable {name area : String} {key : Json} {value : ConfigValue} {entries : ConfigEntries}

/-- Whether a value is a map. -/
def isMap : ConfigValue → Bool
  | .map _ => true
  | _ => false

/-- No two keys are the same. -/
def Keyed (entries : ConfigEntries) : Prop :=
  (entries.map Prod.fst).Pairwise fun a b ↦ Json.same a b = false

/-- Every map that is reached through maps has each of its keys once. -/
inductive Tidy : ConfigValue → Prop
  | map {entries : ConfigEntries} (keyed : Keyed entries)
      (values : ∀ entry ∈ entries, Tidy entry.2) : Tidy (.map entries)
  | single {value : ConfigValue} (h : value.isMap = false) : Tidy value

theorem Tidy.keyed (h : Tidy (.map entries)) : Keyed entries := by
  cases h with
  | map keyed values => exact keyed
  | single h => cases h

theorem Tidy.values (h : Tidy (.map entries)) : ∀ entry ∈ entries, Tidy entry.2 := by
  cases h with
  | map keyed values => exact values
  | single h => cases h

/-! ### Finding -/

theorem find?_cons (entry : Json × ConfigValue) (rest : ConfigEntries) :
    find? name (entry :: rest) = if entry.1 = .str name then some entry.2 else find? name rest :=
  rfl

theorem find?_append (entries others : ConfigEntries) :
    find? name (entries ++ others) = (find? name entries).or (find? name others) := by
  induction entries with
  | nil => rfl
  | cons entry rest ih =>
    rw [List.cons_append, find?_cons, find?_cons, ih]
    split <;> rfl

theorem find?_eq_none_iff : find? name entries = none ↔ ∀ entry ∈ entries, entry.1 ≠ .str name := by
  induction entries with
  | nil => simp [find?]
  | cons entry rest ih =>
    rw [find?_cons, List.forall_mem_cons]
    split
    · rename_i heq
      simp [heq]
    · rename_i hne
      rw [ih, and_iff_right hne]

theorem mem_of_find? (h : find? name entries = some value) : (.str name, value) ∈ entries := by
  induction entries with
  | nil => cases h
  | cons entry rest ih =>
    rw [find?_cons] at h
    split at h
    · rename_i heq
      rw [← heq, ← Option.some.inj h]
      exact List.mem_cons_self
    · exact List.mem_cons_of_mem _ (ih h)

/-- The entry whose key is the same as a text is the one with the name. -/
theorem find?_same_str (entries : ConfigEntries) :
    entries.find? (fun entry ↦ Json.same entry.1 (.str name)) =
      (find? name entries).map (Prod.mk (.str name)) := by
  induction entries with
  | nil => rfl
  | cons entry rest ih =>
    rw [List.find?_cons, find?_cons, ih]
    by_cases heq : entry.1 = .str name
    · rw [if_pos heq, Json.same_str_right_iff.2 heq, Option.map_some, ← heq]
    · rw [if_neg heq, Bool.eq_false_iff.2 fun hsame ↦ heq (Json.same_str_right_iff.1 hsame)]

/-! ### Putting entries in -/

/-- **An entry that is put in is found under its name, and hides no other.** -/
theorem find?_insert (key : Json) (value : ConfigValue) (entries : ConfigEntries) :
    find? name (insert key value entries) =
      if key = .str name then some value else find? name entries := by
  induction entries with
  | nil => rfl
  | cons entry rest ih =>
    obtain ⟨other, old⟩ := entry
    rw [insert]
    by_cases hsame : Json.same other key = true
    · rw [if_pos hsame, find?_cons, find?_cons]
      by_cases hkey : key = .str name
      · rw [if_pos hkey, if_pos (Json.same_str_right_iff.1 (hkey ▸ hsame))]
      · have hother : other ≠ .str name := fun heq ↦
          hkey (Json.same_str_right_iff.1 (Json.same_symm (heq ▸ hsame)))
        rw [if_neg hkey, if_neg hother, if_neg hother]
    · rw [if_neg hsame, find?_cons, find?_cons, ih]
      by_cases hkey : key = .str name
      · have hother : other ≠ .str name := fun heq ↦
          hsame (Json.same_str_right_iff.2 heq ▸ hkey ▸ rfl)
        rw [if_neg hother, if_pos hkey, if_pos hkey]
      · rw [if_neg hkey, if_neg hkey]

theorem insert_of_forall (h : ∀ entry ∈ entries, Json.same entry.1 key = false)
    (value : ConfigValue) : insert key value entries = entries ++ [(key, value)] := by
  induction entries with
  | nil => rfl
  | cons entry rest ih =>
    rw [List.forall_mem_cons] at h
    rw [insert, if_neg (by rw [h.1]; decide), ih h.2, List.cons_append]

theorem keys_insert (key : Json) (value : ConfigValue) (entries : ConfigEntries) :
    (insert key value entries).map Prod.fst = entries.map Prod.fst ∨
      (∀ other ∈ entries.map Prod.fst, Json.same other key = false) ∧
        (insert key value entries).map Prod.fst = entries.map Prod.fst ++ [key] := by
  induction entries with
  | nil => exact Or.inr ⟨fun _ h ↦ absurd h List.not_mem_nil, rfl⟩
  | cons entry rest ih =>
    rw [insert]
    split
    · exact Or.inl rfl
    · rename_i hsame
      rcases ih with hkeys | ⟨hnew, hkeys⟩
      · exact Or.inl (by rw [List.map_cons, hkeys, List.map_cons])
      · refine Or.inr ⟨List.forall_mem_cons.2 ⟨Bool.eq_false_iff.2 hsame, hnew⟩, ?_⟩
        rw [List.map_cons, hkeys, List.map_cons, List.cons_append]

theorem Keyed.insert (h : Keyed entries) (key : Json) (value : ConfigValue) :
    Keyed (insert key value entries) := by
  rw [Keyed]
  rcases keys_insert key value entries with hkeys | ⟨hnew, hkeys⟩
  · rw [hkeys]
    exact h
  · rw [hkeys, List.pairwise_append]
    refine ⟨h, List.pairwise_singleton _ _, fun other hother new hmem ↦ ?_⟩
    rw [List.mem_singleton.1 hmem]
    exact hnew other hother

theorem keyed_nil : Keyed [] :=
  List.Pairwise.nil

/-- What is put in is all that is new. -/
theorem forall_mem_insert {P : ConfigValue → Prop} (hvalue : P value)
    (h : ∀ entry ∈ entries, P entry.2) : ∀ entry ∈ insert key value entries, P entry.2 := by
  induction entries with
  | nil => exact List.forall_mem_singleton.2 hvalue
  | cons entry rest ih =>
    rw [List.forall_mem_cons] at h
    rw [insert]
    split
    · exact List.forall_mem_cons.2 ⟨hvalue, h.2⟩
    · exact List.forall_mem_cons.2 ⟨h.1, ih h.2⟩

/-! ### Repeated keys -/

/-- **Whatever the entries are, each key is left once.** -/
theorem tidy_distinct (h : ∀ entry ∈ entries, Tidy entry.2) : Tidy (.map (distinct entries)) := by
  have hfold : ∀ kept : ConfigEntries, Keyed kept → (∀ entry ∈ kept, Tidy entry.2) →
      Tidy (.map (entries.foldl (fun kept entry ↦ insert entry.1 entry.2 kept) kept)) := by
    induction entries with
    | nil => exact fun kept hkeyed hvalues ↦ .map hkeyed hvalues
    | cons entry rest ih =>
      rw [List.forall_mem_cons] at h
      exact fun kept hkeyed hvalues ↦
        ih h.2 _ (hkeyed.insert entry.1 entry.2) (forall_mem_insert h.1 hvalues)
  exact hfold [] keyed_nil fun entry hentry ↦ absurd hentry List.not_mem_nil

/-- A key that comes after keys is different from all of them. -/
theorem Keyed.head_of_append {kept rest : ConfigEntries} {entry : Json × ConfigValue}
    (h : Keyed (kept ++ entry :: rest)) : ∀ other ∈ kept, Json.same other.1 entry.1 = false := by
  rw [Keyed, List.map_append, List.pairwise_append] at h
  exact fun other hother ↦ h.2.2 other.1 (List.mem_map_of_mem hother) entry.1 List.mem_cons_self

theorem distinct_of_keyed (h : Keyed entries) : distinct entries = entries := by
  have hfold : ∀ kept : ConfigEntries, Keyed (kept ++ entries) →
      entries.foldl (fun kept entry ↦ insert entry.1 entry.2 kept) kept = kept ++ entries := by
    clear h
    induction entries with
    | nil => exact fun kept _ ↦ (List.append_nil kept).symm
    | cons entry rest ih =>
      intro kept hkeyed
      have hinsert := insert_of_forall hkeyed.head_of_append entry.2
      rw [← List.singleton_append, ← List.append_assoc] at hkeyed
      show rest.foldl _ (insert entry.1 entry.2 kept) = _
      rw [hinsert, ih _ hkeyed, List.append_assoc, List.singleton_append]
  exact hfold [] h

/-! ### One map over another -/

/-- What a value comes to over what stands below it, where there may be either. -/
def over? (below? : Option ConfigValue) : Option ConfigValue → Option ConfigValue
  | none => below?
  | some value => some ((below?.map fun below ↦ joined below value).getD value)

@[simp] theorem over?_none (below? : Option ConfigValue) : over? below? none = below? := rfl

@[simp] theorem none_over? (above? : Option ConfigValue) : over? none above? = above? := by
  cases above? <;> rfl

theorem joined_of_isMap_eq_false (h : value.isMap = false) (below : ConfigValue) :
    joined below value = value := by
  cases value with
  | map entries => cases h
  | _ => rw [joined]; rintro entries heq; cases heq

/-- What is no map replaces whatever stands below it. -/
theorem over?_of_isMap_eq_false (h : value.isMap = false) (below? : Option ConfigValue) :
    over? below? (some value) = some value := by
  cases below? with
  | none => rfl
  | some below => exact congrArg some (joined_of_isMap_eq_false h below)

theorem overEntries_cons (below : ConfigEntries) (entry : Json × ConfigValue)
    (rest : ConfigEntries) :
    overEntries below (entry :: rest) =
      overEntries (insert entry.1 (((below.find? fun other ↦ Json.same other.1 entry.1).map
        fun other ↦ joined other.2 entry.2).getD entry.2) below) rest := by
  rw [overEntries]
  cases below.find? fun other ↦ Json.same other.1 entry.1 <;> rfl

/-- **A map over another says what it says over what the other says.** -/
theorem find?_overEntries {above : ConfigEntries} (h : Keyed above) (name : String)
    (below : ConfigEntries) :
    find? name (overEntries below above) = over? (find? name below) (find? name above) := by
  induction above generalizing below with
  | nil => rw [overEntries]; rfl
  | cons entry rest ih =>
    obtain ⟨hnew, hrest⟩ := List.pairwise_cons.1 h
    rw [overEntries_cons, ih hrest, find?_insert, find?_cons]
    by_cases hkey : entry.1 = .str name
    · have habsent : find? name rest = none := by
        refine find?_eq_none_iff.2 fun other hother heq ↦ ?_
        have hdifferent := hnew other.1 (List.mem_map_of_mem hother)
        rw [hkey, heq, Json.same_self] at hdifferent
        cases hdifferent
      rw [if_pos hkey, if_pos hkey, habsent, hkey, find?_same_str, Option.map_map]
      rfl
    · rw [if_neg hkey, if_neg hkey]

theorem overEntries_nil {above : ConfigEntries} (h : Keyed above) :
    overEntries [] above = above := by
  have hover : ∀ kept : ConfigEntries, Keyed (kept ++ above) →
      overEntries kept above = kept ++ above := by
    clear h
    induction above with
    | nil => exact fun kept _ ↦ by rw [overEntries, List.append_nil]
    | cons entry rest ih =>
      intro kept hkeyed
      have hnew := hkeyed.head_of_append
      have habsent : kept.find? (fun other ↦ Json.same other.1 entry.1) = none :=
        List.find?_eq_none.2 fun other hother ↦ by rw [hnew other hother]; decide
      rw [← List.singleton_append, ← List.append_assoc] at hkeyed
      rw [overEntries_cons, habsent, Option.map_none, Option.getD_none, insert_of_forall hnew,
        ih _ hkeyed, List.append_assoc, List.singleton_append]
  exact hover [] h

/-! ### Names within sections -/

/-- The value under a name in the map under another. -/
def at? (area name : String) (entries : ConfigEntries) : Option ConfigValue :=
  match find? area entries with
  | some (.map below) => find? name below
  | _ => none

theorem at?_of_find? {below : ConfigEntries} (h : find? area entries = some (.map below)) :
    at? area name entries = find? name below := by
  rw [at?, h]

theorem at?_of_find?_eq_none (h : find? area entries = none) : at? area name entries = none := by
  rw [at?, h]

/-- **Sections are laid over each other name by name.** -/
theorem at?_overEntries {above : ConfigEntries} (h : Tidy (.map above))
    (hsection : ∀ value, find? area above = some value → value.isMap = true)
    (below : ConfigEntries) :
    at? area name (overEntries below above) =
      over? (at? area name below) (at? area name above) := by
  have hmerged := find?_overEntries h.keyed area below
  cases habove : find? area above with
  | none =>
    rw [habove, over?_none] at hmerged
    rw [at?_of_find?_eq_none habove, over?_none, at?, at?, hmerged]
  | some value =>
    cases value with
    | map above' =>
      have hkeyed : Keyed above' := (h.values _ (mem_of_find? habove)).keyed
      rw [at?_of_find? habove]
      cases hbelow : find? area below with
      | none =>
        rw [habove, hbelow, none_over?] at hmerged
        rw [at?_of_find? hmerged, at?_of_find?_eq_none hbelow, none_over?]
      | some old =>
        rw [habove, hbelow] at hmerged
        cases old with
        | map below' =>
          have hjoined : find? area (overEntries below above) =
              some (.map (overEntries below' above')) := by
            rw [hmerged, over?, Option.map_some, Option.getD_some, joined]
          rw [at?_of_find? hjoined, at?_of_find? hbelow, find?_overEntries hkeyed]
        | _ =>
          have hjoined : find? area (overEntries below above) = some (.map above') := by
            rw [hmerged, over?, Option.map_some, Option.getD_some, joined]
            intro _ heq
            cases heq
          rw [at?_of_find? hjoined, at?, hbelow, none_over?]
    | _ => cases hsection _ habove

end TokenBroker.ConfigValue
