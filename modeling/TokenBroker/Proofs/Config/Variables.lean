import TokenBroker.Config.Variables
import TokenBroker.Proofs.Config.Leaves
import TokenBroker.Proofs.Except
import TokenBroker.Proofs.Text.Lowercase
import TokenBroker.Proofs.Text.Split

/-!
# What variables say about a leaf

The variable of a leaf is named for its section and its name (`Leaf.variableName`). Variables are
put in one after the other, and others may lead to the same section or further down, in any order.
If there is no variable for the section as a whole, then the variable of a leaf says what the leaf
is (`Leaf.exists_at?_of_set`); without it, and without variables that lead below the leaf, nothing
is said about the leaf (`Leaf.at?_of_unset`).

What carries this through the run over the variables is `nested?_induction`: a property that each
variable preserves when it is put in holds in the end.
-/

namespace TokenBroker.Variables

open ConfigValue

/-! ### Names in lowercase -/

theorem mem_withValue {key other : String} {value : String} {env : Environment} :
    other ∈ (Keyring.withValue key value env).map Prod.fst ↔
      other = key ∨ other ∈ env.map Prod.fst := by
  induction env with
  | nil => simp [Keyring.withValue]
  | cons entry rest ih =>
    rw [Keyring.withValue]
    split
    · rename_i heq
      simp [heq]
    · rw [List.map_cons, List.mem_cons, ih, List.map_cons, List.mem_cons]
      exact or_left_comm

theorem nodup_withValue {env : Environment} (h : (env.map Prod.fst).Nodup) (key value : String) :
    ((Keyring.withValue key value env).map Prod.fst).Nodup := by
  induction env with
  | nil => exact List.nodup_cons.2 ⟨List.not_mem_nil, List.nodup_nil⟩
  | cons entry rest ih =>
    obtain ⟨hnew, hrest⟩ := List.nodup_cons.1 h
    rw [Keyring.withValue]
    split
    · rename_i heq
      rw [← heq]
      exact h
    · rename_i hne
      refine List.nodup_cons.2 ⟨?_, ih hrest⟩
      rw [mem_withValue]
      rintro (heq | hmem)
      · exact hne heq
      · exact hnew hmem

/-- **Each name in lowercase counts once**, and all names are in lowercase. -/
theorem lowerNames_spec (env : Environment) :
    ((lowerNames env).map Prod.fst).Nodup ∧
      ∀ name ∈ (lowerNames env).map Prod.fst, ∀ c ∈ name.toList, ¬ Text.IsCapital c := by
  have hfold : ∀ kept : Environment, (kept.map Prod.fst).Nodup →
      (∀ name ∈ kept.map Prod.fst, ∀ c ∈ name.toList, ¬ Text.IsCapital c) →
      let result := env.foldl
        (fun kept entry ↦ Keyring.withValue (lowered entry.1) entry.2 kept) kept
      (result.map Prod.fst).Nodup ∧
        ∀ name ∈ result.map Prod.fst, ∀ c ∈ name.toList, ¬ Text.IsCapital c := by
    induction env with
    | nil => exact fun kept hnodup hlower ↦ ⟨hnodup, hlower⟩
    | cons entry rest ih =>
      intro kept hnodup hlower
      refine ih _ (nodup_withValue hnodup (lowered entry.1) entry.2) fun name hname ↦ ?_
      rcases mem_withValue.1 hname with rfl | hmem
      · rw [lowered, String.toList_ofList]
        exact fun c hc ↦ Text.not_isCapital_of_mem_lowerAfter hc
      · exact hlower name hmem
  exact hfold [] List.nodup_nil fun _ h ↦ absurd h List.not_mem_nil

/-- A variable that is set stands somewhere, and none of its name after it. -/
theorem exists_split_of_valueOf? {env : Environment} (hnodup : (env.map Prod.fst).Nodup)
    {name text : String} (h : Keyring.valueOf? name env = some text) :
    ∃ before after, env = before ++ (name, text) :: after ∧ ∀ entry ∈ after, entry.1 ≠ name := by
  induction env with
  | nil => cases h
  | cons entry rest ih =>
    obtain ⟨other, value⟩ := entry
    obtain ⟨hnew, hrest⟩ := List.nodup_cons.1 hnodup
    rw [Keyring.valueOf?] at h
    split at h
    · rename_i heq
      cases h
      refine ⟨[], rest, by rw [List.nil_append, ← heq], fun entry hentry heq' ↦ hnew ?_⟩
      show other ∈ _
      rw [heq, ← heq']
      exact List.mem_map_of_mem hentry
    · obtain ⟨before, after, rfl, hafter⟩ := ih hrest h
      exact ⟨(other, value) :: before, after, rfl, hafter⟩

theorem valueOf?_eq_none {env : Environment} {name : String} (h : ∀ entry ∈ env, entry.1 ≠ name) :
    Keyring.valueOf? name env = none := by
  induction env with
  | nil => rfl
  | cons entry rest ih =>
    rw [List.forall_mem_cons] at h
    rw [Keyring.valueOf?, if_neg h.1, ih h.2]

/-! ### The parts of a name -/

theorem parts_ne_nil (cs : List Char) : parts cs ≠ [] := by
  unfold parts
  split
  · exact List.cons_ne_nil _ _
  · exact List.cons_ne_nil _ _
  · split <;> exact List.cons_ne_nil _ _

/-- A name is its first part, or goes on after it with two underscores. -/
theorem parts_cons {cs part : List Char} {others : List (List Char)}
    (h : parts cs = part :: others) :
    cs = part ∧ others = [] ∨ part ++ ['_', '_'] <+: cs ∧ others ≠ [] := by
  induction cs using parts.induct generalizing part others with
  | case1 => cases h; exact Or.inl ⟨rfl, rfl⟩
  | case2 rest ih =>
    rw [parts] at h
    cases h
    exact Or.inr ⟨⟨rest, rfl⟩, parts_ne_nil rest⟩
  | case3 c rest hpair hnil ih => exact absurd hnil (parts_ne_nil rest)
  | case4 c rest hpair first later hparts ih =>
    rw [parts, hparts] at h
    · cases h
      rcases ih hparts with ⟨rfl, rfl⟩ | ⟨hbegins, hlater⟩
      · exact Or.inl ⟨rfl, rfl⟩
      · exact Or.inr ⟨List.cons_prefix_cons.2 ⟨rfl, hbegins⟩, hlater⟩
    · exact hpair

theorem mem_of_mem_parts {cs part : List Char} (h : part ∈ parts cs) : ∀ c ∈ part, c ∈ cs := by
  induction cs using parts.induct generalizing part with
  | case1 =>
    rw [parts, List.mem_singleton] at h
    rw [h]
    exact fun c hc ↦ hc
  | case2 rest ih =>
    rw [parts, List.mem_cons] at h
    rcases h with rfl | h
    · exact fun c hc ↦ absurd hc List.not_mem_nil
    · exact fun c hc ↦ List.mem_cons_of_mem _ (List.mem_cons_of_mem _ (ih h c hc))
  | case3 c rest hpair hnil ih => exact absurd hnil (parts_ne_nil rest)
  | case4 c rest hpair first later hparts ih =>
    rw [parts, hparts, List.mem_cons] at h
    · intro d hd
      rcases h with rfl | h
      · rcases List.mem_cons.1 hd with rfl | hd
        · exact List.mem_cons_self
        · exact List.mem_cons_of_mem _ (ih (hparts ▸ List.mem_cons_self) d hd)
      · exact List.mem_cons_of_mem _ (ih (hparts ▸ List.mem_cons_of_mem _ h) d hd)
    · exact hpair

/-! ### Putting variables in -/

variable {area name : String} {names : List String} {value : ConfigValue} {entries : ConfigEntries}

/-- The value itself, or another map in the place of a map. -/
def Stays (value found : ConfigValue) : Prop :=
  found = value ∨ value.isMap = true ∧ found.isMap = true

theorem Stays.trans {value found later : ConfigValue} (h : Stays value found)
    (hlater : Stays found later) : Stays value later := by
  rcases hlater with rfl | ⟨hfound, hlater⟩
  · exact h
  · rcases h with rfl | ⟨hvalue, -⟩
    · exact Or.inr ⟨hfound, hlater⟩
    · exact Or.inr ⟨hvalue, hlater⟩

/-- Whatever a variable says, at most the entry of its first name is put in. -/
theorem insertAt_cons (value : ConfigValue) (entries : ConfigEntries) (first : String)
    (rest : List String) :
    insertAt value (first :: rest) entries = entries ∨
      ∃ new, insertAt value (first :: rest) entries = insert (.str first) new entries := by
  cases rest with
  | nil => exact Or.inr ⟨value, rfl⟩
  | cons second rest =>
    rw [insertAt]
    · split
      · exact Or.inr ⟨_, rfl⟩
      · exact Or.inl rfl
      · exact Or.inr ⟨_, rfl⟩
    · exact List.cons_ne_nil _ _

theorem find?_insertAt_of_ne {first : String} {rest : List String} (h : first ≠ name) :
    find? name (insertAt value (first :: rest) entries) = find? name entries := by
  rcases insertAt_cons value entries first rest with heq | ⟨new, heq⟩
  · rw [heq]
  · rw [heq, find?_insert, if_neg fun heq ↦ h (Json.str.inj heq)]

theorem find?_insertAt_self : find? name (insertAt value [name] entries) = some value := by
  rw [insertAt, find?_insert, if_pos rfl]

/-- A value that stands at a name is not replaced by what leads below it. -/
theorem exists_find?_insertAt {found : ConfigValue} {rest : List String} (hrest : rest ≠ [])
    (h : find? name entries = some found) :
    ∃ found', find? name (insertAt value (name :: rest) entries) = some found' ∧
      Stays found found' := by
  rw [insertAt, h]
  · cases found with
    | map below =>
      refine ⟨.map (insertAt value rest below), ?_, Or.inr ⟨rfl, rfl⟩⟩
      dsimp only
      rw [find?_insert, if_pos rfl]
    | _ => exact ⟨_, h, Or.inl rfl⟩
  · exact hrest

/-- The names that a variable leads along within a section, if it leads there. -/
def namesIn? (area label : String) : Option (List String) :=
  (Text.dropStart? (start ++ area ++ "__").toList label.toList).map fun path ↦
    (parts path).map String.ofList

/-- **What every variable preserves when it is put in holds in the end.** -/
theorem nested?_induction {P : ConfigEntries → Prop} {vars : Environment}
    (hstep : ∀ label text names value entries, (label, text) ∈ vars →
      namesIn? area label = some names → valueAt? area names text = some value →
      P entries → P (insertAt value names entries))
    {result : ConfigEntries} (h : nested? area vars entries = some result) (hstart : P entries) :
    P result := by
  induction vars generalizing entries with
  | nil =>
    cases h
    exact hstart
  | cons entry rest ih =>
    obtain ⟨label, text⟩ := entry
    have hrest : ∀ other text names value entries, (other, text) ∈ rest →
        namesIn? area other = some names → valueAt? area names text = some value →
        P entries → P (insertAt value names entries) :=
      fun other text names value entries hmem ↦
        hstep other text names value entries (List.mem_cons_of_mem _ hmem)
    rw [nested?] at h
    split at h
    · exact ih hrest h hstart
    · rename_i path hpath
      dsimp only at h
      split at h
      · rename_i value hvalue
        refine ih hrest h (hstep label text _ value entries List.mem_cons_self ?_ hvalue hstart)
        rw [namesIn?, hpath, Option.map_some]
      · cases h

theorem nested?_append (vars others : Environment) :
    nested? area (vars ++ others) entries =
      (nested? area vars entries).bind (nested? area others) := by
  induction vars generalizing entries with
  | nil => rfl
  | cons entry rest ih =>
    obtain ⟨label, text⟩ := entry
    rw [List.cons_append, nested?, nested?]
    split
    · exact ih
    · dsimp only
      split
      · exact ih
      · rfl

/-! ### What is put into a section -/

/-- The variable of a name in a section. -/
def pathName (area name : String) : String :=
  start ++ area ++ "__" ++ name

/-- A variable that leads into a section is that of a name there, or one that leads on below it. -/
theorem namesIn?_cases {label : String} (h : namesIn? area label = some names) :
    ∃ first rest, names = first :: rest ∧
      (rest = [] ∧ label = pathName area first ∨
        rest ≠ [] ∧ (pathName area first ++ "__").toList <+: label.toList) := by
  obtain ⟨path, hpath, rfl⟩ := Option.map_eq_some_iff.1 h
  have hlabel := Text.dropStart?_eq_some_iff.1 hpath
  cases hparts : parts path with
  | nil => exact absurd hparts (parts_ne_nil path)
  | cons first rest =>
    refine ⟨String.ofList first, rest.map String.ofList, rfl, ?_⟩
    rcases parts_cons hparts with ⟨rfl, rfl⟩ | ⟨hbegins, hrest⟩
    · refine Or.inl ⟨rfl, String.toList_inj.1 ?_⟩
      rw [hlabel, pathName, String.toList_append (t := String.ofList path), String.toList_ofList]
    · refine Or.inr ⟨fun hnil ↦ hrest (List.map_eq_nil_iff.1 hnil), ?_⟩
      rw [hlabel, pathName, String.toList_append, String.toList_append, String.toList_ofList,
        List.append_assoc]
      exact List.prefix_append_right_inj _ |>.2 hbegins

/-- Each key stands there once, and is a name in lowercase. -/
structure LowerKeyed (entries : ConfigEntries) : Prop where
  keyed : Keyed entries
  lower : ∀ key ∈ entries.map Prod.fst, ∃ name, key = .str name ∧
    ∀ c ∈ name.toList, ¬ Text.IsCapital c

theorem lowerKeyed_nested? {vars : Environment}
    (hvars : ∀ label ∈ vars.map Prod.fst, ∀ c ∈ label.toList, ¬ Text.IsCapital c)
    {result : ConfigEntries} (h : nested? area vars [] = some result) : LowerKeyed result := by
  refine nested?_induction (fun label text names value entries hmem hnames _ hentries ↦ ?_) h
    ⟨keyed_nil, fun _ hmem ↦ absurd hmem List.not_mem_nil⟩
  obtain ⟨first, rest, rfl, -⟩ := namesIn?_cases hnames
  have hfirst : ∀ c ∈ first.toList, ¬ Text.IsCapital c := by
    obtain ⟨path, hpath, heq⟩ := Option.map_eq_some_iff.1 hnames
    have hlabel := Text.dropStart?_eq_some_iff.1 hpath
    obtain ⟨part, hpart, rfl⟩ := List.mem_map.1 (heq ▸ List.mem_cons_self : first ∈ _)
    intro c hc
    rw [String.toList_ofList] at hc
    refine hvars label (List.mem_map_of_mem hmem) c ?_
    rw [hlabel]
    exact List.mem_append_right _ (mem_of_mem_parts hpart c hc)
  rcases insertAt_cons value entries first rest with heq | ⟨new, heq⟩
  · rw [heq]
    exact hentries
  · rw [heq]
    refine ⟨hentries.keyed.insert _ _, fun key hkey ↦ ?_⟩
    rcases keys_insert (.str first) new entries with hkeys | ⟨-, hkeys⟩
    · exact hentries.lower key (hkeys ▸ hkey)
    · rw [hkeys, List.mem_append, List.mem_singleton] at hkey
      rcases hkey with hkey | rfl
      · exact hentries.lower key hkey
      · exact ⟨first, rfl, hfirst⟩

/-- **The variable of a name is what counts**, among whatever others that lead to the section. -/
theorem find?_nested?_of_set {vars : Environment} (hnodup : (vars.map Prod.fst).Nodup)
    (hname : parts name.toList = [name.toList]) {text : String}
    (hset : Keyring.valueOf? (pathName area name) vars = some text) {result : ConfigEntries}
    (h : nested? area vars [] = some result) :
    ∃ value, valueAt? area [name] text = some value ∧
      ∃ found, find? name result = some found ∧ Stays value found := by
  obtain ⟨before, after, rfl, hafter⟩ := exists_split_of_valueOf? hnodup hset
  rw [nested?_append] at h
  obtain ⟨middle, -, h⟩ := Option.bind_eq_some_iff.1 h
  have hpath : Text.dropStart? (start ++ area ++ "__").toList (pathName area name).toList =
      some name.toList := by
    rw [Text.dropStart?_eq_some_iff, pathName, String.toList_append (t := name)]
  rw [nested?, hpath] at h
  dsimp only at h
  rw [hname, List.map_singleton, String.ofList_toList] at h
  split at h
  · rename_i value hvalue
    refine ⟨value, hvalue, nested?_induction (P := fun entries ↦
      ∃ found, find? name entries = some found ∧ Stays value found) ?_ h
      ⟨value, find?_insertAt_self, Or.inl rfl⟩⟩
    rintro label text names new entries hmem hnames - ⟨found, hfound, hstays⟩
    obtain ⟨first, rest, rfl, hcases⟩ := namesIn?_cases hnames
    by_cases hfirst : first = name
    · have hrest : rest ≠ [] := by
        rcases hcases with ⟨-, rfl⟩ | ⟨hrest, -⟩
        · exact absurd (by rw [hfirst]) (hafter _ hmem)
        · exact hrest
      subst hfirst
      obtain ⟨found', hfound', hstays'⟩ := exists_find?_insertAt hrest hfound
      exact ⟨found', hfound', hstays.trans hstays'⟩
    · exact ⟨found, by rw [find?_insertAt_of_ne hfirst, hfound], hstays⟩
  · cases h

/-- Without variables that lead to a name or below it nothing is said about it. -/
theorem find?_nested?_of_unset {vars : Environment}
    (hunset : ∀ label ∈ vars.map Prod.fst, label ≠ pathName area name ∧
      ¬ (pathName area name ++ "__").toList <+: label.toList) {result : ConfigEntries}
    (h : nested? area vars [] = some result) : find? name result = none := by
  refine nested?_induction (P := fun entries ↦ find? name entries = none)
    (fun label text names value entries hmem hnames _ hentries ↦ ?_) h rfl
  obtain ⟨first, rest, rfl, hcases⟩ := namesIn?_cases hnames
  obtain ⟨hlabel, hbelow⟩ := hunset label (List.mem_map_of_mem hmem)
  have hfirst : first ≠ name := by
    rintro rfl
    rcases hcases with ⟨-, rfl⟩ | ⟨-, hbegins⟩
    · exact hlabel rfl
    · exact hbelow hbegins
  rw [find?_insertAt_of_ne hfirst, hentries]

/-! ### Sections -/

/-- Names in lowercase are written as they are known. -/
theorem withFieldNames_of_lowerKeyed {fieldNames : List String}
    (hascii : ∀ name ∈ fieldNames, ∀ c ∈ name.toList, c.toNat < 0x80) (h : LowerKeyed entries) :
    withFieldNames fieldNames entries = entries := by
  rw [withFieldNames]
  refine (congrArg distinct ?_).trans (distinct_of_keyed h.keyed)
  refine (List.map_congr_left fun entry hentry ↦ ?_).trans (List.map_id entries)
  obtain ⟨key, value⟩ := entry
  obtain ⟨known, rfl, hlower⟩ := h.lower key (List.mem_map_of_mem hentry)
  dsimp only
  split
  · rename_i name hfound
    have hcase : lowered known = name := by simpa [Settings.isCaseOf] using List.find?_some hfound
    have hform := congrArg String.toList hcase
    rw [lowered, String.toList_ofList] at hform
    have hsame : known.toList = name.toList := by
      rw [← hform]
      refine (Text.lowerAfter_of_ascii hlower fun c hc ↦ ?_).symm
      exact hascii name (List.mem_of_find?_eq_some hfound) c (hform ▸ hc)
    rw [← String.toList_inj.1 hsame]
    rfl
  · rfl

/-- A section without a variable of its own says what is put into it. -/
theorem sectionEntry_of_unset {named : Environment} {fieldNames : List String}
    (hascii : ∀ name ∈ fieldNames, ∀ c ∈ name.toList, c.toNat < 0x80)
    (hlower : ∀ label ∈ named.map Prod.fst, ∀ c ∈ label.toList, ¬ Text.IsCapital c)
    (hunset : Keyring.valueOf? (start ++ area) named = none)
    (h : sectionEntry named area fieldNames = .ok entries) :
    ∃ result, nested? area named [] = some result ∧
      ∀ name, at? area name entries = find? name result := by
  cases hnested : nested? area named [] with
  | none =>
    simp only [sectionEntry, sectionValue, hunset, hnested] at h
    cases h
  | some result =>
    have hresult := lowerKeyed_nested? hlower hnested
    refine ⟨result, rfl, fun name ↦ ?_⟩
    have hvalue : sectionValue named area =
        .ok (if result.isEmpty then none else some (.map result)) := by
      simp only [sectionValue, hunset, hnested, overEntries_nil hresult.keyed]
      rfl
    rw [sectionEntry, hvalue] at h
    cases result with
    | nil =>
      cases h
      rfl
    | cons entry rest =>
      dsimp only [List.isEmpty_cons] at h
      rw [if_neg Bool.false_ne_true] at h
      cases h
      rw [withFieldNames_of_lowerKeyed hascii hresult]
      exact at?_of_find? (if_pos rfl)

/-- Nothing but the section is named in the entry of a section. -/
theorem find?_sectionEntry_of_ne {named : Environment} {fieldNames : List String}
    (h : sectionEntry named area fieldNames = .ok entries) (name : String) (hne : area ≠ name) :
    find? name entries = none := by
  rw [sectionEntry] at h
  split at h
  · cases h
  · cases h
    rfl
  · cases h
    exact if_neg fun heq ↦ hne (Json.str.inj heq)
  · cases h
    exact if_neg fun heq ↦ hne (Json.str.inj heq)

/-- The environment is read section by section; the log level comes last. -/
theorem entries_eq_ok {env : Environment} (h : Variables.entries env = .ok entries) :
    (∀ known ∈ Settings.sections, ∃ own,
      sectionEntry (lowerNames env) known.1 known.2 = .ok own ∧
        find? known.1 entries = find? known.1 own) ∧
      find? Settings.logLevelName entries =
        (Keyring.valueOf? (start ++ Settings.logLevelName) (lowerNames env)).map .text := by
  rw [Variables.entries, Except.bind_eq_ok_iff] at h
  obtain ⟨sections, hsections, h⟩ := h
  simp only [Settings.sections, List.mapM_cons, List.mapM_nil, Except.bind_eq_ok_iff] at hsections
  obtain ⟨gitlab, hgitlab, _, ⟨store, hstore, _, ⟨service, hservice, _, hnil, heq⟩, heq'⟩, heq''⟩ :=
    hsections
  cases hnil
  cases heq
  cases heq'
  cases heq''
  obtain ⟨level, rfl, hother, hlevel⟩ : ∃ level : ConfigEntries,
      [gitlab, store, service].flatten ++ level = entries ∧
      (∀ name, Settings.logLevelName ≠ name → find? name level = none) ∧
      find? Settings.logLevelName level =
        (Keyring.valueOf? (start ++ Settings.logLevelName) (lowerNames env)).map .text := by
    cases hset : Keyring.valueOf? (start ++ Settings.logLevelName) (lowerNames env) with
    | none =>
      rw [hset] at h
      exact ⟨[], Except.ok.inj h, fun _ _ ↦ rfl, rfl⟩
    | some written =>
      rw [hset] at h
      exact ⟨[(.str Settings.logLevelName, .text written)], Except.ok.inj h,
        fun name hname ↦ if_neg fun heq ↦ hname (Json.str.inj heq), if_pos rfl⟩
  have hgitlab' := find?_sectionEntry_of_ne hgitlab
  have hstore' := find?_sectionEntry_of_ne hstore
  have hservice' := find?_sectionEntry_of_ne hservice
  simp only [List.flatten_cons, List.flatten_nil, List.append_nil, find?_append,
    Settings.sections, List.forall_mem_cons]
  refine ⟨⟨⟨gitlab, hgitlab, ?_⟩, ⟨store, hstore, ?_⟩, ⟨service, hservice, ?_⟩,
    fun _ hmem ↦ absurd hmem List.not_mem_nil⟩, ?_⟩
  · rw [hstore' _ (by decide), hservice' _ (by decide), hother _ (by decide)]
    simp
  · rw [hgitlab' _ (by decide), hservice' _ (by decide), hother _ (by decide)]
    simp
  · rw [hgitlab' _ (by decide), hstore' _ (by decide), hother _ (by decide)]
    simp
  · rw [hgitlab' _ (by decide), hstore' _ (by decide), hservice' _ (by decide), hlevel]
    simp

end TokenBroker.Variables

namespace TokenBroker.Leaf

open ConfigValue Variables

/-! ### Leaves -/

/-- The name of the variable of a leaf, in lowercase. -/
def variableName (leaf : Leaf) : String :=
  match leaf.area? with
  | some area => pathName area leaf.name
  | none => start ++ leaf.name

/-- What the variable of a leaf says with a text. -/
def valueIn? (leaf : Leaf) (text : String) : Option ConfigValue :=
  match leaf.area? with
  | some area => valueAt? area [leaf.name] text
  | none => some (.text text)

/-- There is no variable for the section of a leaf as a whole. -/
def SectionUnset (env : Environment) (leaf : Leaf) : Prop :=
  ∀ area, leaf.area? = some area → Keyring.valueOf? (start ++ area) (lowerNames env) = none

/-- No variable leads to a leaf or below it. -/
def Unset (env : Environment) (leaf : Leaf) : Prop :=
  ∀ label ∈ (lowerNames env).map Prod.fst, label ≠ leaf.variableName ∧
    ¬ (leaf.variableName ++ "__").toList <+: label.toList

/-- The names in sections are ASCII, and have no pairs of underscores in them. -/
theorem plain_names : ∀ known ∈ Settings.sections, ∀ name ∈ known.2,
    parts name.toList = [name.toList] ∧ ∀ c ∈ name.toList, c.toNat < 0x80 := by
  have hall : ∀ known ∈ Settings.sections, ∀ name ∈ known.2, parts name.toList = [name.toList] ∧
      name.toList.all (fun c ↦ decide (c.toNat < 0x80)) = true := by
    decide
  intro known hknown name hname
  obtain ⟨hparts, hascii⟩ := hall known hknown name hname
  exact ⟨hparts, fun c hc ↦ of_decide_eq_true (List.all_eq_true.1 hascii c hc)⟩

theorem mem_sections {resolve : SecretSource} :
    ∀ leaf ∈ all resolve, leaf = logLevel ∨
      ∃ known ∈ Settings.sections, leaf.area? = some known.1 ∧ leaf.name ∈ known.2 := by
  simp [all, gitlab, store, service, Settings.sections, GitLabSettings.fieldNames,
    StoreSettings.fieldNames, ServiceSettings.fieldNames]

variable {resolve : SecretSource} {env : Environment} {fromEnv : ConfigEntries} {leaf : Leaf}

/-- What the environment says about a leaf of a section without a variable of its own has been put
there by variables that lead into the section. -/
theorem exists_nested?_of_area {known : String × List String}
    (h : Variables.entries env = .ok fromEnv) (hknown : known ∈ Settings.sections)
    (harea : leaf.area? = some known.1) (hsection : leaf.SectionUnset env) :
    ∃ result, nested? known.1 (lowerNames env) [] = some result ∧
      leaf.at? fromEnv = find? leaf.name result := by
  obtain ⟨own, hown, hfind⟩ := (entries_eq_ok h).1 known hknown
  obtain ⟨result, hresult, hat⟩ := sectionEntry_of_unset
    (fun name hname ↦ (plain_names known hknown name hname).2) (lowerNames_spec env).2
    (hsection _ harea) hown
  refine ⟨result, hresult, ?_⟩
  rw [Leaf.at?, harea]
  dsimp only
  rw [← hat, ConfigValue.at?, ConfigValue.at?, hfind]

/-- **The variable of a leaf says what the leaf is.** -/
theorem exists_at?_of_set (h : Variables.entries env = .ok fromEnv) (hleaf : leaf ∈ all resolve)
    (hsection : leaf.SectionUnset env) {text : String}
    (hset : Keyring.valueOf? leaf.variableName (lowerNames env) = some text) :
    ∃ value, leaf.valueIn? text = some value ∧
      ∃ found, leaf.at? fromEnv = some found ∧ Stays value found := by
  rcases mem_sections leaf hleaf with rfl | ⟨known, hknown, harea, hname⟩
  · refine ⟨.text text, rfl, .text text, ?_, Or.inl rfl⟩
    exact (entries_eq_ok h).2.trans (congrArg (Option.map ConfigValue.text) hset)
  · obtain ⟨result, hresult, hat⟩ := exists_nested?_of_area h hknown harea hsection
    rw [variableName, harea] at hset
    rw [valueIn?, harea, hat]
    exact find?_nested?_of_set (lowerNames_spec env).1 (plain_names known hknown _ hname).1 hset
      hresult

/-- **Where no variable leads, the environment says nothing.** -/
theorem at?_of_unset (h : Variables.entries env = .ok fromEnv) (hleaf : leaf ∈ all resolve)
    (hsection : leaf.SectionUnset env) (hunset : leaf.Unset env) : leaf.at? fromEnv = none := by
  rcases mem_sections leaf hleaf with rfl | ⟨known, hknown, harea, hname⟩
  · have hlevel : Keyring.valueOf? (start ++ Settings.logLevelName) (lowerNames env) = none :=
      valueOf?_eq_none fun entry hentry ↦ (hunset _ (List.mem_map_of_mem hentry)).1
    exact (entries_eq_ok h).2.trans (congrArg (Option.map ConfigValue.text) hlevel)
  · obtain ⟨result, hresult, hat⟩ := exists_nested?_of_area h hknown harea hsection
    rw [hat]
    refine find?_nested?_of_unset (fun label hlabel ↦ ?_) hresult
    have hleads := hunset label hlabel
    rw [variableName, harea] at hleads
    exact hleads

end TokenBroker.Leaf
