import Mathlib.Data.List.Basic
import TokenBroker.Store.Basic

/-!
# The entries of a store

The entries of a store are told apart by the names of their domains: `Store.NamesDistinct` says that
no two are the same. Under it a name picks out one place in the list (`Store.exists_split`), and an
update of the credentials of a name is an update at that place and nowhere else
(`Store.NamesDistinct.updateCredentials_split`). Every later statement about what a write leaves
alone goes through these two.

`Store.Gains` and `Store.AtMostNewDomain` are the two ways in which an exchange may leave a store:
with one credential more, or with none.
-/

namespace TokenBroker

theorem Json.same_comm (a b : Json) : Json.same a b = Json.same b a := by
  simp only [Json.same, eq_comm]

/-- Only null is the same as null. -/
theorem Json.eq_null_of_same {a : Json} (h : Json.same a .null = true) : a = .null := by
  simp only [Json.same, Json.canon_null, decide_eq_true_eq] at h
  cases a with
  | null => rfl
  | bool b => rw [Json.canon] at h; cases h
  | int n => rw [Json.canon] at h; cases h
  | float x => rw [Json.canon] at h; split at h <;> cases h
  | str t => rw [Json.canon] at h; cases h
  | arr items => rw [Json.canon] at h; cases h
  | obj members => rw [Json.canon] at h; cases h

namespace Store

/-! ### Finding an entry -/

theorem entry_eq_none_iff {store : Store} {name : Json} :
    store.entry? name = none ↔
      ∀ entry ∈ store.entries, Json.same entry.domain.name name = false := by
  simp [Store.entry?, List.find?_eq_none]

/-- The entry of a name is the first one whose domain has that name. -/
theorem exists_split {store : Store} {name : Json} {entry : StoreEntry}
    (h : store.entry? name = some entry) :
    ∃ before after, store.entries = before ++ entry :: after ∧
      Json.same entry.domain.name name = true ∧
      ∀ other ∈ before, Json.same other.domain.name name = false := by
  obtain ⟨hname, before, after, hentries, hbefore⟩ := List.find?_eq_some_iff_append.1 h
  exact ⟨before, after, hentries, hname, fun other hother ↦ by simpa using hbefore other hother⟩

theorem mem_of_entry_eq_some {store : Store} {name : Json} {entry : StoreEntry}
    (h : store.entry? name = some entry) : entry ∈ store.entries :=
  List.mem_of_find?_eq_some h

theorem same_of_entry_eq_some {store : Store} {name : Json} {entry : StoreEntry}
    (h : store.entry? name = some entry) : Json.same entry.domain.name name = true := by
  simpa using List.find?_some h

/-- A name is looked up by its canonical form only. -/
theorem entry_congr {name name' : Json} (h : Json.same name name' = true) (store : Store) :
    store.entry? name = store.entry? name' := by
  have hcanon : name.canon = name'.canon := by simpa [Json.same] using h
  simp only [Store.entry?, Json.same, hcanon]

/-- A domain that a store has under a name is found under its own name. -/
theorem entry_domain_name {store : Store} {name : Json} {entry : StoreEntry}
    (h : store.entry? name = some entry) : store.entry? entry.domain.name = some entry := by
  rw [entry_congr (same_of_entry_eq_some h), h]

theorem domain?_eq_some_iff {store : Store} {name : Json} {domain : Domain} :
    store.domain? name = some domain ↔
      ∃ entry, store.entry? name = some entry ∧ entry.domain = domain := by
  simp [domain?]

theorem mem_domains_of_domain? {store : Store} {name : Json} {domain : Domain}
    (h : store.domain? name = some domain) : domain ∈ store.domains := by
  obtain ⟨entry, hentry, rfl⟩ := domain?_eq_some_iff.1 h
  exact List.mem_map_of_mem (mem_of_entry_eq_some hentry)

theorem domain?_eq_none_iff {store : Store} {name : Json} :
    store.domain? name = none ↔ store.entry? name = none := by
  simp [domain?]

/-! ### Distinct names -/

/-- No two domains of the store have the same name. -/
def NamesDistinct (store : Store) : Prop :=
  store.domains.Pairwise fun a b ↦ a.same b = false

instance (store : Store) : Decidable store.NamesDistinct :=
  inferInstanceAs (Decidable (List.Pairwise _ _))

theorem namesDistinct_empty : empty.NamesDistinct := by
  simp [NamesDistinct, empty, domains]

/-- Whether names are distinct depends on the domains alone. -/
theorem NamesDistinct.of_domains_sublist {store store' : Store} (hstore : store.NamesDistinct)
    (h : store'.domains.Sublist store.domains) : store'.NamesDistinct :=
  List.Pairwise.sublist h hstore

/-- The other entries do not have the name of an entry. -/
theorem NamesDistinct.same_eq_false {before after : List StoreEntry} {entry other : StoreEntry}
    (hstore : NamesDistinct ⟨before ++ entry :: after⟩) (hother : other ∈ before ++ after)
    {name : Json} (hname : Json.same entry.domain.name name = true) :
    Json.same other.domain.name name = false := by
  simp only [NamesDistinct, domains, List.map_append, List.map_cons, List.pairwise_append,
    List.pairwise_cons, List.mem_map, List.mem_cons] at hstore
  obtain ⟨-, ⟨hafter, -⟩, hbefore⟩ := hstore
  have hne : Json.same other.domain.name entry.domain.name = false := by
    rcases List.mem_append.1 hother with h | h
    · exact hbefore _ ⟨other, h, rfl⟩ _ (Or.inl rfl)
    · rw [Json.same_comm]
      exact hafter _ ⟨other, h, rfl⟩
  by_contra h
  rw [Bool.not_eq_false] at h
  rw [Json.same_trans h (Json.same_symm hname)] at hne
  cases hne

/-- Under distinct names each entry is the one that its name leads to. -/
theorem NamesDistinct.entry_eq_some {store : Store} (hstore : store.NamesDistinct)
    {entry : StoreEntry} (hentry : entry ∈ store.entries) :
    store.entry? entry.domain.name = some entry := by
  obtain ⟨before, after, hentries⟩ := List.append_of_mem hentry
  obtain rfl : store = ⟨before ++ entry :: after⟩ := by rw [← hentries]
  refine List.find?_eq_some_iff_append.2
    ⟨Json.same_self _, before, after, rfl, fun other hother ↦ ?_⟩
  rw [hstore.same_eq_false (List.mem_append_left _ hother) (Json.same_self _)]
  rfl

/-! ### Updating an entry -/

@[simp] theorem domains_updateCredentials (store : Store) (name : Json)
    (f : List Credential → List Credential) :
    (store.updateCredentials name f).domains = store.domains := by
  simp only [domains, updateCredentials, List.map_map]
  refine List.map_congr_left fun entry _ ↦ ?_
  simp only [Function.comp_apply]
  split <;> rfl

@[simp] theorem domains_appendDomain (store : Store) (domain : Domain) :
    (store.appendDomain domain).domains = store.domains ++ [domain] := by
  simp [domains, appendDomain]

/-- **An update is an update at one place.** -/
theorem NamesDistinct.updateCredentials_split {before after : List StoreEntry}
    {entry : StoreEntry} (hstore : NamesDistinct ⟨before ++ entry :: after⟩) {name : Json}
    (hname : Json.same entry.domain.name name = true) (f : List Credential → List Credential) :
    updateCredentials ⟨before ++ entry :: after⟩ name f =
      ⟨before ++ { entry with credentials := f entry.credentials } :: after⟩ := by
  have hkeep : ∀ others : List StoreEntry, others ⊆ before ++ after →
      (others.map fun other ↦
        if Json.same other.domain.name name then { other with credentials := f other.credentials }
        else other) = others := by
    intro others hothers
    refine (List.map_congr_left fun other hother ↦ ?_).trans (List.map_id others)
    rw [hstore.same_eq_false (hothers hother) hname]
    rfl
  simp only [updateCredentials, List.map_append, List.map_cons, hname, if_true]
  rw [hkeep before (List.subset_append_left _ _), hkeep after (List.subset_append_right _ _)]

/-- The entry of a name holds what an update makes of its credentials. -/
theorem entry_updateCredentials {store : Store} {name : Json} {entry : StoreEntry}
    (h : store.entry? name = some entry) (f : List Credential → List Credential) :
    Store.entry? (store.updateCredentials name f) name =
      some { entry with credentials := f entry.credentials } := by
  obtain ⟨before, after, hentries, hname, hbefore⟩ := exists_split h
  refine List.find?_eq_some_iff_append.2 ⟨hname, ?_⟩
  simp only [updateCredentials, hentries, List.map_append, List.map_cons, hname, if_true]
  refine ⟨_, _, rfl, fun other hother ↦ ?_⟩
  obtain ⟨other, hmem, rfl⟩ := List.mem_map.1 hother
  simp [hbefore other hmem]

/-- An update of another name leaves the entry of a name alone. -/
theorem entry_updateCredentials_of_ne {name other : Json} (h : Json.same name other = false)
    (store : Store) (f : List Credential → List Credential) :
    Store.entry? (store.updateCredentials other f) name = store.entry? name := by
  have hdomain : ∀ entry : StoreEntry,
      (if Json.same entry.domain.name other then { entry with credentials := f entry.credentials }
        else entry).domain = entry.domain := by
    intro entry
    split <;> rfl
  simp only [Store.entry?, updateCredentials, List.find?_map, Function.comp_def, hdomain]
  cases hfound : store.entries.find? fun entry ↦ Json.same entry.domain.name name with
  | none => rfl
  | some entry =>
    have hname : Json.same entry.domain.name name = true := same_of_entry_eq_some hfound
    have hother : Json.same entry.domain.name other = false := by
      by_contra hsame
      rw [Bool.not_eq_false] at hsame
      rw [Json.same_trans (Json.same_symm hname) hsame] at h
      cases h
    simp [hother]

theorem entry_appendDomain {store : Store} {name : Json} {entry : StoreEntry}
    (h : store.entry? name = some entry) (domain : Domain) :
    Store.entry? (store.appendDomain domain) name = some entry := by
  simp only [Store.entry?, appendDomain, List.find?_append]
  rw [show store.entries.find? _ = some entry from h]
  rfl

/-- A domain is found where it has been appended under a new name. -/
theorem entry_appendDomain_self {store : Store} {domain : Domain}
    (h : store.entry? domain.name = none) :
    Store.entry? (store.appendDomain domain) domain.name = some { domain := domain } := by
  rw [Store.entry?] at h
  simp [Store.entry?, appendDomain, List.find?_append, h, Json.same_self]

theorem NamesDistinct.updateCredentials {store : Store} (hstore : store.NamesDistinct)
    (name : Json) (f : List Credential → List Credential) :
    (store.updateCredentials name f).NamesDistinct := by
  rwa [NamesDistinct, domains_updateCredentials]

/-- A new domain may be appended if its name is not taken. -/
theorem NamesDistinct.appendDomain {store : Store} (hstore : store.NamesDistinct)
    {domain : Domain} (h : store.entry? domain.name = none) :
    (store.appendDomain domain).NamesDistinct := by
  rw [NamesDistinct, domains_appendDomain, List.pairwise_append]
  refine ⟨hstore, List.pairwise_singleton _ _, fun a ha b hb ↦ ?_⟩
  obtain ⟨entry, hentry, rfl⟩ := List.mem_map.1 ha
  rw [List.mem_singleton.1 hb]
  exact entry_eq_none_iff.1 h entry hentry

theorem NamesDistinct.eraseDomain {store : Store} (hstore : store.NamesDistinct) (name : Json) :
    (store.eraseDomain name).NamesDistinct :=
  hstore.of_domains_sublist (List.filter_sublist.map _)

/-! ### Changes -/

/-- A domain of a new name is taken in behind the others. -/
theorem mutate_setDefault {store : Store} {domain : Domain}
    (h : store.entry? domain.name = none) :
    store.mutate (.setDefault domain) = store.appendDomain domain := by
  rw [mutate, h]
  rfl

/-! ### How a store may grow -/

/-- One store is another one with a credential more, which stands at the end of the list of a
domain: of one that was there, or of a new one that comes last. -/
inductive Gains (credential : Credential) : Domain → Store → Store → Prop
  | existing (before after : List StoreEntry) (entry : StoreEntry) :
      Gains credential entry.domain ⟨before ++ entry :: after⟩
        ⟨before ++ { entry with credentials := entry.credentials ++ [credential] } :: after⟩
  | fresh (store : Store) (domain : Domain) (hnew : store.entry? domain.name = none) :
      Gains credential domain store
        ⟨store.entries ++ [{ domain := domain, credentials := [credential] }]⟩

/-- One store is another one, or has one new domain more, which comes last and holds nothing. -/
inductive AtMostNewDomain : Store → Store → Prop
  | refl (store : Store) : AtMostNewDomain store store
  | fresh (store : Store) (domain : Domain) (hnew : store.entry? domain.name = none) :
      AtMostNewDomain store ⟨store.entries ++ [{ domain := domain }]⟩

/-- One store has the domains of another one, or besides them a domain of a new name, which comes
last. Nothing is said about credentials. -/
inductive TakesIn (domain : Domain) (store store' : Store) : Prop
  | known (h : store'.domains = store.domains)
  | fresh (hnew : store.entry? domain.name = none) (h : store'.domains = store.domains ++ [domain])

/-- An entry is brought in by an update of the domain of its name, or as it is if there is none. -/
theorem takesIn_entry (store : Store) (entry : StoreEntry)
    (f : List Credential → List Credential) :
    TakesIn entry.domain store (if (store.entry? entry.domain.name).isSome then
      store.updateCredentials entry.domain.name f else ⟨store.entries ++ [entry]⟩) := by
  cases hentry : store.entry? entry.domain.name with
  | some holder => exact .known (domains_updateCredentials _ _ _)
  | none => exact .fresh hentry (by simp [domains])

theorem TakesIn.namesDistinct {domain : Domain} {store store' : Store}
    (h : TakesIn domain store store') (hstore : store.NamesDistinct) : store'.NamesDistinct := by
  cases h with
  | known hsame => rwa [NamesDistinct, hsame]
  | fresh hnew hlast =>
    have happend : (store.appendDomain domain).NamesDistinct := hstore.appendDomain hnew
    rwa [NamesDistinct, domains_appendDomain, ← hlast] at happend

theorem TakesIn.mem_domains {domain other : Domain} {store store' : Store}
    (h : TakesIn domain store store') (hother : other ∈ store'.domains) :
    other ∈ store.domains ∨ other = domain := by
  cases h with
  | known hsame => exact Or.inl (hsame ▸ hother)
  | fresh _ hlast =>
    rw [hlast, List.mem_append, List.mem_singleton] at hother
    exact hother

/-- Adding to a domain that is there. -/
theorem Gains.updateCredentials {store : Store} (hstore : store.NamesDistinct) {name : Json}
    {entry : StoreEntry} (h : store.entry? name = some entry) (credential : Credential) :
    Gains credential entry.domain store (store.updateCredentials name (· ++ [credential])) := by
  obtain ⟨before, after, hentries, hname, -⟩ := exists_split h
  obtain rfl : store = ⟨before ++ entry :: after⟩ := by rw [← hentries]
  rw [hstore.updateCredentials_split hname]
  exact .existing before after entry

/-- Adding to a domain that has just been appended. -/
theorem Gains.updateCredentials_appendDomain {store : Store} (hstore : store.NamesDistinct)
    {domain : Domain} (h : store.entry? domain.name = none) (credential : Credential) :
    Gains credential domain store
      ((store.appendDomain domain).updateCredentials domain.name (· ++ [credential])) := by
  have hdistinct : NamesDistinct ⟨store.entries ++ { domain := domain } :: []⟩ :=
    hstore.appendDomain h
  rw [appendDomain, hdistinct.updateCredentials_split (Json.same_self _)]
  exact .fresh store domain h

end Store

end TokenBroker
