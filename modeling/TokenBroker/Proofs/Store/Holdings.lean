import TokenBroker.Proofs.Store.Writes

/-!
# What a store holds

Which credentials stand in which domain, and how often an id occurs, followed through the writes. A
credential stays in its domain unless a write takes its id from the domain or erases the domain
(`StoreWrite.Effect.mem_credentialsOf`), and only an addition brings an id in, once
(`StoreWrite.Effect.copies_cases`).
-/

namespace TokenBroker

namespace Store

theorem mem_credentialsOf_iff {store : Store} {name : Json} {credential : Credential} :
    credential ∈ store.credentialsOf name ↔
      ∃ entry, store.entry? name = some entry ∧ credential ∈ entry.credentials := by
  rw [credentialsOf]
  cases store.entry? name with
  | none => simp
  | some entry => simp

theorem credentialsOf_congr {name name' : Json} (h : Json.same name name' = true)
    (store : Store) : store.credentialsOf name = store.credentialsOf name' := by
  rw [credentialsOf, entry_congr h]
  rfl

/-- What is gained in a domain stands in it. -/
theorem Gains.mem_credentialsOf {credential : Credential} {domain : Domain} {store store' : Store}
    (h : store.Gains credential domain store') (hstore : store.NamesDistinct) :
    credential ∈ store'.credentialsOf domain.name := by
  cases h with
  | existing before after entry =>
    refine mem_credentialsOf_iff.2 ⟨{ entry with credentials := entry.credentials ++ [credential] },
      List.find?_eq_some_iff_append.2 ⟨Json.same_self _, before, after, rfl, fun other hother ↦ ?_⟩,
      List.mem_append_right _ (List.mem_singleton_self _)⟩
    rw [hstore.same_eq_false (List.mem_append_left _ hother) (Json.same_self _)]
    rfl
  | fresh _ _ hnew =>
    refine mem_credentialsOf_iff.2 ⟨{ domain := domain, credentials := [credential] },
      List.find?_eq_some_iff_append.2
        ⟨Json.same_self _, store.entries, [], rfl, fun other hother ↦ ?_⟩,
      List.mem_singleton_self _⟩
    rw [entry_eq_none_iff.1 hnew other hother]
    rfl

/-! ### Erasing a domain -/

/-- Erasing another domain leaves the entry of a name alone. -/
theorem entry_eraseDomain_of_ne {name other : Json} (h : Json.same other name = false)
    (store : Store) : Store.entry? (store.eraseDomain other) name = store.entry? name := by
  simp only [Store.entry?, eraseDomain, List.find?_filter]
  congr 1
  funext entry
  cases hname : Json.same entry.domain.name name with
  | false => simp
  | true =>
    have hother : Json.same entry.domain.name other = false := by
      by_contra hsame
      rw [Bool.not_eq_false] at hsame
      rw [Json.same_trans (Json.same_symm hsame) hname] at h
      cases h
    simp [hother]

/-! ### Counting an id -/

/-- How often an id occurs among the credentials of a store. -/
def copies (store : Store) (id : Json) : Nat :=
  (store.entries.flatMap StoreEntry.credentials).countP fun credential ↦ Json.same credential.id id

theorem copies_append (entries later : List StoreEntry) (id : Json) :
    copies ⟨entries ++ later⟩ id = copies ⟨entries⟩ id + copies ⟨later⟩ id := by
  simp [copies]

theorem copies_cons (entry : StoreEntry) (entries : List StoreEntry) (id : Json) :
    copies ⟨entry :: entries⟩ id =
      entry.credentials.countP (fun credential ↦ Json.same credential.id id) +
        copies ⟨entries⟩ id := by
  simp [copies]

@[simp] theorem copies_appendDomain (store : Store) (domain : Domain) (id : Json) :
    (store.appendDomain domain).copies id = store.copies id := by
  rw [appendDomain, copies_append]
  simp [copies]

/-- What is in no list longer than before is not in the store more often. -/
theorem copies_updateCredentials_le (store : Store) (name id : Json)
    {f : List Credential → List Credential}
    (hf : ∀ credentials, (f credentials).countP (fun credential ↦ Json.same credential.id id) ≤
      credentials.countP fun credential ↦ Json.same credential.id id) :
    (store.updateCredentials name f).copies id ≤ store.copies id := by
  obtain ⟨entries⟩ := store
  induction entries with
  | nil => exact Nat.le_refl _
  | cons entry rest ih =>
    have hrest : copies ⟨(updateCredentials ⟨rest⟩ name f).entries⟩ id ≤ copies ⟨rest⟩ id := ih
    simp only [updateCredentials] at hrest
    simp only [updateCredentials, List.map_cons, copies_cons]
    refine Nat.add_le_add ?_ hrest
    split
    · exact hf entry.credentials
    · exact Nat.le_refl _

theorem copies_eraseDomain_le (store : Store) (name id : Json) :
    (store.eraseDomain name).copies id ≤ store.copies id := by
  obtain ⟨entries⟩ := store
  simp only [eraseDomain]
  induction entries with
  | nil => exact Nat.le_refl _
  | cons entry rest ih =>
    rw [List.filter_cons, copies_cons]
    split
    · rw [copies_cons]
      exact Nat.add_le_add_left ih _
    · exact Nat.le_trans ih (Nat.le_add_left _ _)

/-- A gain is one occurrence more of the id that is gained, and none of any other. -/
theorem Gains.copies {credential : Credential} {domain : Domain} {store store' : Store}
    (h : store.Gains credential domain store') (id : Json) :
    store'.copies id = store.copies id + if Json.same credential.id id then 1 else 0 := by
  cases h with
  | existing before after entry =>
    simp only [copies_append, copies_cons, List.countP_append, List.countP_singleton]
    omega
  | fresh _ _ hnew =>
    rw [copies_append]
    simp [Store.copies, List.countP_singleton]

end Store

namespace StoreWrite

/-- The writes that take a credential with an id from the domain with a name: those that remove the
id from the domain, and those that remove the domain. -/
def Targets (name id : Json) : StoreWrite → Prop
  | .removeCredential name' id' => Json.same name' name = true ∧ Json.same id id' = true
  | .removeDomain name' => Json.same name' name = true
  | _ => False

/-- **A credential stays where it is** unless it is taken from there. -/
theorem Effect.mem_credentialsOf {who : Authentication} {store store' : Store}
    {write : StoreWrite} {answer : StoreAnswer} (h : write.Effect who store answer store')
    {name : Json} {credential : Credential} (hmem : credential ∈ store.credentialsOf name)
    (htargets : ¬ write.Targets name credential.id) :
    credential ∈ store'.credentialsOf name := by
  obtain ⟨entry, hentry, hcredential⟩ := Store.mem_credentialsOf_iff.1 hmem
  refine Store.mem_credentialsOf_iff.2 ?_
  cases h with
  | create => exact ⟨entry, Store.entry_appendDomain hentry _, hcredential⟩
  | @add other added _ =>
    by_cases hname : Json.same name other = true
    · rw [Store.entry_congr hname] at hentry ⊢
      exact ⟨_, Store.entry_updateCredentials hentry _, List.mem_append_left _ hcredential⟩
    · rw [← Store.entry_updateCredentials_of_ne (by simpa using hname)] at hentry
      exact ⟨entry, hentry, hcredential⟩
  | @remove other id =>
    by_cases hname : Json.same name other = true
    · rw [Store.entry_congr hname] at hentry ⊢
      refine ⟨_, Store.entry_updateCredentials hentry _, List.mem_filter.2 ⟨hcredential, ?_⟩⟩
      by_contra hid
      exact htargets ⟨Json.same_symm hname, by simpa using hid⟩
    · rw [← Store.entry_updateCredentials_of_ne (by simpa using hname)] at hentry
      exact ⟨entry, hentry, hcredential⟩
  | @erase other =>
    have hname : Json.same other name = false := by simpa [Targets] using htargets
    exact ⟨entry, by rwa [Store.entry_eraseDomain_of_ne hname], hcredential⟩

/-- A write that takes credentials says that something was changed. -/
theorem Effect.answer_of_targets {who : Authentication} {store store' : Store}
    {write : StoreWrite} {answer : StoreAnswer} (h : write.Effect who store answer store')
    {name id : Json} (htargets : write.Targets name id) : answer = .done true := by
  cases h with
  | create => exact htargets.elim
  | add => rfl
  | remove => rfl
  | erase => rfl

/-- An addition is a gain. -/
theorem Effect.gains {who : Authentication} {store store' : Store} {name : Json}
    {credential : Credential} {answer : StoreAnswer}
    (h : (addCredential name credential).Effect who store answer store')
    (hstore : store.NamesDistinct) :
    ∃ domain, Json.same domain.name name = true ∧ store.Gains credential domain store' := by
  cases h with
  | @add _ _ entry hwho hentry hnew =>
    exact ⟨entry.domain, Store.same_of_entry_eq_some hentry, .updateCredentials hstore hentry _⟩

/-- **Only an addition brings an id in, and it does so once.** -/
theorem Effect.copies_cases {who : Authentication} {store store' : Store} {write : StoreWrite}
    {answer : StoreAnswer} (h : write.Effect who store answer store')
    (hstore : store.NamesDistinct) (id : Json) :
    (∃ name credential, write = .addCredential name credential ∧
      Json.same credential.id id = true ∧ store'.copies id = store.copies id + 1) ∨
    store'.copies id ≤ store.copies id := by
  cases write with
  | getOrCreateDomain serverUrl =>
    cases h
    exact Or.inr (Nat.le_of_eq (Store.copies_appendDomain _ _ _))
  | addCredential name credential =>
    obtain ⟨domain, -, hgains⟩ := h.gains hstore
    rw [hgains.copies id]
    by_cases hid : Json.same credential.id id = true
    · exact Or.inl ⟨name, credential, rfl, hid, by rw [if_pos hid]⟩
    · exact Or.inr (by rw [if_neg hid]; exact Nat.le_refl _)
  | removeCredential name id' =>
    cases h
    exact Or.inr (Store.copies_updateCredentials_le _ _ _ fun credentials ↦
      List.filter_sublist.countP_le)
  | removeDomain name =>
    cases h
    exact Or.inr (Store.copies_eraseDomain_le _ _ _)

end StoreWrite

end TokenBroker
