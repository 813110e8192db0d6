import TokenBroker.Proofs.Domain.Acceptance
import TokenBroker.Proofs.Except
import TokenBroker.Proofs.Store.Entries

/-!
# What a lookup finds

A lookup lists what the domains that accept a place offer (`Store.mem_lookup_iff`). It fails only if
one of the domains cannot be asked, so a store whose specifications can be read always answers
(`Store.exists_lookup`).
-/

namespace TokenBroker.Store

theorem mem_lookupEntries_iff {kind? : Option CredentialKind} {who : Authentication}
    {requirements : List Requirement} {credential : Credential} :
    ∀ {entries : List StoreEntry} {found : List Credential},
      lookupEntries kind? who requirements entries = .ok found →
        (credential ∈ found ↔ ∃ entry ∈ entries, entry.domain.accepts requirements = .ok true ∧
          credential ∈ entry.credentials ∧ offers kind? who credential = true)
  | [], found, h => by
    cases h
    simp
  | entry :: rest, found, h => by
    rw [lookupEntries, Except.bind_eq_ok_iff] at h
    obtain ⟨accepted, haccepts, h⟩ := h
    rw [Except.bind_eq_ok_iff] at h
    obtain ⟨later, hlater, h⟩ := h
    rw [← Except.ok.inj h, List.mem_append, mem_lookupEntries_iff hlater]
    cases accepted <;> simp [haccepts]

/-- **A lookup finds what accepting domains offer.** -/
theorem mem_lookup_iff {store : Store} {kind? : Option CredentialKind} {who : Authentication}
    {requirements : List Requirement} {found : List Credential}
    (h : store.lookup kind? who requirements = .ok found) {credential : Credential} :
    credential ∈ found ↔ ∃ entry ∈ store.entries, entry.domain.accepts requirements = .ok true ∧
      credential ∈ entry.credentials ∧ offers kind? who credential = true :=
  mem_lookupEntries_iff h

/-- **A lookup succeeds if every domain answers.** -/
theorem exists_lookup {store : Store} {requirements : List Requirement}
    (h : ∀ domain ∈ store.domains, ∃ accepted, domain.accepts requirements = .ok accepted)
    (kind? : Option CredentialKind) (who : Authentication) :
    ∃ found, store.lookup kind? who requirements = .ok found := by
  rw [lookup]
  rw [domains] at h
  generalize store.entries = entries at h ⊢
  induction entries with
  | nil => exact ⟨[], rfl⟩
  | cons entry rest ih =>
    obtain ⟨accepted, haccepted⟩ := h entry.domain (by simp)
    obtain ⟨later, hlater⟩ := ih fun domain hdomain ↦ h domain (List.mem_cons_of_mem _ hdomain)
    refine ⟨(if accepted then entry.credentials.filter (offers kind? who) else []) ++ later, ?_⟩
    rw [lookupEntries, haccepted, hlater]
    rfl

end TokenBroker.Store
