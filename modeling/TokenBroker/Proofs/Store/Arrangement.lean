import Mathlib.Data.List.Chain
import TokenBroker.Proofs.Store.Writes

/-!
# How the domains of a store are arranged

The global domain comes first, in its plain form, and names are distinct: `Store.Arranged`. Whatever
a store is filled with at first, it is arranged (`Store.arranged_ofEntries`), and writes keep it so.

A domain is an entry of the list under a name, so a write that took it out and put it back, or put
the handle of the caller in its place, would move it or describe it anew. No write does. What a
write does to the list of domains is said in `Store.Follows.domains_cases`: it leaves the list
alone, takes in a domain at the end, or drops the one of a name. The domains whose names are there
all along, `Store.lasting`, are therefore the same list in every store of a run
(`Store.lasting_eq_of_isChain`).
-/

namespace TokenBroker

namespace Store

/-! ### The arrangement -/

/-- No two domains have the same name, and the plain global domain comes first. -/
structure Arranged (store : Store) : Prop where
  namesDistinct : store.NamesDistinct
  global : ∃ others, store.domains = .global :: others

theorem arranged_empty : empty.Arranged :=
  ⟨namesDistinct_empty, [], rfl⟩

theorem TakesIn.arranged {domain : Domain} {store store' : Store}
    (h : TakesIn domain store store') (hstore : store.Arranged) : store'.Arranged := by
  refine ⟨h.namesDistinct hstore.namesDistinct, ?_⟩
  obtain ⟨others, hdomains⟩ := hstore.global
  cases h with
  | known hsame => exact ⟨others, hsame.trans hdomains⟩
  | fresh hnew hlast => exact ⟨others ++ [domain], by rw [hlast, hdomains, List.cons_append]⟩

/-- **Whatever a store is filled with, it is arranged**, also if the contents come with a global
domain of their own. -/
theorem arranged_ofEntries (contents : List StoreEntry) : (ofEntries contents).Arranged := by
  refine List.foldlRecOn contents merge arranged_empty ?_
  intro store hstore entry _
  have htaken : TakesIn entry.domain store (store.merge entry) := takesIn_entry _ _ _
  exact htaken.arranged hstore

/-! ### What comes after a store -/

/-- One store comes after another one: it is the same, or what a write has made of it. -/
inductive Follows (store : Store) : Store → Prop
  | same : Follows store store
  | effect {who : Authentication} {write : StoreWrite} {answer : StoreAnswer} {store' : Store}
      (h : write.Effect who store answer store') : Follows store store'

theorem domains_eraseDomain (store : Store) (name : Json) :
    (store.eraseDomain name).domains =
      store.domains.filter fun domain ↦ !Json.same domain.name name := by
  rw [domains, domains, eraseDomain, List.filter_map]
  rfl

/-- **What a write does to the domains**: it takes in at most one, or drops the one of a name, which
is not the global one. -/
theorem Follows.domains_cases {store store' : Store} (h : store.Follows store') :
    (∃ domain, TakesIn domain store store') ∨
      ∃ name, name ≠ .null ∧
        store'.domains = store.domains.filter fun domain ↦ !Json.same domain.name name := by
  cases h with
  | same => exact Or.inl ⟨.global, .known rfl⟩
  | effect heffect =>
    cases heffect with
    | create hwho hurl hname hfree =>
      exact Or.inl ⟨_, .fresh hfree (domains_appendDomain _ _)⟩
    | add hwho hentry hnew => exact Or.inl ⟨.global, .known (domains_updateCredentials _ _ _)⟩
    | remove hwho hany => exact Or.inl ⟨.global, .known (domains_updateCredentials _ _ _)⟩
    | erase hwho hname hentry => exact Or.inr ⟨_, hname, domains_eraseDomain _ _⟩

theorem Follows.arranged {store store' : Store} (h : store.Follows store')
    (hstore : store.Arranged) : store'.Arranged := by
  rcases h.domains_cases with ⟨domain, htaken⟩ | ⟨name, hname, herased⟩
  · exact htaken.arranged hstore
  · refine ⟨hstore.namesDistinct.of_domains_sublist (herased ▸ List.filter_sublist), ?_⟩
    obtain ⟨others, hdomains⟩ := hstore.global
    have hglobal : Json.same Domain.global.name name = false := by
      by_contra hsame
      rw [Bool.not_eq_false] at hsame
      exact hname (Json.eq_null_of_same (Json.same_symm hsame))
    rw [herased, hdomains, List.filter_cons_of_pos (by rw [hglobal]; rfl)]
    exact ⟨_, rfl⟩

/-- What a write makes of a store comes after it, whether it is refused, saved or not. -/
theorem follows_run {σ : Type} (save : Saver σ) (who : Authentication) (write : StoreWrite)
    (store : Store) (world : σ) : store.Follows (write.run save who store world).2.1 :=
  StoreWrite.run_induction .same (fun _ _ heffect ↦ .effect heffect) world

/-! ### Domains that last -/

/-- The store has a domain of the name of a given one. -/
def hasDomain (store : Store) (domain : Domain) : Bool :=
  (store.entry? domain.name).isSome

/-- The domains of a store whose names are there in all stores of a run. -/
def lasting (run : List Store) (store : Store) : List Domain :=
  store.domains.filter fun domain ↦ run.all fun other ↦ other.hasDomain domain

theorem hasDomain_iff {store : Store} {domain : Domain} :
    store.hasDomain domain = true ↔ ∃ other ∈ store.domains, other.same domain = true := by
  simp [hasDomain, Store.entry?, domains, Domain.same, List.find?_isSome]

/-- **A write leaves alone the domains that are there before and after it**: they are the same, in
the same order. -/
theorem Follows.filter_domains {store store' : Store} (h : store.Follows store')
    {stays : Domain → Bool}
    (hbefore : ∀ domain, stays domain = true → store.hasDomain domain = true)
    (hafter : ∀ domain, stays domain = true → store'.hasDomain domain = true) :
    store'.domains.filter stays = store.domains.filter stays := by
  rcases h.domains_cases with ⟨domain, htaken⟩ | ⟨name, -, herased⟩
  · cases htaken with
    | known hsame => rw [hsame]
    | fresh hnew hlast =>
      -- the new domain was not there before
      have hnot : ¬ stays domain = true := by
        intro hstays
        have hthere := hbefore domain hstays
        rw [hasDomain, hnew] at hthere
        cases hthere
      rw [hlast, List.filter_append, List.filter_cons_of_neg hnot, List.filter_nil,
        List.append_nil]
  · -- a domain of the name that was dropped is no longer there
    have hkept : ∀ domain, stays domain = true → Json.same domain.name name = false := by
      intro domain hstays
      obtain ⟨other, hother, hsame⟩ := hasDomain_iff.1 (hafter domain hstays)
      rw [herased, List.mem_filter, Bool.not_eq_true'] at hother
      by_contra hdropped
      rw [Bool.not_eq_false] at hdropped
      rw [Json.same_trans hsame hdropped] at hother
      cases hother.2
    rw [herased, List.filter_filter]
    refine List.filter_congr fun domain _ ↦ ?_
    cases hstays : stays domain with
    | false => rfl
    | true => rw [hkept domain hstays]; rfl

/-- **The domains that last are the same list in every store of a run.** -/
theorem lasting_eq_of_isChain {run : List Store} (hrun : run.IsChain Follows) :
    ∀ store ∈ run, ∀ later ∈ run, lasting run later = lasting run store := by
  have hthere : ∀ store ∈ run, ∀ domain : Domain,
      (run.all fun other ↦ other.hasDomain domain) = true → store.hasDomain domain = true :=
    fun store hstore domain hall ↦ List.all_eq_true.1 hall store hstore
  have hstep : run.IsChain fun store store' ↦ lasting run store' = lasting run store :=
    hrun.imp_of_mem_imp fun store store' hstore hstore' hfollows ↦
      hfollows.filter_domains (hthere store hstore) (hthere store' hstore')
  intro store hstore later hlater
  -- every store of the run agrees with the first one
  have hfirst : ∀ other ∈ run, lasting run other =
      lasting run (run.head (List.ne_nil_of_mem hstore)) :=
    hstep.induction _ _ (fun _ _ heq hbefore ↦ heq.trans hbefore) fun _ ↦ rfl
  rw [hfirst later hlater, hfirst store hstore]

/-- **Arranged all along.** In a run that begins with an arranged store every store is arranged, and
over every part of the run the domains that stay are the same list. -/
theorem arranged_of_isChain {run : List Store} (hrun : run.IsChain Follows)
    (hstart : ∀ store ∈ run.head?, store.Arranged) :
    (∀ store ∈ run, store.Arranged) ∧
      ∀ part, part <:+: run → ∀ store ∈ part, ∀ later ∈ part,
        lasting part later = lasting part store := by
  refine ⟨?_, fun part hpart ↦ lasting_eq_of_isChain <| List.IsChain.infix hrun hpart⟩
  refine hrun.induction _ _ (fun _ _ hfollows ↦ hfollows.arranged) fun hne ↦ ?_
  exact hstart _ (List.head_mem_head? hne)

end Store

end TokenBroker
