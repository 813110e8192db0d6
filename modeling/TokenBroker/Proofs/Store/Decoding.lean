import TokenBroker.Proofs.Store.Document

/-!
# What comes out of a document

A document that anyone may have edited is read into a proper store: a repeated name is merged into
its first place and a missing global domain is added (`Store.proper_of_decode`). To be proper is
also all that it takes to be read back from one's own document (`Store.decode_encode_iff`), so
reading and writing again changes a document at most once.
-/

namespace TokenBroker

/-- An entry is read only if its name can serve as a key. -/
theorem StoreEntry.hashable_of_decode {value : Json} {entry : StoreEntry}
    (h : decode value = .ok entry) : entry.domain.name.hashable = true := by
  simp only [decode, Except.bind_eq_ok_iff] at h
  obtain ⟨domain, -, list, -, credentials, -, h⟩ := h
  split at h
  · cases h
  · rename_i hname
    obtain rfl : StoreEntry.mk domain credentials = entry := Except.ok.inj h
    simpa using hname

namespace Store

theorem proper_withGlobal {store : Store} (hdistinct : store.NamesDistinct)
    (hhashable : ∀ domain ∈ store.domains, domain.name.hashable = true) :
    store.withGlobal.Proper := by
  rw [withGlobal]
  cases hentry : store.entry? .null with
  | some entry =>
    refine ⟨hdistinct, hhashable, entry.domain, ?_, ?_⟩
    · exact List.mem_map_of_mem (mem_of_entry_eq_some hentry)
    · exact Json.eq_null_of_same (same_of_entry_eq_some hentry)
  | none =>
    show (store.appendDomain .global).Proper
    refine ⟨hdistinct.appendDomain hentry, fun domain hdomain ↦ ?_, .global, ?_, rfl⟩
    · rw [domains_appendDomain, List.mem_append, List.mem_singleton] at hdomain
      rcases hdomain with hold | rfl
      · exact hhashable domain hold
      · rfl
    · simp

/-- **What is read from a document is proper.** -/
theorem proper_of_decode {document : Json} {store : Store} (h : decode document = .ok store) :
    store.Proper := by
  simp only [decode, Except.bind_eq_ok_iff] at h
  obtain ⟨version?, -, h⟩ := h
  split at h
  · cases h
  simp only [Except.bind_eq_ok_iff] at h
  obtain ⟨list, -, entries, hentries, h⟩ := h
  obtain rfl : (entries.foldl replace ⟨[]⟩).withGlobal = store := Except.ok.inj h
  have hnames : ∀ entry ∈ entries, entry.domain.name.hashable = true :=
    Except.forall_of_mapM_eq_ok (fun _ _ ↦ StoreEntry.hashable_of_decode) hentries
  -- the domains of a document are taken in one after the other, each at most once
  have hmerged : (entries.foldl replace ⟨[]⟩).NamesDistinct ∧
      ∀ domain ∈ (entries.foldl replace ⟨[]⟩).domains, domain.name.hashable = true := by
    refine List.foldlRecOn (motive := fun store : Store ↦ store.NamesDistinct ∧
      ∀ domain ∈ store.domains, domain.name.hashable = true) entries replace
        ⟨List.Pairwise.nil, nofun⟩ ?_
    intro store hstore entry hentry
    have htaken : TakesIn entry.domain store (store.replace entry) := takesIn_entry _ _ _
    refine ⟨htaken.namesDistinct hstore.1, fun domain hdomain ↦ ?_⟩
    rcases htaken.mem_domains hdomain with hold | rfl
    · exact hstore.2 domain hold
    · exact hnames entry hentry
  exact proper_withGlobal hmerged.1 hmerged.2

/-! ### Reading and writing -/

/-- **A store is read back from its own document exactly if it is proper.** -/
theorem decode_encode_iff {store : Store} : decode store.encode = .ok store ↔ store.Proper :=
  ⟨proper_of_decode, Proper.decode_encode⟩

/-- **Stores and documents, there and back.** A proper store, and no other, comes back from its
document as it was: domains, metadata, credentials and secrets, all in their order. Any document
that is accepted, whatever it repeats or leaves out, is brought by reading and writing into a form
that is accepted again, as the same store, and that reading and writing leaves as it is. -/
theorem decode_encode_decode :
    (∀ store : Store, decode store.encode = .ok store ↔ store.Proper) ∧
    ∀ (document : Json) (store : Store), decode document = .ok store →
      decode store.encode = .ok store ∧
        (decode store.encode).map Store.encode = .ok store.encode := by
  refine ⟨fun store ↦ decode_encode_iff, fun document store h ↦ ?_⟩
  have hagain : decode store.encode = .ok store := decode_encode_iff.2 (proper_of_decode h)
  refine ⟨hagain, ?_⟩
  rw [hagain]
  rfl

/-- A store with credentials of both kinds in a domain besides the global one, and a document that
names a domain twice, leaves out what it may and does not have the global domain. -/
theorem decode_encode_decode_repeated :
    let host : Domain :=
      { name := .str "h", specifications := [.scheme [.str "https"], .host (.str "h,i") .null] }
    let login : Credential :=
      { id := .str "a", scope := .system, owner := .str "jo"
        content := .login (.str "u") (.str "p") }
    let token : Credential :=
      { id := .str "b", description := .str "d", content := .secretText (.str "t") }
    let store : Store := ⟨[{ domain := .global, credentials := [login] },
      { domain := host, credentials := [token, login] }]⟩
    let document : Json := .obj [("domains", .arr [
        .obj [("name", .str "h"), ("description", .str "first")],
        .obj [("name", .str "h"), ("credentials", .arr [.obj [("type", .str "string"),
          ("id", .str "b"), ("secret", .str "t")]])]]), ("version", .float ⟨0x3ff0000000000000⟩)]
    let read : Store := ⟨[{ domain := { name := .str "h", description := .str "first" }
                            credentials := [{ token with description := .str "" }] },
      { domain := .global }]⟩
    store.Proper ∧ decode store.encode = .ok store ∧ decode document = .ok read ∧
      (decode read.encode).map Store.encode = .ok read.encode := by
  intro host login token store document read
  have hproper : store.Proper := ⟨by decide, by decide, .global, List.mem_cons_self, rfl⟩
  have hread : decode document = .ok read := by decide +kernel
  exact ⟨hproper, (decode_encode_decode.1 store).2 hproper, hread,
    (decode_encode_decode.2 document read hread).2⟩

end Store

end TokenBroker
