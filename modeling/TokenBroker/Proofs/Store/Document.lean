import TokenBroker.Proofs.Except
import TokenBroker.Proofs.Json.RoundTrip
import TokenBroker.Proofs.Store.Writes
import TokenBroker.Store.Document

/-!
# Store documents

A store is read back from its document as it was, order and all (`Store.Proper.decode_encode`), if
no two domains have the same name, the global domain is there, and no name is an array or an object:
`Store.Proper`. Its document survives as text if it is plain. `Store.Writable` is both: the store
that nothing has been added to is writable, and every write keeps it so
(`StoreWrite.Effect.writable`) if the credentials that are added have plain fields.
-/

namespace TokenBroker

/-! ### Decoding what was encoded -/

theorem Specification.decode_encode (spec : Specification) : decode spec.encode = .ok spec := by
  cases spec <;> rfl

theorem Credential.decode_encode (credential : Credential) :
    decode credential.encode = .ok credential := by
  obtain ⟨id, scope, owner, description, content⟩ := credential
  cases content <;> cases scope <;> rfl

/-- The domain of an entry is read from the document of the entry. -/
theorem Domain.decode_encode (entry : StoreEntry) : decode entry.encode = .ok entry.domain := by
  have hspecifications := Except.mapM_map_of_forall
    fun spec (_ : spec ∈ entry.domain.specifications) ↦ spec.decode_encode
  unfold decode
  show (do
    let specifications ← (entry.domain.specifications.map Specification.encode).mapM
      Specification.decode
    pure (Domain.mk entry.domain.name entry.domain.description specifications)) = _
  rw [hspecifications]
  rfl

theorem StoreEntry.decode_encode {entry : StoreEntry} (h : entry.domain.name.hashable = true) :
    decode entry.encode = .ok entry := by
  have hcredentials := Except.mapM_map_of_forall
    fun credential (_ : credential ∈ entry.credentials) ↦ credential.decode_encode
  unfold decode
  rw [Domain.decode_encode]
  show (do
    let credentials ← (entry.credentials.map Credential.encode).mapM Credential.decode
    if !entry.domain.name.hashable then throw (DocumentError.misplaced .refused)
    pure (StoreEntry.mk entry.domain credentials)) = _
  rw [hcredentials, h]
  rfl

namespace Store

/-- Entries of distinct names are all kept. -/
theorem foldl_replace {entries : List StoreEntry} (h : NamesDistinct ⟨entries⟩) :
    entries.foldl replace ⟨[]⟩ = ⟨entries⟩ := by
  have hfold : ∀ rest before : List StoreEntry, NamesDistinct ⟨before ++ rest⟩ →
      rest.foldl replace ⟨before⟩ = ⟨before ++ rest⟩ := by
    intro rest
    induction rest with
    | nil => exact fun before _ ↦ by rw [List.foldl_nil, List.append_nil]
    | cons entry rest ih =>
      intro before hbefore
      have hnew : Store.entry? ⟨before⟩ entry.domain.name = none :=
        entry_eq_none_iff.2 fun other hother ↦
          hbefore.same_eq_false (List.mem_append_left _ hother) (Json.same_self _)
      have happend : replace ⟨before⟩ entry = ⟨before ++ [entry]⟩ := by
        rw [replace, hnew]
        rfl
      rw [List.foldl_cons, happend, ih _ (by simpa using hbefore)]
      simp
  exact hfold entries [] h

/-- The names of the domains can serve as keys and are distinct, and the global domain is there. -/
structure Proper (store : Store) : Prop where
  namesDistinct : store.NamesDistinct
  hashable : ∀ domain ∈ store.domains, domain.name.hashable = true
  global : ∃ domain ∈ store.domains, domain.name = .null

theorem Proper.isSome_entry {store : Store} (h : store.Proper) :
    (store.entry? .null).isSome = true := by
  obtain ⟨domain, hdomain, hname⟩ := h.global
  obtain ⟨entry, hentry, rfl⟩ := List.mem_map.1 hdomain
  exact List.find?_isSome.2 ⟨entry, hentry, by rw [hname]; exact Json.same_self _⟩

/-- **A proper store is read back from its document.** -/
theorem Proper.decode_encode {store : Store} (h : store.Proper) :
    decode store.encode = .ok store := by
  have hentries := Except.mapM_map_of_forall fun entry (hentry : entry ∈ store.entries) ↦
    StoreEntry.decode_encode (h.hashable _ (List.mem_map_of_mem hentry))
  have hversion : formatVersion.same formatVersion = true := Json.same_self _
  unfold decode
  show (do
    if !formatVersion.same formatVersion then
      throw (DocumentError.unsupportedVersion formatVersion)
    let entries ← (store.entries.map StoreEntry.encode).mapM StoreEntry.decode
    pure (entries.foldl replace ⟨[]⟩).withGlobal) = _
  rw [hversion, hentries]
  show Except.ok (store.entries.foldl replace ⟨[]⟩).withGlobal = _
  rw [foldl_replace h.namesDistinct, withGlobal, if_pos h.isSome_entry]

end Store

/-! ### Plain documents -/

open Json (plain_obj plain_arr plain_str plain_int)

/-- The fields of a credential are plain. -/
def Credential.Plain (credential : Credential) : Prop :=
  credential.encode.Plain

/-- The fields of a domain and those of its specifications are plain. -/
def Domain.Plain (domain : Domain) : Prop :=
  domain.encode.Plain

/-- A document of an entry is plain if its parts are. -/
theorem StoreEntry.plain_encode_iff {entry : StoreEntry} :
    entry.encode.Plain ↔
      entry.domain.Plain ∧ ∀ credential ∈ entry.credentials, credential.Plain := by
  simp only [StoreEntry.encode, Domain.Plain, Domain.encode, Domain.encodeMembers, plain_obj,
    plain_arr, Credential.Plain, List.map_cons, List.map_nil, List.cons_append, List.nil_append,
    List.mem_cons, List.not_mem_nil, or_false, forall_eq_or_imp, forall_eq, List.forall_mem_map]
  constructor
  · rintro ⟨-, hname, hdescription, hspecifications, hcredentials⟩
    exact ⟨⟨by decide, hname, hdescription, hspecifications⟩, hcredentials⟩
  · rintro ⟨⟨-, hname, hdescription, hspecifications⟩, hcredentials⟩
    exact ⟨by decide, hname, hdescription, hspecifications, hcredentials⟩

theorem Store.plain_encode {store : Store} (h : ∀ entry ∈ store.entries, entry.encode.Plain) :
    store.encode.Plain := by
  simp only [Store.encode, plain_obj, plain_arr, List.map_cons, List.map_nil, List.mem_cons,
    List.not_mem_nil, or_false, forall_eq_or_imp, forall_eq, List.forall_mem_map]
  exact ⟨by decide, by simp [formatVersion], h⟩

/-- The fields of a domain that is made for a URL are texts. -/
theorem Domain.plain_domainFor (url : ServerUrl) (name : String) :
    (Store.domainFor url name).Plain := by
  simp [Domain.Plain, Domain.encode, Domain.encodeMembers, Store.domainFor, Specification.ofUrl,
    Specification.encode, plain_obj, plain_arr]

/-- A credential whose fields are texts or missing is plain. -/
theorem Credential.plain_of_texts {credential : Credential} (hid : credential.id.Plain)
    (howner : credential.owner.Plain) (hdescription : credential.description.Plain)
    (hcontent : match credential.content with
      | .login username password => username.Plain ∧ password.Plain
      | .secretText secret => secret.Plain) : credential.Plain := by
  obtain ⟨id, scope, owner, description, content⟩ := credential
  cases content <;> simp_all [Credential.Plain, Credential.encode, plain_obj]

/-! ### Writable stores -/

namespace Store

/-- A store that can be read back from the text of its document. -/
structure Writable (store : Store) : Prop where
  namesDistinct : store.NamesDistinct
  global : ∃ domain ∈ store.domains, Json.same domain.name .null = true
  hashable : ∀ domain ∈ store.domains, domain.name.hashable = true
  domains : ∀ domain ∈ store.domains, domain.Plain
  credentials : ∀ entry ∈ store.entries, ∀ credential ∈ entry.credentials, credential.Plain

theorem writable_empty : empty.Writable where
  namesDistinct := namesDistinct_empty
  global := ⟨.global, List.mem_singleton_self _, Json.same_self _⟩
  hashable domain h := by rw [List.mem_singleton.1 h]; rfl
  domains domain h := by
    rw [List.mem_singleton.1 h]
    simp [Domain.Plain, Domain.encode, Domain.encodeMembers, Domain.global, plain_obj, plain_arr]
  credentials entry h := by
    rw [List.mem_singleton.1 h]
    exact fun credential hcredential ↦ absurd hcredential List.not_mem_nil

namespace Writable

variable {store : Store}

theorem proper (h : store.Writable) : store.Proper where
  namesDistinct := h.namesDistinct
  hashable := h.hashable
  global := by
    obtain ⟨domain, hdomain, hname⟩ := h.global
    exact ⟨domain, hdomain, Json.eq_null_of_same hname⟩

/-- **A writable store is read back from the text of its document**, if that stays within the
limits. -/
theorem decode_parse (h : store.Writable) {room : Nat} (hfits : store.encode.Fits room) :
    Json.parse store.encode.indented room = .ok store.encode ∧
      decode store.encode = .ok store := by
  refine ⟨Json.parse_indented (plain_encode fun entry hentry ↦
    StoreEntry.plain_encode_iff.2 ⟨?_, ?_⟩) hfits, h.proper.decode_encode⟩
  · exact h.domains _ (List.mem_map_of_mem hentry)
  · exact h.credentials entry hentry

/-- An update keeps a store writable if it brings in plain credentials only. -/
theorem updateCredentials (h : store.Writable) (name : Json)
    {f : List Credential → List Credential}
    (hf : ∀ credentials, ∀ credential ∈ f credentials,
      credential ∈ credentials ∨ credential.Plain) : (store.updateCredentials name f).Writable where
  namesDistinct := h.namesDistinct.updateCredentials name f
  global := by
    rw [domains_updateCredentials]
    exact h.global
  hashable := by
    rw [domains_updateCredentials]
    exact h.hashable
  domains := by
    rw [domains_updateCredentials]
    exact h.domains
  credentials entry hentry credential hcredential := by
    obtain ⟨entry, hmem, rfl⟩ := List.mem_map.1 hentry
    split at hcredential
    · rcases hf _ _ hcredential with hold | hplain
      · exact h.credentials entry hmem credential hold
      · exact hplain
    · exact h.credentials entry hmem credential hcredential

theorem appendDomain (h : store.Writable) {domain : Domain} (hnew : store.entry? domain.name = none)
    (hhashable : domain.name.hashable = true) (hplain : domain.Plain) :
    (store.appendDomain domain).Writable where
  namesDistinct := h.namesDistinct.appendDomain hnew
  global := by
    obtain ⟨other, hother, hname⟩ := h.global
    rw [domains_appendDomain]
    exact ⟨other, List.mem_append_left _ hother, hname⟩
  hashable other hother := by
    rw [domains_appendDomain, List.mem_append, List.mem_singleton] at hother
    rcases hother with hother | rfl
    · exact h.hashable other hother
    · exact hhashable
  domains other hother := by
    rw [domains_appendDomain, List.mem_append, List.mem_singleton] at hother
    rcases hother with hother | rfl
    · exact h.domains other hother
    · exact hplain
  credentials entry hentry := by
    rcases List.mem_append.1 hentry with hold | hnew
    · exact h.credentials entry hold
    · rw [List.mem_singleton.1 hnew]
      exact fun credential hcredential ↦ absurd hcredential List.not_mem_nil

/-- The global domain cannot be erased, so a store stays writable without another one. -/
theorem eraseDomain (h : store.Writable) {name : Json} (hname : name ≠ .null) :
    (store.eraseDomain name).Writable where
  namesDistinct := h.namesDistinct.eraseDomain name
  global := by
    obtain ⟨domain, hdomain, hglobal⟩ := h.global
    obtain ⟨entry, hentry, rfl⟩ := List.mem_map.1 hdomain
    refine ⟨entry.domain, List.mem_map_of_mem (List.mem_filter.2 ⟨hentry, ?_⟩), hglobal⟩
    by_contra hsame
    rw [Bool.not_eq_true, Bool.not_eq_false'] at hsame
    exact hname (Json.eq_null_of_same (Json.same_trans (Json.same_symm hsame) hglobal))
  hashable domain hdomain := h.hashable domain ((List.filter_sublist.map _).subset hdomain)
  domains domain hdomain := h.domains domain ((List.filter_sublist.map _).subset hdomain)
  credentials entry hentry := h.credentials entry (List.mem_filter.1 hentry).1

end Writable

end Store

/-- What a write brings in is plain. -/
def StoreWrite.Plain : StoreWrite → Prop
  | .addCredential _ credential => credential.Plain
  | .getOrCreateDomain _ | .removeCredential _ _ | .removeDomain _ => True

/-- **Every write keeps a store writable**, if what it brings in is plain. -/
theorem StoreWrite.Effect.writable {who : Authentication} {store store' : Store}
    {write : StoreWrite} {answer : StoreAnswer} (h : write.Effect who store answer store')
    (hstore : store.Writable) (hplain : write.Plain) : store'.Writable := by
  cases h with
  | @create serverUrl url name hwho hurl hname hfree =>
    exact hstore.appendDomain hfree rfl (Domain.plain_domainFor url name)
  | add hwho hentry hnew =>
    refine hstore.updateCredentials _ fun credentials other hother ↦ ?_
    rcases List.mem_append.1 hother with hold | hadded
    · exact Or.inl hold
    · rw [List.mem_singleton.1 hadded]
      exact Or.inr hplain
  | remove hwho hany =>
    exact hstore.updateCredentials _ fun credentials other hother ↦
      Or.inl (List.mem_filter.1 hother).1
  | erase hwho hname hentry => exact hstore.eraseDomain hname

end TokenBroker
