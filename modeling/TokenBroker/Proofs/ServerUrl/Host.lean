import Mathlib.Data.List.TakeDrop
import Mathlib.Data.List.TakeWhile
import TokenBroker.Proofs.Except
import TokenBroker.Proofs.Text.Lowercase
import TokenBroker.Proofs.Text.Split
import TokenBroker.ServerUrl.Basic

/-!
# The host of a server URL

The host of a usable URL is the lowercase form of the host in its authority, which is cut out
between brackets, or before a colon where there is no opening bracket. Either way one of the two
brackets does not occur in it, so a host never holds a closed set of a glob pattern
(`ServerUrl.bracket_notMem_host`). Nor does it hold a question mark, which would have ended the
authority (`ServerUrl.questionMark_notMem_host`).

Scheme and host are in lowercase already (`ServerUrl.lowered_scheme`, `ServerUrl.lowered_host`), and
they are the lowercase forms of what the text says (`ServerUrl.toList_scheme`,
`ServerUrl.toList_host`), so the case of letters in a text does not matter to either.
-/

namespace TokenBroker

namespace Authority

theorem notMem_before (c : Char) (cs : List Char) : c ∉ before c cs := by
  intro h
  simpa using List.mem_takeWhile_imp h

theorem before_subset (c : Char) (cs : List Char) : before c cs ⊆ cs :=
  (List.takeWhile_sublist _).subset

/-- One of the two brackets does not occur in a host. -/
theorem bracket_notMem_host (authority : List Char) :
    '[' ∉ host authority ∨ ']' ∉ host authority := by
  unfold host
  simp only
  split
  · exact Or.inr (notMem_before ']' _)
  · rename_i hopening
    exact Or.inl fun h ↦ hopening (List.contains_iff_mem.2 (before_subset ':' _ h))

/-- Lowercasing a host makes no character that lowercasing never makes. -/
theorem mem_host_of_forall {c : Char} (hlower : ∀ cs, c ∈ Text.lower cs → c ∈ cs)
    {authority : List Char} (h : c ∈ lowerHost authority) : c ∈ host authority := by
  unfold lowerHost at h
  split at h
  · rename_i address scope hcut
    rw [Text.eq_append_of_cutFirst hcut]
    rcases List.mem_append.1 h with h | h
    · exact List.mem_append_left _ (hlower _ h)
    · exact List.mem_append_right _ h
  · exact hlower _ h

theorem mem_host_of_mem_lowerHost {c : Char} (hc : c = '[' ∨ c = ']') {authority : List Char}
    (h : c ∈ lowerHost authority) : c ∈ host authority :=
  mem_host_of_forall (fun _ ↦ Text.mem_of_mem_lower hc) h

theorem mem_host_of_mem_lowerHost_of_lt {c : Char} (hc : c.toNat < 0x41) {authority : List Char}
    (h : c ∈ lowerHost authority) : c ∈ host authority :=
  mem_host_of_forall (fun _ ↦ Text.mem_of_mem_lower_of_lt hc) h

/-- The scope of an address is lowercased with the rest of the host in the end. -/
theorem lower_lowerHost (authority : List Char) :
    Text.lower (lowerHost authority) = Text.lower (host authority) := by
  unfold lowerHost
  split
  · rename_i address scope hcut
    rw [Text.eq_append_of_cutFirst hcut, Text.endsWord_percent.lower_append, Text.lower_lower,
      Text.endsWord_percent.lower_append]
  · exact Text.lower_lower _

theorem after_subset (c : Char) (cs : List Char) : after c cs ⊆ cs :=
  ((List.drop_sublist _ _).trans (List.dropWhile_sublist _)).subset

theorem hostAndPort_subset (authority : List Char) : hostAndPort authority ⊆ authority := by
  unfold hostAndPort
  split
  · rename_i rest hcut
    rw [Text.eq_append_of_cutLast hcut]
    exact List.Subset.trans (List.subset_cons_self _ _) (List.subset_append_right _ _)
  · exact List.Subset.refl _

theorem host_subset (authority : List Char) : host authority ⊆ authority := by
  refine List.Subset.trans ?_ (hostAndPort_subset authority)
  unfold host
  simp only
  split
  · exact List.Subset.trans (before_subset _ _) (after_subset _ _)
  · exact before_subset _ _

end Authority

namespace ServerUrl

/-- What a usable URL is read from: a scheme in lowercase, and an authority with a host. -/
theorem exists_parts_of_parse {text : String} {url : ServerUrl} (h : parse text = .ok url) :
    ∃ scheme rest authority path, splitScheme (clean text.toList) = (scheme, rest) ∧
      splitAuthority rest = (authority, path) ∧ scheme ≠ [] ∧
      Authority.lowerHost authority ≠ [] ∧ url.scheme = String.ofList scheme ∧
      url.host = String.ofList (Text.lower (Authority.lowerHost authority)) := by
  unfold parse at h
  split at h
  rename_i scheme rest hscheme
  split at h
  rename_i authority path hauthority
  rw [Except.bind_eq_ok_iff] at h
  obtain ⟨_, -, h⟩ := h
  simp only at h
  split at h
  · cases h
  rename_i hparts
  rw [Bool.or_eq_true, List.isEmpty_iff, List.isEmpty_iff, not_or] at hparts
  rw [Except.bind_eq_ok_iff] at h
  obtain ⟨port?, -, h⟩ := h
  rw [← Except.ok.inj h]
  exact ⟨scheme, rest, authority, path, hscheme, hauthority, hparts.1, hparts.2, rfl, rfl⟩

/-- The host comes from an authority. -/
theorem exists_authority_of_parse {text : String} {url : ServerUrl} (h : parse text = .ok url) :
    ∃ authority, url.host = String.ofList (Text.lower (Authority.lowerHost authority)) := by
  obtain ⟨-, -, authority, -, -, -, -, -, -, hhost⟩ := exists_parts_of_parse h
  exact ⟨authority, hhost⟩

/-- **A host holds no closed set.** -/
theorem bracket_notMem_host {text : String} {url : ServerUrl} (h : parse text = .ok url) :
    '[' ∉ url.host.toList ∨ ']' ∉ url.host.toList := by
  obtain ⟨authority, hhost⟩ := exists_authority_of_parse h
  rw [hhost, String.toList_ofList]
  exact (Authority.bracket_notMem_host authority).imp
    (fun hhost hmem ↦ hhost (Authority.mem_host_of_mem_lowerHost (Or.inl rfl)
      (Text.mem_of_mem_lower (Or.inl rfl) hmem)))
    (fun hhost hmem ↦ hhost (Authority.mem_host_of_mem_lowerHost (Or.inr rfl)
      (Text.mem_of_mem_lower (Or.inr rfl) hmem)))

/-! ### Scheme and host in lowercase -/

/-- **The host is in lowercase.** -/
theorem lowered_host {text : String} {url : ServerUrl} (h : parse text = .ok url) :
    Text.lower url.host.toList = url.host.toList := by
  obtain ⟨authority, hhost⟩ := exists_authority_of_parse h
  rw [hhost, String.toList_ofList, Text.lower_lower]

/-- **The scheme is in lowercase.** -/
theorem lowered_scheme {text : String} {url : ServerUrl} (h : parse text = .ok url) :
    Text.lower url.scheme.toList = url.scheme.toList := by
  obtain ⟨scheme, rest, -, -, hsplit, -, hne, -, hscheme, -⟩ := exists_parts_of_parse h
  rw [hscheme, String.toList_ofList]
  unfold splitScheme at hsplit
  split at hsplit
  · split at hsplit
    · cases hsplit
      exact Text.lower_lower _
    · cases hsplit
      exact absurd rfl hne
  · cases hsplit
    exact absurd rfl hne

theorem host_ne_nil {text : String} {url : ServerUrl} (h : parse text = .ok url) :
    url.host.toList ≠ [] := by
  obtain ⟨-, -, authority, -, -, -, -, hne, -, hhost⟩ := exists_parts_of_parse h
  rw [hhost, String.toList_ofList, ne_eq, Text.lower_eq_nil_iff]
  exact hne

/-- **A host holds no question mark.** -/
theorem questionMark_notMem_host {text : String} {url : ServerUrl} (h : parse text = .ok url) :
    '?' ∉ url.host.toList := by
  obtain ⟨-, rest, authority, path, -, hsplit, -, -, -, hhost⟩ := exists_parts_of_parse h
  rw [hhost, String.toList_ofList]
  intro hmem
  have hauthority : '?' ∈ authority :=
    Authority.host_subset _ (Authority.mem_host_of_mem_lowerHost_of_lt (by decide)
      (Text.mem_of_mem_lower_of_lt (by decide) hmem))
  unfold splitAuthority at hsplit
  split at hsplit
  · rw [List.span_eq_takeWhile_dropWhile] at hsplit
    cases hsplit
    exact absurd (List.mem_takeWhile_imp hauthority) (by decide)
  · cases hsplit
    exact absurd hauthority List.not_mem_nil

/-! ### As they are written -/

/-- The scheme as a text writes it. -/
def writtenScheme (text : String) : List Char :=
  (clean text.toList).takeWhile (· != ':')

/-- The host as a text writes it. -/
def writtenHost (text : String) : List Char :=
  Authority.host (splitAuthority (splitScheme (clean text.toList)).2).1

/-- Two texts write the same scheme and the same host, except for the case of letters. -/
def SamePlace (text text' : String) : Prop :=
  Text.lower (writtenScheme text) = Text.lower (writtenScheme text') ∧
    Text.lower (writtenHost text) = Text.lower (writtenHost text')

/-- **The scheme is the lowercase form of the written one.** -/
theorem toList_scheme {text : String} {url : ServerUrl} (h : parse text = .ok url) :
    url.scheme.toList = Text.lower (writtenScheme text) := by
  obtain ⟨scheme, rest, -, -, hsplit, -, hne, -, hscheme, -⟩ := exists_parts_of_parse h
  rw [hscheme, String.toList_ofList, writtenScheme, ← Text.fst_cutFirst?_getD]
  unfold splitScheme at hsplit
  split at hsplit
  · rename_i name after hcut
    rw [hcut]
    split at hsplit
    · exact (Prod.mk.inj hsplit).1.symm
    · exact absurd (Prod.mk.inj hsplit).1.symm hne
  · exact absurd (Prod.mk.inj hsplit).1.symm hne

/-- **The host is the lowercase form of the written one.** -/
theorem toList_host {text : String} {url : ServerUrl} (h : parse text = .ok url) :
    url.host.toList = Text.lower (writtenHost text) := by
  obtain ⟨scheme, rest, authority, path, hscheme, hauthority, -, -, -, hhost⟩ :=
    exists_parts_of_parse h
  rw [hhost, String.toList_ofList, writtenHost, hscheme, hauthority, Authority.lower_lowerHost]

/-- Two usable texts write the same scheme and host exactly if they name the same ones. -/
theorem samePlace_iff {text text' : String} {url url' : ServerUrl} (h : parse text = .ok url)
    (h' : parse text' = .ok url') :
    SamePlace text text' ↔ url.scheme = url'.scheme ∧ url.host = url'.host := by
  rw [SamePlace, ← toList_scheme h, ← toList_scheme h', ← toList_host h, ← toList_host h',
    String.toList_inj, String.toList_inj]

end ServerUrl

end TokenBroker
