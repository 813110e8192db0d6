import TokenBroker.Domain
import TokenBroker.Proofs.ServerUrl.Host
import TokenBroker.Proofs.Text.Glob

/-!
# Which places a domain accepts

A domain is asked about a place by its requirements. Only the first scheme and the first host count
(`Domain.accepts_congr`), so the two that a domain is chosen by say the same as all that a URL
states. A domain whose specifications hold texts always answers (`Domain.exists_accepts`).

**A domain that is made for a URL need not accept it**: the host of the URL becomes a list of
patterns, separated by commas, and must be matched by one of them (`Domain.accepts_ofUrl`). A host
without a comma, and without blanks at its ends, always is (`ServerUrl.selfMatching_of_plain`).
-/

namespace TokenBroker

/-! ### What a test depends on -/

namespace Specification

/-- A test depends on the first scheme and the first host alone. -/
theorem test_congr (spec : Specification) {requirements requirements' : List Requirement}
    (hscheme : requirements.findSome? Requirement.scheme? =
      requirements'.findSome? Requirement.scheme?)
    (hhost : requirements.findSome? Requirement.host? = requirements'.findSome? Requirement.host?) :
    spec.test requirements = spec.test requirements' := by
  cases spec with
  | scheme schemes => simp only [test, hscheme]
  | host includes excludes => simp only [test, hhost]

/-- The fields of a specification are texts; those of a host may be absent. -/
def Readable : Specification → Prop
  | .scheme schemes => ∀ scheme ∈ schemes, ∃ text, scheme = .str text
  | .host includes excludes =>
    (includes = .null ∨ ∃ text, includes = .str text) ∧
      (excludes = .null ∨ ∃ text, excludes = .str text)

theorem exists_patterns {field : Json} (h : field = .null ∨ ∃ text, field = .str text) :
    ∃ found, patterns field = .ok found := by
  rcases h with rfl | ⟨text, rfl⟩
  · exact ⟨[], rfl⟩
  · exact ⟨_, rfl⟩

theorem exists_mapM_loweredField :
    ∀ {schemes : List Json}, (∀ scheme ∈ schemes, ∃ text, scheme = .str text) →
      ∃ texts, schemes.mapM loweredField = .ok texts
  | [], _ => ⟨[], rfl⟩
  | first :: rest, h => by
    obtain ⟨text, rfl⟩ := h first List.mem_cons_self
    obtain ⟨texts, htexts⟩ := exists_mapM_loweredField fun other hother ↦
      h other (List.mem_cons_of_mem _ hother)
    exact ⟨lowered text :: texts, by simp only [List.mapM_cons, htexts, loweredField]; rfl⟩

/-- A specification whose fields are texts has a verdict on every place. -/
theorem exists_test {spec : Specification} (h : spec.Readable) (requirements : List Requirement) :
    ∃ verdict, spec.test requirements = .ok verdict := by
  cases spec with
  | scheme schemes =>
    obtain ⟨texts, htexts⟩ := exists_mapM_loweredField h
    simp only [test, htexts, bind, Except.bind]
    split <;> exact ⟨_, rfl⟩
  | host includes excludes =>
    obtain ⟨included, hincluded⟩ := exists_patterns h.1
    obtain ⟨excluded, hexcluded⟩ := exists_patterns h.2
    simp only [test]
    split
    · exact ⟨_, rfl⟩
    · simp only [testHost, hincluded, hexcluded, bind, Except.bind]
      split <;> exact ⟨_, rfl⟩

end Specification

namespace Domain

/-- Whether a domain accepts a place depends on the first scheme and the first host alone. -/
theorem accepts_congr (domain : Domain) {requirements requirements' : List Requirement}
    (hscheme : requirements.findSome? Requirement.scheme? =
      requirements'.findSome? Requirement.scheme?)
    (hhost : requirements.findSome? Requirement.host? = requirements'.findSome? Requirement.host?) :
    domain.accepts requirements = domain.accepts requirements' := by
  unfold accepts
  induction domain.specifications with
  | nil => rfl
  | cons spec rest ih => simp only [noneNegative, spec.test_congr hscheme hhost, ih]

/-- The scheme and the host of a URL say all that counts. -/
theorem accepts_requirements (domain : Domain) (url : ServerUrl) :
    domain.accepts url.requirements = domain.accepts [.scheme url.scheme, .host url.host] :=
  domain.accepts_congr rfl rfl

/-- The specifications of a domain can all be read. -/
def Readable (domain : Domain) : Prop :=
  ∀ spec ∈ domain.specifications, spec.Readable

/-- **A domain that can be read answers.** -/
theorem exists_accepts {domain : Domain} (h : domain.Readable) (requirements : List Requirement) :
    ∃ accepted, domain.accepts requirements = .ok accepted := by
  rw [Readable] at h
  rw [accepts]
  generalize domain.specifications = specifications at h ⊢
  induction specifications with
  | nil => exact ⟨true, rfl⟩
  | cons spec rest ih =>
    obtain ⟨verdict, hverdict⟩ := Specification.exists_test (h spec List.mem_cons_self) requirements
    obtain ⟨accepted, haccepted⟩ := ih fun other hother ↦ h other (List.mem_cons_of_mem _ hother)
    simp only [noneNegative, hverdict, haccepted, bind, Except.bind]
    cases verdict <;> exact ⟨_, rfl⟩

end Domain

/-! ### Domains made for a URL -/

namespace ServerUrl

/-- Read as patterns with commas between them, the host is none at all, or one of them matches it.
-/
def SelfMatching (url : ServerUrl) : Prop :=
  Specification.splitPatterns url.host = [] ∨
    ∃ pattern ∈ Specification.splitPatterns url.host,
      Glob.Matches (Glob.items pattern) (Text.lower url.host.toList)

end ServerUrl

/-- A text without a comma, and without blanks at its ends, is one pattern. -/
theorem Specification.splitPatterns_of_plain {host : String} (hcomma : ',' ∉ host.toList)
    (hblanks : Text.strip host.toList = host.toList) :
    splitPatterns host = if host.toList.isEmpty then [] else [Text.lower host.toList] := by
  rw [splitPatterns, Text.splitOn_of_notMem hcomma]
  simp only [List.map_cons, List.map_nil, hblanks, List.filterMap_cons, List.filterMap_nil]
  split <;> rename_i heq <;> split at heq <;> simp_all

/-- **A host without a comma, and without blanks at its ends, matches itself.** -/
theorem ServerUrl.selfMatching_of_plain {text : String} {url : ServerUrl}
    (hurl : ServerUrl.parse text = .ok url) (hcomma : ',' ∉ url.host.toList)
    (hblanks : Text.strip url.host.toList = url.host.toList) : url.SelfMatching := by
  rw [SelfMatching, Specification.splitPatterns_of_plain hcomma hblanks]
  split
  · exact Or.inl rfl
  · refine Or.inr ⟨_, List.mem_singleton_self _, Glob.matches_items_self ?_⟩
    exact (bracket_notMem_host hurl).imp (fun h hmem ↦ h (Text.mem_of_mem_lower (Or.inl rfl) hmem))
      (fun h hmem ↦ h (Text.mem_of_mem_lower (Or.inr rfl) hmem))

namespace Specification

/-- A specification of the scheme of a URL is met by it. -/
theorem test_scheme_self (url : ServerUrl) :
    (scheme [.str url.scheme]).test url.requirements = .ok .positive := by
  have hcontains : [lowered url.scheme].contains (lowered url.scheme) = true := by simp
  show Except.ok (if [lowered url.scheme].contains (lowered url.scheme) then Verdict.positive
    else .negative) = _
  rw [hcontains]
  rfl

/-- A specification of the host of a URL is met by it if the host matches itself. -/
theorem test_host_self (url : ServerUrl) [Decidable url.SelfMatching] :
    (host (.str url.host) .null).test url.requirements =
      .ok (if url.SelfMatching then .positive else .negative) := by
  have hmatches : ((splitPatterns url.host).isEmpty ||
      anyMatch (splitPatterns url.host) (Text.lower url.host.toList)) = true ↔
        url.SelfMatching := by
    simp [ServerUrl.SelfMatching, anyMatch, Glob.isMatch, Glob.accepts_eq_true_iff]
  show Except.ok (if ((splitPatterns url.host).isEmpty ||
      anyMatch (splitPatterns url.host) (Text.lower url.host.toList)) = true then Verdict.positive
    else .negative) = _
  simp only [hmatches]

end Specification

namespace Domain

/-- **A domain with the specifications of a URL accepts it exactly if its host matches itself.** -/
theorem accepts_ofUrl {domain : Domain} {url : ServerUrl}
    (h : domain.specifications = Specification.ofUrl url) [Decidable url.SelfMatching] :
    domain.accepts url.requirements = .ok (decide url.SelfMatching) := by
  rw [accepts, h, Specification.ofUrl]
  simp only [noneNegative, Specification.test_scheme_self, Specification.test_host_self, bind,
    Except.bind]
  by_cases hself : url.SelfMatching
  · simp only [hself, if_true, decide_true]
  · simp only [hself, if_false, decide_false]
    rfl

end Domain

end TokenBroker
