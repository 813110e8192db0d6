import TokenBroker.Proofs.Domain.Acceptance

/-!
# Which servers a domain made for a URL accepts

A domain that is made for a URL asks other URLs for the same scheme, and for a host that its own one
*covers*: the host is read as patterns with commas between them, and `ServerUrl.Covers` says what
these match (`Domain.accepts_ofUrl_other`). So the domain may accept more hosts than its own. A host
is *plain* if it has no comma, no star and no blanks at its ends. No other sign means anything among
patterns that a URL can bring with it, so a plain host covers itself and nothing else
(`ServerUrl.Plain.covers_iff`).
-/

namespace TokenBroker

namespace ServerUrl

/-- Read as patterns with commas between them, the host is none at all, or one of them matches
another host. -/
def Covers (url : ServerUrl) (host : String) : Prop :=
  Specification.splitPatterns url.host = [] ∨
    ∃ pattern ∈ Specification.splitPatterns url.host, Glob.Matches (Glob.items pattern) host.toList

/-- The host has no sign in it that means something among patterns. -/
structure Plain (url : ServerUrl) : Prop where
  comma : ',' ∉ url.host.toList
  star : '*' ∉ url.host.toList
  blanks : Text.strip url.host.toList = url.host.toList

/-- **A plain host covers itself and nothing else.** -/
theorem Plain.covers_iff {text : String} {url : ServerUrl} (hplain : url.Plain)
    (hurl : parse text = .ok url) {host : String} : url.Covers host ↔ url.host = host := by
  have hpatterns : Specification.splitPatterns url.host = [url.host.toList] := by
    rw [Specification.splitPatterns_of_plain hplain.comma hplain.blanks, lowered_host hurl, if_neg]
    rw [List.isEmpty_iff]
    exact host_ne_nil hurl
  have hmatches : Glob.Matches (Glob.items url.host.toList) host.toList ↔
      host.toList = url.host.toList :=
    Glob.matches_items_iff_eq hplain.star (questionMark_notMem_host hurl) (bracket_notMem_host hurl)
  rw [Covers, hpatterns]
  simp only [List.cons_ne_nil, List.mem_singleton, exists_eq_left, false_or, hmatches,
    String.toList_inj]
  exact eq_comm

end ServerUrl

section

variable {text text' : String} {url other : ServerUrl}

/-- The specification of a scheme is met by the URLs of the scheme. -/
theorem Specification.test_scheme_ofUrl (hurl : ServerUrl.parse text = .ok url)
    (hother : ServerUrl.parse text' = .ok other) :
    (scheme [.str url.scheme]).test other.requirements =
      .ok (if url.scheme = other.scheme then .positive else .negative) := by
  have hlowered {text : String} {url : ServerUrl} (h : ServerUrl.parse text = .ok url) :
      lowered url.scheme = url.scheme := by
    rw [lowered, ServerUrl.lowered_scheme h, String.ofList_toList]
  show Except.ok (if [lowered url.scheme].contains (lowered other.scheme) then Verdict.positive
    else .negative) = _
  rw [hlowered hurl, hlowered hother]
  simp [eq_comm]

/-- The specification of a host is met by the hosts that it covers. -/
theorem Specification.test_host_ofUrl (hother : ServerUrl.parse text' = .ok other)
    [Decidable (url.Covers other.host)] :
    (host (.str url.host) .null).test other.requirements =
      .ok (if url.Covers other.host then .positive else .negative) := by
  have hcovers : ((splitPatterns url.host).isEmpty ||
      anyMatch (splitPatterns url.host) (Text.lower other.host.toList)) = true ↔
        url.Covers other.host := by
    simp [ServerUrl.Covers, anyMatch, Glob.isMatch, Glob.accepts_eq_true_iff,
      ServerUrl.lowered_host hother]
  show Except.ok (if ((splitPatterns url.host).isEmpty ||
      anyMatch (splitPatterns url.host) (Text.lower other.host.toList)) = true then Verdict.positive
    else .negative) = _
  simp only [hcovers]

/-- **A domain made for a URL accepts the URLs of its scheme whose host it covers.** -/
theorem Domain.accepts_ofUrl_other {domain : Domain}
    (hdomain : domain.specifications = Specification.ofUrl url)
    (hurl : ServerUrl.parse text = .ok url) (hother : ServerUrl.parse text' = .ok other)
    [Decidable (url.scheme = other.scheme ∧ url.Covers other.host)] :
    domain.accepts other.requirements =
      .ok (decide (url.scheme = other.scheme ∧ url.Covers other.host)) := by
  classical
  rw [accepts, hdomain, Specification.ofUrl]
  simp only [noneNegative, Specification.test_scheme_ofUrl hurl hother,
    Specification.test_host_ofUrl hother, bind, Except.bind]
  by_cases hscheme : url.scheme = other.scheme
  · by_cases hcovers : url.Covers other.host
    · simp only [hscheme, hcovers, if_true, and_self, decide_true]
    · simp only [hscheme, hcovers, if_true, if_false, and_false, decide_false]
      rfl
  · simp only [hscheme, if_false, false_and, decide_false]
    rfl

end

end TokenBroker
