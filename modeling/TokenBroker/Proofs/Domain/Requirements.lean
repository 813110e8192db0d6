import TokenBroker.Proofs.Domain.Acceptance

/-!
# What a domain has to be told

A specification answers by the first requirement that it understands, but the order in which the
requirements of a URL are listed does not matter: all those that state a scheme state the same one,
and all those that state a host the same one (`ServerUrl.describes_requirements`). So a domain says
the same to the scheme and the host alone, by which it is chosen for a URL, as to all that is known
of the URL, by which credentials are looked up (`Requirement.Describes.accepts_eq`).
-/

namespace TokenBroker

/-- The requirements state this scheme and this host, and no others. -/
structure Requirement.Describes (requirements : List Requirement) (scheme host : String) :
    Prop where
  scheme_mem : .scheme scheme ∈ requirements
  host_mem : .host host ∈ requirements
  scheme_eq : ∀ fact ∈ requirements, ∀ other, fact.scheme? = some other → other = scheme
  host_eq : ∀ fact ∈ requirements, ∀ other, fact.host? = some other → other = host

namespace Requirement.Describes

variable {requirements reordered : List Requirement} {scheme host : String}

theorem of_perm (h : Describes requirements scheme host) (hperm : reordered.Perm requirements) :
    Describes reordered scheme host where
  scheme_mem := hperm.mem_iff.2 h.scheme_mem
  host_mem := hperm.mem_iff.2 h.host_mem
  scheme_eq := fun fact hfact ↦ h.scheme_eq fact (hperm.mem_iff.1 hfact)
  host_eq := fun fact hfact ↦ h.host_eq fact (hperm.mem_iff.1 hfact)

/-- **A domain is told all that counts by the scheme and the host.** -/
theorem accepts_eq (h : Describes requirements scheme host) (domain : Domain) :
    domain.accepts requirements = domain.accepts [.scheme scheme, .host host] := by
  refine domain.accepts_congr ?_ ?_
  · exact List.findSome?_eq_some_of_forall h.scheme_mem rfl h.scheme_eq
  · exact List.findSome?_eq_some_of_forall h.host_mem rfl h.host_eq

end Requirement.Describes

/-- **The requirements of a URL state one scheme and one host.** -/
theorem ServerUrl.describes_requirements (url : ServerUrl) :
    Requirement.Describes url.requirements url.scheme url.host where
  scheme_mem := List.mem_cons_self
  host_mem := List.mem_cons_of_mem _ List.mem_cons_self
  scheme_eq := by
    intro fact hfact scheme hscheme
    cases fact with
    | scheme => simp_all [requirements, Requirement.scheme?]
    | _ => cases hscheme
  host_eq := by
    intro fact hfact host hhost
    cases fact with
    | host | hostPort => simp_all [requirements, Requirement.host?]
    | _ => cases hhost

/-- **A domain is chosen and looked into by the same test.** On the requirements of a usable URL, in
whatever order, it gives the answer that it gives on the scheme and the host, by which the domain
for the URL is chosen; and it gives the same answer to every other URL with this scheme and host. -/
theorem Domain.accepts_alike (domain : Domain) {text : String} {url : ServerUrl}
    (hurl : ServerUrl.parse text = .ok url) :
    (∃ requirements, requirementsOf text = .ok requirements ∧
      ∀ reordered : List Requirement, reordered.Perm requirements →
        domain.accepts reordered = domain.accepts [.scheme url.scheme, .host url.host]) ∧
    ∀ text' url', ServerUrl.parse text' = .ok url' → ServerUrl.SamePlace text text' →
      domain.accepts url'.requirements = domain.accepts url.requirements := by
  refine ⟨⟨url.requirements, ?_, fun reordered hperm ↦ ?_⟩, fun text' url' hurl' hsame ↦ ?_⟩
  · rw [requirementsOf, hurl]
    rfl
  · exact (url.describes_requirements.of_perm hperm).accepts_eq domain
  · obtain ⟨hscheme, hhost⟩ := (ServerUrl.samePlace_iff hurl hurl').1 hsame
    rw [url.describes_requirements.accepts_eq, url'.describes_requirements.accepts_eq, hscheme,
      hhost]

/-- The domain of the hosts below one, except for old ones. -/
def exampleHosts : Domain where
  name := .str "example"
  specifications := [.scheme [.str "HTTPS"], .host (.str "*.example.com") (.str "old.*")]

/-- A URL that says much in capitals, from back to front, and one that says little. -/
theorem Domain.accepts_alike_reversed :
    ServerUrl.parse "HTTPS://jdoe@GitLab.Example.com:8443/group?a=b" =
        .ok ⟨"https", "gitlab.example.com", some 8443, "/group"⟩ ∧
      exampleHosts.accepts [.path "/group", .hostPort "gitlab.example.com" 8443,
        .host "gitlab.example.com", .scheme "https"] = .ok true ∧
      exampleHosts.accepts [.scheme "https", .host "gitlab.example.com",
        .hostPort "gitlab.example.com" 443] = .ok true := by
  have hurl : ServerUrl.parse "HTTPS://jdoe@GitLab.Example.com:8443/group?a=b" =
      .ok ⟨"https", "gitlab.example.com", some 8443, "/group"⟩ := by
    decide +kernel
  have hurl' : ServerUrl.parse "https://gitlab.example.com" =
      .ok ⟨"https", "gitlab.example.com", none, ""⟩ := by
    decide +kernel
  have hanswer : exampleHosts.accepts [.scheme "https", .host "gitlab.example.com"] = .ok true := by
    decide +kernel
  obtain ⟨⟨requirements, hrequirements, hreordered⟩, hsame⟩ := exampleHosts.accepts_alike hurl
  rw [requirementsOf, hurl] at hrequirements
  cases hrequirements
  refine ⟨hurl, ?_, ?_⟩
  · exact (hreordered _ (by decide)).trans hanswer
  · have hplace : ServerUrl.SamePlace "HTTPS://jdoe@GitLab.Example.com:8443/group?a=b"
        "https://gitlab.example.com" := by
      unfold ServerUrl.SamePlace
      decide +kernel
    rw [hreordered _ (List.Perm.refl _)] at hsame
    exact (hsame _ _ hurl' hplace).trans hanswer

end TokenBroker
