import TokenBroker.Proofs.ServerUrl.Assembly
import TokenBroker.Requirement

/-!
# The requirements of well-formed URLs

`UrlParts` are the parts of a URL. They are well-formed if no part holds a character that would end
it; delimiters may occur wherever they do not delimit, such as at signs in the user information or
question marks in a fragment. The requirements of the text are then those of the parts
(`UrlParts.requirementsOf_written`), with one exception: a port is refused if more digits are
written than a number is read from, even if all of them are zeros
(`UrlParts.requirementsOf_written_of_long_port`).
-/

namespace TokenBroker

/-- The parts that a URL is put together from; the port is given by its digits. -/
structure UrlParts where
  scheme : List Char
  userInfo? : Option (List Char)
  host : List Char
  port? : Option (List Char)
  path : List Char
  query? : Option (List Char)
  fragment? : Option (List Char)

namespace UrlParts

def authority (parts : UrlParts) : List Char :=
  match parts.userInfo? with
  | some userInfo => userInfo ++ '@' :: (parts.host ++ led ':' parts.port?)
  | none => parts.host ++ led ':' parts.port?

/-- The text of a URL. -/
def written (parts : UrlParts) : List Char :=
  parts.scheme ++ ':' :: '/' :: '/' ::
    (parts.authority ++ (parts.path ++ led '?' parts.query? ++ led '#' parts.fragment?))

/-- Parts that hold none of the characters that would end them. -/
structure WellFormed (parts : UrlParts) : Prop where
  visible : ∀ c ∈ parts.written, IsVisible c
  scheme : ServerUrl.isScheme parts.scheme = true
  userInfo : ∀ userInfo, parts.userInfo? = some userInfo →
    ∀ c ∈ userInfo, c ∉ ['/', '?', '#', '[', ']']
  host_ne_nil : parts.host ≠ []
  host : ∀ c ∈ parts.host, c ∉ ['/', '?', '#', '@', ':', '[', ']']
  port : ∀ digits, parts.port? = some digits → ServerUrl.IsPort digits
  path_head : ∀ c, parts.path.head? = some c → c = '/'
  path : ∀ c ∈ parts.path, c ∉ ['?', '#']
  query : ∀ query, parts.query? = some query → '#' ∉ query

/-- The requirements of the place that the parts name. -/
def requirements (parts : UrlParts) : List Requirement :=
  let scheme := String.ofList (Text.lower parts.scheme)
  let host := String.ofList (Text.lower parts.host)
  let port? :=
    match parts.port? with
    | some digits => some (Address.decimalValue digits)
    | none => usualPort? scheme
  [.scheme scheme, .host host] ++ (port?.map (.hostPort host)).toList
    ++ (if parts.path.isEmpty then [] else [.path (String.ofList parts.path)])

/-- The port, if there is one, has no more digits than are read. -/
def PortFits (parts : UrlParts) : Prop :=
  ∀ digits, parts.port? = some digits → digits.length ≤ Address.maximumDigits

variable {parts : UrlParts} {before after : List Char}

namespace WellFormed

/-- No digit is one of the characters that end a part. -/
theorem notMem_of_mem_port (h : parts.WellFormed) {c : Char} (hc : c ∈ led ':' parts.port?) :
    c ∉ ['/', '?', '#', '@', '[', ']'] := by
  cases hport : parts.port? with
  | none => simp [hport, led] at hc
  | some digits =>
    rw [hport, led, Option.map_some, Option.getD_some, List.mem_cons] at hc
    rcases hc with rfl | hc
    · decide
    · exact (isPlain_of_isDecimal ((h.port digits hport).decimal c hc)).notMem (by simp)

theorem notMem_of_mem_place (h : parts.WellFormed) {c : Char}
    (hc : c ∈ parts.host ++ led ':' parts.port?) : c ∉ ['/', '?', '#', '@', '[', ']'] := by
  rcases List.mem_append.1 hc with hc | hc
  · have hfewer : ['/', '?', '#', '@', '[', ']'] ⊆ ['/', '?', '#', '@', ':', '[', ']'] := by simp
    exact fun hmem ↦ h.host c hc (hfewer hmem)
  · exact h.notMem_of_mem_port hc

theorem notMem_of_mem_authority (h : parts.WellFormed) {c : Char} (hc : c ∈ parts.authority) :
    c ∉ ['/', '?', '#', '[', ']'] := by
  have hplace {c : Char} (hc : c ∈ parts.host ++ led ':' parts.port?) :
      c ∉ ['/', '?', '#', '[', ']'] := by
    have hfewer : ['/', '?', '#', '[', ']'] ⊆ ['/', '?', '#', '@', '[', ']'] := by simp
    exact fun hmem ↦ h.notMem_of_mem_place hc (hfewer hmem)
  rw [authority] at hc
  split at hc
  · rename_i userInfo huser
    rcases List.mem_append.1 hc with hc | hc
    · exact h.userInfo userInfo huser c hc
    · rcases List.mem_cons.1 hc with rfl | hc
      · decide
      · exact hplace hc
  · exact hplace hc

/-- The last at sign of the authority is the one before the host. -/
theorem hostAndPort_authority (h : parts.WellFormed) :
    Authority.hostAndPort parts.authority = parts.host ++ led ':' parts.port? := by
  have hplace : '@' ∉ parts.host ++ led ':' parts.port? := fun hmem ↦
    h.notMem_of_mem_place hmem (by decide)
  rw [authority]
  split
  · exact Authority.hostAndPort_append _ hplace
  · exact Authority.hostAndPort_of_notMem hplace

theorem host_port_authority (h : parts.WellFormed) :
    Authority.host parts.authority = parts.host ∧
      Authority.port parts.authority = parts.port?.getD [] :=
  Authority.host_port_of_plain h.hostAndPort_authority (fun hmem ↦ h.host _ hmem (by decide))
    (fun hmem ↦ h.notMem_of_mem_place hmem (by decide))

theorem check_authority (h : parts.WellFormed) : Authority.check parts.authority = .ok () := by
  refine Authority.check_of_plain (fun c hc ↦ h.visible c ?_)
    (fun hmem ↦ h.notMem_of_mem_authority hmem (by decide))
    (fun hmem ↦ h.notMem_of_mem_authority hmem (by decide))
  rw [written]
  simp [hc]

/-- What follows the authority begins with the character that ends it. -/
theorem endsAuthority_of_head? (h : parts.WellFormed) {c : Char}
    (hc : (parts.path ++ led '?' parts.query? ++ led '#' parts.fragment?).head? = some c) :
    ServerUrl.endsAuthority c = true := by
  cases hpath : parts.path with
  | cons d rest =>
    rw [hpath] at hc
    obtain rfl : d = c := Option.some.inj hc
    rw [h.path_head d (by rw [hpath]; rfl)]
    rfl
  | nil =>
    rw [hpath, List.nil_append] at hc
    cases hquery : parts.query? with
    | some query =>
      rw [hquery] at hc
      obtain rfl : '?' = c := Option.some.inj hc
      rfl
    | none =>
      rw [hquery] at hc
      cases hfragment : parts.fragment? with
      | some fragment =>
        rw [hfragment] at hc
        obtain rfl : '#' = c := Option.some.inj hc
        rfl
      | none =>
        rw [hfragment] at hc
        cases hc

/-- The path ends where the query or the fragment begins. -/
theorem pathOf_eq (h : parts.WellFormed) :
    ServerUrl.pathOf (parts.path ++ led '?' parts.query? ++ led '#' parts.fragment?) =
      parts.path := by
  have hpath : ∀ c ∈ parts.path, (c != '?' && c != '#') = true := fun c hc ↦ by
    simpa using h.path c hc
  rw [ServerUrl.pathOf, List.append_assoc, List.takeWhile_append_of_pos hpath]
  cases parts.query? <;> cases parts.fragment? <;> simp [led]

/-- **A well-formed URL is read back**, up to the reading of its port. -/
theorem parse_written (h : parts.WellFormed) (hbefore : ∀ c ∈ before, Text.isBlank c = true)
    (hafter : ∀ c ∈ after, Text.isBlank c = true) :
    let text := String.ofList (before ++ parts.written ++ after)
    ServerUrl.parse text = (ServerUrl.readPort text (parts.port?.getD [])).map fun port? ↦
      { scheme := String.ofList (Text.lower parts.scheme)
        host := String.ofList (Text.lower parts.host)
        port? := port?
        path := String.ofList parts.path } := by
  obtain ⟨hhost, hport⟩ := h.host_port_authority
  have hauthority : ∀ c ∈ parts.authority, ServerUrl.endsAuthority c = false := fun c hc ↦ by
    have := h.notMem_of_mem_authority hc
    simp only [List.mem_cons, List.not_mem_nil, or_false, not_or] at this
    simp [ServerUrl.endsAuthority, this]
  have hparse := ServerUrl.parse_assembled h.scheme hauthority
    (fun _ ↦ h.endsAuthority_of_head?) h.visible hbefore hafter h.check_authority
    (hhost ▸ h.host_ne_nil)
  rwa [hhost, hport, h.pathOf_eq] at hparse

end WellFormed

/-- A port with more digits than are read makes a well-formed URL unusable. -/
theorem requirementsOf_written_of_long_port (h : parts.WellFormed)
    (hbefore : ∀ c ∈ before, Text.isBlank c = true)
    (hafter : ∀ c ∈ after, Text.isBlank c = true) (hport : ¬ parts.PortFits) :
    let text := String.ofList (before ++ parts.written ++ after)
    requirementsOf text = .error (.badPort text) := by
  intro text
  simp only [PortFits, not_forall] at hport
  obtain ⟨digits, hdigits, hlong⟩ := hport
  rw [requirementsOf, h.parse_written hbefore hafter, hdigits, Option.getD_some,
    (h.port digits hdigits).readPort, if_neg hlong]
  rfl

/-- **The requirements of a well-formed URL are those of its parts**: user information, query and
fragment have no influence, and neither have blanks around it. -/
theorem requirementsOf_written (h : parts.WellFormed) (hport : parts.PortFits)
    (hbefore : ∀ c ∈ before, Text.isBlank c = true)
    (hafter : ∀ c ∈ after, Text.isBlank c = true) :
    requirementsOf (String.ofList (before ++ parts.written ++ after)) =
      .ok parts.requirements := by
  rw [requirementsOf, h.parse_written hbefore hafter, requirements]
  cases hdigits : parts.port? with
  | none =>
    simp [ServerUrl.readPort, Except.map, ServerUrl.requirements, ServerUrl.effectivePort?]
  | some digits =>
    rw [Option.getD_some, (h.port digits hdigits).readPort, if_pos (hport digits hdigits)]
    simp [Except.map, ServerUrl.requirements, ServerUrl.effectivePort?]

/-- A URL with a second at sign, a port with a leading zero, and delimiters where they do not
count. -/
def sample : UrlParts where
  scheme := ['H', 'T', 'T', 'P']
  userInfo? := some ['a', ':', 'b', '@']
  host := ['E', '-', 'x']
  port? := some ['0', '8', '1']
  path := ['/', '@', ':']
  query? := some ['/', '?', '[']
  fragment? := some ['?', '#', ']']

theorem wellFormed_sample : sample.WellFormed where
  visible := List.forall_iff_forall_mem.1 (by decide +kernel)
  scheme := by decide
  userInfo := by
    rintro _ ⟨⟩
    exact List.forall_iff_forall_mem.1 (by decide)
  host_ne_nil := by decide
  host := List.forall_iff_forall_mem.1 (by decide)
  port := by
    rintro _ ⟨⟩
    exact ⟨by decide, List.forall_iff_forall_mem.1 (by decide), by decide⟩
  path_head := by
    rintro _ ⟨⟩
    rfl
  path := List.forall_iff_forall_mem.1 (by decide)
  query := by
    rintro _ ⟨⟩
    decide

theorem requirementsOf_written_sample :
    requirementsOf " HTTP://a:b@@E-x:081/@:?/?[#?#]\n" =
      .ok [.scheme "http", .host "e-x", .hostPort "e-x" 81, .path "/@:"] := by
  have hport : sample.PortFits := by
    rintro _ ⟨⟩
    decide
  have htext : String.ofList ([' '] ++ sample.written ++ ['\n']) =
    " HTTP://a:b@@E-x:081/@:?/?[#?#]\n" := by decide +kernel
  have hrequirements : sample.requirements =
    [.scheme "http", .host "e-x", .hostPort "e-x" 81, .path "/@:"] := by decide +kernel
  rw [← htext, ← hrequirements]
  exact requirementsOf_written wellFormed_sample hport
    (List.forall_iff_forall_mem.1 (by decide)) (List.forall_iff_forall_mem.1 (by decide))

/-! ### Ports that are too long -/

/-- Zero written with some zeros. -/
def zeros (n : Nat) : UrlParts where
  scheme := ['h', 't', 't', 'p']
  userInfo? := none
  host := ['h']
  port? := some (List.replicate n '0')
  path := []
  query? := none
  fragment? := none

theorem decimalValue_replicate_zero (n : Nat) :
    Address.decimalValue (List.replicate n '0') = 0 := by
  induction n with
  | zero => rfl
  | succ n ih => exact ih

theorem wellFormed_zeros {n : Nat} (hn : n ≠ 0) : (zeros n).WellFormed where
  visible := by
    have hwritten : (zeros n).written =
        ['h', 't', 't', 'p', ':', '/', '/', 'h', ':'] ++ List.replicate n '0' := by
      simp [written, authority, zeros, led]
    have hstart : ∀ c ∈ ['h', 't', 't', 'p', ':', '/', '/', 'h', ':'], IsVisible c :=
      List.forall_iff_forall_mem.1 (by decide)
    rw [hwritten]
    intro c hc
    rcases List.mem_append.1 hc with hc | hc
    · exact hstart c hc
    · rw [List.eq_of_mem_replicate hc]
      decide
  scheme := by
    show ServerUrl.isScheme ['h', 't', 't', 'p'] = true
    decide
  userInfo := by
    rintro _ ⟨⟩
  host_ne_nil := List.cons_ne_nil _ _
  host := by
    show ∀ c ∈ ['h'], c ∉ ['/', '?', '#', '@', ':', '[', ']']
    exact List.forall_iff_forall_mem.1 (by decide)
  port := by
    rintro _ ⟨⟩
    refine ⟨by simpa using hn, fun c hc ↦ ?_, ?_⟩
    · rw [List.eq_of_mem_replicate hc]
      decide
    · rw [decimalValue_replicate_zero]
      exact Nat.zero_le _
  path_head := by
    rintro _ ⟨⟩
  path := by
    rintro _ ⟨⟩
  query := by
    rintro _ ⟨⟩

/-- **Zero is no port if it is written with too many digits**, although the URL is well-formed. -/
theorem not_forall_requirementsOf_written :
    ¬ ∀ (parts : UrlParts) (before after : List Char), parts.WellFormed →
      (∀ c ∈ before, Text.isBlank c = true) → (∀ c ∈ after, Text.isBlank c = true) →
      requirementsOf (String.ofList (before ++ parts.written ++ after)) =
        .ok parts.requirements := by
  intro hall
  have hwellFormed : (zeros (Address.maximumDigits + 1)).WellFormed := wellFormed_zeros (by decide)
  have hlong : ¬ (zeros (Address.maximumDigits + 1)).PortFits := by
    intro hfits
    have := hfits _ rfl
    rw [List.length_replicate] at this
    omega
  have hread := hall _ [] [] hwellFormed (by simp) (by simp)
  rw [requirementsOf_written_of_long_port hwellFormed (by simp) (by simp) hlong] at hread
  cases hread

end UrlParts

end TokenBroker
