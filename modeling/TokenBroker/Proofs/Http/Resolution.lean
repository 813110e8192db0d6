import Mathlib.Data.List.DropRight
import TokenBroker.Proofs.Http.Paths

/-!
# Resolving references

A browser resolves a reference against the address of the page that it is on
(`RequestUrl.resolve`). A site appends it to what it asks for. Without dot segments these are the
same in two cases only (`RequestUrl.refer_resolve`): the reference says by itself where it leads, or
the site asks for nothing but slashes and the reference begins with just as many and names no other
authority. That nothing else will do is a matter of lengths: what is appended to the site is shorter
than what is put into the directory of a page below it.
-/

namespace TokenBroker

namespace RequestUrl

variable {url site base address reference : RequestUrl}

/-! ### Resolving -/

/-- A path up to its last slash. -/
def directory (path : List Char) : List Char :=
  path.rdropWhile (· != '/')

/-- The path of a reference, put into the directory of the base unless it begins with a slash. -/
def mergedPath (base reference : RequestUrl) : List Char :=
  if reference.path.toList.head? = some '/' then reference.path.toList
  else if base.path.isEmpty then '/' :: reference.path.toList
  else directory base.path.toList ++ reference.path.toList

/-- Where a reference on a page leads to: what the reference does not say is taken from the address
of the page, from its scheme on. -/
def resolve (base reference : RequestUrl) : RequestUrl :=
  if reference.scheme ≠ "" then reference
  else if reference.authority ≠ "" then
    { reference with
      scheme := base.scheme
      port? := reference.port?.filter (usualPort? base.scheme != some ·) }
  else if reference.path = "" then
    { base with
      query? := reference.query?.or base.query?
      fragment? := reference.fragment? }
  else
    { base with
      path := String.ofList (normalPath (mergedPath base reference))
      query? := reference.query?
      fragment? := reference.fragment? }

/-- The addresses are asked the same: they may differ in the fragment, which is not sent. -/
def SameTarget (url url' : RequestUrl) : Prop :=
  url.scheme = url'.scheme ∧ url.authority = url'.authority ∧ url.target = url'.target

instance : DecidableRel SameTarget := fun url url' ↦
  inferInstanceAs (Decidable (url.scheme = url'.scheme ∧ url.authority = url'.authority ∧
    url.target = url'.target))

/-! ### What an address is asked for -/

/-- The path of the target, which is at least a slash. -/
def askedPath (url : RequestUrl) : List Char :=
  if url.path = "" then ['/'] else url.path.toList

/-- The query with the mark before it. -/
def writtenQuery (url : RequestUrl) : List Char :=
  url.query?.elim [] ('?' :: ·.toList)

theorem toList_target (url : RequestUrl) :
    url.target.toList = url.askedPath ++ url.writtenQuery := by
  rw [target, String.toList_append, askedPath, writtenQuery]
  simp only [String.isEmpty_iff]
  congr 1
  · split <;> rfl
  · cases url.query? <;> simp

/-- A text that is asked for as it is: nothing in it has to be escaped or resolved. -/
structure Askable (cs : List Char) : Prop where
  query : ∀ c ∈ cs, isQuerySafe c = true
  path : ∀ c ∈ cs.takeWhile (· != '?'), isPathSafe c = true
  dotFree : DotFree (cs.takeWhile (· != '?'))

theorem askable_iff {cs : List Char} : Askable cs ↔ cs.all isQuerySafe = true ∧
    (cs.takeWhile (· != '?')).all isPathSafe = true ∧ DotFree (cs.takeWhile (· != '?')) := by
  rw [List.all_eq_true, List.all_eq_true]
  exact ⟨fun h ↦ ⟨h.query, h.path, h.dotFree⟩, fun ⟨hquery, hpath, hdots⟩ ↦ ⟨hquery, hpath, hdots⟩⟩

instance : DecidablePred Askable := fun _ ↦
  decidable_of_iff _ askable_iff.symm

theorem isPathSafe_slash : isPathSafe '/' = true := by
  decide

theorem isQuerySafe_of_isPathSafe {c : Char} (h : isPathSafe c = true) : isQuerySafe c = true := by
  rw [isPathSafe, Bool.and_eq_true] at h
  exact h.1

theorem ne_of_isPathSafe {c : Char} (h : isPathSafe c = true) : c ≠ '?' := by
  rintro rfl
  revert h
  decide

/-- What is appended after a slash may be asked for too. -/
theorem Askable.append {start rest : List Char} (hstart : Askable start)
    (hslash : start.getLast? = some '/') (hrest : Askable rest) : Askable (start ++ rest) := by
  obtain ⟨before, rfl⟩ := List.getLast?_eq_some_iff.1 hslash
  have hquery := List.forall_mem_append.2 ⟨hstart.query, hrest.query⟩
  have htake := @List.takeWhile_append _ (· != '?') (before ++ ['/']) rest
  split at htake
  · rename_i hlength
    -- the query comes after the slash, if there is one
    have hwhole : (before ++ ['/']).takeWhile (· != '?') = before ++ ['/'] :=
      (List.takeWhile_prefix _).eq_of_length hlength
    have hpath := hstart.path
    have hdots := hstart.dotFree
    rw [hwhole] at hpath hdots
    refine ⟨hquery, ?_, ?_⟩ <;> rw [htake]
    · exact List.forall_mem_append.2 ⟨hpath, hrest.path⟩
    · rw [List.append_assoc, List.singleton_append, dotFree_append_cons_iff]
      exact ⟨(dotFree_append_cons_iff.1 hdots).1, hrest.dotFree⟩
  · exact ⟨hquery, htake ▸ hstart.path, htake ▸ hstart.dotFree⟩

theorem Askable.concat_slash {cs : List Char} (h : Askable cs) : Askable (cs ++ ['/']) := by
  have hquery : ∀ c ∈ cs ++ ['/'], isQuerySafe c = true :=
    List.forall_mem_append.2
      ⟨h.query, List.forall_mem_singleton.2 (isQuerySafe_of_isPathSafe isPathSafe_slash)⟩
  have htake := @List.takeWhile_append _ (· != '?') cs ['/']
  split at htake
  · rename_i hlength
    have hwhole : cs.takeWhile (· != '?') = cs := (List.takeWhile_prefix _).eq_of_length hlength
    have hpath := h.path
    have hdots := h.dotFree
    rw [hwhole] at hpath hdots
    refine ⟨hquery, ?_, ?_⟩ <;> rw [htake]
    · exact List.forall_mem_append.2 ⟨hpath, List.forall_mem_singleton.2 isPathSafe_slash⟩
    · exact dotFree_append_cons_iff.2 ⟨hdots, dotFree_nil⟩
  · exact ⟨hquery, htake ▸ h.path, htake ▸ h.dotFree⟩

theorem Askable.of_cons_slash {cs : List Char} (h : Askable ('/' :: cs)) : Askable cs := by
  have htake : ('/' :: cs).takeWhile (· != '?') = [] ++ '/' :: cs.takeWhile (· != '?') :=
    List.takeWhile_cons_of_pos (by decide)
  obtain ⟨hquery, hpath, hdots⟩ := h
  rw [htake] at hpath hdots
  exact ⟨(List.forall_mem_cons.1 hquery).2, (List.forall_mem_cons.1 hpath).2,
    (dotFree_append_cons_iff.1 hdots).2⟩

theorem Askable.dropSlashes {cs : List Char} (h : Askable cs) :
    Askable (cs.dropWhile (· == '/')) := by
  induction cs with
  | nil => exact h
  | cons c rest ih =>
    by_cases hc : c = '/'
    · subst hc
      exact ih h.of_cons_slash
    · rw [List.dropWhile_cons_of_neg (by simpa using hc)]
      exact h

/-- The parts of the address that is asked for something. -/
theorem parts_of_withTarget {cs : List Char} (h : url.withTarget cs = .ok address)
    (hscheme : url.scheme ≠ "") :
    address.path = String.ofList
        (Percent.encode isPathSafe (normalPath (cs.takeWhile (· != '?')))) ∧
      address.query? = (Text.cutFirst? '?' cs).map fun cut ↦
        String.ofList (Percent.encode isQuerySafe cut.2) := by
  obtain ⟨host, port?, -, -, -, rfl⟩ := ofParts_eq_ok_iff.1 (ofParts_of_withTarget h)
  have hplaced : url.scheme.toList.isEmpty = false :=
    List.isEmpty_eq_false_iff.2 fun hnil ↦ hscheme (String.toList_eq_nil_iff.1 hnil)
  exact ⟨by simp [hplaced], Option.map_map _ _ _⟩

/-- What is asked for as it is becomes the target. -/
theorem Askable.target {cs : List Char} (h : Askable cs) (hne : cs.takeWhile (· != '?') ≠ [])
    (hscheme : url.scheme ≠ "") (haddress : url.withTarget cs = .ok address) :
    address.path.toList = cs.takeWhile (· != '?') ∧ address.target.toList = cs := by
  obtain ⟨hpath, hquery⟩ := parts_of_withTarget haddress hscheme
  rw [normalPath_of_dotFree h.dotFree, Percent.encode_of_safe h.path] at hpath
  have hasked : address.askedPath = cs.takeWhile (· != '?') := by
    rw [askedPath, hpath, String.toList_ofList, if_neg]
    exact fun heq ↦ hne (by rw [← String.toList_ofList (l := cs.takeWhile _), heq]; rfl)
  refine ⟨by rw [hpath, String.toList_ofList], ?_⟩
  have hcut := Text.fst_cutFirst?_getD '?' cs
  rw [toList_target, hasked, writtenQuery, hquery, ← hcut]
  cases hfound : Text.cutFirst? '?' cs with
  | none => exact List.append_nil cs
  | some cut =>
    obtain ⟨before, after⟩ := cut
    have hcs : cs = before ++ '?' :: after := Text.eq_append_of_cutFirst hfound
    have hafter : ∀ c ∈ after, isQuerySafe c = true := fun c hc ↦
      h.query c (hcs ▸ List.mem_append_right _ (List.mem_cons_of_mem _ hc))
    simp only [Option.map_some, Option.getD_some, Option.elim_some,
      Percent.encode_of_safe hafter, String.toList_ofList]
    exact hcs.symm

/-! ### Addresses that have been read -/

/-- The path and the query need no escaping. -/
structure Neat (url : RequestUrl) : Prop where
  path : ∀ c ∈ url.path.toList, isPathSafe c = true
  query : ∀ c ∈ url.writtenQuery, isQuerySafe c = true

theorem neat_of_ofParts {scheme authority path : List Char} {query? fragment? : Option (List Char)}
    (h : ofParts scheme authority path query? fragment? = .ok url) :
    url.Neat ∧ (scheme ≠ [] ∨ url.authority ≠ "" → DotFree url.path.toList) ∧
      url.scheme = String.ofList (Text.lower scheme) := by
  obtain ⟨host, port?, -, -, -, rfl⟩ := ofParts_eq_ok_iff.1 h
  refine ⟨⟨fun c hc ↦ ?_, fun c hc ↦ ?_⟩, fun hplaced ↦ ?_, rfl⟩
  · rw [String.toList_ofList] at hc
    exact Percent.safe_of_mem_encode (by decide) (by decide) hc
  · cases query? with
    | none => cases hc
    | some query =>
      rcases List.mem_cons.1 hc with rfl | hc
      · decide
      · rw [String.toList_ofList] at hc
        exact Percent.safe_of_mem_encode (by decide) (by decide) hc
  · rw [String.toList_ofList]
    split
    · exact dotFree_encode_normalPath (by decide) path
    · rename_i hflag
      -- neither scheme nor authority
      simp only [Bool.or_eq_true, Bool.not_eq_true', List.isEmpty_eq_false_iff,
        Option.isSome_iff_ne_none, not_or, not_not] at hflag
      obtain ⟨hscheme, ⟨huser, rfl⟩, rfl⟩ := hflag
      rw [huser] at hplaced
      exact absurd hplaced (not_or.2 ⟨not_not.2 hscheme, not_not.2 rfl⟩)

theorem neat_of_parse {text : String} (h : parse text = .ok url) :
    url.Neat ∧ (url.scheme ≠ "" ∨ url.authority ≠ "" → DotFree url.path.toList) := by
  obtain ⟨_, _, _, _, _, hparts⟩ := exists_ofParts_of_parse h
  obtain ⟨hneat, hdots, hscheme⟩ := neat_of_ofParts hparts
  refine ⟨hneat, fun hplaced ↦ hdots (hplaced.imp_left ?_)⟩
  rintro hne hnil
  rw [hscheme, hnil] at hne
  exact hne rfl

theorem askedPath_ne_nil (url : RequestUrl) : url.askedPath ≠ [] := by
  rw [askedPath]
  split
  · exact List.cons_ne_nil _ _
  · rename_i hpath
    exact fun hnil ↦ hpath (String.toList_eq_nil_iff.1 hnil)

theorem Neat.askedPath (h : url.Neat) : ∀ c ∈ url.askedPath, isPathSafe c = true := by
  rw [RequestUrl.askedPath]
  split
  · exact List.forall_mem_singleton.2 isPathSafe_slash
  · exact h.path

theorem Neat.takeWhile_target_append (h : url.Neat) (rest : List Char) :
    (url.target.toList ++ rest).takeWhile (· != '?') =
      url.askedPath ++ (url.writtenQuery ++ rest).takeWhile (· != '?') := by
  have hkept : ∀ c ∈ url.askedPath, (c != '?') = true := fun c hc ↦
    bne_iff_ne.2 (ne_of_isPathSafe (h.askedPath c hc))
  rw [toList_target, List.append_assoc, List.takeWhile_append_of_pos hkept]

/-- The target up to the mark is the path. -/
theorem Neat.takeWhile_target (h : url.Neat) :
    url.target.toList.takeWhile (· != '?') = url.askedPath := by
  have htake := h.takeWhile_target_append []
  rw [List.append_nil, List.append_nil, writtenQuery] at htake
  rw [htake]
  cases url.query? with
  | none => exact List.append_nil _
  | some query => exact List.append_nil _

theorem Neat.takeWhile_target_append_ne_nil (h : url.Neat) (rest : List Char) :
    (url.target.toList ++ rest).takeWhile (· != '?') ≠ [] := by
  rw [h.takeWhile_target_append]
  exact List.append_ne_nil_of_left_ne_nil url.askedPath_ne_nil _

theorem Neat.cutFirst?_target (h : url.Neat) :
    Text.cutFirst? '?' url.target.toList =
      url.query?.map fun query ↦ (url.askedPath, query.toList) := by
  have hkept : ∀ c ∈ url.askedPath, (c != '?') = true := fun c hc ↦
    bne_iff_ne.2 (ne_of_isPathSafe (h.askedPath c hc))
  rw [toList_target, writtenQuery, Text.cutFirst?_eq, List.takeWhile_append_of_pos hkept,
    List.dropWhile_append_of_pos hkept]
  cases url.query? with
  | none =>
    have hmark : '?' ∉ url.askedPath := fun hmem ↦ absurd (hkept '?' hmem) (by decide)
    simpa using hmark
  | some query => simp

/-- A query that has been read is escaped already. -/
theorem Neat.map_encode_query (h : url.Neat) :
    url.query?.map ((fun cut : List Char × List Char ↦
      String.ofList (Percent.encode isQuerySafe cut.2)) ∘ fun query ↦
        (url.askedPath, query.toList)) = url.query? := by
  cases hquery : url.query? with
  | none => rfl
  | some query =>
    have hsafe : ∀ c ∈ query.toList, isQuerySafe c = true := fun c hc ↦ h.query c (by
      rw [writtenQuery, hquery]
      exact List.mem_cons_of_mem _ hc)
    rw [Option.map_some, Function.comp_apply, Percent.encode_of_safe hsafe, String.ofList_toList]

/-- The target of an address without dot segments is asked for as it is. -/
theorem Neat.askable (h : url.Neat) (hdots : DotFree url.path.toList) :
    Askable url.target.toList where
  query := by
    rw [toList_target]
    exact List.forall_mem_append.2
      ⟨fun c hc ↦ isQuerySafe_of_isPathSafe (h.askedPath c hc), h.query⟩
  path := h.takeWhile_target ▸ h.askedPath
  dotFree := by
    rw [h.takeWhile_target, RequestUrl.askedPath]
    split
    · decide
    · exact hdots

/-! ### Sites -/

/-- The place stays when something else is asked for. -/
theorem scheme_of_withTarget {cs : List Char} (h : url.withTarget cs = .ok address) :
    address.scheme = String.ofList (Text.lower url.scheme.toList) :=
  (neat_of_ofParts (ofParts_of_withTarget h)).2.2

/-- What is asked for below the address is appended after a slash. -/
structure IsSite (site : RequestUrl) : Prop where
  scheme : site.scheme ≠ ""
  neat : site.Neat
  askable : Askable site.target.toList
  slash : site.target.toList.getLast? = some '/'

theorem isSite_of_site {text : String} (h : RequestUrl.site text = .ok site)
    (hscheme : site.scheme ≠ "") : site.IsSite := by
  rw [RequestUrl.site, Except.bind_eq_ok_iff] at h
  obtain ⟨url, hurl, h⟩ := h
  obtain ⟨hneat, hdots⟩ := neat_of_parse hurl
  split at h
  · rename_i hslash
    cases h
    exact ⟨hscheme, hneat, hneat.askable (hdots (.inl hscheme)), hslash⟩
  · have hplaced : url.scheme ≠ "" := fun hnone ↦ hscheme (by
      rw [scheme_of_withTarget h, hnone]
      rfl)
    have haskable : Askable (url.target.toList ++ ['/']) :=
      (hneat.askable (hdots (.inl hplaced))).concat_slash
    obtain ⟨-, htarget⟩ := haskable.target (hneat.takeWhile_target_append_ne_nil _) hplaced h
    refine ⟨hscheme, (neat_of_ofParts (ofParts_of_withTarget h)).1, htarget ▸ haskable, ?_⟩
    rw [htarget]
    exact List.getLast?_concat

/-- What is appended to a site becomes the target. -/
theorem IsSite.target {cs : List Char} (h : site.IsSite) (hcs : Askable cs)
    (haddress : site.withTarget (site.target.toList ++ cs) = .ok address) :
    address.path.toList = (site.target.toList ++ cs).takeWhile (· != '?') ∧
      address.target.toList = site.target.toList ++ cs :=
  (h.askable.append h.slash hcs).target (h.neat.takeWhile_target_append_ne_nil cs) h.scheme haddress

/-- Whatever is asked for, the place is that of the site. -/
theorem place_of_withTarget {cs cs' : List Char} (h : url.withTarget cs = .ok address)
    (h' : url.withTarget cs' = .ok base) :
    address.scheme = base.scheme ∧ address.authority = base.authority := by
  obtain ⟨host, port?, hhost, hport, -, rfl⟩ := ofParts_eq_ok_iff.1 (ofParts_of_withTarget h)
  obtain ⟨host', port'?, hhost', hport', -, rfl⟩ := ofParts_eq_ok_iff.1 (ofParts_of_withTarget h')
  obtain rfl : host = host' := Except.ok.inj (hhost.symm.trans hhost')
  obtain rfl : port? = port'? := Except.ok.inj (hport.symm.trans hport')
  exact ⟨rfl, rfl⟩

/-! ### Directories -/

theorem directory_begins (path : List Char) : directory path <+: path :=
  List.rdropWhile_prefix _ _

/-- The directory of a longer path is longer, if a slash is in what is added. -/
theorem directory_append_ne {start rest : List Char} (hslash : '/' ∈ rest) :
    directory (start ++ rest) ≠ start := by
  have hkept : rest.reverse.dropWhile (· != '/') ≠ [] := fun hnil ↦ by
    have hall := List.dropWhile_eq_nil_iff.1 hnil '/' (List.mem_reverse.2 hslash)
    exact absurd hall (by decide)
  rw [directory, List.rdropWhile, List.reverse_append, List.dropWhile_append,
    if_neg (by simpa using hkept), List.reverse_append, List.reverse_reverse]
  exact fun heq ↦ hkept (List.reverse_eq_nil_iff.1 (List.append_right_eq_self.1 heq))

/-- A directory ends with a slash, so that what is put into it begins with a new segment. -/
theorem DotFree.directory_append {path rest : List Char} (hpath : DotFree path)
    (hrest : DotFree rest) : DotFree (directory path ++ rest) := by
  by_cases hnone : directory path = []
  · rw [hnone]
    exact hrest
  · have hlast : (directory path).getLast hnone = '/' := by
      have hstop := List.rdropWhile_last_not _ path hnone
      rw [bne_iff_ne, not_not] at hstop
      exact hstop
    obtain ⟨after, hafter⟩ := directory_begins path
    rw [← List.dropLast_append_getLast hnone, hlast, List.append_assoc, List.singleton_append]
      at hafter ⊢
    rw [← hafter, dotFree_append_cons_iff] at hpath
    exact dotFree_append_cons_iff.2 ⟨hpath.1, hrest⟩

/-! ### Appending and resolving -/

/-- The reference names no other place, says something, and begins with as many slashes as the site
asks for, which asks for nothing else. -/
structure Fits (site base reference : RequestUrl) : Prop where
  place : (base.resolve reference).authority = base.authority
  path : reference.path = "" → reference.authority ≠ ""
  slashes : reference.target.toList.takeWhile (· == '/') = site.target.toList

theorem append_dropWhile_eq_iff {p : Char → Bool} {start cs : List Char} :
    start ++ cs.dropWhile p = cs ↔ cs.takeWhile p = start := by
  constructor
  · intro h
    have hsame : start ++ cs.dropWhile p = cs.takeWhile p ++ cs.dropWhile p := by
      rw [h, List.takeWhile_append_dropWhile]
    exact (List.append_cancel_right hsame).symm
  · rintro rfl
    exact List.takeWhile_append_dropWhile

theorem scheme_resolve (hrelative : reference.scheme = "") :
    (base.resolve reference).scheme = base.scheme := by
  rw [resolve, if_neg (not_not.2 hrelative)]
  split
  · rfl
  · split <;> rfl

theorem resolve_of_empty (hrelative : reference.scheme = "") (hnamed : reference.authority = "")
    (hempty : reference.path = "") : base.resolve reference =
      { base with
        query? := reference.query?.or base.query?
        fragment? := reference.fragment? } := by
  rw [resolve, if_neg (not_not.2 hrelative), if_neg (not_not.2 hnamed), if_pos hempty]

theorem resolve_of_path (hrelative : reference.scheme = "") (hnamed : reference.authority = "")
    (hpath : reference.path ≠ "") : base.resolve reference =
      { base with
        path := String.ofList (normalPath (mergedPath base reference))
        query? := reference.query?
        fragment? := reference.fragment? } := by
  rw [resolve, if_neg (not_not.2 hrelative), if_neg (not_not.2 hnamed), if_neg hpath]

example : (do return ((← parse "https://h/a/b").resolve (← parse "../c?d")).toString) =
    (.ok "https://h/c?d" : Except AddressError String) := by
  decide +kernel

/-- A path without a slash in front begins with something else. -/
theorem exists_cons_of_rootless (hpath : reference.path ≠ "")
    (hhead : reference.path.toList.head? ≠ some '/') :
    ∃ c rest, reference.target.toList = c :: (rest ++ reference.writtenQuery) ∧
      reference.path.toList = c :: rest ∧ c ≠ '/' := by
  rw [toList_target, askedPath, if_neg hpath]
  cases htext : reference.path.toList with
  | nil => exact absurd (String.toList_eq_nil_iff.1 htext) hpath
  | cons c rest =>
    rw [htext, List.head?_cons, ne_eq, Option.some_inj] at hhead
    exact ⟨c, rest, rfl, rfl, hhead⟩

/-- An authority says all that is asked for. -/
theorem target_resolve_of_authority (hrelative : reference.scheme = "")
    (hnamed : reference.authority ≠ "") :
    (base.resolve reference).target = reference.target := by
  rw [resolve, if_neg (not_not.2 hrelative), if_pos hnamed]
  rfl

/-- So does a slash in front, but for the dots. -/
theorem resolve_of_head (hrelative : reference.scheme = "") (hnamed : reference.authority = "")
    (hhead : reference.path.toList.head? = some '/') :
    (base.resolve reference).path = String.ofList (normalPath reference.path.toList) ∧
      (base.resolve reference).query? = reference.query? := by
  have hpath : reference.path ≠ "" := by
    rintro hempty
    rw [hempty] at hhead
    cases hhead
  rw [resolve_of_path hrelative hnamed hpath, mergedPath, if_pos hhead]
  exact ⟨rfl, rfl⟩

theorem target_congr {url' : RequestUrl} (hpath : url.path = url'.path)
    (hquery : url.query? = url'.query?) : url.target = url'.target := by
  rw [target, target, hpath, hquery]

theorem head?_of_slashes (hpath : reference.path ≠ "")
    (h : reference.target.toList.takeWhile (· == '/') = site.target.toList) :
    reference.path.toList.head? = some '/' := by
  by_contra hhead
  obtain ⟨c, rest, htext, -, hc⟩ := exists_cons_of_rootless hpath hhead
  rw [htext, List.takeWhile_cons_of_neg (by simpa using hc)] at h
  exact site.target_ne_nil h.symm

/-- A reference that fits leads to the same from the site and from a page below it. -/
theorem Fits.sameTarget {cs : List Char} (h : Fits site base reference) (hsite : site.scheme ≠ "")
    (hbase : site.withTarget cs = .ok base) (hneat : reference.Neat)
    (hrelative : reference.scheme = "")
    (hdots : reference.authority ≠ "" → DotFree reference.path.toList)
    (haddress : site.withTarget
      (site.target.toList ++ reference.target.toList.dropWhile (· == '/')) = .ok address) :
    address.SameTarget (base.resolve reference) := by
  obtain ⟨hscheme, hauthority⟩ := place_of_withTarget haddress hbase
  rw [append_dropWhile_eq_iff.2 h.slashes] at haddress
  refine ⟨hscheme.trans (scheme_resolve hrelative).symm, hauthority.trans h.place.symm, ?_⟩
  by_cases hnamed : reference.authority = ""
  · have hhead := head?_of_slashes (fun hempty ↦ h.path hempty hnamed) h.slashes
    have hasked : reference.askedPath = reference.path.toList :=
      if_neg fun hempty ↦ h.path hempty hnamed
    obtain ⟨hpath, hquery⟩ := parts_of_withTarget haddress hsite
    rw [hneat.takeWhile_target, hasked, encode_normalPath (by decide) hneat.path] at hpath
    obtain ⟨hpath', hquery'⟩ := @resolve_of_head base reference hrelative hnamed hhead
    rw [hneat.cutFirst?_target, Option.map_map, hneat.map_encode_query] at hquery
    exact target_congr (hpath.trans hpath'.symm) (hquery.trans hquery'.symm)
  · rw [target_resolve_of_authority hrelative hnamed, ← String.toList_inj]
    have hne : reference.target.toList.takeWhile (· != '?') ≠ [] := by
      rw [hneat.takeWhile_target]
      exact reference.askedPath_ne_nil
    exact ((hneat.askable (hdots hnamed)).target hne hsite haddress).2

section

variable {path : List Char} (hsite : site.IsSite) (hpath : Askable path) (hslash : '/' ∈ path)
  (hmark : '?' ∉ path) (hbase : site.withTarget (site.target.toList ++ path) = .ok base)

include hsite hpath hmark hbase

/-- The path of a page below the site is longer than what the site asks for, unless it ends before
that does. -/
theorem path_below_site :
    base.path.toList = site.target.toList ++ path ∨
      '?' ∈ site.target.toList ∧ '?' ∉ base.path.toList := by
  obtain ⟨hbasePath, -⟩ := hsite.target hpath hbase
  by_cases hquery : '?' ∈ site.target.toList
  · refine .inr ⟨hquery, fun hmem ↦ ?_⟩
    rw [hbasePath] at hmem
    exact absurd (List.mem_takeWhile_imp hmem) (by decide)
  · refine .inl ?_
    rw [hbasePath, List.takeWhile_eq_self_iff]
    intro c hc
    rw [bne_iff_ne]
    rintro rfl
    exact (List.mem_append.1 hc).elim hquery hmark

include hslash

theorem path_ne_target : base.path.toList ≠ site.target.toList := by
  intro heq
  rcases path_below_site hsite hpath hmark hbase with hlonger | ⟨hquery, hnone⟩
  · rw [hlonger, List.append_right_eq_self] at heq
    exact List.ne_nil_of_mem hslash heq
  · exact hnone (heq ▸ hquery)

theorem directory_path_ne_target : directory base.path.toList ≠ site.target.toList := by
  intro heq
  rcases path_below_site hsite hpath hmark hbase with hlonger | ⟨hquery, hnone⟩
  · rw [hlonger] at heq
    exact directory_append_ne hslash heq
  · exact hnone ((directory_begins _).subset (heq ▸ hquery))

/-- A reference that leaves the place and the directory to the page leads elsewhere. -/
theorem ne_target_resolve (hdots : DotFree reference.path.toList)
    (hrelative : reference.scheme = "") (hnamed : reference.authority = "")
    (hhead : reference.path.toList.head? ≠ some '/') :
    site.target.toList ++ reference.target.toList.dropWhile (· == '/') ≠
      (base.resolve reference).target.toList := by
  obtain ⟨hbasePath, hbaseTarget⟩ := hsite.target hpath hbase
  have hbaseNe : base.path ≠ "" := by
    rintro hnone
    rw [hnone] at hbasePath
    exact hsite.neat.takeWhile_target_append_ne_nil path hbasePath.symm
  have hasks (query? fragment? : Option String) :
      ({ base with query? := query?, fragment? := fragment? } : RequestUrl).target.toList =
        base.path.toList ++ query?.elim [] ('?' :: ·.toList) := by
    rw [toList_target]
    exact congrArg (· ++ _) (if_neg hbaseNe)
  intro heq
  by_cases hempty : reference.path = ""
  · rw [resolve_of_empty hrelative hnamed hempty, toList_target reference, askedPath, if_pos hempty,
      List.singleton_append, List.dropWhile_cons_of_pos (by decide), writtenQuery] at heq
    cases hquery : reference.query? with
    | none =>
      rw [hquery] at heq
      have hshort : site.target.toList = site.target.toList ++ path := by
        rw [← hbaseTarget]
        exact (List.append_nil _).symm.trans heq
      exact List.ne_nil_of_mem hslash (List.append_right_eq_self.1 hshort.symm)
    | some query =>
      rw [hquery, Option.elim_some, List.dropWhile_cons_of_neg (by decide), hasks] at heq
      exact path_ne_target hsite hpath hslash hmark hbase (List.append_cancel_right heq).symm
  · obtain ⟨c, rest, htarget, htext, hc⟩ := exists_cons_of_rootless hempty hhead
    have hbaseDots : DotFree base.path.toList := by
      rw [hbasePath]
      exact (hsite.askable.append hsite.slash hpath).dotFree
    have hmerged : normalPath (mergedPath base reference) =
        directory base.path.toList ++ reference.path.toList := by
      rw [mergedPath, if_neg hhead, if_neg (by simpa [String.isEmpty_iff] using hbaseNe),
        normalPath_of_dotFree (hbaseDots.directory_append hdots)]
    have hresolved : (base.resolve reference).target.toList =
        directory base.path.toList ++ reference.target.toList := by
      rw [resolve_of_path hrelative hnamed hempty, hmerged, toList_target, askedPath, if_neg,
        String.toList_ofList, toList_target, askedPath, if_neg hempty, List.append_assoc]
      · rfl
      · intro hnone
        have hnil := congrArg String.toList hnone
        rw [String.toList_ofList] at hnil
        exact hempty (String.toList_eq_nil_iff.1 (List.append_eq_nil_iff.1 hnil).2)
    rw [hresolved, htarget, List.dropWhile_cons_of_neg (by simpa using hc)] at heq
    exact directory_path_ne_target hsite hpath hslash hmark hbase
      (List.append_cancel_right heq).symm

/-- Without dot segments no other reference leads to the same. -/
theorem fits_of_sameTarget (hneat : reference.Neat) (hrelative : reference.scheme = "")
    (hdots : DotFree reference.path.toList)
    (haddress : site.withTarget
      (site.target.toList ++ reference.target.toList.dropWhile (· == '/')) = .ok address)
    (h : address.SameTarget (base.resolve reference)) : Fits site base reference := by
  obtain ⟨-, htarget⟩ := hsite.target (hneat.askable hdots).dropSlashes haddress
  obtain ⟨-, hauthority⟩ := place_of_withTarget haddress hbase
  obtain ⟨-, hplace, hsame⟩ := h
  have hresolved : site.target.toList ++ reference.target.toList.dropWhile (· == '/') =
      (base.resolve reference).target.toList := by
    rw [← htarget, hsame]
  -- the reference says all that is asked for
  have hwhole : (base.resolve reference).target = reference.target ∧
      (reference.path = "" → reference.authority ≠ "") := by
    by_cases hnamed : reference.authority = ""
    · have hhead : reference.path.toList.head? = some '/' := by_contra fun hhead ↦
        ne_target_resolve hsite hpath hslash hmark hbase hdots hrelative hnamed hhead hresolved
      obtain ⟨hpath, hquery⟩ := @resolve_of_head base reference hrelative hnamed hhead
      rw [normalPath_of_dotFree hdots, String.ofList_toList] at hpath
      refine ⟨target_congr hpath hquery, fun hempty ↦ ?_⟩
      rw [hempty] at hhead
      cases hhead
    · exact ⟨target_resolve_of_authority hrelative hnamed, fun _ ↦ hnamed⟩
  rw [hwhole.1, append_dropWhile_eq_iff] at hresolved
  exact ⟨hplace.symm.trans hauthority, hwhole.2, hresolved⟩

end

theorem resolve_of_isAbsolute (habsolute : reference.isAbsolute = true) :
    base.resolve reference = reference := by
  rw [isAbsolute, Bool.and_eq_true, Bool.not_eq_true', Bool.eq_false_iff, ne_eq,
    String.isEmpty_iff] at habsolute
  rw [resolve, if_pos habsolute.1]

/-- **Where a site leads to.** A reference that says by itself where it leads is kept. Any other one
leads where it does from a page below the site if it fits, and, unless it has dot segments, only
then. -/
theorem refer_resolve {text location : String} {path : List Char}
    (hsite : RequestUrl.site text = .ok site) (hpath : Askable path) (hslash : '/' ∈ path)
    (hmark : '?' ∉ path) (hbase : site.withTarget (site.target.toList ++ path) = .ok base)
    (hreference : parse location = .ok reference) (haddress : site.refer location = .ok address) :
    (reference.isAbsolute = true → address = base.resolve reference) ∧
      (reference.scheme = "" → base.scheme ≠ "" →
        (Fits site base reference → address.SameTarget (base.resolve reference)) ∧
        (DotFree reference.path.toList → address.SameTarget (base.resolve reference) →
          Fits site base reference)) := by
  rw [refer, Except.bind_eq_ok_iff] at haddress
  obtain ⟨url, hurl, haddress⟩ := haddress
  obtain rfl : reference = url := Except.ok.inj (hreference.symm.trans hurl)
  constructor
  · intro habsolute
    rw [if_pos habsolute] at haddress
    rw [resolve_of_isAbsolute habsolute]
    exact (Except.ok.inj haddress).symm
  · intro hrelative hscheme
    have habsolute : reference.isAbsolute = false := by
      rw [isAbsolute, hrelative]
      rfl
    rw [habsolute, if_neg Bool.false_ne_true] at haddress
    have hplaced : site.scheme ≠ "" := fun hnone ↦ hscheme (by
      rw [scheme_of_withTarget hbase, hnone]
      rfl)
    have hsite := isSite_of_site hsite hplaced
    obtain ⟨hneat, hdots⟩ := neat_of_parse hreference
    exact ⟨fun h ↦ h.sameTarget hplaced hbase hneat hrelative (fun hnamed ↦ hdots (.inr hnamed))
        haddress,
      fun hdots h ↦ fits_of_sameTarget hsite hpath hslash hmark hbase hneat hrelative hdots
        haddress h⟩

end RequestUrl

end TokenBroker
