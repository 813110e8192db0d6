import TokenBroker.Proofs.Http.Parts

/-!
# Paths in normal form

A path without dot segments is in normal form, and so is every normal form: resolving dots leaves no
dot segment, and escaping makes none. Nor does it help to escape a text twice. So a path that has
been taken out of an address is put into another one as it is.
-/

namespace TokenBroker

/-! ### Escaping -/

namespace Percent

variable {safe : Char → Bool} {cs : List Char}

theorem digit_ne (n : Nat) (h : n < 16) : digit n ≠ '/' ∧ digit n ≠ ':' ∧ digit n ≠ '?' := by
  revert n
  decide

/-- Escaping makes no slash, colon or question mark. -/
theorem ne_of_mem_escape {c d : Char} (h : d ∈ escape c) : d ≠ '/' ∧ d ≠ ':' ∧ d ≠ '?' := by
  obtain ⟨byte, -, hd⟩ := List.mem_flatMap.1 h
  have hbyte : byte.toNat < 256 := byte.toNat_lt
  simp only [escapeByte, List.mem_cons, List.not_mem_nil, or_false] at hd
  obtain rfl | rfl | rfl := hd
  · decide
  · exact digit_ne _ (by omega)
  · exact digit_ne _ (by omega)

theorem encode_append (safe : Char → Bool) (cs ds : List Char) :
    encode safe (cs ++ ds) = encode safe cs ++ encode safe ds :=
  List.flatMap_append

theorem encode_of_safe (h : ∀ c ∈ cs, safe c = true) : encode safe cs = cs := by
  induction cs with
  | nil => rfl
  | cons c rest ih =>
    rw [List.forall_mem_cons] at h
    rw [encode, List.flatMap_cons, if_pos h.1, ← encode, ih h.2]
    rfl

/-- What has been escaped is safe, if the characters of escapes are. -/
theorem safe_of_mem_encode (hpercent : safe '%' = true)
    (hdigit : ∀ n < 16, safe (digit n) = true) {c : Char} (h : c ∈ encode safe cs) :
    safe c = true := by
  obtain ⟨d, -, hc⟩ := List.mem_flatMap.1 h
  split at hc
  · rename_i hd
    rw [List.mem_singleton.1 hc]
    exact hd
  · obtain ⟨byte, -, hc⟩ := List.mem_flatMap.1 hc
    have hbyte : byte.toNat < 256 := byte.toNat_lt
    simp only [escapeByte, List.mem_cons, List.not_mem_nil, or_false] at hc
    obtain rfl | rfl | rfl := hc
    · exact hpercent
    · exact hdigit _ (by omega)
    · exact hdigit _ (by omega)

/-- Nothing has been escaped where no percent sign comes out. -/
theorem eq_of_percent_notMem (h : '%' ∉ encode safe cs) : encode safe cs = cs := by
  refine encode_of_safe fun c hc ↦ by_contra fun hunsafe ↦ h ?_
  obtain ⟨byte, bytes, hbytes⟩ := List.exists_cons_of_ne_nil (@String.utf8EncodeChar_ne_nil c)
  refine List.mem_flatMap.2 ⟨c, hc, ?_⟩
  rw [if_neg hunsafe, escape, hbytes, List.flatMap_cons, escapeByte]
  exact List.mem_cons_self

/-- Escaping makes no slash. -/
theorem slash_notMem_encode (h : '/' ∉ cs) : '/' ∉ encode safe cs := by
  intro hmem
  obtain ⟨c, hc, hslash⟩ := List.mem_flatMap.1 hmem
  split at hslash
  · rw [List.mem_singleton.1 hslash] at h
    exact h hc
  · exact (ne_of_mem_escape hslash).1 rfl

theorem encode_intercalate (hslash : safe '/' = true) (segments : List (List Char)) :
    encode safe (List.intercalate ['/'] segments) =
      List.intercalate ['/'] (segments.map (encode safe)) := by
  have hone : encode safe ['/'] = ['/'] := encode_of_safe (by simpa using hslash)
  induction segments with
  | nil => rfl
  | cons segment rest ih =>
    cases rest with
    | nil => simp [List.intercalate]
    | cons next rest =>
      simp only [List.map_cons] at ih ⊢
      rw [List.intercalate_cons_cons, encode_append, encode_append, ih, hone,
        List.intercalate_cons_cons]

end Percent

/-! ### Segments -/

namespace RequestUrl

/-- A path without dot segments. -/
def DotFree (path : List Char) : Prop :=
  ∀ segment ∈ Text.splitOn '/' path, segment ≠ ['.'] ∧ segment ≠ ['.', '.']

instance : DecidablePred DotFree := fun path ↦
  List.decidableBAll (fun segment ↦ segment ≠ ['.'] ∧ segment ≠ ['.', '.']) (Text.splitOn '/' path)

theorem dotFree_append_cons_iff {before after : List Char} :
    DotFree (before ++ '/' :: after) ↔ DotFree before ∧ DotFree after := by
  simp only [DotFree, Text.splitOn_eq, List.splitOn_append_cons_self, List.forall_mem_append]

theorem dotFree_intercalate_iff {segments : List (List Char)} (hne : segments ≠ [])
    (h : ∀ segment ∈ segments, '/' ∉ segment) :
    DotFree (List.intercalate ['/'] segments) ↔
      ∀ segment ∈ segments, segment ≠ ['.'] ∧ segment ≠ ['.', '.'] := by
  rw [DotFree, Text.splitOn_eq, List.splitOn_intercalate '/' h hne]

/-- What becomes of the segments so far when another one comes. -/
def keepSegment (kept : List (List Char)) (segment : List Char) : List (List Char) :=
  if segment = ['.'] then kept
  else if segment = ['.', '.'] then if kept = [[]] then kept else kept.dropLast
  else kept ++ [segment]

theorem resolveDots_eq (segments : List (List Char)) :
    resolveDots segments = segments.foldl keepSegment [] := rfl

/-- Resolving dots drops segments, and all that are dots. -/
theorem mem_of_mem_foldl_keepSegment {kept segments : List (List Char)} {segment : List Char}
    (h : segment ∈ segments.foldl keepSegment kept) :
    segment ∈ kept ∨ segment ∈ segments ∧ segment ≠ ['.'] ∧ segment ≠ ['.', '.'] := by
  induction segments generalizing kept with
  | nil => exact .inl h
  | cons next rest ih =>
    rcases ih h with hkept | ⟨hrest, hdots⟩
    · rw [keepSegment] at hkept
      split at hkept
      · exact .inl hkept
      split at hkept
      · split at hkept
        · exact .inl hkept
        · exact .inl (List.dropLast_subset kept hkept)
      · rename_i hdot hdots
        rcases List.mem_append.1 hkept with hkept | hnext
        · exact .inl hkept
        · rw [List.mem_singleton.1 hnext]
          exact .inr ⟨List.mem_cons_self, hdot, hdots⟩
    · exact .inr ⟨List.mem_cons_of_mem _ hrest, hdots⟩

theorem foldl_keepSegment_of_dotFree {kept segments : List (List Char)}
    (h : ∀ segment ∈ segments, segment ≠ ['.'] ∧ segment ≠ ['.', '.']) :
    segments.foldl keepSegment kept = kept ++ segments := by
  induction segments generalizing kept with
  | nil => exact (List.append_nil kept).symm
  | cons next rest ih =>
    obtain ⟨⟨hdot, hdots⟩, hrest⟩ := List.forall_mem_cons.1 h
    rw [List.foldl_cons, keepSegment, if_neg hdot, if_neg hdots, ih hrest, List.append_assoc,
      List.singleton_append]

theorem normalPath_of_dotFree {path : List Char} (h : DotFree path) : normalPath path = path := by
  rw [normalPath, resolveDots_eq, foldl_keepSegment_of_dotFree h, List.nil_append, Text.splitOn_eq,
    List.intercalate_splitOn]

theorem dotFree_nil : DotFree [] := by
  decide

/-- An escaped normal form has no dot segments. -/
theorem dotFree_encode_normalPath {safe : Char → Bool} (hslash : safe '/' = true)
    (path : List Char) : DotFree (Percent.encode safe (normalPath path)) := by
  have hkept : ∀ segment ∈ resolveDots (Text.splitOn '/' path),
      '/' ∉ segment ∧ segment ≠ ['.'] ∧ segment ≠ ['.', '.'] := fun segment hsegment ↦ by
    obtain hnil | ⟨hmem, hdots⟩ := mem_of_mem_foldl_keepSegment hsegment
    · exact absurd hnil List.not_mem_nil
    · exact ⟨(Text.of_mem_splitOn hmem).1, hdots⟩
  rw [normalPath, Percent.encode_intercalate hslash]
  by_cases hnone : resolveDots (Text.splitOn '/' path) = []
  · rw [hnone]
    exact dotFree_nil
  refine (dotFree_intercalate_iff (by simpa using hnone) ?_).2 ?_
  · exact List.forall_mem_map.2 fun segment hsegment ↦
      Percent.slash_notMem_encode (hkept segment hsegment).1
  · refine List.forall_mem_map.2 fun segment hsegment ↦ ?_
    -- dots have no percent sign, so only dots are escaped to dots
    have hback {dots : List Char} (hpercent : '%' ∉ dots)
        (heq : Percent.encode safe segment = dots) : segment = dots := by
      rw [← heq] at hpercent ⊢
      exact (Percent.eq_of_percent_notMem hpercent).symm
    obtain ⟨-, hdot, hdots⟩ := hkept segment hsegment
    exact ⟨fun heq ↦ hdot (hback (by decide) heq), fun heq ↦ hdots (hback (by decide) heq)⟩

/-- The normal form of a path has nothing to be escaped, if the path has not. -/
theorem encode_normalPath {safe : Char → Bool} (hslash : safe '/' = true) {path : List Char}
    (h : ∀ c ∈ path, safe c = true) :
    Percent.encode safe (normalPath path) = normalPath path := by
  have hkept : ∀ segment ∈ resolveDots (Text.splitOn '/' path),
      Percent.encode safe segment = segment := fun segment hsegment ↦ by
    obtain hnil | ⟨hmem, -⟩ := mem_of_mem_foldl_keepSegment hsegment
    · exact absurd hnil List.not_mem_nil
    · exact Percent.encode_of_safe fun c hc ↦ h c ((Text.of_mem_splitOn hmem).2 hc)
  rw [normalPath, Percent.encode_intercalate hslash, List.map_congr_left hkept, List.map_id']

end RequestUrl

end TokenBroker
