import TokenBroker.Http.WebAddress
import TokenBroker.Proofs.ServerUrl.Address

/-!
# IPv6 addresses in their shortest form

An IPv6 address is read into eight numbers of 16 bits and written in its shortest form. The reading
fills a gap with as many numbers as are missing, and there are eight of them in the end because a
text is only accepted with fewer than eight groups around a gap, and else with exactly eight
(`WebAddress.allGroups_of_isUnscopedIPv6`). Eight numbers in the shortest form are an address again
(`WebAddress.isUnscopedIPv6_shortForm`).
-/

namespace TokenBroker

namespace WebAddress

open Address

variable {cs : List Char} {groups pieces : List (List Char)}

/-! ### Numbers -/

theorem addressValue?_lt {bytesLeft n : Nat} {parts : List (List Char)}
    (h : addressValue? bytesLeft parts = some n) : n < Nat.pow 256 bytesLeft := by
  induction parts generalizing bytesLeft n with
  | nil => simp [addressValue?] at h
  | cons part rest ih =>
    cases rest with
    | nil =>
      rw [addressValue?, Option.filter_eq_some_iff] at h
      exact of_decide_eq_true h.2
    | cons next rest =>
      unfold addressValue? at h
      obtain ⟨first, hfirst, h⟩ := Option.bind_eq_some_iff.1 h
      rw [Option.filter_eq_some_iff, decide_eq_true_eq] at hfirst
      split at h
      · cases h
      · cases h
      · rename_i k _ _
        obtain ⟨later, hlater, h⟩ := Option.bind_eq_some_iff.1 h
        have hlt := ih hlater
        have hle : first * Nat.pow 256 k ≤ 255 * Nat.pow 256 k :=
          Nat.mul_le_mul_right _ (by omega)
        cases h
        show first * Nat.pow 256 k + later < Nat.pow 256 k * 256
        omega

theorem digitValue?_lt (c : Char) : (Percent.digitValue? c).getD 0 < 16 := by
  have hle {low high : Char} (h : (low ≤ c && c ≤ high) = true) : c.toNat ≤ high.toNat :=
    of_decide_eq_true (Bool.and_eq_true_iff.1 h).2
  unfold Percent.digitValue?
  split
  · exact Nat.lt_of_le_of_lt (Nat.sub_le_sub_right (hle ‹_›) _) (by decide)
  split
  · exact Nat.lt_of_le_of_lt (Nat.add_le_add_right (Nat.sub_le_sub_right (hle ‹_›) _) 10)
      (by decide)
  split
  · exact Nat.lt_of_le_of_lt (Nat.add_le_add_right (Nat.sub_le_sub_right (hle ‹_›) _) 10)
      (by decide)
  · decide

theorem foldl_digits_lt (cs : List Char) (n : Nat) :
    cs.foldl (fun n c ↦ n * 16 + (Percent.digitValue? c).getD 0) n <
      (n + 1) * Nat.pow 16 cs.length := by
  induction cs generalizing n with
  | nil =>
    show n < (n + 1) * 1
    omega
  | cons c rest ih =>
    refine Nat.lt_of_lt_of_le (ih _) ?_
    have hnext : n * 16 + (Percent.digitValue? c).getD 0 + 1 ≤ (n + 1) * 16 := by
      have := digitValue?_lt c
      omega
    calc (n * 16 + (Percent.digitValue? c).getD 0 + 1) * Nat.pow 16 rest.length
        ≤ (n + 1) * 16 * Nat.pow 16 rest.length := Nat.mul_le_mul_right _ hnext
      _ = (n + 1) * (Nat.pow 16 rest.length * 16) := by rw [Nat.mul_assoc, Nat.mul_comm 16]

/-- The numbers of one piece between colons, of which an IPv4 address has two. -/
def pieceValues (piece : List Char) : List Nat :=
  if piece.contains '.' then
    let n := (addressValue? 4 (Text.splitOn '.' piece)).getD 0
    [n / 65536, n % 65536]
  else [piece.foldl (fun n c ↦ n * 16 + (Percent.digitValue? c).getD 0) 0]

theorem groupValues_eq (cs : List Char) :
    groupValues cs = if cs.isEmpty then [] else (Text.splitOn ':' cs).flatMap pieceValues := rfl

theorem lt_of_mem_pieceValues {piece : List Char} (h : '.' ∈ piece ∨ isGroup piece = true) {n : Nat}
    (hn : n ∈ pieceValues piece) : n < 65536 := by
  rw [pieceValues] at hn
  split at hn
  · have hlt : (addressValue? 4 (Text.splitOn '.' piece)).getD 0 < 4294967296 := by
      cases hvalue : addressValue? 4 (Text.splitOn '.' piece) with
      | none => decide
      | some value => exact addressValue?_lt hvalue
    simp only [List.mem_cons, List.not_mem_nil, or_false] at hn
    omega
  · rename_i hpoint
    have hgroup := h.resolve_left fun hmem ↦ hpoint (List.contains_iff_mem.2 hmem)
    rw [List.mem_singleton.1 hn]
    refine Nat.lt_of_lt_of_le (foldl_digits_lt piece 0) ?_
    rw [Nat.zero_add, Nat.one_mul]
    exact Nat.pow_le_pow_right (by decide) (isGroup_iff.1 hgroup).2.1

theorem length_pieceValues {piece : List Char} (h : isGroup piece = true) :
    (pieceValues piece).length = 1 := by
  simp [pieceValues, notMem_of_isGroup h (show isHexadecimal '.' = false by decide)]

/-- Pieces have as many numbers as there are groups after the expansion of the last one. -/
theorem values_of_expandLast? (h : expandLast? pieces = some groups)
    (hgroups : ∀ group ∈ groups, isGroup group = true) :
    (pieces.flatMap pieceValues).length = groups.length ∧
      ∀ n ∈ pieces.flatMap pieceValues, n < 65536 := by
  induction pieces generalizing groups with
  | nil =>
    cases h
    simp
  | cons piece rest ih =>
    obtain ⟨rfl, hpoint, rfl⟩ | ⟨rfl, -, rfl⟩ | ⟨-, expanded, hexpanded, rfl⟩ :=
      expandLast?_cons_cases h
    · rw [List.flatMap_singleton]
      exact ⟨by simp [pieceValues, hpoint], fun n ↦ lt_of_mem_pieceValues (Or.inl hpoint)⟩
    · have hgroup := hgroups piece List.mem_cons_self
      rw [List.flatMap_singleton]
      exact ⟨length_pieceValues hgroup, fun n ↦ lt_of_mem_pieceValues (Or.inr hgroup)⟩
    · rw [List.forall_mem_cons] at hgroups
      obtain ⟨hgroup, hgroups⟩ := hgroups
      obtain ⟨hlength, hlt⟩ := ih hexpanded hgroups
      rw [List.flatMap_cons, List.length_append, hlength, length_pieceValues hgroup, Nat.add_comm]
      refine ⟨rfl, fun n hn ↦ ?_⟩
      rcases List.mem_append.1 hn with hn | hn
      · exact lt_of_mem_pieceValues (Or.inr hgroup) hn
      · exact hlt n hn

/-! ### Gaps in a text -/

theorem cutGap?_cons {c : Char} {rest : List Char} (h : c = ':' → rest.head? ≠ some ':') :
    cutGap? (c :: rest) = (cutGap? rest).map fun (before, after) ↦ (c :: before, after) := by
  rw [cutGap?]
  rintro later rfl rfl
  exact h rfl rfl

theorem cutGap?_append {piece : List Char} (h : ':' ∉ piece) (rest : List Char) :
    cutGap? (piece ++ rest) =
      (cutGap? rest).map fun (before, after) ↦ (piece ++ before, after) := by
  induction piece with
  | nil => simp
  | cons c piece ih =>
    rw [List.mem_cons, not_or] at h
    rw [List.cons_append, cutGap?_cons fun heq ↦ absurd heq.symm h.1, ih h.2, Option.map_map]
    rfl

variable {piece : List Char}

theorem head?_intercalate_append (hne : piece ≠ []) (hcolon : ':' ∉ piece) (cs : List Char) :
    (List.intercalate [':'] (piece :: pieces) ++ cs).head? ≠ some ':' := by
  obtain ⟨c, rest, rfl⟩ := List.exists_cons_of_ne_nil hne
  have hc : c ≠ ':' := fun heq ↦ hcolon (heq ▸ List.mem_cons_self)
  cases pieces with
  | nil => simpa using hc
  | cons next pieces => simpa [List.intercalate_cons_cons] using hc

/-- The first gap is the one after pieces that are not empty. -/
theorem cutGap?_intercalate_append (hcolon : ∀ other ∈ piece :: pieces, ':' ∉ other)
    (hne : [] ∉ pieces) (cs : List Char) :
    cutGap? (List.intercalate [':'] (piece :: pieces) ++ ':' :: ':' :: cs) =
      some (List.intercalate [':'] (piece :: pieces), cs) := by
  induction pieces generalizing piece with
  | nil =>
    rw [List.intercalate_singleton, cutGap?_append (hcolon piece List.mem_cons_self), cutGap?]
    simp
  | cons next pieces ih =>
    rw [List.forall_mem_cons] at hcolon
    rw [List.mem_cons, not_or] at hne
    have hhead : (List.intercalate [':'] (next :: pieces) ++ ':' :: ':' :: cs).head? ≠ some ':' :=
      head?_intercalate_append (Ne.symm hne.1) (hcolon.2 next List.mem_cons_self) _
    rw [List.intercalate_cons_cons, List.append_assoc, List.append_assoc, cutGap?_append hcolon.1,
      List.singleton_append, cutGap?_cons fun _ ↦ hhead, ih hcolon.2 hne.2]
    simp

theorem cutGap?_intercalate (hcolon : ∀ piece ∈ pieces, ':' ∉ piece) (hne : [] ∉ pieces) :
    cutGap? (List.intercalate [':'] pieces) = none := by
  induction pieces with
  | nil => rfl
  | cons piece pieces ih =>
    rw [List.forall_mem_cons] at hcolon
    rw [List.mem_cons, not_or] at hne
    cases pieces with
    | nil =>
      rw [List.intercalate_singleton, ← List.append_nil piece, cutGap?_append hcolon.1]
      rfl
    | cons next pieces =>
      have hhead : (List.intercalate [':'] (next :: pieces) ++ []).head? ≠ some ':' :=
        head?_intercalate_append (fun heq ↦ hne.2 (heq ▸ List.mem_cons_self))
          (hcolon.2 next List.mem_cons_self) []
      rw [List.append_nil] at hhead
      rw [List.intercalate_cons_cons, List.append_assoc, cutGap?_append hcolon.1,
        List.singleton_append, cutGap?_cons fun _ ↦ hhead, ih hcolon.2 hne.2]
      rfl

/-! ### Eight groups -/

theorem eq_of_expandLast?_eq (hne : pieces ≠ []) (h : expandLast? pieces = some [[]]) :
    pieces = [[]] := by
  obtain ⟨piece, rest, rfl⟩ := List.exists_cons_of_ne_nil hne
  obtain ⟨-, -, heq⟩ | ⟨rfl, -, heq⟩ | ⟨hrest, expanded, hexpanded, heq⟩ :=
    expandLast?_cons_cases h
  · simp at heq
  · exact heq.symm
  · have hlength := length_le_of_expandLast? hexpanded
    rw [← (List.cons.inj heq).2] at hlength
    exact absurd (List.length_eq_zero_iff.1 (Nat.le_zero.1 hlength)) hrest

/-- The numbers on one side of a gap, or of an address without a gap. -/
theorem groupValues_of_expandLast? (hne : pieces ≠ []) (hcolon : ∀ piece ∈ pieces, ':' ∉ piece)
    (h : expandLast? pieces = some groups)
    (hgroups : ∀ group ∈ sideGroups groups, isGroup group = true) :
    (groupValues (List.intercalate [':'] pieces)).length = (sideGroups groups).length ∧
      ∀ n ∈ groupValues (List.intercalate [':'] pieces), n < 65536 := by
  by_cases hside : groups = [[]]
  · subst hside
    rw [eq_of_expandLast?_eq hne h, List.intercalate_singleton]
    exact ⟨rfl, by simp [groupValues]⟩
  · have hsplit := Text.splitOn_intercalate hne hcolon
    have hwritten : (List.intercalate [':'] pieces).isEmpty = false := by
      rw [List.isEmpty_eq_false_iff]
      intro hnil
      rw [hnil] at hsplit
      rw [← hsplit] at h
      exact hside (Option.some.inj h).symm
    rw [sideGroups_of_ne hside] at hgroups ⊢
    rw [groupValues_eq, hwritten, hsplit]
    exact values_of_expandLast? h hgroups

/-- Pieces with an empty one between them write a gap. -/
theorem intercalate_gap {before after : List (List Char)} (hbefore : before ≠ [])
    (hafter : after ≠ []) :
    List.intercalate [':'] (before ++ [] :: after) =
      List.intercalate [':'] before ++ ':' :: ':' :: List.intercalate [':'] after := by
  obtain ⟨next, rest, rfl⟩ := List.exists_cons_of_ne_nil hafter
  rw [Text.intercalate_append hbefore (List.cons_ne_nil _ _), List.intercalate_cons_cons]
  rfl

theorem eight_groups_of_no_gap (hcolon : ∀ piece ∈ pieces, ':' ∉ piece)
    (h : expandLast? pieces = some groups) (hlength : groups.length = 8)
    (hgroups : ∀ group ∈ groups, isGroup group = true) :
    (allGroups (List.intercalate [':'] pieces)).length = 8 ∧
      ∀ n ∈ allGroups (List.intercalate [':'] pieces), n < 65536 := by
  have hnil : [] ∉ groups := fun hmem ↦ absurd (hgroups [] hmem) (by decide)
  have hne : pieces ≠ [] := by
    rintro rfl
    cases h
    cases hlength
  have hside : sideGroups groups = groups := sideGroups_of_ne fun heq ↦ by
    rw [heq] at hlength
    cases hlength
  rw [allGroups, cutGap?_intercalate hcolon (nil_notMem_of_expandLast? h hnil), ← hlength, ← hside]
  exact groupValues_of_expandLast? hne hcolon h (by rwa [hside])

/-- The gap stands for as many groups as are missing. -/
theorem eight_groups_of_gap {before later after : List (List Char)}
    (hcolon : ∀ other ∈ piece :: before ++ [] :: later, ':' ∉ other) (hbefore : [] ∉ before)
    (hlater : later ≠ []) (h : expandLast? later = some after)
    (hfills : fillsWithGap (piece :: before) after = true) :
    (allGroups (List.intercalate [':'] (piece :: before ++ [] :: later))).length = 8 ∧
      ∀ n ∈ allGroups (List.intercalate [':'] (piece :: before ++ [] :: later)), n < 65536 := by
  obtain ⟨hgroupsBefore, hgroupsAfter, hlength⟩ := fillsWithGap_iff.1 hfills
  have hcolonBefore : ∀ other ∈ piece :: before, ':' ∉ other := fun other hother ↦
    hcolon other (List.mem_append_left _ hother)
  have hcolonLater : ∀ other ∈ later, ':' ∉ other := fun other hother ↦
    hcolon other (List.mem_append_right _ (List.mem_cons_of_mem _ hother))
  obtain ⟨hlengthBefore, hltBefore⟩ := groupValues_of_expandLast? (List.cons_ne_nil _ _)
    hcolonBefore (expandLast?_of_sideGroups hgroupsBefore) hgroupsBefore
  obtain ⟨hlengthAfter, hltAfter⟩ := groupValues_of_expandLast? hlater hcolonLater h hgroupsAfter
  rw [intercalate_gap (List.cons_ne_nil _ _) hlater, allGroups,
    cutGap?_intercalate_append hcolonBefore hbefore]
  dsimp only
  refine ⟨?_, fun n hn ↦ ?_⟩
  · rw [List.length_append, List.length_append, List.length_replicate]
    omega
  · rw [List.mem_append, List.mem_append] at hn
    rcases hn with (hn | hn) | hn
    · exact hltBefore n hn
    · rw [List.eq_of_mem_replicate hn]
      decide
    · exact hltAfter n hn

/-- **An address has eight groups**, each of which fits into 16 bits. -/
theorem allGroups_of_isUnscopedIPv6 (h : isUnscopedIPv6 cs = true) :
    (allGroups cs).length = 8 ∧ ∀ n ∈ allGroups cs, n < 65536 := by
  rw [isUnscopedIPv6, Bool.and_eq_true] at h
  obtain ⟨-, h⟩ := h
  split at h
  swap
  · cases h
  rename_i groups hgroups
  have hareGroups : areGroups groups = true := (Bool.and_eq_true _ _ ▸ h).2
  have hcolon : ∀ piece ∈ Text.splitOn ':' cs, ':' ∉ piece := fun _ hpiece ↦
    (Text.of_mem_splitOn hpiece).1
  rw [← Text.intercalate_splitOn ':' cs]
  cases groups with
  | nil => cases hareGroups
  | cons first rest =>
    obtain ⟨hlength, hall⟩ | ⟨before, after, rfl, hafter, hbefore, -, hfills⟩ :=
      areGroups_cons_iff.1 hareGroups
    · exact eight_groups_of_no_gap hcolon hgroups (by rw [List.length_cons, hlength]) hall
    · rw [← List.cons_append] at hgroups
      obtain ⟨later, hpieces, hlater, hexpanded⟩ := exists_of_expandLast?_eq_append hafter hgroups
      rw [hpieces] at hcolon ⊢
      exact eight_groups_of_gap hcolon hbefore hlater hexpanded hfills

/-! ### The shortest form -/

theorem longestZeros_le (numbers : List Nat) :
    (longestZeros numbers).1 + (longestZeros numbers).2 ≤ numbers.length := by
  induction numbers with
  | nil => exact Nat.le_refl 0
  | cons n rest ih =>
    have hrun : zeroRun (n :: rest) ≤ (n :: rest).length := (List.takeWhile_sublist _).length_le
    rw [longestZeros]
    dsimp only
    split
    · dsimp only
      omega
    · rw [List.length_cons]
      dsimp only
      omega

/-- Groups as they are written in hexadecimal digits. -/
def writtenGroups (numbers : List Nat) : List (List Char) :=
  numbers.map fun n ↦ Nat.toDigits 16 n

variable {numbers : List Nat}

theorem isGroup_of_mem_writtenGroups (h : ∀ n ∈ numbers, n < 65536) :
    ∀ group ∈ writtenGroups numbers, isGroup group = true := by
  rintro group hgroup
  obtain ⟨n, hn, rfl⟩ := List.mem_map.1 hgroup
  exact isGroup_toDigits (h n hn)

/-- The pieces that write the groups on one side of a gap; an empty piece writes no group. -/
def sidePieces (groups : List (List Char)) : List (List Char) :=
  if groups.isEmpty then [[]] else groups

theorem sidePieces_cases (groups : List (List Char)) :
    groups = [] ∧ sidePieces groups = [[]] ∨ groups ≠ [] ∧ sidePieces groups = groups := by
  cases groups with
  | nil => exact Or.inl ⟨rfl, rfl⟩
  | cons group groups => exact Or.inr ⟨List.cons_ne_nil _ _, rfl⟩

theorem sidePieces_ne_nil (groups : List (List Char)) : sidePieces groups ≠ [] := by
  obtain ⟨-, heq⟩ | ⟨hne, heq⟩ := sidePieces_cases groups
  · rw [heq]
    exact List.cons_ne_nil _ _
  · rwa [heq]

theorem length_sidePieces (groups : List (List Char)) :
    0 < (sidePieces groups).length ∧ (sidePieces groups).length ≤ groups.length + 1 := by
  obtain ⟨-, heq⟩ | ⟨hne, heq⟩ := sidePieces_cases groups <;> rw [heq]
  · exact ⟨Nat.zero_lt_one, Nat.le_add_left _ _⟩
  · exact ⟨List.length_pos_iff.2 hne, Nat.le_succ _⟩

theorem intercalate_sidePieces (groups : List (List Char)) :
    List.intercalate [':'] (sidePieces groups) = List.intercalate [':'] groups := by
  obtain ⟨rfl, heq⟩ | ⟨-, heq⟩ := sidePieces_cases groups <;> rw [heq]
  rfl

theorem sideGroups_sidePieces (h : [] ∉ groups) : sideGroups (sidePieces groups) = groups := by
  obtain ⟨rfl, heq⟩ | ⟨-, heq⟩ := sidePieces_cases groups <;> rw [heq]
  · rfl
  · refine sideGroups_of_ne ?_
    rintro rfl
    exact h List.mem_cons_self

theorem forall_mem_sidePieces {P : List Char → Prop} (hnil : P []) (h : ∀ group ∈ groups, P group) :
    ∀ piece ∈ sidePieces groups, P piece := by
  obtain ⟨-, heq⟩ | ⟨-, heq⟩ := sidePieces_cases groups <;> rw [heq]
  · simpa using hnil
  · exact h

/-- Only the whole of a side may be empty. -/
theorem nil_notMem_sidePieces (h : [] ∉ groups) :
    [] ∉ (sidePieces groups).tail ∧ [] ∉ (sidePieces groups).dropLast := by
  obtain ⟨-, heq⟩ | ⟨-, heq⟩ := sidePieces_cases groups <;> rw [heq]
  · exact ⟨List.not_mem_nil, List.not_mem_nil⟩
  · exact ⟨fun hmem ↦ h (List.mem_of_mem_tail hmem), fun hmem ↦ h (List.dropLast_subset _ hmem)⟩

/-- All groups are written, or those around a gap that stands for two groups or more. -/
theorem shortForm_cases (numbers : List Nat) :
    shortForm numbers = List.intercalate [':'] (writtenGroups numbers) ∨
      ∃ before after, before.length + after.length + 2 ≤ numbers.length ∧
        (∀ n ∈ before ++ after, n ∈ numbers) ∧
        shortForm numbers = List.intercalate [':']
          (sidePieces (writtenGroups before) ++ [] :: sidePieces (writtenGroups after)) := by
  have hle := longestZeros_le numbers
  rw [shortForm]
  generalize longestZeros numbers = run at hle
  obtain ⟨place, run⟩ := run
  dsimp only at hle ⊢
  by_cases hrun : run < 2
  · rw [if_pos hrun]
    exact Or.inl rfl
  · refine Or.inr ⟨numbers.take place, numbers.drop (place + run), ?_, fun n hn ↦ ?_, ?_⟩
    · rw [List.length_take, List.length_drop]
      omega
    · rcases List.mem_append.1 hn with hn | hn
      · exact List.mem_of_mem_take hn
      · exact List.mem_of_mem_drop hn
    · rw [if_neg hrun, intercalate_gap (sidePieces_ne_nil _) (sidePieces_ne_nil _),
        intercalate_sidePieces, intercalate_sidePieces]
      simp [writtenGroups]

/-- Pieces without points are read as the groups that they are. -/
theorem isUnscopedIPv6_intercalate (hcolon : ∀ piece ∈ pieces, ':' ∉ piece)
    (hpoint : ∀ piece ∈ pieces, '.' ∉ piece) (hmin : 3 ≤ pieces.length) (hmax : pieces.length ≤ 9)
    (h : areGroups pieces = true) : isUnscopedIPv6 (List.intercalate [':'] pieces) = true := by
  have hne : pieces ≠ [] := by
    rintro rfl
    cases h
  rw [isUnscopedIPv6, Text.splitOn_intercalate hne hcolon, expandLast?_of_notMem hpoint]
  simp [hmin, hmax, h]

theorem isUnscopedIPv6_of_eight (hlength : groups.length = 8)
    (h : ∀ group ∈ groups, isGroup group = true) :
    isUnscopedIPv6 (List.intercalate [':'] groups) = true :=
  isUnscopedIPv6_intercalate (fun group hgroup ↦ notMem_of_isGroup (h group hgroup) (by decide))
    (fun group hgroup ↦ notMem_of_isGroup (h group hgroup) (by decide)) (by omega) (by omega)
    (areGroups_of_eight hlength h)

theorem isUnscopedIPv6_of_sides {before after : List (List Char)}
    (h : ∀ group ∈ before ++ after, isGroup group = true)
    (hfewer : before.length + after.length ≤ 6) :
    isUnscopedIPv6 (List.intercalate [':'] (sidePieces before ++ [] :: sidePieces after)) =
      true := by
  rw [List.forall_mem_append] at h
  obtain ⟨hbefore, hafter⟩ := h
  have hnil {groups : List (List Char)} (hgroups : ∀ group ∈ groups, isGroup group = true) :
      [] ∉ groups := fun hmem ↦ absurd (hgroups [] hmem) (by decide)
  have hnotMem {c : Char} (hc : isHexadecimal c = false) :
      ∀ piece ∈ sidePieces before ++ [] :: sidePieces after, c ∉ piece := by
    have hside {groups : List (List Char)} (hgroups : ∀ group ∈ groups, isGroup group = true) :
        ∀ piece ∈ sidePieces groups, c ∉ piece :=
      forall_mem_sidePieces List.not_mem_nil fun group hgroup ↦
        notMem_of_isGroup (hgroups group hgroup) hc
    rw [List.forall_mem_append, List.forall_mem_cons]
    exact ⟨hside hbefore, List.not_mem_nil, hside hafter⟩
  have hfills : fillsWithGap (sidePieces before) (sidePieces after) = true := by
    rw [fillsWithGap_iff, sideGroups_sidePieces (hnil hbefore), sideGroups_sidePieces (hnil hafter)]
    exact ⟨hbefore, hafter, by omega⟩
  have hlengthBefore := length_sidePieces before
  have hlengthAfter := length_sidePieces after
  refine isUnscopedIPv6_intercalate (hnotMem (by decide)) (hnotMem (by decide)) ?_ ?_
    (areGroups_of_sides (sidePieces_ne_nil _) (sidePieces_ne_nil _)
      (nil_notMem_sidePieces (hnil hbefore)).1 (nil_notMem_sidePieces (hnil hafter)).2 hfills)
  · rw [List.length_append, List.length_cons]
    omega
  · rw [List.length_append, List.length_cons]
    omega

/-- **The shortest form of eight groups is an address.** -/
theorem isUnscopedIPv6_shortForm (hlength : numbers.length = 8) (h : ∀ n ∈ numbers, n < 65536) :
    isUnscopedIPv6 (shortForm numbers) = true := by
  obtain hform | ⟨before, after, hfewer, hmem, hform⟩ := shortForm_cases numbers
  · rw [hform]
    exact isUnscopedIPv6_of_eight (by rw [writtenGroups, List.length_map, hlength])
      (isGroup_of_mem_writtenGroups h)
  · rw [hform]
    refine isUnscopedIPv6_of_sides ?_ ?_
    · rw [writtenGroups, writtenGroups, ← List.map_append]
      exact isGroup_of_mem_writtenGroups fun n hn ↦ h n (hmem n hn)
    · rw [writtenGroups, writtenGroups, List.length_map, List.length_map]
      omega

theorem of_mem_shortForm {c : Char} (hc : c ∈ shortForm numbers) :
    c = ':' ∨ isHexadecimal c = true := by
  have hwritten {some : List Nat} (hc : c ∈ List.intercalate [':'] (writtenGroups some)) :
      c = ':' ∨ isHexadecimal c = true := by
    refine (Text.of_mem_intercalate hc).imp_right ?_
    rintro ⟨group, hgroup, hc⟩
    obtain ⟨n, -, rfl⟩ := List.mem_map.1 hgroup
    exact isHexadecimal_of_mem_toDigits hc
  obtain hform | ⟨before, after, -, -, hform⟩ := shortForm_cases numbers
  · exact hwritten (hform ▸ hc)
  · rw [hform, intercalate_gap (sidePieces_ne_nil _) (sidePieces_ne_nil _), intercalate_sidePieces,
      intercalate_sidePieces, List.mem_append, List.mem_cons, List.mem_cons] at hc
    rcases hc with hc | hc | hc | hc
    · exact hwritten hc
    · exact Or.inl hc
    · exact Or.inl hc
    · exact hwritten hc

end WebAddress

end TokenBroker
