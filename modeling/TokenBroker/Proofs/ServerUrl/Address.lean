import TokenBroker.Proofs.Text.Split
import TokenBroker.ServerUrl.Authority

/-!
# The groups of IPv6 addresses

Groups are an IPv6 address if there are eight of them, or fewer around one gap
(`Address.areGroups_cons_iff`). The pieces that stand on a side of the gap are not always groups: an
empty piece at either end stands for none (`Address.sideGroups`). A last piece that is an IPv4
address stands for two groups, which changes nothing before the gap
(`Address.exists_of_expandLast?_eq_append`).
-/

namespace TokenBroker

namespace Address

variable {cs : List Char} {groups : List (List Char)}

/-! ### Groups -/

theorem isHexadecimal_digitChar : ∀ n < 16, isHexadecimal (Nat.digitChar n) = true := by
  decide

theorem isHexadecimal_of_mem_toDigits {n : Nat} {c : Char} (h : c ∈ Nat.toDigits 16 n) :
    isHexadecimal c = true := by
  induction n using Nat.strong_induction_on with
  | _ n ih =>
    rcases Nat.lt_or_ge n 16 with hn | hn
    · rw [Nat.toDigits_of_lt_base hn, List.mem_singleton] at h
      exact h ▸ isHexadecimal_digitChar n hn
    · rw [Nat.toDigits_of_base_le (by decide) hn, List.mem_append, List.mem_singleton] at h
      rcases h with h | rfl
      · exact ih (n / 16) (by omega) h
      · exact isHexadecimal_digitChar _ (Nat.mod_lt _ (by decide))

theorem isGroup_iff : isGroup cs = true ↔
    cs ≠ [] ∧ cs.length ≤ 4 ∧ ∀ c ∈ cs, isHexadecimal c = true := by
  simp [isGroup, and_assoc]

theorem isGroup_toDigits {n : Nat} (h : n < 65536) : isGroup (Nat.toDigits 16 n) = true :=
  isGroup_iff.2 ⟨Nat.toDigits_ne_nil, (Nat.length_toDigits_le_iff (by decide) (by decide)).2 h,
    fun _ ↦ isHexadecimal_of_mem_toDigits⟩

theorem notMem_of_isGroup (h : isGroup cs = true) {c : Char} (hc : isHexadecimal c = false) :
    c ∉ cs := by
  intro hmem
  rw [(isGroup_iff.1 h).2.2 c hmem] at hc
  cases hc

/-! ### Gaps -/

/-- The groups on one side of a gap, of which there are none if nothing is written there. -/
def sideGroups (groups : List (List Char)) : List (List Char) :=
  if groups == [[]] then [] else groups

theorem sideGroups_of_ne (h : groups ≠ [[]]) : sideGroups groups = groups := by
  rw [sideGroups, if_neg (by simpa using h)]

theorem fillsWithGap_iff {before after : List (List Char)} : fillsWithGap before after = true ↔
    (∀ group ∈ sideGroups before, isGroup group = true) ∧
      (∀ group ∈ sideGroups after, isGroup group = true) ∧
      (sideGroups before).length + (sideGroups after).length < 8 := by
  simp [fillsWithGap, sideGroups, and_assoc]

variable {first : List Char} {before after rest : List (List Char)}

theorem all_not_isEmpty_iff : groups.all (!·.isEmpty) = true ↔ [] ∉ groups := by
  rw [List.all_eq_true]
  constructor
  · intro h hmem
    exact absurd (h [] hmem) (by decide)
  · rintro h group hgroup
    rw [Bool.not_eq_true', List.isEmpty_eq_false_iff]
    rintro rfl
    exact h hgroup

theorem areGroups_of_gap (hbefore : [] ∉ before) (hafter : after ≠ []) :
    areGroups (first :: (before ++ [] :: after)) =
      (after.dropLast.all (!·.isEmpty) && fillsWithGap (first :: before) after) := by
  have hrun := List.all_eq_true.1 (all_not_isEmpty_iff.2 hbefore)
  have hdropLast : (before ++ [] :: after).dropLast = before ++ [] :: after.dropLast := by
    rw [List.dropLast_append_of_ne_nil (List.cons_ne_nil _ _), List.dropLast_cons_of_ne_nil hafter]
  rw [areGroups, hdropLast, Text.span_append_cons hrun rfl]
  simp

theorem areGroups_of_no_gap (h : [] ∉ rest.dropLast) :
    areGroups (first :: rest) = (rest.length == 7 && (first :: rest).all isGroup) := by
  have hrun := List.all_eq_true.1 (all_not_isEmpty_iff.2 h)
  rw [areGroups, List.span_eq_takeWhile_dropWhile, List.dropWhile_eq_nil_iff.2 hrun]

/-- Groups are an address if there are eight of them, or fewer around one gap. -/
theorem areGroups_cons_iff : areGroups (first :: rest) = true ↔
    (rest.length = 7 ∧ ∀ group ∈ first :: rest, isGroup group = true) ∨
    ∃ before after, rest = before ++ [] :: after ∧ after ≠ [] ∧ [] ∉ before ∧
      [] ∉ after.dropLast ∧ fillsWithGap (first :: before) after = true := by
  constructor
  · intro h
    by_cases hgap : [] ∈ rest.dropLast
    · obtain ⟨before, inner, hdropLast, hbefore⟩ := List.eq_append_cons_of_mem hgap
      have hne : rest ≠ [] := by
        rintro rfl
        cases hgap
      have hrest : rest = before ++ [] :: (inner ++ [rest.getLast hne]) := by
        conv_lhs => rw [← List.dropLast_concat_getLast hne, hdropLast]
        simp
      rw [hrest, areGroups_of_gap hbefore (by simp), Bool.and_eq_true, all_not_isEmpty_iff] at h
      exact Or.inr ⟨before, _, hrest, by simp, hbefore, h⟩
    · rw [areGroups_of_no_gap hgap, Bool.and_eq_true, beq_iff_eq, List.all_eq_true] at h
      exact Or.inl h
  · rintro (⟨hlength, hgroups⟩ | ⟨before, after, rfl, hafter, hbefore, hinner, hfills⟩)
    · have hgap : [] ∉ rest.dropLast := fun hmem ↦
        absurd (hgroups [] (List.mem_cons_of_mem _ (List.dropLast_subset _ hmem))) (by decide)
      rw [areGroups_of_no_gap hgap, Bool.and_eq_true, beq_iff_eq, List.all_eq_true]
      exact ⟨hlength, hgroups⟩
    · rw [areGroups_of_gap hbefore hafter, Bool.and_eq_true, all_not_isEmpty_iff]
      exact ⟨hinner, hfills⟩

theorem areGroups_of_eight (hlength : groups.length = 8)
    (h : ∀ group ∈ groups, isGroup group = true) : areGroups groups = true := by
  cases groups with
  | nil => cases hlength
  | cons first rest => exact areGroups_cons_iff.2 (Or.inl ⟨Nat.succ.inj hlength, h⟩)

theorem areGroups_of_sides (hbefore : before ≠ []) (hafter : after ≠ []) (htail : [] ∉ before.tail)
    (hdropLast : [] ∉ after.dropLast) (hfills : fillsWithGap before after = true) :
    areGroups (before ++ [] :: after) = true := by
  obtain ⟨first, rest, rfl⟩ := List.exists_cons_of_ne_nil hbefore
  exact areGroups_cons_iff.2 (Or.inr ⟨rest, after, rfl, hafter, htail, hdropLast, hfills⟩)

/-! ### The last group -/

theorem expandLast?_cons (h : rest ≠ []) :
    expandLast? (first :: rest) = (expandLast? rest).map (first :: ·) := by
  cases rest with
  | nil => exact absurd rfl h
  | cons next rest => rfl

/-- Groups without points are left as they are. -/
theorem expandLast?_of_notMem (h : ∀ group ∈ groups, '.' ∉ group) :
    expandLast? groups = some groups := by
  induction groups with
  | nil => rfl
  | cons first rest ih =>
    rw [List.forall_mem_cons] at h
    cases rest with
    | nil => simp [expandLast?, h.1]
    | cons next rest =>
      rw [expandLast?_cons (List.cons_ne_nil _ _), ih h.2]
      rfl

/-- A last group stands for itself, or as an IPv4 address for two groups of one digit. -/
theorem expandLast?_cons_cases (h : expandLast? (first :: rest) = some groups) :
    (rest = [] ∧ '.' ∈ first ∧ groups = [['0'], ['0']]) ∨
      (rest = [] ∧ '.' ∉ first ∧ groups = [first]) ∨
      rest ≠ [] ∧ ∃ expanded, expandLast? rest = some expanded ∧ groups = first :: expanded := by
  by_cases hrest : rest = []
  · subst hrest
    simp only [expandLast?, List.contains_iff_mem] at h
    split at h
    · rename_i hpoint
      split at h
      · exact Or.inl ⟨rfl, hpoint, (Option.some.inj h).symm⟩
      · cases h
    · rename_i hpoint
      exact Or.inr (Or.inl ⟨rfl, hpoint, (Option.some.inj h).symm⟩)
  · rw [expandLast?_cons hrest, Option.map_eq_some_iff] at h
    obtain ⟨expanded, hexpanded, rfl⟩ := h
    exact Or.inr (Or.inr ⟨hrest, expanded, hexpanded, rfl⟩)

theorem length_le_of_expandLast? {pieces : List (List Char)}
    (h : expandLast? pieces = some groups) : pieces.length ≤ groups.length := by
  induction pieces generalizing groups with
  | nil => exact Nat.zero_le _
  | cons first rest ih =>
    obtain ⟨rfl, -, rfl⟩ | ⟨rfl, -, rfl⟩ | ⟨-, expanded, hexpanded, rfl⟩ := expandLast?_cons_cases h
    · exact Nat.le_succ 1
    · exact Nat.le_refl _
    · exact Nat.succ_le_succ (ih hexpanded)

/-- The expansion of the last group fills no empty group. -/
theorem nil_notMem_of_expandLast? {pieces : List (List Char)} (h : expandLast? pieces = some groups)
    (hgroups : [] ∉ groups) : [] ∉ pieces := by
  induction pieces generalizing groups with
  | nil => exact List.not_mem_nil
  | cons first rest ih =>
    obtain ⟨rfl, hpoint, -⟩ | ⟨rfl, -, rfl⟩ | ⟨-, expanded, hexpanded, rfl⟩ :=
      expandLast?_cons_cases h
    · rintro hmem
      rw [← List.mem_singleton.1 hmem] at hpoint
      cases hpoint
    · exact hgroups
    · rw [List.mem_cons, not_or] at hgroups ⊢
      exact ⟨hgroups.1, ih hexpanded hgroups.2⟩

/-- Only what follows a gap is changed by the expansion of the last group. -/
theorem exists_of_expandLast?_eq_append {pieces : List (List Char)} (hafter : after ≠ [])
    (h : expandLast? pieces = some (before ++ [] :: after)) :
    ∃ later, pieces = before ++ [] :: later ∧ later ≠ [] ∧ expandLast? later = some after := by
  induction pieces generalizing before with
  | nil => simp [expandLast?] at h
  | cons first rest ih =>
    obtain ⟨-, -, heq⟩ | ⟨-, -, heq⟩ | ⟨hrest, expanded, hexpanded, heq⟩ := expandLast?_cons_cases h
    · simp [List.append_eq_cons_iff, List.cons_eq_append_iff] at heq
    · simp [List.append_eq_cons_iff, hafter] at heq
    · cases before with
      | nil =>
        obtain ⟨rfl, rfl⟩ := List.cons.inj heq
        exact ⟨rest, rfl, hrest, hexpanded⟩
      | cons group before =>
        obtain ⟨rfl, rfl⟩ := List.cons.inj heq
        obtain ⟨later, rfl, hlater⟩ := ih hexpanded
        exact ⟨later, rfl, hlater⟩

/-- Nothing is expanded where only groups are written. -/
theorem expandLast?_of_sideGroups (h : ∀ group ∈ sideGroups groups, isGroup group = true) :
    expandLast? groups = some groups := by
  refine expandLast?_of_notMem fun group hgroup ↦ ?_
  by_cases hside : groups = [[]]
  · subst hside
    rw [List.mem_singleton.1 hgroup]
    exact List.not_mem_nil
  · rw [sideGroups_of_ne hside] at h
    exact notMem_of_isGroup (h group hgroup) (by decide)

/-! ### Between brackets -/

theorem colon_mem_of_isUnscopedIPv6 (h : isUnscopedIPv6 cs = true) : ':' ∈ cs := by
  by_contra hcolon
  rw [isUnscopedIPv6, Text.splitOn_of_notMem hcolon] at h
  cases h

theorem isIPv4_eq_false_of_colon (h : ':' ∈ cs) : isIPv4 cs = false := by
  rw [Bool.eq_false_iff]
  intro hIPv4
  rw [isIPv4, Bool.and_eq_true, List.all_eq_true] at hIPv4
  rw [← Text.intercalate_splitOn '.' cs] at h
  obtain hpoint | ⟨octet, hoctet, hcolon⟩ := Text.of_mem_intercalate h
  · cases hpoint
  · have hall := hIPv4.2 octet hoctet
    simp only [isOctet, Bool.and_eq_true, List.all_eq_true] at hall
    exact absurd (hall.1.1.1.2 ':' hcolon) (by decide)

end Address

/-- An address of hexadecimal digits and colons may stand between brackets. -/
theorem Authority.checkBracketed_of_isUnscopedIPv6 {host : List Char}
    (h : Address.isUnscopedIPv6 host = true)
    (hchars : ∀ c ∈ host, c = ':' ∨ Address.isHexadecimal c = true) :
    checkBracketed host = .ok () := by
  have hnotMem {c : Char} (hcolon : c ≠ ':') (hc : Address.isHexadecimal c = false) :
      c ∉ host := fun hmem ↦ by
    rw [(hchars c hmem).resolve_left hcolon] at hc
    cases hc
  have hhead : host.head? ≠ some 'v' := fun hhead ↦
    hnotMem (by decide) (by decide) (List.mem_of_mem_head? hhead)
  have hslash : host.contains '/' = false := by
    simpa using hnotMem (by decide : '/' ≠ ':') (by decide)
  have hpercent : '%' ∉ host := hnotMem (by decide) (by decide)
  have hIPv6 : Address.isIPv6 host = true := by
    rw [Address.isIPv6, hslash, Text.cutFirst?_eq, if_neg hpercent]
    exact h
  rw [checkBracketed, if_neg hhead, hIPv6,
    Address.isIPv4_eq_false_of_colon (Address.colon_mem_of_isUnscopedIPv6 h)]
  rfl

end TokenBroker
