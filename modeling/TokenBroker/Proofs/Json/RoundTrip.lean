import TokenBroker.Proofs.Json.Numbers
import TokenBroker.Proofs.Json.Strings

/-!
# Values are read as they were written

A value without binary64 numbers, in whose objects no name is repeated, is *plain*. A plain value
that stays within the limits is read back from its text in any layout that puts nothing but blanks
around the signs between its parts (`Json.parseChars_encodeAt`): the reader drops blanks there.

The induction is over the value, the items of its arrays and the members of its objects together.
Each step of the reader costs one unit of fuel; twice the length of the text that is left always
suffices, because every part is at least one character long.
-/

namespace TokenBroker.Json

/-! ### Plain values -/

mutual

/-- A value without binary64 numbers in whose objects no name is repeated. -/
def Plain : Json → Prop
  | .float _ => False
  | .arr items => PlainItems items
  | .obj members => (members.map (·.1)).Nodup ∧ PlainMembers members
  | .null | .bool _ | .int _ | .str _ => True

def PlainItems : List Json → Prop
  | [] => True
  | item :: rest => Plain item ∧ PlainItems rest

def PlainMembers : List (String × Json) → Prop
  | [] => True
  | (_, value) :: rest => Plain value ∧ PlainMembers rest

end

theorem plainItems_iff {items : List Json} : PlainItems items ↔ ∀ item ∈ items, item.Plain := by
  induction items with
  | nil => simp [PlainItems]
  | cons item rest ih => simp [PlainItems, ih]

theorem plainMembers_iff {members : List (String × Json)} :
    PlainMembers members ↔ ∀ member ∈ members, member.2.Plain := by
  induction members with
  | nil => simp [PlainMembers]
  | cons member rest ih => simp [PlainMembers, ih]

theorem plain_arr {items : List Json} : (arr items).Plain ↔ ∀ item ∈ items, item.Plain := by
  rw [Plain, plainItems_iff]

theorem plain_obj {members : List (String × Json)} :
    (obj members).Plain ↔ (members.map (·.1)).Nodup ∧ ∀ member ∈ members, member.2.Plain := by
  rw [Plain, plainMembers_iff]

@[simp] theorem plain_null : null.Plain := by simp [Plain]

@[simp] theorem plain_str (s : String) : (str s).Plain := by simp [Plain]

@[simp] theorem plain_int (n : Int) : (int n).Plain := by simp [Plain]

/-! ### Values within the limits -/

variable {room : Nat}

theorem fits_int {n : Int} : (int n).Fits room ↔ digitCount n ≤ Address.maximumDigits := by
  simp [Fits, excess?]

@[simp] theorem fits_null : null.Fits room := by simp [Fits, excess?]

@[simp] theorem fits_str (s : String) : (str s).Fits room := by simp [Fits, excess?]

theorem itemsExcess_eq_none_iff {items : List Json} :
    itemsExcess? items room = none ↔ ∀ item ∈ items, item.Fits room := by
  induction items with
  | nil => simp [itemsExcess?]
  | cons item rest ih => simp [itemsExcess?, ih, Fits]

theorem membersExcess_eq_none_iff {members : List (String × Json)} :
    membersExcess? members room = none ↔ ∀ member ∈ members, member.2.Fits room := by
  induction members with
  | nil => simp [membersExcess?]
  | cons member rest ih => simp [membersExcess?, ih, Fits]

theorem fits_arr {items : List Json} :
    (arr items).Fits (room + 1) ↔ ∀ item ∈ items, item.Fits room := by
  rw [← itemsExcess_eq_none_iff, Fits, excess?]

theorem fits_obj {members : List (String × Json)} :
    (obj members).Fits (room + 1) ↔ ∀ member ∈ members, member.2.Fits room := by
  rw [← membersExcess_eq_none_iff, Fits, excess?]

theorem not_fits_zero_arr (items : List Json) : ¬ (arr items).Fits 0 := by
  simp [Fits, excess?]

theorem not_fits_zero_obj (members : List (String × Json)) : ¬ (obj members).Fits 0 := by
  simp [Fits, excess?]

/-! ### Members -/

theorem setMember_of_notMem {name : String} {value : Json} {members : List (String × Json)}
    (h : name ∉ members.map (·.1)) : setMember name value members = members ++ [(name, value)] := by
  induction members with
  | nil => rfl
  | cons member rest ih =>
    obtain ⟨key, old⟩ := member
    simp only [List.map_cons, List.mem_cons, not_or] at h
    rw [setMember, if_neg fun heq ↦ h.1 heq.symm, ih h.2]
    rfl

/-- Members without repeated names are kept as they are. -/
theorem distinctMembers_of_nodup {members : List (String × Json)}
    (h : (members.map (·.1)).Nodup) : distinctMembers members = members := by
  have hfold : ∀ (rest kept : List (String × Json)), ((kept ++ rest).map (·.1)).Nodup →
      rest.foldl (fun kept member ↦ setMember member.1 member.2 kept) kept = kept ++ rest := by
    intro rest
    induction rest with
    | nil => exact fun kept _ ↦ (List.append_nil kept).symm
    | cons member rest ih =>
      obtain ⟨name, value⟩ := member
      intro kept hkept
      have hnew : name ∉ kept.map (·.1) := by
        intro hmem
        rw [List.map_append, List.map_cons] at hkept
        exact (List.nodup_append.1 hkept).2.2 _ hmem _ List.mem_cons_self rfl
      show rest.foldl _ (setMember name value kept) = _
      rw [setMember_of_notMem hnew, ih _ (by simpa using hkept)]
      simp
  exact hfold members [] h

/-! ### Blanks -/

theorem skipBlanks_append {blanks : List Char} (hblanks : blanks.all isJsonBlank = true) {c : Char}
    (hc : isJsonBlank c = false) (rest : List Char) :
    skipBlanks (blanks ++ c :: rest) = c :: rest := by
  rw [List.all_eq_true] at hblanks
  rw [skipBlanks, List.dropWhile_append_of_pos hblanks]
  simp [hc]

theorem skipBlanks_cons {c : Char} (hc : isJsonBlank c = false) (rest : List Char) :
    skipBlanks (c :: rest) = c :: rest :=
  skipBlanks_append (List.all_nil : ([] : List Char).all isJsonBlank = true) hc rest

/-- Blanks and signs end a number. -/
theorem endsNumber_cons {c : Char} (hc : isDigit c = false ∧ c ≠ '.' ∧ c ≠ 'e' ∧ c ≠ 'E')
    (rest : List Char) : EndsNumber (c :: rest) := by
  intro d hd
  cases hd
  exact hc

theorem endsNumber_append {blanks : List Char} (hblanks : blanks.all isJsonBlank = true) {c : Char}
    (hc : isDigit c = false ∧ c ≠ '.' ∧ c ≠ 'e' ∧ c ≠ 'E') (rest : List Char) :
    EndsNumber (blanks ++ c :: rest) := by
  cases blanks with
  | nil => exact endsNumber_cons hc rest
  | cons blank blanks =>
    refine endsNumber_cons ?_ _
    simp only [List.all_cons, Bool.and_eq_true, isJsonBlank, Bool.or_eq_true,
      decide_eq_true_eq] at hblanks
    obtain ⟨((rfl | rfl) | rfl) | rfl, -⟩ := hblanks <;> decide

/-- A layout puts nothing but blanks around the parts of a value and the signs between them. -/
structure Layout.IsBlank (layout : Layout) : Prop where
  before : ∀ depth, (layout.before depth).all isJsonBlank = true
  between : ∀ depth, ∃ blanks, layout.between depth = ',' :: blanks ∧
    blanks.all isJsonBlank = true
  after : ∀ depth, (layout.after depth).all isJsonBlank = true
  afterName : ∃ blanks, layout.afterName = ':' :: blanks ∧ blanks.all isJsonBlank = true

theorem Layout.isBlank_indented : Layout.indented.IsBlank where
  before depth := by simp [Layout.indented, isJsonBlank]
  between depth := ⟨_, rfl, by simp [isJsonBlank]⟩
  after depth := by simp [Layout.indented, isJsonBlank]
  afterName := ⟨_, rfl, by decide⟩

/-! ### The beginning of a text -/

variable {layout : Layout}

/-- The items of an array, from the first to the last. -/
def encodeAllItems (layout : Layout) (depth : Nat) : List Json → List Char
  | [] => []
  | item :: rest => encodeAt layout (depth + 1) item ++ encodeItems layout depth rest

/-- The members of an object, from the first to the last. -/
def encodeAllMembers (layout : Layout) (depth : Nat) : List (String × Json) → List Char
  | [] => []
  | (name, value) :: rest => encodeString name ++ (layout.afterName ++
      (encodeAt layout (depth + 1) value ++ encodeMembers layout depth rest))

/-- The text of a plain value begins with a character that is neither blank nor a closing bracket.
-/
theorem exists_encodeAt_cons (layout : Layout) {v : Json} (hv : v.Plain) (depth : Nat) :
    ∃ c cs, encodeAt layout depth v = c :: cs ∧ isJsonBlank c = false ∧ c ≠ ']' := by
  cases v with
  | null => exact ⟨_, _, rfl, by decide, by decide⟩
  | bool b => cases b <;> exact ⟨_, _, rfl, by decide, by decide⟩
  | float x => exact absurd hv (by simp [Plain])
  | str s => exact ⟨_, _, rfl, by decide, by decide⟩
  | arr items => cases items <;> exact ⟨_, _, rfl, by decide, by decide⟩
  | obj members => cases members <;> exact ⟨_, _, rfl, by decide, by decide⟩
  | int n =>
    rw [encodeAt, encodeInt]
    split
    · exact ⟨_, _, rfl, by decide, by decide⟩
    · obtain ⟨d, digits, heq, hdigit, -⟩ := exists_toDigits_cons n.natAbs
      refine ⟨d, digits, heq, ?_, ?_⟩
      · by_contra hblank
        simp only [Bool.not_eq_false, isJsonBlank, Bool.or_eq_true, decide_eq_true_eq] at hblank
        rcases hblank with ((rfl | rfl) | rfl) | rfl <;> revert hdigit <;> decide
      · rintro rfl
        revert hdigit
        decide

/-! ### One step of the reader -/

theorem readValue_scalar {fuel : Nat} {c : Char} (hquote : c ≠ '"') (hbracket : c ≠ '[')
    (hbrace : c ≠ '\x7b') (rest : List Char) :
    readValue (fuel + 1) room (c :: rest) = readScalar (c :: rest) := by
  rw [readValue]
  · exact fun _ heq ↦ hquote (List.cons.inj heq).1
  · exact fun _ heq _ ↦ hbracket (List.cons.inj heq).1
  · exact fun _ heq _ ↦ hbrace (List.cons.inj heq).1
  · exact fun _ _ heq _ ↦ hbracket (List.cons.inj heq).1
  · exact fun _ _ heq _ ↦ hbrace (List.cons.inj heq).1

theorem readValue_string (fuel : Nat) (s : String) (rest : List Char) :
    readValue (fuel + 1) room (encodeString s ++ rest) = .ok (.str s, rest) := by
  obtain ⟨written, heq, hread⟩ := readString_encodeString s rest
  rw [heq, readValue, hread]
  rfl

theorem readValue_int (fuel : Nat) {n : Int} {rest : List Char} (hrest : EndsNumber rest)
    (hn : (int n).Fits room) :
    readValue (fuel + 1) room (encodeInt n ++ rest) = .ok (.int n, rest) := by
  have hscalar := readScalar_encodeInt hrest (fits_int.1 hn)
  rw [encodeInt] at hscalar ⊢
  by_cases hn : n < 0
  · rw [if_pos hn, List.cons_append] at hscalar ⊢
    rw [readValue_scalar (by decide) (by decide) (by decide), hscalar]
  · obtain ⟨d, digits, heq, hdigit, -⟩ := exists_toDigits_cons n.natAbs
    have hne : d ≠ '"' ∧ d ≠ '[' ∧ d ≠ '\x7b' := by
      refine ⟨?_, ?_, ?_⟩ <;> (rintro rfl; revert hdigit; decide)
    rw [if_neg hn, heq, List.cons_append] at hscalar ⊢
    rw [readValue_scalar hne.1 hne.2.1 hne.2.2, hscalar]

/-- An array is read by reading its items. -/
theorem readValue_array {fuel : Nat} {blanks rest rest' : List Char} {items : List Json} {c : Char}
    (hblanks : blanks.all isJsonBlank = true) (hc : isJsonBlank c = false) (hne : c ≠ ']')
    (h : readItems fuel room (c :: rest) = .ok (items, rest')) :
    readValue (fuel + 1) (room + 1) ('[' :: (blanks ++ c :: rest)) = .ok (.arr items, rest') := by
  rw [readValue, skipBlanks_append hblanks hc]
  split
  · rename_i heq
    exact absurd (List.cons.inj heq).1 hne
  · rw [h]
    rfl

/-- An object is read by reading its members. -/
theorem readValue_object {fuel : Nat} {blanks rest rest' : List Char}
    {members : List (String × Json)} (hblanks : blanks.all isJsonBlank = true)
    (hmembers : (members.map (·.1)).Nodup)
    (h : readMembers fuel room ('"' :: rest) = .ok (members, rest')) :
    readValue (fuel + 1) (room + 1) ('\x7b' :: (blanks ++ '"' :: rest)) =
      .ok (.obj members, rest') := by
  rw [readValue, skipBlanks_append hblanks (by decide)]
  split
  · rename_i heq
    exact absurd (List.cons.inj heq).1 (by decide)
  · rw [h]
    simp only [bind, Except.bind, pure, Except.pure, distinctMembers_of_nodup hmembers]

theorem readItems_last {fuel : Nat} {cs blanks rest : List Char} {item : Json}
    (hblanks : blanks.all isJsonBlank = true)
    (h : readValue fuel room cs = .ok (item, blanks ++ ']' :: rest)) :
    readItems (fuel + 1) room cs = .ok ([item], rest) := by
  rw [readItems, h]
  simp only [bind, Except.bind, skipBlanks_append hblanks (show isJsonBlank ']' = false by decide)]

theorem readItems_more {fuel : Nat} {cs blanks rest rest' : List Char} {item : Json}
    {items : List Json} {c : Char} (hblanks : blanks.all isJsonBlank = true)
    (hc : isJsonBlank c = false)
    (h : readValue fuel room cs = .ok (item, ',' :: (blanks ++ c :: rest)))
    (hmore : readItems fuel room (c :: rest) = .ok (items, rest')) :
    readItems (fuel + 1) room cs = .ok (item :: items, rest') := by
  rw [readItems, h]
  simp only [bind, Except.bind, skipBlanks_cons (show isJsonBlank ',' = false by decide),
    skipBlanks_append hblanks hc, hmore, pure, Except.pure]

theorem readMembers_last {fuel : Nat} {name : String} {value : Json}
    {blanks blanks' text rest : List Char} {c : Char} (hblanks : blanks.all isJsonBlank = true)
    (hblanks' : blanks'.all isJsonBlank = true) (hc : isJsonBlank c = false)
    (h : readValue fuel room (c :: text) = .ok (value, blanks' ++ '\x7d' :: rest)) :
    readMembers (fuel + 1) room (encodeString name ++ ':' :: (blanks ++ c :: text)) =
      .ok ([(name, value)], rest) := by
  obtain ⟨written, heq, hread⟩ := readString_encodeString name (':' :: (blanks ++ c :: text))
  rw [heq, readMembers, hread]
  simp only [bind, Except.bind, skipBlanks_cons (show isJsonBlank ':' = false by decide),
    skipBlanks_append hblanks hc, h,
    skipBlanks_append hblanks' (show isJsonBlank '\x7d' = false by decide)]

theorem readMembers_more {fuel : Nat} {name : String} {value : Json}
    {members : List (String × Json)} {blanks blanks' text rest rest' : List Char} {c d : Char}
    (hblanks : blanks.all isJsonBlank = true) (hblanks' : blanks'.all isJsonBlank = true)
    (hc : isJsonBlank c = false) (hd : isJsonBlank d = false)
    (h : readValue fuel room (c :: text) = .ok (value, ',' :: (blanks' ++ d :: rest)))
    (hmore : readMembers fuel room (d :: rest) = .ok (members, rest')) :
    readMembers (fuel + 1) room (encodeString name ++ ':' :: (blanks ++ c :: text)) =
      .ok ((name, value) :: members, rest') := by
  obtain ⟨written, heq, hread⟩ := readString_encodeString name (':' :: (blanks ++ c :: text))
  rw [heq, readMembers, hread]
  simp only [bind, Except.bind, skipBlanks_cons (show isJsonBlank ':' = false by decide),
    skipBlanks_append hblanks hc, h, skipBlanks_cons (show isJsonBlank ',' = false by decide),
    skipBlanks_append hblanks' hd, hmore, pure, Except.pure]

/-! ### All steps -/

mutual

/-- **A plain value within the limits is read back**, with what stands after it, by enough fuel. -/
theorem readValue_encodeAt (hlayout : layout.IsBlank) :
    ∀ (v : Json), v.Plain → ∀ (depth fuel room : Nat) (rest : List Char), v.Fits room →
      2 * (encodeAt layout depth v).length ≤ fuel → EndsNumber rest →
        readValue fuel room (encodeAt layout depth v ++ rest) = .ok (v, rest)
  | v, hv, depth, 0, _, rest, _, hfuel, _ => by
    -- every text has a first character, so this much fuel is never too little
    obtain ⟨c, cs, heq, -, -⟩ := exists_encodeAt_cons layout hv depth
    rw [heq] at hfuel
    simp at hfuel
  | .null, _, _, _ + 1, _, _, _, _, _ => rfl
  | .bool true, _, _, _ + 1, _, _, _, _, _ => rfl
  | .bool false, _, _, _ + 1, _, _, _, _, _ => rfl
  | .int n, _, _, fuel + 1, _, _, hfits, _, hrest => readValue_int fuel hrest hfits
  | .float _, hv, _, _ + 1, _, _, _, _, _ => absurd hv (by simp [Plain])
  | .str s, _, _, fuel + 1, _, rest, _, _, _ => readValue_string fuel s rest
  | .arr items, _, _, _ + 1, 0, _, hfits, _, _ => absurd hfits (not_fits_zero_arr items)
  | .obj members, _, _, _ + 1, 0, _, hfits, _, _ => absurd hfits (not_fits_zero_obj members)
  | .arr [], _, _, _ + 1, _ + 1, _, _, _, _ => rfl
  | .obj [], _, _, _ + 1, _ + 1, _, _, _, _ => rfl
  | .arr (item :: items), hv, depth, fuel + 1, room + 1, rest, hfits, hfuel, _ => by
    have hplain : PlainItems (item :: items) := hv
    obtain ⟨c, cs, heq, hc, hne⟩ := exists_encodeAt_cons layout hplain.1 (depth + 1)
    have hitems := readItems_encodeAllItems hlayout (item :: items) (by simp) hplain
      depth fuel room rest (fits_arr.1 hfits) (by
        simp only [encodeAt, encodeAllItems, List.length_append, List.length_cons] at hfuel ⊢
        omega)
    simp only [encodeAllItems, heq, List.cons_append, List.append_assoc] at hitems
    simp only [encodeAt, heq, List.cons_append, List.append_assoc]
    exact readValue_array (hlayout.before depth) hc hne hitems
  | .obj ((name, value) :: members), hv, depth, fuel + 1, room + 1, rest, hfits, hfuel, _ => by
    obtain ⟨hnames, hplain⟩ : _ ∧ PlainMembers ((name, value) :: members) := hv
    have hmembers := readMembers_encodeAllMembers hlayout ((name, value) :: members) (by simp)
      hplain depth fuel room rest (fits_obj.1 hfits) (by
        simp only [encodeAt, encodeAllMembers, List.length_append, List.length_cons] at hfuel ⊢
        omega)
    simp only [encodeAllMembers, encodeString, List.cons_append, List.append_assoc] at hmembers
    simp only [encodeAt, encodeString, List.cons_append, List.append_assoc]
    exact readValue_object (hlayout.before depth) hnames hmembers

theorem readItems_encodeAllItems (hlayout : layout.IsBlank) :
    ∀ (items : List Json), items ≠ [] → PlainItems items →
      ∀ (depth fuel room : Nat) (rest : List Char), (∀ item ∈ items, item.Fits room) →
        2 * (encodeAllItems layout depth items).length + 1 ≤ fuel →
          readItems fuel room (encodeAllItems layout depth items ++
            (layout.after depth ++ ']' :: rest)) = .ok (items, rest)
  | [], hne, _, _, _, _, _, _, _ => absurd rfl hne
  | _, _, _, _, 0, _, _, _, hfuel => absurd hfuel (by simp)
  | [item], _, hplain, depth, fuel + 1, room, rest, hfits, hfuel => by
    simp only [encodeAllItems, encodeItems, List.append_nil] at hfuel ⊢
    refine readItems_last (hlayout.after depth) (readValue_encodeAt hlayout item hplain.1 _ _ _ _
      (hfits _ List.mem_cons_self) ?_ ?_)
    · omega
    · exact endsNumber_append (hlayout.after depth) (by decide) _
  | item :: next :: items, _, hplain, depth, fuel + 1, room, rest, hfits, hfuel => by
    obtain ⟨blanks, hbetween, hblanks⟩ := hlayout.between depth
    obtain ⟨c, cs, heq, hc, -⟩ := exists_encodeAt_cons layout hplain.2.1 (depth + 1)
    obtain ⟨hfit, hfits⟩ := List.forall_mem_cons.1 hfits
    have hmore := readItems_encodeAllItems hlayout (next :: items) (by simp) hplain.2
      depth fuel room rest hfits (by
        simp only [encodeAllItems, encodeItems, hbetween, List.length_append,
          List.length_cons] at hfuel ⊢
        omega)
    have hitem := readValue_encodeAt hlayout item hplain.1 (depth + 1) fuel room
      (',' :: (blanks ++ (encodeAllItems layout depth (next :: items) ++
        (layout.after depth ++ ']' :: rest)))) hfit (by
          simp only [encodeAllItems, encodeItems, List.length_append] at hfuel
          omega) (endsNumber_cons (by decide) _)
    simp only [encodeAllItems, encodeItems, hbetween, heq, List.cons_append,
      List.append_assoc] at hitem hmore ⊢
    exact readItems_more hblanks hc hitem hmore

theorem readMembers_encodeAllMembers (hlayout : layout.IsBlank) :
    ∀ (members : List (String × Json)), members ≠ [] → PlainMembers members →
      ∀ (depth fuel room : Nat) (rest : List Char), (∀ member ∈ members, member.2.Fits room) →
        2 * (encodeAllMembers layout depth members).length + 1 ≤ fuel →
          readMembers fuel room (encodeAllMembers layout depth members ++
            (layout.after depth ++ '\x7d' :: rest)) = .ok (members, rest)
  | [], hne, _, _, _, _, _, _, _ => absurd rfl hne
  | _, _, _, _, 0, _, _, _, hfuel => absurd hfuel (by simp)
  | [(name, value)], _, hplain, depth, fuel + 1, room, rest, hfits, hfuel => by
    obtain ⟨blanks, hname, hblanks⟩ := hlayout.afterName
    obtain ⟨c, cs, heq, hc, -⟩ := exists_encodeAt_cons layout hplain.1 (depth + 1)
    have hvalue := readValue_encodeAt hlayout value hplain.1 (depth + 1) fuel room
      (layout.after depth ++ '\x7d' :: rest) (hfits _ List.mem_cons_self) (by
        simp only [encodeAllMembers, List.length_append] at hfuel
        omega) (endsNumber_append (hlayout.after depth) (by decide) _)
    simp only [encodeAllMembers, encodeMembers, hname, heq, List.cons_append, List.append_assoc,
      List.append_nil] at hvalue ⊢
    exact readMembers_last hblanks (hlayout.after depth) hc hvalue
  | (name, value) :: (next, value') :: members, _, hplain, depth, fuel + 1, room, rest, hfits,
      hfuel => by
    obtain ⟨blanks, hname, hblanks⟩ := hlayout.afterName
    obtain ⟨blanks', hbetween, hblanks'⟩ := hlayout.between depth
    obtain ⟨c, cs, heq, hc, -⟩ := exists_encodeAt_cons layout hplain.1 (depth + 1)
    obtain ⟨hfit, hfits⟩ := List.forall_mem_cons.1 hfits
    have hmore := readMembers_encodeAllMembers hlayout ((next, value') :: members) (by simp)
      hplain.2 depth fuel room rest hfits (by
        simp only [encodeAllMembers, encodeMembers, hbetween, List.length_append,
          List.length_cons] at hfuel ⊢
        omega)
    have hvalue := readValue_encodeAt hlayout value hplain.1 (depth + 1) fuel room
      (',' :: (blanks' ++ (encodeAllMembers layout depth ((next, value') :: members) ++
        (layout.after depth ++ '\x7d' :: rest)))) hfit (by
          simp only [encodeAllMembers, List.length_append] at hfuel
          omega) (endsNumber_cons (by decide) _)
    obtain ⟨text, htext⟩ : ∃ text, encodeString next = '"' :: text := ⟨_, rfl⟩
    simp only [encodeAllMembers, encodeMembers, htext, hname, hbetween, heq, List.cons_append,
      List.append_assoc] at hvalue hmore ⊢
    exact readMembers_more hblanks hblanks' hc (by decide) hvalue hmore

end

/-- **A plain value within the limits is read back from its text.** -/
theorem parseChars_encodeAt (hlayout : layout.IsBlank) {v : Json} (hv : v.Plain)
    (hfits : v.Fits room) (depth : Nat) : parseChars (encodeAt layout depth v) room = .ok v := by
  obtain ⟨c, cs, heq, hc, -⟩ := exists_encodeAt_cons layout hv depth
  have hread := readValue_encodeAt hlayout v hv depth
    (2 * (encodeAt layout depth v).length + 2) room [] hfits (by omega) (by simp [EndsNumber])
  have hskip : skipBlanks (encodeAt layout depth v) = encodeAt layout depth v := by
    rw [heq, skipBlanks_cons hc]
  rw [List.append_nil] at hread
  simp only [parseChars, hskip, hread, bind, Except.bind]
  rfl

theorem parse_indented {v : Json} (hv : v.Plain) (hfits : v.Fits room) :
    parse v.indented room = .ok v := by
  rw [parse, indented, String.toList_ofList, parseChars_encodeAt Layout.isBlank_indented hv hfits]
  rfl

end TokenBroker.Json
