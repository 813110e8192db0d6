import TokenBroker.Proofs.Config.Values
import TokenBroker.Yaml.Document

/-!
# The keys of a document

However often a key is written, a map that is read has it once: readers of maps keep the last value
of each key. Scalars are no maps, so this goes through from the readers of scalars to whole
documents (`tidy_of_parse?`). The readers call each other with one unit of fuel less, and the proofs
follow them.
-/

namespace TokenBroker.Yaml

open ConfigValue

variable {cs after : List Char} {value : ConfigValue} {entries : ConfigEntries}

/-! ### Scalars -/

theorem isMap_of_wordValue? {text : String} (h : wordValue? text = some value) :
    value.isMap = false := by
  unfold wordValue? at h
  split at h
  · cases h; rfl
  split at h
  · cases h; rfl
  split at h
  · cases h; rfl
  · cases h

theorem isMap_plainValue (cs : List Char) : (plainValue cs).isMap = false := by
  unfold plainValue
  dsimp only
  split
  · rename_i hword
    exact isMap_of_wordValue? hword
  · rfl
  · rfl
  · rename_i hdate
    obtain ⟨_, -, rfl⟩ := Option.map_eq_some_iff.1 hdate
    rfl
  · rfl

/-- **A scalar is no map.** -/
theorem isMap_of_scalar? {flow : Bool} {column : Int}
    (h : scalar? flow column cs = some (value, after)) : value.isMap = false := by
  unfold scalar? at h
  dsimp only at h
  split at h
  · obtain ⟨_, -, heq⟩ := Option.map_eq_some_iff.1 h
    cases heq
    rfl
  · obtain ⟨_, -, heq⟩ := Option.map_eq_some_iff.1 h
    cases heq
    rfl
  · split at h
    · obtain ⟨_, hplain, heq⟩ := Option.map_eq_some_iff.1 h
      cases heq
      unfold plain? at hplain
      split at hplain
      · cases hplain
      · cases hplain
        exact isMap_plainValue _
    · cases h

/-! ### Flow collections -/

mutual

theorem tidy_of_flowNode? : ∀ {fuel : Nat} {cs after : List Char} {value : ConfigValue},
    flowNode? fuel cs = some (value, after) → Tidy value
  | 0, _, _, _, h => by rw [flowNode?] at h; cases h
  | fuel + 1, cs, after, value, h => by
    unfold flowNode? at h
    split at h
    · obtain ⟨_, -, heq⟩ := Option.map_eq_some_iff.1 h
      cases heq
      exact .single rfl
    · obtain ⟨⟨entries, _⟩, hentries, heq⟩ := Option.map_eq_some_iff.1 h
      cases heq
      exact tidy_distinct (tidy_of_flowEntries? hentries)
    · exact .single (isMap_of_scalar? h)

theorem tidy_of_flowValue? : ∀ {fuel : Nat} {cs after : List Char} {value : ConfigValue},
    flowValue? fuel cs = some (value, after) → Tidy value
  | 0, _, _, _, h => by rw [flowValue?] at h; cases h
  | fuel + 1, cs, after, value, h => by
    unfold flowValue? at h
    split at h
    · cases h; exact .single rfl
    · cases h; exact .single rfl
    · cases h; exact .single rfl
    · exact tidy_of_flowNode? h

theorem tidy_of_flowEntries? : ∀ {fuel : Nat} {cs after : List Char} {entries : ConfigEntries},
    flowEntries? fuel cs = some (entries, after) → ∀ entry ∈ entries, Tidy entry.2
  | 0, _, _, _, h => by rw [flowEntries?] at h; cases h
  | fuel + 1, cs, after, entries, h => by
    unfold flowEntries? at h
    split at h
    · cases h
      exact fun entry hentry ↦ absurd hentry List.not_mem_nil
    · have hcontinue : ∀ {entry : Json × ConfigValue} {cs : List Char}, Tidy entry.2 →
          (match skipFlowBlanks false cs with
            | ',' :: rest => (flowEntries? fuel rest).bind fun (entries, after) ↦
              some (entry :: entries, after)
            | '\x7d' :: rest => some ([entry], rest)
            | _ => none) = some (entries, after) → ∀ entry ∈ entries, Tidy entry.2 := by
        intro entry cs hfirst h
        split at h
        · obtain ⟨⟨rest, _⟩, hrest, heq⟩ := Option.bind_eq_some_iff.1 h
          cases heq
          exact List.forall_mem_cons.2 ⟨hfirst, tidy_of_flowEntries? hrest⟩
        · cases h
          exact List.forall_mem_singleton.2 hfirst
        · cases h
      dsimp only at h
      split at h
      · obtain ⟨entry, hentry, h⟩ := Option.bind_eq_some_iff.1 h
        obtain ⟨⟨value, _⟩, hvalue, rfl⟩ := Option.map_eq_some_iff.1 hentry
        exact hcontinue (tidy_of_flowValue? hvalue) h
      · obtain ⟨entry, hentry, h⟩ := Option.bind_eq_some_iff.1 h
        obtain ⟨⟨key, _⟩, -, rfl⟩ := Option.map_eq_some_iff.1 hentry
        exact hcontinue (.single rfl) h

end

/-! ### Blocks -/

theorem tidy_of_leaf? {fuel : Nat} {indent : Int}
    (h : leaf? fuel indent cs = some (value, after)) : Tidy value := by
  unfold leaf? at h
  dsimp only at h
  split at h <;> obtain ⟨⟨found, _⟩, hfound, h⟩ := Option.bind_eq_some_iff.1 h <;>
    obtain ⟨_, -, heq⟩ := Option.bind_eq_some_iff.1 h <;> cases heq
  · exact tidy_of_flowNode? hfound
  · exact tidy_of_flowNode? hfound
  · exact .single (isMap_of_scalar? hfound)

mutual

theorem tidy_of_block? : ∀ {fuel : Nat} {indent : Int} {cs after : List Char} {value : ConfigValue},
    block? fuel indent cs = some (value, after) → Tidy value
  | 0, _, _, _, _, h => by rw [block?] at h; cases h
  | fuel + 1, indent, cs, after, value, h => by
    unfold block? at h
    dsimp only at h
    split at h
    · cases h; exact .single rfl
    · exact tidy_of_blockAt? h

theorem tidy_of_blockAt? : ∀ {fuel : Nat} {indent : Int} {column : Nat} {cs after : List Char}
    {value : ConfigValue}, blockAt? fuel indent column cs = some (value, after) → Tidy value
  | 0, _, _, _, _, _, h => by rw [blockAt?] at h; cases h
  | fuel + 1, indent, column, cs, after, value, h => by
    unfold blockAt? at h
    split at h
    · obtain ⟨_, -, heq⟩ := Option.map_eq_some_iff.1 h
      cases heq
      exact .single rfl
    · split at h
      · obtain ⟨⟨entries, _⟩, hentries, heq⟩ := Option.map_eq_some_iff.1 h
        cases heq
        exact tidy_distinct (tidy_of_blockEntries? hentries)
      · exact tidy_of_leaf? h

theorem tidy_of_blockEntries? : ∀ {fuel column : Nat} {cs after : List Char}
    {entries : ConfigEntries}, blockEntries? fuel column cs = some (entries, after) →
    ∀ entry ∈ entries, Tidy entry.2
  | 0, _, _, _, _, h => by rw [blockEntries?] at h; cases h
  | fuel + 1, column, cs, after, entries, h => by
    unfold blockEntries? at h
    obtain ⟨⟨key, afterKey⟩, -, h⟩ := Option.bind_eq_some_iff.1 h
    have hcontinue : ∀ {value : ConfigValue} {cs : List Char}, Tidy value →
        (if continuesAt column (skipLines cs) then
          (blockEntries? fuel column (skipSpaces (skipLines cs))).bind fun (entries, after) ↦
            some ((key, value) :: entries, after)
          else some ([(key, value)], skipLines cs)) = some (entries, after) →
        ∀ entry ∈ entries, Tidy entry.2 := by
      intro value cs hfirst h
      split at h
      · obtain ⟨⟨rest, _⟩, hrest, heq⟩ := Option.bind_eq_some_iff.1 h
        cases heq
        exact List.forall_mem_cons.2 ⟨hfirst, tidy_of_blockEntries? hrest⟩
      · cases h
        exact List.forall_mem_singleton.2 hfirst
    dsimp only at h
    split at h
    · split at h
      · obtain ⟨⟨value, _⟩, hvalue, h⟩ := Option.bind_eq_some_iff.1 h
        obtain ⟨_, -, heq⟩ := Option.map_eq_some_iff.1 hvalue
        cases heq
        exact hcontinue (.single rfl) h
      · obtain ⟨⟨value, _⟩, hvalue, h⟩ := Option.bind_eq_some_iff.1 h
        exact hcontinue (tidy_of_block? hvalue) h
    · obtain ⟨⟨value, _⟩, hvalue, h⟩ := Option.bind_eq_some_iff.1 h
      exact hcontinue (tidy_of_leaf? hvalue) h

end

/-! ### Documents -/

/-- **Every map of a document has each of its keys once.** -/
theorem tidy_of_parse? {text : String} (h : parse? text = some value) : Tidy value := by
  unfold parse? at h
  have hend : ∀ {found : ConfigValue} {rest : List Char}, Tidy found →
      (if text.toList.all isAllowed && isFinished rest then some found else none) = some value →
      Tidy value := by
    intro found rest hfound h
    split at h
    · cases h
      exact hfound
    · cases h
  extract_lets _ cs line fuel at h
  clear_value line fuel
  split at h
  · split at h <;> obtain ⟨⟨found, _⟩, hfound, h⟩ := Option.bind_eq_some_iff.1 h
    · exact hend (tidy_of_block? hfound) h
    · exact hend (tidy_of_leaf? hfound) h
  · split at h
    · cases h
    · obtain ⟨⟨found, _⟩, hfound, h⟩ := Option.bind_eq_some_iff.1 h
      exact hend (tidy_of_block? hfound) h

end TokenBroker.Yaml
