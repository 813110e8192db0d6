import TokenBroker.Proofs.Secret.Keyring
import TokenBroker.Proofs.Text.Split
import TokenBroker.Secret.Resolver

/-!
# References to places in the keyring

A place is written as its service and its key with a slash between them, and so is the reference to
it. The two are read by different rules: any text with a slash names a place, but a reference has to
have a service and a key, and its key is one line, to which an end of line behind it does not
belong. `SecretPlace.Referable` says for which places the reference leads back to the place; for the
others it is malformed, or leads to the place whose key has one end of line less
(`SecretPlace.ofText_reference`).

`SecretResolver.result_resolve_keyring` says what a fresh resolver makes of a reference to the
keyring.
-/

namespace TokenBroker

namespace SecretReference

theorem keyringParts?_of_cut {cs service key : List Char}
    (hcut : Text.cutFirst? '/' cs = some (service, key)) :
    keyringParts? cs =
      if service = [] ∨ withoutBreak key = [] ∨ '\n' ∈ withoutBreak key then none
      else some (String.ofList service, String.ofList (withoutBreak key)) := by
  rw [keyringParts?, hcut]
  simp only [Bool.or_eq_true, List.isEmpty_iff, List.contains_iff_mem, or_assoc]

/-- A reference begins in a way of its own. -/
theorem ofText_append (text : String) :
    ofText ("@keyring:" ++ text) =
      (keyringParts? text.toList).elim .malformed fun place ↦ .keyring place.1 place.2 := by
  have hstart : Text.dropStart? keyringStart ("@keyring:" ++ text).toList = some text.toList := by
    rw [Text.dropStart?_eq_some_iff, String.toList_append]
    rfl
  cases hparts : keyringParts? text.toList with
  | none => simp only [ofText, hstart, hparts, Option.elim_none]
  | some place => simp only [ofText, hstart, hparts, Option.elim_some]

end SecretReference

namespace SecretPlace

/-- The reference to a place leads to it. -/
structure Referable (place : SecretPlace) : Prop where
  service : place.service ≠ ""
  key : place.key ≠ ""
  line : '\n' ∉ place.key.toList

/-- A text names a place if there is a slash in it; the first one divides it. -/
theorem parse_eq_ok {text : String} {place : SecretPlace} (h : parse text = .ok place) :
    Text.cutFirst? '/' text.toList = some (place.service.toList, place.key.toList) ∧
      place.reference = "@keyring:" ++ text := by
  unfold parse at h
  split at h
  · rename_i service key hcut
    cases h
    have htext : text = String.ofList service ++ "/" ++ String.ofList key := by
      rw [← String.toList_inj, Text.eq_append_of_cutFirst hcut]
      simp
    refine ⟨by rw [hcut, String.toList_ofList, String.toList_ofList], ?_⟩
    rw [reference, htext, ← String.append_assoc, ← String.append_assoc]
  · cases h

/-- **What a reference leads to.** -/
theorem ofText_reference {text : String} {place : SecretPlace} (h : parse text = .ok place) :
    place.Referable ∧
        SecretReference.ofText place.reference = .keyring place.service place.key ∨
      ¬ place.Referable ∧ (SecretReference.ofText place.reference = .malformed ∨
        ∃ key, place.key = key ++ "\n" ∧
          SecretReference.ofText place.reference = .keyring place.service key) := by
  obtain ⟨hcut, hreference⟩ := parse_eq_ok h
  rw [hreference, SecretReference.ofText_append, SecretReference.keyringParts?_of_cut hcut,
    SecretReference.withoutBreak]
  by_cases hbreak : place.key.toList.getLast? = some '\n'
  · -- the end of line at the end of the key does not count
    obtain ⟨key, hkey⟩ := List.getLast?_eq_some_iff.1 hbreak
    refine Or.inr ⟨fun hreferable ↦ hreferable.line (by rw [hkey]; simp), ?_⟩
    rw [if_pos hbreak, hkey, List.dropLast_concat]
    split_ifs
    · exact Or.inl rfl
    · refine Or.inr ⟨String.ofList key, ?_, by rw [Option.elim_some, String.ofList_toList]⟩
      rw [← String.toList_inj, hkey, String.toList_append, String.toList_ofList]
      rfl
  · rw [if_neg hbreak]
    split_ifs with hwrong
    · refine Or.inr ⟨fun hreferable ↦ ?_, Or.inl rfl⟩
      rcases hwrong with hservice | hkey | hline
      · exact hreferable.service (String.toList_eq_nil_iff.1 hservice)
      · exact hreferable.key (String.toList_eq_nil_iff.1 hkey)
      · exact hreferable.line hline
    · rw [not_or, not_or] at hwrong
      obtain ⟨hservice, hkey, hline⟩ := hwrong
      refine Or.inl ⟨⟨?_, ?_, hline⟩, by simp only [Option.elim_some, String.ofList_toList]⟩
      · exact fun hempty ↦ hservice (String.toList_eq_nil_iff.2 hempty)
      · exact fun hempty ↦ hkey (String.toList_eq_nil_iff.2 hempty)

end SecretPlace

namespace SecretResolver

theorem result_resolve_malformed (backends : List SecretBackend) (useCache : Bool) {text : String}
    (htext : SecretReference.ofText text = .malformed) :
    (resolve backends [] useCache text).result = .error (malformed text) := by
  cases useCache <;> simp only [resolve, resolveFresh, htext] <;> rfl

/-- **What a fresh resolver makes of a reference to a place in the keyring.** -/
theorem result_resolve_keyring {keyring : Keyring} (h : keyring.Works) (env : Environment)
    (useCache : Bool) {text service key : String}
    (htext : SecretReference.ofText text = .keyring service key) :
    (resolve (SecretBackend.usual env keyring) [] useCache text).result =
      match keyring.secret? service key with
      | some secret => .ok secret
      | none => .error (noSecret service key text) := by
  have hempty : (if useCache then Keyring.valueOf? text [] else none : Option String) = none := by
    cases useCache <;> rfl
  have hfind : (SecretBackend.usual env keyring).find? (·.name == SecretBackend.keyringName) =
      some (SecretBackend.ofKeyring keyring) := by
    rfl
  have havailable : (SecretBackend.ofKeyring keyring).available = true := h.available
  have hget : (SecretBackend.ofKeyring keyring).get service (some key) =
      .ok (keyring.secret? service key) := h.get service key
  rw [resolve, hempty]
  simp only [resolveFresh, htext, resolveVia, ask, hfind, havailable, hget]
  cases keyring.secret? service key <;> rfl

end SecretResolver

end TokenBroker
