import TokenBroker.Proofs.Except
import TokenBroker.Secret.Keyring

/-!
# The keyring as a map

A keyring that does what it is asked (`Keyring.Works`) is a map from service and key to value:
what was kept under a service and a key is found there, and nowhere else (`Keyring.entry?_insert`),
until it is forgotten (`Keyring.entry?_erase`). What the broker keeps, reads and forgets is said in
these terms by `Keyring.set_eq_ok_iff`, `Keyring.Works.get` and `Keyring.Works.exists_delete`.
-/

namespace TokenBroker.Keyring

/-! ### Values by key -/

section

variable {α : Type}

theorem valueOf?_withValue (key other : String) (value : α) (pairs : List (String × α)) :
    valueOf? other (withValue key value pairs) =
      if key = other then some value else valueOf? other pairs := by
  induction pairs with
  | nil => rfl
  | cons pair rest ih =>
    obtain ⟨first, old⟩ := pair
    rw [withValue]
    split
    · rename_i hfirst
      subst hfirst
      rw [valueOf?, valueOf?]
      split <;> rfl
    · rename_i hfirst
      rw [valueOf?, valueOf?, ih]
      split
      · rename_i hother
        rw [if_neg fun heq ↦ hfirst (hother.trans heq.symm)]
      · rfl

theorem valueOf?_filter_ne (key other : String) (pairs : List (String × α)) :
    valueOf? other (pairs.filter (·.1 != key)) =
      if key = other then none else valueOf? other pairs := by
  induction pairs with
  | nil => exact (ite_self _).symm
  | cons pair rest ih =>
    obtain ⟨first, old⟩ := pair
    rw [List.filter_cons]
    split
    · rename_i hfirst
      rw [bne_iff_ne] at hfirst
      rw [valueOf?, valueOf?, ih]
      split
      · rename_i hother
        rw [if_neg fun heq ↦ hfirst (hother.trans heq.symm)]
      · rfl
    · rename_i hfirst
      obtain rfl : first = key := by simpa using hfirst
      rw [ih, valueOf?]
      by_cases hother : first = other
      · rw [if_pos hother, if_pos hother]
      · rw [if_neg hother, if_neg hother, if_neg hother]

end

/-! ### Entries -/

theorem serviceEntries_withService (keyring : Keyring) (service other : String)
    (entries : List (String × String)) :
    (keyring.withService service entries).serviceEntries other =
      if service = other then entries else keyring.serviceEntries other := by
  rw [serviceEntries, withService, valueOf?_withValue]
  split <;> rfl

/-- **What is kept is found in its place, and nothing else changes.** -/
theorem entry?_insert (keyring : Keyring) (service service' key key' value : String) :
    Keyring.entry? (keyring.insert service key value) service' key' =
      if service = service' ∧ key = key' then some value else keyring.entry? service' key' := by
  rw [Keyring.entry?, insert, serviceEntries_withService]
  by_cases hservice : service = service'
  · rw [if_pos hservice, valueOf?_withValue]
    simp only [hservice, true_and]
    rfl
  · simp only [hservice, if_false, false_and]
    rfl

/-- **What is forgotten is not found, and nothing else changes.** -/
theorem entry?_erase (keyring : Keyring) (service service' key key' : String) :
    Keyring.entry? (keyring.erase service key) service' key' =
      if service = service' ∧ key = key' then none else keyring.entry? service' key' := by
  rw [Keyring.entry?, erase, serviceEntries_withService]
  by_cases hservice : service = service'
  · rw [if_pos hservice, valueOf?_filter_ne]
    simp only [hservice, true_and]
    rfl
  · simp only [hservice, if_false, false_and]
    rfl

/-! ### Use by the broker -/

/-- The keyring can be used, and it finds and forgets what it is asked to. -/
structure Works (keyring : Keyring) : Prop where
  available : keyring.available = true
  get? : keyring.failures.get? = none
  delete? : keyring.failures.delete? = none

/-- The entry that the broker has for a service and a key. -/
def secret? (keyring : Keyring) (service key : String) : Option String :=
  keyring.entry? (fullService service) key

theorem fullService_inj {service service' : String} :
    fullService service = fullService service' ↔ service = service' :=
  String.append_right_inj _

theorem checkAvailable_eq_ok_iff {keyring : Keyring} :
    keyring.checkAvailable = .ok () ↔ keyring.available = true := by
  simp [checkAvailable]

/-- A secret is kept if it is not empty and the keyring takes it. -/
theorem set_eq_ok_iff {keyring keyring' : Keyring} {service key value : String} :
    keyring.set service key value = .ok keyring' ↔
      keyring.available = true ∧ value ≠ "" ∧ keyring.failures.set? = none ∧
        keyring' = keyring.insert (fullService service) key value := by
  cases havailable : keyring.available with
  | false =>
    refine iff_of_false ?_ (by simp)
    rw [set, checkAvailable, havailable]
    rintro ⟨⟩
  | true =>
    simp only [set, checkAvailable_eq_ok_iff.2 havailable, bind, Except.bind, true_and]
    by_cases hvalue : value = ""
    · subst hvalue
      exact iff_of_false (by rintro ⟨⟩) (by simp)
    · have hempty : value.isEmpty = false := by simpa using hvalue
      rw [hempty, and_iff_right hvalue]
      cases keyring.failures.set? with
      | some failure => exact iff_of_false (by rintro ⟨⟩) (by simp)
      | none => exact ⟨fun h ↦ ⟨rfl, (Except.ok.inj h).symm⟩, fun h ↦ congrArg Except.ok h.2.symm⟩

namespace Works

variable {keyring : Keyring}

/-- A keyring that works finds what it has. -/
theorem get (h : keyring.Works) (service key : String) :
    keyring.get service (some key) = .ok (keyring.secret? service key) := by
  rw [Keyring.get, checkAvailable_eq_ok_iff.2 h.available, h.get?]
  rfl

/-- A keyring that works forgets what it is asked to, and works on. -/
theorem exists_delete (h : keyring.Works) (service key : String) :
    ∃ found keyring', keyring.delete service key = .ok (found, keyring') ∧ keyring'.Works ∧
      keyring'.secret? service key = none := by
  rw [Keyring.delete, checkAvailable_eq_ok_iff.2 h.available, h.delete?]
  by_cases hfound : (keyring.entry? (fullService service) key).isSome = true
  · refine ⟨true, keyring.erase (fullService service) key, ?_, ⟨h.available, h.get?, h.delete?⟩, ?_⟩
    · show (if _ then _ else _) = _
      rw [if_pos hfound]
      rfl
    · rw [secret?, entry?_erase, if_pos ⟨rfl, rfl⟩]
  · refine ⟨false, keyring, ?_, h, by simpa [secret?] using hfound⟩
    show (if _ then _ else _) = _
    rw [if_neg hfound]
    rfl

/-- A keyring that works goes on working when a secret is kept. -/
theorem of_set (h : keyring.Works) {keyring' : Keyring} {service key value : String}
    (hset : keyring.set service key value = .ok keyring') : keyring'.Works := by
  obtain ⟨-, -, -, rfl⟩ := set_eq_ok_iff.1 hset
  exact ⟨h.available, h.get?, h.delete?⟩

end Works

/-- What the broker finds after it has kept a secret. -/
theorem secret?_of_set {keyring keyring' : Keyring} {service key value : String}
    (h : keyring.set service key value = .ok keyring') (service' key' : String) :
    keyring'.secret? service' key' =
      if service = service' ∧ key = key' then some value else keyring.secret? service' key' := by
  obtain ⟨-, -, -, rfl⟩ := set_eq_ok_iff.1 h
  rw [secret?, entry?_insert]
  simp only [fullService_inj]
  rfl

end TokenBroker.Keyring
