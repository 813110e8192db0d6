import TokenBroker.CommandLine.Secrets
import TokenBroker.Proofs.Secret.Reference

/-!
# Secrets written at the terminal

A secret that has been set is kept in the place that its name names, and a secret that is deleted is
no longer there. Whether a configuration can refer to it is another question: the command prints a
reference for every place, but only the reference to a referable place leads back to the place. For
these the reference gives the secret as long as it is there, and nothing once it is deleted; for the
others it says what it said before the secret was set (`resolve_of_setSecret`). A place without a
service can be written to and never be referred to (`setSecret_without_service`).
-/

namespace TokenBroker.CommandLine

theorem exitCode_keyringReport (fault : Fault) : (keyringReport fault).exitCode = 1 := by
  cases fault <;> rfl

theorem exitCode_keyringReportWithHint (fault : Fault) :
    (keyringReportWithHint fault).exitCode = 1 := by
  unfold keyringReportWithHint
  dsimp only
  split
  · split <;> exact exitCode_keyringReport _
  · exact exitCode_keyringReport _

/-- A command that has set a secret has found a place in what it was given, and the keyring has
taken the secret. -/
theorem setSecret_done {reference value : String} {keyring keyring' : Keyring} {report : Report}
    (hset : setSecret reference value keyring = (report, keyring')) (hdone : report.exitCode = 0) :
    ∃ place, SecretPlace.parse reference = .ok place ∧
      keyring.set place.service place.key value = .ok keyring' ∧
      report = .lines [.ok "Secret stored successfully",
        .ok ("Reference it as: " ++ place.reference)] := by
  unfold setSecret at hset
  split at hset
  · rename_i fault _
    cases hset
    rw [exitCode_keyringReportWithHint] at hdone
    cases hdone
  rename_i place hplace
  split at hset
  · rename_i fault _
    cases hset
    rw [exitCode_keyringReportWithHint] at hdone
    cases hdone
  · rename_i keyring'' hkept
    cases hset
    exact ⟨place, hplace, hkept, rfl⟩

/-- A keyring that works is told to forget with success, and then has nothing in the place. -/
theorem deleteSecret_done {reference : String} {place : SecretPlace}
    (hplace : SecretPlace.parse reference = .ok place) {keyring : Keyring}
    (hworks : keyring.Works) :
    (deleteSecret reference keyring).1.exitCode = 0 ∧
      (deleteSecret reference keyring).2.Works ∧
      (deleteSecret reference keyring).2.secret? place.service place.key = none := by
  obtain ⟨found, keyring', hdelete, hworks', hnone⟩ :=
    hworks.exists_delete place.service place.key
  rw [deleteSecret, hplace]
  dsimp only
  rw [hdelete]
  exact ⟨rfl, hworks', hnone⟩

/-- **When a secret that was set can be referred to.** Let a command have set a secret in a keyring
that works. It has printed the reference to the place where the secret is. If the place is
referable, a fresh resolver gives the secret for the reference, and once the secret has been deleted
from a keyring that works, the resolver reports that there is no secret. If the place is not
referable, what a resolver makes of the reference does not depend on the secret: it is what it was
before. -/
theorem resolve_of_setSecret {reference value : String} {keyring keyring' : Keyring}
    {report : Report} (hworks : keyring.Works)
    (hset : setSecret reference value keyring = (report, keyring')) (hdone : report.exitCode = 0) :
    ∃ place, SecretPlace.parse reference = .ok place ∧
      report = .lines [.ok "Secret stored successfully",
        .ok ("Reference it as: " ++ place.reference)] ∧
      (place.Referable →
        (∀ (env : Environment) (useCache : Bool),
          (SecretResolver.resolve (SecretBackend.usual env keyring') [] useCache
            place.reference).result = .ok value) ∧
        ∀ now : Keyring, now.Works →
          (deleteSecret reference now).1.exitCode = 0 ∧
          ∀ (env : Environment) (useCache : Bool),
            (SecretResolver.resolve (SecretBackend.usual env (deleteSecret reference now).2) []
                useCache place.reference).result =
              .error (SecretResolver.noSecret place.service place.key place.reference)) ∧
      (¬ place.Referable → ∀ (env : Environment) (useCache : Bool),
        (SecretResolver.resolve (SecretBackend.usual env keyring') [] useCache
            place.reference).result =
          (SecretResolver.resolve (SecretBackend.usual env keyring) [] useCache
            place.reference).result) := by
  obtain ⟨place, hplace, hkept, hreport⟩ := setSecret_done hset hdone
  have hworks' : keyring'.Works := hworks.of_set hkept
  refine ⟨place, hplace, hreport, fun hreferable ↦ ?_, fun hreferable env useCache ↦ ?_⟩
  · obtain ⟨-, htext⟩ | ⟨hnot, -⟩ := SecretPlace.ofText_reference hplace
    swap
    · exact absurd hreferable hnot
    refine ⟨fun env useCache ↦ ?_, fun now hnow ↦ ?_⟩
    · rw [SecretResolver.result_resolve_keyring hworks' env useCache htext,
        Keyring.secret?_of_set hkept, if_pos ⟨rfl, rfl⟩]
    · obtain ⟨hexit, hlater, hnone⟩ := deleteSecret_done hplace hnow
      refine ⟨hexit, fun env useCache ↦ ?_⟩
      rw [SecretResolver.result_resolve_keyring hlater env useCache htext, hnone]
  · obtain ⟨hyes, -⟩ | ⟨-, hmalformed | ⟨key, hkey, htext⟩⟩ := SecretPlace.ofText_reference hplace
    · exact absurd hyes hreferable
    · rw [SecretResolver.result_resolve_malformed _ useCache hmalformed,
        SecretResolver.result_resolve_malformed _ useCache hmalformed]
    · -- the secret was set under another key than the one that the reference leads to
      have hne : place.key ≠ key := by
        intro heq
        have hlength := congrArg String.length (hkey.symm.trans heq)
        rw [String.length_append] at hlength
        exact absurd hlength (by simp)
      rw [SecretResolver.result_resolve_keyring hworks' env useCache htext,
        SecretResolver.result_resolve_keyring hworks env useCache htext,
        Keyring.secret?_of_set hkept, if_neg fun heq ↦ hne heq.2]

/-- A key with a slash in it, in an empty keyring: the secret is found, and after its deletion it is
not. -/
theorem resolve_of_setSecret_nested :
    let stored := setSecret "store/master/1" "v" {}
    stored.1.output = "Secret stored successfully\nReference it as: @keyring:store/master/1\n" ∧
      (SecretResolver.resolve (SecretBackend.usual [] stored.2) [] true
        "@keyring:store/master/1").result = .ok "v" ∧
      (SecretResolver.resolve
          (SecretBackend.usual [] (deleteSecret "store/master/1" stored.2).2) [] true
          "@keyring:store/master/1").result =
        .error (SecretResolver.noSecret "store" "master/1" "@keyring:store/master/1") := by
  intro stored
  have hset : setSecret "store/master/1" "v" {} = (stored.1, stored.2) := rfl
  have hworks : Keyring.Works {} := ⟨by decide, rfl, rfl⟩
  have hworks' : stored.2.Works := ⟨by decide, rfl, rfl⟩
  have hdone : stored.1.exitCode = 0 := by decide +kernel
  have hplace : SecretPlace.parse "store/master/1" = .ok ⟨"store", "master/1"⟩ := by
    decide +kernel
  obtain ⟨place, hparse, hreport, hfound, -⟩ := resolve_of_setSecret hworks hset hdone
  obtain rfl : place = ⟨"store", "master/1"⟩ := Except.ok.inj (hparse.symm.trans hplace)
  obtain ⟨hresolved, hdeleted⟩ := hfound ⟨by decide, by decide, by decide⟩
  refine ⟨?_, hresolved [] true, (hdeleted stored.2 hworks').2 [] true⟩
  rw [hreport]
  decide +kernel

/-- **A secret may be set where no reference leads.** Without a service the command stores the
secret and prints a reference, which the resolver calls malformed, before and after a deletion. -/
theorem setSecret_without_service :
    let stored := setSecret "/key" "v" {}
    stored.1 = .lines [.ok "Secret stored successfully", .ok "Reference it as: @keyring:/key"] ∧
      stored.1.exitCode = 0 ∧ stored.2.secret? "" "key" = some "v" ∧
      (SecretResolver.resolve (SecretBackend.usual [] stored.2) [] true "@keyring:/key").result =
        .error (SecretResolver.malformed "@keyring:/key") ∧
      (SecretResolver.resolve (SecretBackend.usual [] (deleteSecret "/key" stored.2).2) [] true
        "@keyring:/key").result = .error (SecretResolver.malformed "@keyring:/key") := by
  decide +kernel

end TokenBroker.CommandLine
