import Mathlib.Data.List.Nodup
import TokenBroker.Proofs.ServerUrl.Blank
import TokenBroker.Proofs.Text.Split
import TokenBroker.Service.Basic

/-!
# Who a client is

A client is the first principal whose key is the one that it presents, and anonymous if there is
none. Blanks around a presented key are dropped, those around the key of a principal are not; and
the names of principals are checked, their keys are not. So the key of a principal leads to it
exactly if it has no blanks at its ends and no principal before it has the same one, and an empty
key is presented by everybody who presents no more than blanks (`Service.client_identifies`).

Whoever is found is found by its name: principals have names of their own
(`Principal.nodup_of_checkNames`), so two of them never act as one identity.
-/

namespace TokenBroker

/-! ### Principals -/

namespace Principal

theorem mem_repeatedNames_iff {principals : List Principal} {name : String} :
    name ∈ repeatedNames principals ↔ 1 < (principals.map (·.name)).count name := by
  rw [repeatedNames, List.mem_mergeSort, List.mem_eraseDups, List.mem_filter, decide_eq_true_iff]
  exact and_iff_right_of_imp fun h ↦ List.count_pos_iff.1 (Nat.lt_of_succ_lt h)

/-- Principals that are accepted have names of their own. -/
theorem nodup_of_checkNames {principals accepted : List Principal}
    (h : checkNames principals = .valid accepted) :
    accepted = principals ∧ (principals.map (·.name)).Nodup := by
  rw [checkNames] at h
  split at h
  · cases h
  split at h
  · cases h
  rename_i hrepeated _
  cases h
  refine ⟨rfl, List.nodup_iff_count_le_one.2 fun name ↦ not_lt.1 fun hcount ↦ ?_⟩
  have hnone : repeatedNames principals = [] := by simpa using hrepeated
  have hmem := mem_repeatedNames_iff.2 hcount
  rw [hnone] at hmem
  cases hmem

@[simp] theorem identity_name (principal : Principal) :
    principal.identity.name = principal.name := by
  rw [identity]
  split <;> rfl

theorem identity_has_administer_iff (principal : Principal) :
    principal.identity.has .administer = true ↔ principal.administrator = true := by
  rw [identity]
  split
  · rename_i hadministrator
    simp [hadministrator]
  · rename_i hadministrator
    rw [iff_false_right hadministrator]
    exact Bool.false_ne_true

/-- Even a principal that is called anonymous may do more than the anonymous. -/
theorem identity_ne_anonymous (principal : Principal) : principal.identity ≠ .anonymous := by
  intro h
  have hread : principal.identity.has .read = true := by
    rw [identity]
    split <;> rfl
  rw [h] at hread
  cases hread

end Principal

theorem ServiceSettings.nodup_of_readPrincipals {resolve : ConfigValue.SecretSource}
    {value : ConfigValue} {principals : List Principal}
    (h : readPrincipals resolve value = .valid principals) :
    (principals.map (·.name)).Nodup := by
  rw [readPrincipals] at h
  cases hread : ConfigValue.readList (ConfigValue.readSection (Principal.read resolve)) value with
  | valid found =>
    rw [hread] at h
    obtain ⟨rfl, hnodup⟩ := Principal.nodup_of_checkNames h
    exact hnodup
  | invalid issues =>
    rw [hread] at h
    cases h

namespace Service

/-! ### The presented key -/

theorem presentedKey?_eq_some_iff {authorization? : Option String} {key : String} :
    presentedKey? authorization? = some key ↔
      ∃ rest, authorization? = some ("Bearer " ++ rest) ∧ key = stripped rest := by
  cases authorization? with
  | none => simp [presentedKey?]
  | some header =>
    rw [presentedKey?, Option.map_eq_some_iff]
    constructor
    · rintro ⟨rest, hrest, rfl⟩
      have hheader : header = "Bearer " ++ String.ofList rest := by
        refine String.toList_inj.1 ?_
        rw [String.toList_append, @String.toList_ofList rest]
        exact Text.dropStart?_eq_some_iff.1 hrest
      exact ⟨String.ofList rest, congrArg some hheader, by rw [stripped, String.toList_ofList]⟩
    · rintro ⟨rest, heq, rfl⟩
      obtain rfl := Option.some.inj heq
      exact ⟨rest.toList, Text.dropStart?_eq_some_iff.2 (String.toList_append ..), rfl⟩

/-! ### The principal with the key -/

/-- A client that is not anonymous is the first principal with the key that it presents. -/
theorem client_bearer (principals : List Principal) (rest : String) :
    client principals (some ("Bearer " ++ rest)) =
      ((principals.find? (·.apiKey == stripped rest)).map Principal.identity).getD .anonymous := by
  have hkey : presentedKey? (some ("Bearer " ++ rest)) = some (stripped rest) :=
    presentedKey?_eq_some_iff.2 ⟨rest, rfl, rfl⟩
  rw [client, hkey]
  cases hfind : principals.find? (·.apiKey == stripped rest) with
  | none => simp only [hfind, Option.map_none, Option.getD_none]
  | some principal => simp only [hfind, Option.map_some, Option.getD_some]

/-- **Who is anonymous**: whoever presents no key, or one that no principal has. -/
theorem client_eq_anonymous_iff {principals : List Principal} {authorization? : Option String} :
    client principals authorization? = .anonymous ↔
      ∀ rest, authorization? = some ("Bearer " ++ rest) →
        ∀ principal ∈ principals, principal.apiKey ≠ stripped rest := by
  cases hkey : presentedKey? authorization? with
  | none =>
    refine iff_of_true (by rw [client, hkey]) fun rest heq ↦ ?_
    rw [presentedKey?_eq_some_iff.2 ⟨rest, heq, rfl⟩] at hkey
    cases hkey
  | some key =>
    obtain ⟨rest, rfl, rfl⟩ := presentedKey?_eq_some_iff.1 hkey
    rw [client_bearer]
    constructor
    · intro h other heq principal hprincipal hsame
      obtain rfl : rest = other := String.append_right_inj _ |>.1 (Option.some.inj heq)
      obtain ⟨found, hfound⟩ := Option.isSome_iff_exists.1
        (List.find?_isSome (p := (·.apiKey == stripped rest)).2
          ⟨principal, hprincipal, beq_iff_eq.2 hsame⟩)
      rw [hfound] at h
      exact found.identity_ne_anonymous h
    · intro h
      have hnone : principals.find? (·.apiKey == stripped rest) = none :=
        List.find?_eq_none.2 fun principal hprincipal hsame ↦
          h rest rfl principal hprincipal (beq_iff_eq.1 hsame)
      rw [hnone]
      rfl

/-- The key of a principal leads to it if it has no blanks at its ends and comes first, and only
then, as names are not shared. -/
theorem client_eq_identity_iff {principals : List Principal}
    (hnames : (principals.map (·.name)).Nodup) {principal : Principal}
    (hprincipal : principal ∈ principals) :
    client principals (some ("Bearer " ++ principal.apiKey)) = principal.identity ↔
      stripped principal.apiKey = principal.apiKey ∧
        principals.find? (·.apiKey == principal.apiKey) = some principal := by
  rw [client_bearer]
  constructor
  · intro h
    cases hfind : principals.find? (·.apiKey == stripped principal.apiKey) with
    | none =>
      rw [hfind] at h
      exact absurd h.symm principal.identity_ne_anonymous
    | some found =>
      rw [hfind] at h
      have hname : found.name = principal.name := by
        rw [← found.identity_name, ← principal.identity_name]
        exact congrArg Authentication.name h
      obtain rfl : found = principal :=
        List.inj_on_of_nodup_map hnames (List.mem_of_find?_eq_some hfind) hprincipal hname
      have hkey : found.apiKey = stripped found.apiKey := by simpa using List.find?_some hfind
      rw [← hkey] at hfind
      exact ⟨hkey.symm, hfind⟩
  · rintro ⟨hkey, hfind⟩
    rw [hkey, hfind]
    rfl

/-- **What a client is taken for.** Of principals that the settings accept, each one acts under its
own name, and may administer if and only if the settings say so. Then

* a client with the key of a principal is that principal if and only if the key has no blanks at
  its ends and no principal before this one has it too;
* a client is anonymous if and only if no principal has the key that it presents, if it presents
  any, without the blanks around it;
* in particular a client that presents nothing but blanks is anonymous where no key is empty. -/
theorem client_identifies {resolve : ConfigValue.SecretSource} {value : ConfigValue}
    {principals : List Principal}
    (h : ServiceSettings.readPrincipals resolve value = .valid principals) :
    (∀ principal ∈ principals,
      principal.identity.name = principal.name ∧
      (principal.identity.has .administer = true ↔ principal.administrator = true) ∧
      (client principals (some ("Bearer " ++ principal.apiKey)) = principal.identity ↔
        stripped principal.apiKey = principal.apiKey ∧
          principals.find? (·.apiKey == principal.apiKey) = some principal)) ∧
    (∀ authorization? : Option String,
      client principals authorization? = .anonymous ↔
        ∀ rest, authorization? = some ("Bearer " ++ rest) →
          ∀ principal ∈ principals, principal.apiKey ≠ stripped rest) ∧
    ∀ authorization? : Option String,
      (∀ rest, authorization? = some ("Bearer " ++ rest) → blank rest = true) →
      (∀ principal ∈ principals, principal.apiKey ≠ "") →
        client principals authorization? = .anonymous := by
  have hnames := ServiceSettings.nodup_of_readPrincipals h
  refine ⟨fun principal hprincipal ↦ ⟨principal.identity_name,
    principal.identity_has_administer_iff, client_eq_identity_iff hnames hprincipal⟩,
    fun _ ↦ client_eq_anonymous_iff, fun authorization? hblank hkeys ↦ ?_⟩
  refine client_eq_anonymous_iff.2 fun rest heq principal hprincipal ↦ ?_
  have hstripped : stripped rest = "" := by
    rw [stripped, Text.strip_eq_nil_of_isAllBlank (hblank rest heq)]
  rw [hstripped]
  exact hkeys principal hprincipal

/-- Two principals with keys of their own, one kept in the environment. -/
theorem client_identifies_two :
    let resolve : ConfigValue.SecretSource := fun text ↦
      (SecretResolver.resolve (SecretBackend.usual [("ROOT_KEY", "r")] { priority := .ofInt 0 }) []
        true text).result
    let value : ConfigValue := .list [
      .map [(.str "name", .text "root"), (.str "api_key", .text "$\x7bROOT_KEY\x7d"),
        (.str "administrator", .bool true)],
      .map [(.str "name", .text "jo"), (.str "api_key", .text "j")]]
    let principals : List Principal := [⟨"root", "r", true⟩, ⟨"jo", "j", false⟩]
    ServiceSettings.readPrincipals resolve value = .valid principals ∧
      client principals (some "Bearer r") = .administrator "root" ∧
      client principals (some "Bearer   j ") = .user "jo" ∧
      client principals (some "Bearer \t") = .anonymous := by
  intro resolve value principals
  have hread : ServiceSettings.readPrincipals resolve value = .valid principals := by
    decide +kernel
  obtain ⟨hkeys, -, hblank⟩ := client_identifies hread
  refine ⟨hread, ?_, by decide +kernel, ?_⟩
  · exact (hkeys ⟨"root", "r", true⟩ List.mem_cons_self).2.2.2 ⟨by decide +kernel, by decide⟩
  · refine hblank (some "Bearer \t") (fun rest heq ↦ ?_) (by decide)
    obtain rfl : "\t" = rest := String.append_right_inj "Bearer " |>.1 (Option.some.inj heq)
    decide

/-- A key with a blank in front leads nowhere, a shared key leads to the first principal that has
it, and an empty key is presented by whoever presents none. -/
theorem client_of_loose_keys :
    let value : ConfigValue := .list ([("root", " k"), ("jo", "j"), ("bo", "j"), ("ed", "")].map
      fun (name, key) ↦ .map [(.str "name", .text name), (.str "api_key", .text key)])
    ∃ principals, ServiceSettings.readPrincipals .ok value = .valid principals ∧
      principals.map (·.name) = ["root", "jo", "bo", "ed"] ∧
      client principals (some "Bearer  k") = .anonymous ∧
      client principals (some "Bearer j") = .user "jo" ∧
      client principals (some "Bearer ") = .user "ed" :=
  ⟨[⟨"root", " k", false⟩, ⟨"jo", "j", false⟩, ⟨"bo", "j", false⟩, ⟨"ed", "", false⟩],
    by decide +kernel⟩

end Service

end TokenBroker
