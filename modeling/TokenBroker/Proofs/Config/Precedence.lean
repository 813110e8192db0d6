import TokenBroker.Config.File
import TokenBroker.Proofs.Config.Variables
import TokenBroker.Proofs.Yaml.Keys

/-!
# The file before the environment

Where a configuration file and the environment both say something, the file counts. This is decided
leaf by leaf (`load_file_before_environment`): what the file says about a leaf is what the settings
have, whatever the variables say; a variable counts where the file is silent, and the default where
both are.

A file is read with each key once (`tidy_of_entries`), and is laid over what the variables say as a
map over a map.
-/

namespace TokenBroker

open ConfigValue

/-! ### Files -/

namespace Settings

theorem tidy_withName {entries : ConfigEntries} (h : Tidy (.map entries)) (name : String) :
    Tidy (.map (withName entries name)) := by
  rw [withName]
  split
  · exact h
  rename_i habsent
  split
  · rename_i found _ _
    have hfree : find? name entries = none := Option.not_isSome_iff_eq_none.1 habsent
    have hname : ∀ entry ∈ entries, Json.same entry.1 (.str name) = false := fun entry hentry ↦
      Bool.eq_false_iff.2 fun hsame ↦
        find?_eq_none_iff.1 hfree entry hentry (Json.same_str_right_iff.1 hsame)
    refine .map ?_ fun entry hentry ↦ ?_
    · rw [Keyed, List.map_map, List.pairwise_map]
      refine (List.pairwise_map.1 h.keyed).imp_of_mem fun {a b} ha hb hab ↦ ?_
      dsimp only [Function.comp_apply]
      split
      · rename_i hkey
        split
        · rename_i hkey'
          rw [hkey, hkey', Json.same_self] at hab
          cases hab
        · exact Bool.eq_false_iff.2 fun hsame ↦
            Bool.eq_false_iff.1 (hname b hb) (Json.same_symm hsame)
      · split
        · exact hname a ha
        · exact hab
    · obtain ⟨old, hold, rfl⟩ := List.mem_map.1 hentry
      have hvalue := h.values old hold
      split
      · exact hvalue
      · exact hvalue
  · exact h

theorem tidy_withTopNames {entries : ConfigEntries} (h : Tidy (.map entries)) :
    Tidy (.map (withTopNames entries)) :=
  List.foldlRecOn topNames withName (motive := fun entries ↦ Tidy (.map entries)) h
    fun _ hentries name _ ↦ tidy_withName hentries name

end Settings

namespace ConfigFile

/-- **What a file says is said once**, in it and in each of its sections. -/
theorem tidy_of_entries {env : Environment} {path text : String} {given : ConfigEntries}
    (h : entries env path text = .ok given) : Tidy (.map given) := by
  rw [entries, Except.bind_eq_ok_iff] at h
  obtain ⟨interpolated, -, h⟩ := h
  split at h
  · cases h
  rename_i value hvalue
  have htidy := Yaml.tidy_of_parse? hvalue
  unfold entriesOf at h
  split at h
  · cases h
    exact .map keyed_nil fun _ hmem ↦ absurd hmem List.not_mem_nil
  split at h
  · split at h
    · cases h
      exact htidy
    · cases h
  · cases h

theorem load_eq_ok {env : Environment} {keyring : Keyring} {tree : FileTree} {path : String}
    {settings : Settings} (h : load env keyring tree path = .ok settings) :
    ∃ content given fromEnv, text tree path = .ok content ∧
      entries env path content = .ok given ∧ Variables.entries env = .ok fromEnv ∧
      Settings.read (Settings.usualSecrets env keyring)
        (overEntries fromEnv (Settings.withTopNames given)) = .valid settings := by
  rw [load, Except.bind_eq_ok_iff] at h
  obtain ⟨content, hcontent, h⟩ := h
  rw [Except.bind_eq_ok_iff] at h
  obtain ⟨given, hgiven, h⟩ := h
  have hload := Except.of_mapError_eq_ok h
  rw [Settings.load, Except.bind_eq_ok_iff] at hload
  obtain ⟨fromEnv, hfromEnv, hread⟩ := hload
  exact ⟨content, given, fromEnv, hcontent, hgiven, Except.of_mapError_eq_ok hfromEnv,
    Checked.toExcept_eq_ok_iff.1 (Except.of_mapError_eq_ok hread)⟩

end ConfigFile

/-! ### Leaves -/

namespace Leaf

/-- **What is said about a leaf is laid over what is said below it.** -/
theorem at?_overEntries {leaf : Leaf} {below above : ConfigEntries} {settings : Settings}
    (htidy : Tidy (.map above)) (hread : leaf.ReadFrom (overEntries below above) settings) :
    leaf.at? (overEntries below above) = over? (leaf.at? below) (leaf.at? above) := by
  obtain ⟨-, hmaps⟩ := hread
  rw [at?, at?, at?]
  cases harea : leaf.area? with
  | none => exact find?_overEntries htidy.keyed leaf.name below
  | some area =>
    refine ConfigValue.at?_overEntries htidy (fun value hvalue ↦ ?_) below
    -- a section that is no map would have taken the place of whatever is below it
    cases hmap : value.isMap with
    | true => rfl
    | false =>
      have hmerged := find?_overEntries htidy.keyed area below
      rw [hvalue, over?_of_isMap_eq_false hmap] at hmerged
      exact hmap.symm.trans (hmaps area harea value hmerged)

/-- Only for the principals a variable can say a map. -/
theorem eq_principals_of_valueIn? {leaf : Leaf} {text : String} {value : ConfigValue}
    (h : leaf.valueIn? text = some value) (hmap : value.isMap = true) :
    leaf.area? = some Settings.serviceName ∧ leaf.name = Variables.principalsName := by
  rw [valueIn?] at h
  split at h
  · rename_i area harea
    rw [Variables.valueAt?] at h
    split at h
    · rename_i hprincipals
      simp only [Bool.and_eq_true, decide_eq_true_eq] at hprincipals
      obtain ⟨⟨rfl, hname⟩, -⟩ := hprincipals
      exact ⟨harea, List.head_eq_of_cons_eq hname⟩
    · cases h
      cases hmap
  · cases h
    cases hmap

/-- Principals are not read from a map. -/
theorem read_principals_map {resolve : SecretSource} : ∀ leaf ∈ all resolve,
    leaf.area? = some Settings.serviceName → leaf.name = Variables.principalsName →
      ∀ below a, leaf.read (.map below) ≠ .valid a := by
  simp [all, gitlab, store, service, logLevel, Settings.gitlabName, Settings.storeName,
    Settings.serviceName, Variables.principalsName, ServiceSettings.readPrincipals, readList,
    Checked.issue, Checked.andThen]

end Leaf

/-- **The file counts more than the environment, leaf by leaf.** Let settings have been loaded from
a file. Then for each of the values that they consist of,

* if the file says something about it, other than a map, the settings have what the file says,
  whatever variables are set;
* if the file says nothing about it, the settings have what the environment says, or else the
  default. Unless a variable gives the section as a whole, what the environment says is what the
  variable of the leaf says, and nothing if neither this nor a variable that leads below the leaf is
  set. -/
theorem load_file_before_environment {env : Environment} {keyring : Keyring} {tree : FileTree}
    {path : String} {settings : Settings}
    (h : ConfigFile.load env keyring tree path = .ok settings) :
    ∃ content given fromEnv, ConfigFile.text tree path = .ok content ∧
      ConfigFile.entries env path content = .ok given ∧
      Variables.entries env = .ok fromEnv ∧
      ∀ leaf ∈ Leaf.all (Settings.usualSecrets env keyring),
        let inFile? := leaf.at? (Settings.withTopNames given)
        (∀ value, inFile? = some value → value.isMap = false →
          leaf.read value = .valid (leaf.get settings)) ∧
        (inFile? = none → leaf.Reads (leaf.at? fromEnv) settings ∧
          (leaf.SectionUnset env →
            (∀ text, Keyring.valueOf? leaf.variableName (Variables.lowerNames env) = some text →
              ∃ value, leaf.valueIn? text = some value ∧
                leaf.read value = .valid (leaf.get settings)) ∧
            (leaf.Unset env → leaf.get settings = leaf.default))) := by
  obtain ⟨content, given, fromEnv, hcontent, hgiven, hfromEnv, hread⟩ := ConfigFile.load_eq_ok h
  refine ⟨content, given, fromEnv, hcontent, hgiven, hfromEnv, fun leaf hleaf ↦ ?_⟩
  have htidy := Settings.tidy_withTopNames (ConfigFile.tidy_of_entries hgiven)
  have hfrom := Leaf.readFrom_of_read hread leaf hleaf
  have hreads := hfrom.1
  rw [Leaf.at?_overEntries htidy hfrom] at hreads
  refine ⟨fun value hvalue hmap ↦ ?_, fun habsent ↦ ?_⟩
  · rw [hvalue, over?_of_isMap_eq_false hmap] at hreads
    exact hreads
  · rw [habsent, over?_none] at hreads
    refine ⟨hreads, fun hsection ↦ ⟨fun text hset ↦ ?_, fun hunset ↦ ?_⟩⟩
    · obtain ⟨value, hvalue, found, hfound, hstays⟩ :=
        Leaf.exists_at?_of_set hfromEnv hleaf hsection hset
      rw [hfound] at hreads
      refine ⟨value, hvalue, ?_⟩
      rcases hstays with rfl | ⟨hmap, hmap'⟩
      · exact hreads
      · obtain ⟨harea, hname⟩ := Leaf.eq_principals_of_valueIn? hvalue hmap
        cases found with
        | map below => exact absurd hreads (Leaf.read_principals_map leaf hleaf harea hname below _)
        | _ => cases hmap'
    · rw [Leaf.at?_of_unset hfromEnv hleaf hsection hunset] at hreads
      exact hreads

/-- A file with the name of tokens, in an environment with this name and a port. -/
theorem load_file_before_environment_port :
    let env : Environment :=
      [("TOKEN_EXCHANGE_GITLAB__TOKEN_NAME", "env"), ("TOKEN_EXCHANGE_SERVER__PORT", "9")]
    let tree := FileTree.put {} ⟨.working, ["config.yaml"]⟩
      (.file "gitlab:\n  token_name: file\n".toUTF8 FileTree.usualMode)
    ∃ settings, ConfigFile.load env {} tree "config.yaml" = .ok settings ∧
      settings.gitlab.tokenName = "file" ∧ settings.service.port = 9 ∧
      settings.service.host = "127.0.0.1" := by
  intro env tree
  have hloads : (ConfigFile.load env {} tree "config.yaml").toBool = true := by decide +kernel
  cases hload : ConfigFile.load env {} tree "config.yaml" with
  | error error => rw [hload] at hloads; cases hloads
  | ok settings =>
    obtain ⟨content, given, _, hcontent, hgiven, -, hleaves⟩ := load_file_before_environment hload
    have htext : ConfigFile.text tree "config.yaml" = .ok "gitlab:\n  token_name: file\n" := by
      decide +kernel
    rw [htext] at hcontent
    cases hcontent
    have hfile : (ConfigFile.entries env "config.yaml" "gitlab:\n  token_name: file\n").map
        (fun given ↦
          ((at? "gitlab" "token_name" (Settings.withTopNames given)).map fun value ↦
            (value.isMap, readText 1 value),
          (find? "server" (Settings.withTopNames given)).isNone)) =
        .ok (some (false, .valid "file"), true) := by
      decide +kernel
    rw [hgiven] at hfile
    obtain ⟨hsaid, hsilent⟩ := Prod.ext_iff.1 (Except.ok.inj hfile)
    obtain ⟨value, hvalue, hread⟩ := Option.map_eq_some_iff.1 hsaid
    obtain ⟨hmap, hread⟩ := Prod.ext_iff.1 hread
    have hserver (name : String) : at? "server" name (Settings.withTopNames given) = none :=
      at?_of_find?_eq_none (Option.isNone_iff_eq_none.1 hsilent)
    have hunset : Keyring.valueOf? "token_exchange_server" (Variables.lowerNames env) = none := by
      decide +kernel
    refine ⟨settings, rfl, ?_, ?_, ?_⟩
    · have hname := hleaves ⟨some Settings.gitlabName, "token_name", "mytoken", readText 1,
        (·.gitlab.tokenName)⟩ (by simp [Leaf.all, Leaf.gitlab])
      exact Checked.valid.inj ((hname.1 value hvalue hmap).symm.trans hread)
    · have hport := hleaves ⟨some Settings.serviceName, "port", 8080, readIntegerIn 1 65535,
        (·.service.port)⟩ (by simp [Leaf.all, Leaf.service])
      obtain ⟨value, hvalue, hread⟩ := ((hport.2 (hserver "port")).2
        fun area harea ↦ by cases harea; exact hunset).1 "9" (by decide +kernel)
      cases hvalue
      exact Checked.valid.inj (hread.symm.trans (by decide +kernel))
    · have hhost := hleaves ⟨some Settings.serviceName, "host", "127.0.0.1", readText 0,
        (·.service.host)⟩ (by simp [Leaf.all, Leaf.service])
      refine ((hhost.2 (hserver "host")).2 fun area harea ↦ by cases harea; exact hunset).2 ?_
      unfold Leaf.Unset
      decide +kernel

/-- A variable that could be read, and counts where there is no file, does not count where the file
says something else. -/
theorem load_file_over_variable :
    let env : Environment := [("TOKEN_EXCHANGE_GITLAB__TOKEN_NAME", "env")]
    let tree := FileTree.put {} ⟨.working, ["config.yaml"]⟩
      (.file "gitlab:\n  token_name: file\n".toUTF8 FileTree.usualMode)
    (Settings.load env {} []).map (·.gitlab.tokenName) = .ok "env" ∧
      (ConfigFile.load env {} tree "config.yaml").map (·.gitlab.tokenName) = .ok "file" := by
  decide +kernel

end TokenBroker
