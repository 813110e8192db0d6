import TokenBroker.Config.Settings
import TokenBroker.Proofs.Config.Values

/-!
# Settings leaf by leaf

Settings consist of twelve values, each with a name, most of them within sections. A `Leaf` is one
of them: where it stands, what it is read as, and what it is if nothing stands there. Whatever is
wrong in one place is an issue of the whole, so settings that could be read have been read leaf by
leaf (`Leaf.readFrom_of_read`).
-/

namespace TokenBroker

namespace Checked

variable {α β : Type}

theorem seq_eq_valid_iff {f : Checked (α → β)} {x : Checked α} {b : β} :
    f <*> x = .valid b ↔ ∃ g a, f = .valid g ∧ x = .valid a ∧ g a = b := by
  cases f <;> cases x <;> simp [Seq.seq]

theorem map_eq_valid_iff {f : α → β} {x : Checked α} {b : β} :
    f <$> x = .valid b ↔ ∃ a, x = .valid a ∧ f a = b := by
  show Checked.valid f <*> x = _ ↔ _
  rw [seq_eq_valid_iff]
  simp

theorem below_eq_valid_iff {step : Step} {x : Checked α} {a : α} :
    x.below step = .valid a ↔ x = .valid a := by
  cases x <;> simp [below]

theorem toExcept_eq_ok_iff {x : Checked α} {a : α} : x.toExcept = .ok a ↔ x = .valid a := by
  cases x <;> simp [toExcept]

end Checked

open ConfigValue

/-- What a place comes to: the value there as it is read, or the default if there is none. -/
def ReadsAs {α : Type} (read : ConfigValue → Checked α) (default : α) (value? : Option ConfigValue)
    (a : α) : Prop :=
  match value? with
  | some value => read value = .valid a
  | none => a = default

theorem readEntry_eq_valid_iff {α : Type} {entries : ConfigEntries} {name : String} {default a : α}
    {read : ConfigValue → Checked α} :
    readEntry entries name default read = .valid a ↔
      ReadsAs read default (find? name entries) a := by
  rw [readEntry]
  cases find? name entries with
  | none => exact ⟨fun h ↦ (Checked.valid.inj h).symm, fun h ↦ congrArg Checked.valid h.symm⟩
  | some value => exact Checked.below_eq_valid_iff

/-- One of the values that settings consist of. -/
structure Leaf where
  {Value : Type}
  area? : Option String
  name : String
  default : Value
  read : ConfigValue → Checked Value
  get : Settings → Value

namespace Leaf

def gitlab : List Leaf :=
  [⟨some Settings.gitlabName, "default_server_url", GitLabSettings.defaultServerOf, readAddress,
     (·.gitlab.defaultServer)⟩,
   ⟨some Settings.gitlabName, "token_name", "mytoken", readText 1, (·.gitlab.tokenName)⟩,
   ⟨some Settings.gitlabName, "token_expires_in_days", none, readNullable (readIntegerIn 1 365),
     (·.gitlab.tokenLifetime?)⟩,
   ⟨some Settings.gitlabName, "timeout", .ofInt 30, readPositive, (·.gitlab.timeout)⟩,
   ⟨some Settings.gitlabName, "verify_ssl", true, readTruth, (·.gitlab.verifiesCertificates)⟩]

def store (resolve : SecretSource) : List Leaf :=
  [⟨some Settings.storeName, "backend", .encryptedFile, readOption StoreKind.options,
     (·.store.kind)⟩,
   ⟨some Settings.storeName, "path", .ofString ".token-exchange/credentials.enc", readPath,
     (·.store.path)⟩,
   ⟨some Settings.storeName, "master_password", none, readNullable (readSecret resolve),
     (·.store.masterPassword?)⟩]

def service (resolve : SecretSource) : List Leaf :=
  [⟨some Settings.serviceName, "host", "127.0.0.1", readText 0, (·.service.host)⟩,
   ⟨some Settings.serviceName, "port", 8080, readIntegerIn 1 65535, (·.service.port)⟩,
   ⟨some Settings.serviceName, "principals", [], ServiceSettings.readPrincipals resolve,
     (·.service.principals)⟩]

def logLevel : Leaf :=
  ⟨none, Settings.logLevelName, "INFO", readText 0, (·.logLevel)⟩

/-- All values of settings. -/
def all (resolve : SecretSource) : List Leaf :=
  gitlab ++ store resolve ++ service resolve ++ [logLevel]

/-- What entries say about a leaf. -/
def at? (leaf : Leaf) (entries : ConfigEntries) : Option ConfigValue :=
  match leaf.area? with
  | some area => ConfigValue.at? area leaf.name entries
  | none => find? leaf.name entries

/-- The settings have for a leaf what is read there, or its default. -/
def Reads (leaf : Leaf) (value? : Option ConfigValue) (settings : Settings) : Prop :=
  ReadsAs leaf.read leaf.default value? (leaf.get settings)

end Leaf

/-! ### Sections -/

theorem reads_of_gitlab {entries : ConfigEntries} {settings : Settings}
    (h : GitLabSettings.read entries = .valid settings.gitlab) :
    ∀ leaf ∈ Leaf.gitlab, leaf.Reads (find? leaf.name entries) settings := by
  obtain ⟨⟨_, _, _, _, _⟩, _, _, _⟩ := settings
  simp only [GitLabSettings.read, Checked.seq_eq_valid_iff, Checked.map_eq_valid_iff,
    readEntry_eq_valid_iff] at h
  obtain ⟨_, _, ⟨_, _, ⟨_, _, ⟨_, _, ⟨_, hserver, rfl⟩, hname, rfl⟩, hlifetime, rfl⟩, htimeout,
    rfl⟩, hverifies, heq⟩ := h
  cases heq
  simp only [Leaf.gitlab, List.forall_mem_cons]
  exact ⟨hserver, hname, hlifetime, htimeout, hverifies, fun _ h ↦ absurd h List.not_mem_nil⟩

theorem reads_of_store {resolve : SecretSource} {entries : ConfigEntries} {settings : Settings}
    (h : StoreSettings.read resolve entries = .valid settings.store) :
    ∀ leaf ∈ Leaf.store resolve, leaf.Reads (find? leaf.name entries) settings := by
  obtain ⟨_, ⟨_, _, _⟩, _, _⟩ := settings
  simp only [StoreSettings.read, Checked.seq_eq_valid_iff, Checked.map_eq_valid_iff,
    readEntry_eq_valid_iff] at h
  obtain ⟨_, _, ⟨_, _, ⟨_, hkind, rfl⟩, hpath, rfl⟩, hpassword, heq⟩ := h
  cases heq
  simp only [Leaf.store, List.forall_mem_cons]
  exact ⟨hkind, hpath, hpassword, fun _ h ↦ absurd h List.not_mem_nil⟩

theorem reads_of_service {resolve : SecretSource} {entries : ConfigEntries} {settings : Settings}
    (h : ServiceSettings.read resolve entries = .valid settings.service) :
    ∀ leaf ∈ Leaf.service resolve, leaf.Reads (find? leaf.name entries) settings := by
  obtain ⟨_, _, ⟨_, _, _⟩, _⟩ := settings
  simp only [ServiceSettings.read, Checked.seq_eq_valid_iff, Checked.map_eq_valid_iff,
    readEntry_eq_valid_iff] at h
  obtain ⟨_, _, ⟨_, _, ⟨_, hhost, rfl⟩, hport, rfl⟩, hprincipals, heq⟩ := h
  cases heq
  simp only [Leaf.service, List.forall_mem_cons]
  exact ⟨hhost, hport, hprincipals, fun _ h ↦ absurd h List.not_mem_nil⟩

/-- A section that could be read is a map or absent, and is read name by name. -/
theorem exists_of_readSectionOf {α : Type} {entries : ConfigEntries} {area : String}
    {read : ConfigEntries → Checked α} {a : α}
    (h : Settings.readSectionOf entries area read = .valid a) :
    (∀ value, find? area entries = some value → value.isMap = true) ∧
      ∃ below, read below = .valid a ∧
        ∀ name, find? name below = ConfigValue.at? area name entries := by
  rw [Settings.readSectionOf] at h
  cases hfound : find? area entries with
  | none =>
    rw [hfound] at h
    refine ⟨fun _ heq ↦ (by cases heq), [], h, fun name ↦ ?_⟩
    rw [at?_of_find?_eq_none hfound]
    rfl
  | some value =>
    rw [hfound] at h
    have hread := Checked.below_eq_valid_iff.1 h
    cases value with
    | map below =>
      refine ⟨fun _ heq ↦ (by cases heq; rfl), below, hread, fun name ↦ ?_⟩
      rw [at?_of_find? hfound]
    | _ => cases hread

namespace Leaf

/-- The leaf is read from entries, and its section there is a map or absent. -/
def ReadFrom (entries : ConfigEntries) (settings : Settings) (leaf : Leaf) : Prop :=
  leaf.Reads (leaf.at? entries) settings ∧
    ∀ area, leaf.area? = some area →
      ∀ value, find? area entries = some value → value.isMap = true

/-- The leaves of a section are read from the entries that it is read from. -/
theorem readFrom_of_section {α : Type} {leaves : List Leaf} {entries : ConfigEntries}
    {area : String} {read : ConfigEntries → Checked α} {a : α} {settings : Settings}
    (harea : ∀ leaf ∈ leaves, leaf.area? = some area)
    (hreads : ∀ below, read below = .valid a →
      ∀ leaf ∈ leaves, leaf.Reads (find? leaf.name below) settings)
    (h : Settings.readSectionOf entries area read = .valid a) :
    ∀ leaf ∈ leaves, leaf.ReadFrom entries settings := by
  obtain ⟨hmap, below, hread, hat⟩ := exists_of_readSectionOf h
  refine fun leaf hleaf ↦ ⟨?_, fun other hother ↦ ?_⟩
  · rw [Leaf.at?, harea leaf hleaf]
    show leaf.Reads (ConfigValue.at? area leaf.name entries) settings
    rw [← hat]
    exact hreads below hread leaf hleaf
  · rw [harea leaf hleaf] at hother
    cases hother
    exact hmap

/-- **Settings that could be read have been read leaf by leaf.** -/
theorem readFrom_of_read {resolve : SecretSource} {entries : ConfigEntries} {settings : Settings}
    (h : Settings.read resolve entries = .valid settings) :
    ∀ leaf ∈ all resolve, leaf.ReadFrom entries settings := by
  simp only [Settings.read, Checked.seq_eq_valid_iff, Checked.map_eq_valid_iff,
    readEntry_eq_valid_iff] at h
  obtain ⟨_, _, ⟨_, _, ⟨_, _, ⟨_, _, ⟨_, hgitlab, rfl⟩, hstore, rfl⟩, hservice, rfl⟩, hlevel, rfl⟩,
    -, rfl⟩ := h
  simp only [all, List.forall_mem_append, List.forall_mem_singleton]
  refine ⟨⟨⟨?_, ?_⟩, ?_⟩, hlevel, fun _ heq ↦ (by cases heq)⟩
  · exact readFrom_of_section (by simp [gitlab]) (fun _ ↦ reads_of_gitlab) hgitlab
  · exact readFrom_of_section (by simp [store]) (fun _ ↦ reads_of_store) hstore
  · exact readFrom_of_section (by simp [service]) (fun _ ↦ reads_of_service) hservice

end Leaf

end TokenBroker
