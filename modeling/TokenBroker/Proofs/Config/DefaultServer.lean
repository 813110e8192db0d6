import TokenBroker.Exchange.Configured
import TokenBroker.Proofs.Config.Leaves
import TokenBroker.Proofs.Exchange.UsableUrls
import TokenBroker.Proofs.ServerUrl.WebAddress

/-!
# The default server can be used

The address of the default server is read by the rules of browsers, and its text without the slashes
at its end is read once more as a server URL. An address in normal form is a server URL
(`RequestUrl.IsWebAddress.parse_dropTrailing`), so with any reading that leaves addresses in normal
form, no operation ends at a blank URL because of the server that it stands for
(`Settings.proceeds_of_isWebAddress`). The reading of the settings is one
(`Settings.proceeds_of_blank`).
-/

namespace TokenBroker

open ConfigValue

/-! ### The address in settings -/

theorem GitLabSettings.isWebAddress_defaultServerOf : defaultServerOf.IsWebAddress where
  scheme := Or.inr rfl
  userInfo := by rintro _ ⟨⟩
  host := .name (by decide) (List.forall_iff_forall_mem.1 (by decide))
  port := by rintro _ ⟨⟩
  path := by decide
  visible := List.forall_iff_forall_mem.1 (by decide)

theorem isWebAddress_of_readAddress {value : ConfigValue} {url : RequestUrl}
    (h : readAddress value = .valid url) : url.IsWebAddress := by
  cases value with
  | text text =>
    rw [readAddress] at h
    split at h
    · rename_i hparse
      cases h
      exact WebAddress.isWebAddress_of_parse hparse
    all_goals cases h
  | _ => cases h

/-- The default server is in normal form, whether it is configured or not. -/
theorem Settings.isWebAddress_defaultServer {resolve : SecretSource} {entries : ConfigEntries}
    {settings : Settings} (h : Settings.read resolve entries = .valid settings) :
    settings.gitlab.defaultServer.IsWebAddress := by
  have hreads := (Leaf.readFrom_of_read h ⟨some gitlabName, "default_server_url",
    GitLabSettings.defaultServerOf, readAddress, (·.gitlab.defaultServer)⟩
    (by simp [Leaf.all, Leaf.gitlab])).1
  unfold Leaf.Reads ReadsAs at hreads
  split at hreads
  · exact isWebAddress_of_readAddress hreads
  · dsimp only at hreads
    rw [hreads]
    exact GitLabSettings.isWebAddress_defaultServerOf

/-! ### Blank URLs -/

/-- **A default server in normal form can be used**, whatever has read its address. -/
theorem Settings.proceeds_of_isWebAddress {settings : Settings}
    (h : settings.gitlab.defaultServer.IsWebAddress) :
    ∃ url, ServerUrl.parse settings.gitlab.serverUrl = .ok url ∧
      (url.scheme = "http" ∨ url.scheme = "https") ∧ url.host ≠ "" ∧
      ∀ serverUrl? : Option String, (∀ text, serverUrl? = some text → blank text = true) →
        settings.exchange.serverUrlOr serverUrl? = settings.gitlab.serverUrl ∧
          settings.exchange.Proceeds serverUrl? url := by
  have hparse := h.parse_dropTrailing
  refine ⟨_, hparse, h.scheme, fun hempty ↦ ?_, fun serverUrl? hblank ↦ ?_⟩
  · exact ServerUrl.host_ne_nil hparse (by rw [hempty]; rfl)
  · have hserver : settings.exchange.serverUrlOr serverUrl? = settings.gitlab.serverUrl := by
      cases serverUrl? with
      | none => rfl
      | some text =>
        rw [Exchange.serverUrlOr, if_pos (hblank text rfl)]
        rfl
    refine ⟨hserver, Exchange.proceeds_of_parse ?_⟩
    rw [hserver]
    exact hparse

/-- **The default server of settings can always be used.** -/
theorem Settings.proceeds_of_blank {resolve : SecretSource} {entries : ConfigEntries}
    {settings : Settings} (h : Settings.read resolve entries = .valid settings) :
    ∃ url, ServerUrl.parse settings.gitlab.serverUrl = .ok url ∧
      (url.scheme = "http" ∨ url.scheme = "https") ∧ url.host ≠ "" ∧
      ∀ serverUrl? : Option String, (∀ text, serverUrl? = some text → blank text = true) →
        settings.exchange.serverUrlOr serverUrl? = settings.gitlab.serverUrl ∧
          settings.exchange.Proceeds serverUrl? url :=
  proceeds_of_isWebAddress (isWebAddress_defaultServer h)

/-- An address with an IPv4 address within an IPv6 address, a port that goes without saying, a
password with an at sign, and slashes at the end of its fragment. -/
theorem Settings.proceeds_of_blank_IPv6 :
    let entries : ConfigEntries := [(.str "gitlab", .map [(.str "default_server_url",
      .text " HTTP:\\\\Jo:p@w@[0:0::FFFF:1.2.3.4]:080?a#b//")])]
    ∃ settings, Settings.read (fun text ↦ .ok text) entries = .valid settings ∧
      settings.gitlab.serverUrl = "http://Jo:p%40w@[::ffff:102:304]/?a#b" ∧
      settings.exchange.Proceeds (some " ")
        { scheme := "http", host := "::ffff:102:304", port? := none, path := "/" } := by
  intro entries
  have hserver : (Settings.read (fun text ↦ .ok text) entries).toExcept.map (·.gitlab.serverUrl) =
      .ok "http://Jo:p%40w@[::ffff:102:304]/?a#b" := by
    decide +kernel
  cases hread : Settings.read (fun text ↦ .ok text) entries with
  | invalid issues =>
    rw [hread] at hserver
    cases hserver
  | valid settings =>
    have hserver : settings.gitlab.serverUrl = "http://Jo:p%40w@[::ffff:102:304]/?a#b" := by
      rw [hread] at hserver
      exact Except.ok.inj hserver
    obtain ⟨url, hurl, -, -, hproceeds⟩ := proceeds_of_blank hread
    have hparse : ServerUrl.parse "http://Jo:p%40w@[::ffff:102:304]/?a#b" = .ok
        { scheme := "http", host := "::ffff:102:304", port? := none, path := "/" } := by
      decide +kernel
    rw [hserver, hparse] at hurl
    refine ⟨settings, rfl, hserver, ?_⟩
    rw [Except.ok.inj hurl]
    exact (hproceeds (some " ") (by rintro _ ⟨⟩; decide)).2

/-- **The search for a login takes a blank URL as it is**, so the default does not help there. -/
theorem Settings.not_forall_lookupLogin_of_blank :
    ¬ ∀ (resolve : SecretSource) (entries : ConfigEntries) (settings : Settings),
      Settings.read resolve entries = .valid settings →
        ∀ (acl : AccessControl) (store : Store) (serverUrl : String) (id : Json) (error : UrlError),
          blank serverUrl = true → ServerUrl.parse serverUrl = .error error →
            Exchange.lookupLogin acl store serverUrl id ≠ .error error.fault := by
  intro hall
  have hread : (Settings.read (fun text ↦ .ok text) []).toExcept.toBool = true := by
    decide +kernel
  cases hsettings : Settings.read (fun text ↦ .ok text) [] with
  | invalid issues =>
    rw [hsettings] at hread
    cases hread
  | valid settings =>
    have hparse := ServerUrl.parse_blank (show blank "  " = true by decide)
    refine hall _ _ settings hsettings (.start (.administrator "root")) .empty "  " (.str "x") _
      (by decide) hparse ?_
    rw [Exchange.lookupLogin, requirementsOf, hparse]
    rfl

end TokenBroker
