import TokenBroker.CommandLine.Command

/-!
# Help

What `--help` prints about the program and each of its commands, below the line that shows how it is
used.
-/

namespace TokenBroker.CommandLine

/-- The help on the program. -/
def programHelp : List String :=
  [
    "  token-exchange: convert GitLab logins into personal access token credentials.",
    "",
    "Options:",
    "  --config TEXT     Path to configuration file (defaults and TOKEN_EXCHANGE_*",
    "                    variables if omitted)",
    "  --log-level TEXT  Logging level (overrides the configuration)",
    "  --help            Show this message and exit.",
    "",
    "Commands:",
    "  create-token           Exchange a stored login for a personal access...",
    "  create-token-password  Exchange a username and password for a personal...",
    "  credentials            Manage the credential store.",
    "  list-candidates        List the stored logins that can be exchanged for...",
    "  secrets                Manage keyring secrets used by the configuration.",
    "  serve                  Run the administrative HTTP server."]

namespace Group

/-- The help on a group of commands. -/
def help : Group → List String
  | .credentials => [
    "  Manage the credential store.",
    "",
    "  Examples:",
    "",
    "      # Store a GitLab login in the domain of its server     token-exchange",
    "      credentials add --username ci-bot --server-url https://gitlab.example.com",
    "",
    "      # Show what is stored     token-exchange credentials list",
    "",
    "Options:",
    "  --help  Show this message and exit.",
    "",
    "Commands:",
    "  add            Store a username/password credential.",
    "  domains        List domains and their match specifications.",
    "  list           List stored credentials by domain.",
    "  remove         Delete CREDENTIAL_ID from every domain holding it.",
    "  remove-domain  Delete domain NAME and every credential stored in it."]
  | .secrets => [
    "  Manage keyring secrets used by the configuration.",
    "",
    "  Examples:",
    "",
    "      token-exchange secrets set store/master_password",
    "",
    "      # then in token-exchange.yaml:     #   store:     #     master_password:",
    "      \"@keyring:store/master_password\"",
    "",
    "Options:",
    "  --help  Show this message and exit.",
    "",
    "Commands:",
    "  delete  Delete the secret stored under REFERENCE (service/key).",
    "  set     Store a secret under REFERENCE (service/key) in the OS keyring."]

end Group

namespace Command

/-- The help on a command. -/
def help : Command → List String
  | .createToken => [
    "  Exchange a stored login for a personal access token credential.",
    "",
    "Options:",
    "  --server-url TEXT      GitLab server URL (blank for the configured default)",
    "  --credentials-id TEXT  Id of the stored login to exchange  [required]",
    "  --help                 Show this message and exit."]
  | .createTokenByPassword => [
    "  Exchange a username and password for a personal access token credential.",
    "",
    "Options:",
    "  --server-url TEXT  GitLab server URL (blank for the configured default)",
    "  --username TEXT    GitLab login  [required]",
    "  --password TEXT    GitLab password",
    "  --help             Show this message and exit."]
  | .listCandidates => [
    "  List the stored logins that can be exchanged for the server URL.",
    "",
    "Options:",
    "  --server-url TEXT      GitLab server URL (blank for the configured default)",
    "  --credentials-id TEXT  Currently selected credential id",
    "  --help                 Show this message and exit."]
  | .serve => [
    "  Run the administrative HTTP server.",
    "",
    "Options:",
    "  --host TEXT     Bind address (overrides the configuration)",
    "  --port INTEGER  Bind port (overrides the configuration)",
    "  --help          Show this message and exit."]
  | .addCredential => [
    "  Store a username/password credential.",
    "",
    "Options:",
    "  --username TEXT     GitLab login  [required]",
    "  --password TEXT     GitLab password",
    "  --id TEXT           Credential id (random if omitted)",
    "  --description TEXT  Free-form description",
    "  --server-url TEXT   Store in the domain serving this URL instead of the global",
    "                      domain",
    "  --owner TEXT        Store in this principal's personal store",
    "  --help              Show this message and exit."]
  | .listCredentials => [
    "  List stored credentials by domain.",
    "",
    "Options:",
    "  --help  Show this message and exit."]
  | .removeCredential => [
    "  Delete CREDENTIAL_ID from every domain holding it.",
    "",
    "Options:",
    "  --yes   Confirm the action without prompting.",
    "  --help  Show this message and exit."]
  | .listDomains => [
    "  List domains and their match specifications.",
    "",
    "Options:",
    "  --help  Show this message and exit."]
  | .removeDomain => [
    "  Delete domain NAME and every credential stored in it.",
    "",
    "Options:",
    "  --yes   Confirm the action without prompting.",
    "  --help  Show this message and exit."]
  | .setSecret => [
    "  Store a secret under REFERENCE (service/key) in the OS keyring.",
    "",
    "Options:",
    "  --value TEXT  Secret value",
    "  --help        Show this message and exit."]
  | .deleteSecret => [
    "  Delete the secret stored under REFERENCE (service/key).",
    "",
    "Options:",
    "  --yes   Confirm the action without prompting.",
    "  --help  Show this message and exit."]

end Command

/-- The help on what has a grammar. -/
def helpText (g : Grammar) (lines : List String) : String :=
  g.usage ++ "\n" ++ "\n".intercalate lines ++ "\n"

end TokenBroker.CommandLine
