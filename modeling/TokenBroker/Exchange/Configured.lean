import TokenBroker.Config.Settings
import TokenBroker.Exchange.Candidates

/-!
# The configured exchange

The broker exchanges as its settings say, at the terminal and over HTTP alike.
-/

namespace TokenBroker

/-- The exchange that settings describe. -/
def Settings.exchange (settings : Settings) : Exchange :=
  { defaultServerUrl := settings.gitlab.serverUrl
    tokenName := settings.gitlab.tokenName
    lifetime? := settings.gitlab.tokenLifetime? }

end TokenBroker
