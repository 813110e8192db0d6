import TokenBroker.Logging
import TokenBroker.Main
import TokenBroker.Service.Basic
import TokenBroker.Proofs.Exchange.Outcome
import TokenBroker.Proofs.Exchange.Reachability
import TokenBroker.Proofs.Exchange.Interleaving
import TokenBroker.Proofs.Store.Persistence
import TokenBroker.Proofs.Store.Ids
import TokenBroker.Proofs.Exchange.Faults
import TokenBroker.Proofs.Exchange.Privacy
import TokenBroker.Proofs.Exchange.Selection
import TokenBroker.Proofs.Store.Confinement
import TokenBroker.Proofs.Store.Decoding
import TokenBroker.Proofs.Store.Arrangement
import TokenBroker.Proofs.Store.Reopening
import TokenBroker.Proofs.Service.Clients
import TokenBroker.Proofs.Service.Unprivileged
import TokenBroker.Proofs.Exchange.Calls
import TokenBroker.Proofs.Store.Restart
import TokenBroker.Proofs.CommandLine.StoredLogin
import TokenBroker.Proofs.AccessControl
import TokenBroker.Proofs.Store.ReadAfterWrite
import TokenBroker.Proofs.CommandLine.Masking
import TokenBroker.Proofs.Config.Precedence
import TokenBroker.Proofs.Store.Servers
import TokenBroker.Proofs.CommandLine.Secrets
import TokenBroker.Proofs.Store.FailedSaves
import TokenBroker.Proofs.Domain.Requirements
import TokenBroker.Proofs.GitLab.SignOut
import TokenBroker.Proofs.GitLab.NewToken
import TokenBroker.Proofs.GitLab.Redirect
import TokenBroker.Proofs.Exchange.Choices
import TokenBroker.Proofs.Secret.Cache
import TokenBroker.Proofs.CommandLine.Removal
import TokenBroker.Proofs.Store.Damage
import TokenBroker.Proofs.Config.Interpolation
import TokenBroker.Proofs.GitLab.CsrfToken
import TokenBroker.Proofs.ServerUrl.Parts
import TokenBroker.Proofs.Config.DefaultServer
