import RealmConvergence.Admin.Connection
import RealmConvergence.Admin.Error
import RealmConvergence.Admin.Session
import RealmConvergence.Admin.Shown
import RealmConvergence.Blueprint.Marker
import RealmConvergence.Blueprint.References
import RealmConvergence.Blueprint.Samples
import RealmConvergence.Blueprint.Shown
import RealmConvergence.Blueprint.Validation
import RealmConvergence.Collection.NameSet
import RealmConvergence.CommandLine.Execution
import RealmConvergence.Configuration.Assembly
import RealmConvergence.Convergence.Report
import RealmConvergence.Convergence.Run
import RealmConvergence.Decimal.Shortest
import RealmConvergence.Digest.Sha256
import RealmConvergence.Http.Exchange
import RealmConvergence.Http.Host
import RealmConvergence.Http.Url
import RealmConvergence.Json.Compact
import RealmConvergence.Json.Pointer
import RealmConvergence.Json.Reader
import RealmConvergence.Main
import RealmConvergence.Proofs.Convergence.Attaching
import RealmConvergence.Proofs.Convergence.Converged
import RealmConvergence.Proofs.Convergence.Resuming
import RealmConvergence.Proofs.Convergence.Retrying
import RealmConvergence.Proofs.Convergence.Stopping
import RealmConvergence.Service.Recording
import RealmConvergence.Service.Seeding
import RealmConvergence.Yaml.ToJson
import RealmConvergence.Yaml.Token.Block
import RealmConvergence.Yaml.Token.Plain
import RealmConvergence.Yaml.Token.Quoted
import RealmConvergence.Yaml.Token.Stream
import RealmConvergence.Proofs.Convergence.Leading
import RealmConvergence.Proofs.Convergence.Recounting
import RealmConvergence.Proofs.Convergence.Shortfall
import RealmConvergence.Proofs.Convergence.Warning
import RealmConvergence.Proofs.Text.Blank
import RealmConvergence.Proofs.Configuration.Decoding
import RealmConvergence.Proofs.Configuration.Assembly
import RealmConvergence.Proofs.Configuration.Secrets
import RealmConvergence.Proofs.Configuration.ClientSecrets
import RealmConvergence.Proofs.Configuration.OfflineAgreement
import RealmConvergence.Proofs.Collection.Place
import RealmConvergence.Proofs.Dialogue.Through
import RealmConvergence.Proofs.Convergence.Skipping
import RealmConvergence.Proofs.Convergence.OverWire
import RealmConvergence.Proofs.Configuration.KeyOrder
import RealmConvergence.Proofs.Admin.Addressing
import RealmConvergence.Proofs.Convergence.Provenance
import RealmConvergence.Proofs.Convergence.Permuting
import RealmConvergence.Proofs.Convergence.Undisturbed
import RealmConvergence.Proofs.Configuration.Concealment
import RealmConvergence.Proofs.Blueprint.Grouping
import RealmConvergence.Proofs.Convergence.Coverage
import RealmConvergence.Proofs.Convergence.Rotating
import RealmConvergence.Proofs.Convergence.AllOrNothing
import RealmConvergence.Proofs.Configuration.Merging
import RealmConvergence.Proofs.Blueprint.FirstViolation
import RealmConvergence.Proofs.Convergence.Patching
import RealmConvergence.Proofs.Convergence.Foretelling
import RealmConvergence.Proofs.Configuration.StrictReading
import RealmConvergence.Proofs.Admin.TokenCache
import RealmConvergence.Proofs.Admin.Locating
import RealmConvergence.Proofs.Service.Idle
import RealmConvergence.Proofs.Service.Consistent
import RealmConvergence.Proofs.Configuration.Digest
import RealmConvergence.Proofs.Admin.WireForm
import RealmConvergence.Proofs.Service.Accounts
import RealmConvergence.Proofs.Json.LeafPointers
