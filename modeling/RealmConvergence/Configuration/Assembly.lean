import RealmConvergence.Blueprint.Shown
import RealmConvergence.Configuration.Document
import RealmConvergence.Configuration.Layers
import RealmConvergence.Configuration.Secrets
import RealmConvergence.Configuration.UnusedKeys

/-!
# From layers to a run

A run needs a connection, settings and a well-formed blueprint with all secrets in their places
(`RunConfiguration`). Without the environment, the same layers can be checked offline: the check
goes as far as the blueprint, with stand-ins for its secrets.
-/

set_option autoImplicit false

namespace RealmConvergence.Configuration

/-- All that a run needs. -/
structure RunConfiguration where
  /-- The digest of the merged configuration. -/
  digest : String
  /-- Where and as whom to connect. -/
  connection : AdminConnection
  /-- How to run. -/
  settings : RunSettings
  /-- The desired state. -/
  blueprint : Blueprint
deriving DecidableEq

/-- Put a merged configuration and its secrets together. -/
def assemble (merged : Merged) (secrets : ResolvedSecrets) :
    Except ConfigurationError RunConfiguration := do
  let document ← Document.ofValue merged.value
  match document.connection with
  | none => .error .missingKeycloak
  | some service =>
    if Text.allBlank service.baseUrl then .error .emptyBaseUrl
    else do
      let blueprint := document.blueprint secrets.clientSecrets
      blueprint.validate.mapError .blueprint
      pure {
        digest := merged.digest
        connection := {
          baseUrl := Text.trim service.baseUrl
          adminRealm := service.adminRealm
          clientId := service.clientId
          credentials := secrets.admin }
        settings := document.settings
        blueprint }

/-- Load everything that a run needs. -/
def prepare (layers : List String) (policy : UnusedKeyPolicy) (environment : Environment) :
    Except ConfigurationError RunConfiguration := do
  let merged ← load layers
  let _ ← unusedKeys merged.value policy
  let secrets ← resolveSecrets merged.value environment
  assemble merged secrets

/-- What stands for a secret that is not looked up. -/
def unresolvedSecret : String := "<unresolved>"

/-- Stand-ins for the secrets of the clients that name a variable. -/
def Document.unresolvedSecrets (document : Document) : Table String :=
  Table.ofList <|
    (document.clients.filter fun entry => entry.secretVariable.isSome).map fun entry =>
      (entry.client.clientId, unresolvedSecret)

/-- What an offline check finds. -/
structure OfflineCheck where
  /-- The digest of the merged configuration. -/
  digest : String
  /-- The blueprint with stand-ins for secrets. -/
  blueprint : Blueprint
  /-- The unused keys. -/
  unused : List String

/-- Check layers without the environment. -/
def checkOffline (layers : List String) (policy : UnusedKeyPolicy) :
    Except ConfigurationError OfflineCheck := do
  let merged ← load layers
  let unused ← unusedKeys merged.value policy
  let document ← Document.ofValue merged.value
  let blueprint := document.blueprint document.unresolvedSecrets
  blueprint.validate.mapError .blueprint
  pure { digest := merged.digest, blueprint, unused }

/-! ## Shown form -/

/-- The shown form of run settings. -/
def RunSettings.shown (settings : RunSettings) : Shown :=
  .record "BootstrapSettings" [
    ("enabled", .ofBool settings.enabled),
    ("force", .ofBool settings.force),
    ("timeout_secs", .word (toString settings.timeoutSeconds))] false

/-- The shown form of all that a run needs, without secrets. -/
def RunConfiguration.shown (configuration : RunConfiguration) : Shown :=
  .record "BootstrapConfig" [
    ("config_hash", .text configuration.digest),
    ("connection", configuration.connection.shown),
    ("settings", configuration.settings.shown),
    ("blueprint", configuration.blueprint.shown)] false

end RealmConvergence.Configuration
